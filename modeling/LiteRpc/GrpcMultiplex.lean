import Mathlib.Logic.Function.Basic
import Mathlib.Data.List.Nodup
import LiteRpc.ProducedBlock
import LiteRpc.Lib.Run

/-!
The recv loop of `create_grpc_multiplex_blocks_subscription`, for one iteration of its reconnect
loop: the processed blocks and the processed, confirmed and finalized block infos of the
multiplexed geyser streams, and the cleanup tick, in any interleaving. The loop forwards every
block info and emits each processed block, and later its confirmed and finalized forms, on
`producedblock_sender`.

The `HashMap` of recent processed blocks and the two `HashSet`s of blockhashes are functions of
the blockhash; nothing here iterates over them.
-/

namespace LiteRpc

namespace GrpcMultiplex

/-- A message sent by the recv loop: on `producedblock_sender` or on `blockinfo_sender`. -/
inductive Emitted where
  | producedBlock (block : ProducedBlock)
  | blockInfo (blockInfo : BlockInfo)
deriving DecidableEq, Repr

/-- A branch of the `tokio::select!` of the recv loop. -/
inductive RecvEvent where
  | processedBlock (processedBlock : ProducedBlock)
  | blockinfoProcessed (blockinfoProcessed : BlockInfo)
  | blockinfoConfirmed (blockinfoConfirmed : BlockInfo)
  | blockinfoFinalized (blockinfoFinalized : BlockInfo)
  | cleanupTick
deriving DecidableEq, Repr

/-- The variables of one iteration of the reconnect loop. -/
structure RecvLoop where
  recentProcessedBlocks : Hash → Option ProducedBlock
  lastFinalizedSlot : Slot
  cleanupWithoutRecvFullBlocks : Nat
  cleanupWithoutConfirmedRecvBlocksMeta : Nat
  cleanupWithoutFinalizedRecvBlocksMeta : Nat
  confirmedBlockNotYetProcessed : Hash → Bool
  finalizedBlockNotYetProcessed : Hash → Bool
  startupCompleted : Bool
  /-- `'recv_loop` was left for a restart. -/
  exited : Bool

def cleanupSlotsBehindFinalized : Nat := 100

/-- 12 cleanup ticks of 5 s without receiving data. -/
def maxAllowedCleanupWithoutRecv : Nat := 12

namespace RecvLoop

/-- The values the recv loop starts an iteration of the reconnect loop with. -/
def start : RecvLoop :=
  ⟨fun _ => none, 0, 0, 0, 0, fun _ => false, fun _ => false, false, false⟩

def recvProcessedBlock (self : RecvLoop) (processedBlock : ProducedBlock) :
    List Emitted × RecvLoop :=
  let blockhash := processedBlock.blockhash
  let lastFinalizedSlot := if processedBlock.commitmentConfig = .finalized then
      max self.lastFinalizedSlot processedBlock.slot
    else self.lastFinalizedSlot
  -- `remove` on the two sets tells whether the blockhash was waiting
  let confirmed := self.confirmedBlockNotYetProcessed blockhash
  let finalized := self.finalizedBlockNotYetProcessed blockhash
  (.producedBlock processedBlock ::
      ((if confirmed then [.producedBlock processedBlock.toConfirmedBlock] else []) ++
        (if finalized then [.producedBlock processedBlock.toFinalizedBlock] else [])),
    { self with
      cleanupWithoutRecvFullBlocks := 0
      lastFinalizedSlot := lastFinalizedSlot
      confirmedBlockNotYetProcessed :=
        Function.update self.confirmedBlockNotYetProcessed blockhash false
      finalizedBlockNotYetProcessed :=
        Function.update self.finalizedBlockNotYetProcessed blockhash false
      recentProcessedBlocks :=
        Function.update self.recentProcessedBlocks blockhash (some processedBlock) })

def recvBlockinfoProcessed (self : RecvLoop) (blockinfoProcessed : BlockInfo) :
    List Emitted × RecvLoop :=
  ([.blockInfo blockinfoProcessed], self)

def recvBlockinfoConfirmed (self : RecvLoop) (blockinfoConfirmed : BlockInfo) :
    List Emitted × RecvLoop :=
  let blockhash := blockinfoConfirmed.blockhash
  let self := { self with cleanupWithoutConfirmedRecvBlocksMeta := 0 }
  match self.recentProcessedBlocks blockhash with
  | some cachedProcessedBlock =>
    ([.blockInfo blockinfoConfirmed, .producedBlock cachedProcessedBlock.toConfirmedBlock], self)
  | none =>
    ([.blockInfo blockinfoConfirmed], { self with
      confirmedBlockNotYetProcessed :=
        Function.update self.confirmedBlockNotYetProcessed blockhash true })

def recvBlockinfoFinalized (self : RecvLoop) (blockinfoFinalized : BlockInfo) :
    List Emitted × RecvLoop :=
  let blockhash := blockinfoFinalized.blockhash
  let self := { self with
    cleanupWithoutFinalizedRecvBlocksMeta := 0
    lastFinalizedSlot := max self.lastFinalizedSlot blockinfoFinalized.slot }
  match self.recentProcessedBlocks blockhash with
  | some cachedProcessedBlock =>
    ([.blockInfo blockinfoFinalized, .producedBlock cachedProcessedBlock.toFinalizedBlock],
      { self with
        recentProcessedBlocks := Function.update self.recentProcessedBlocks blockhash none
        startupCompleted := true })
  | none =>
    -- a finalized block never seen, or already emitted
    if self.startupCompleted then
      ([.blockInfo blockinfoFinalized], { self with
        finalizedBlockNotYetProcessed :=
          Function.update self.finalizedBlockNotYetProcessed blockhash true })
    else ([.blockInfo blockinfoFinalized], self)

/-- Whether a recent processed block survives the cleanup. -/
def retained (lastFinalizedSlot : Slot) (block : ProducedBlock) : Bool :=
  lastFinalizedSlot = 0 || decide (block.slot > lastFinalizedSlot - cleanupSlotsBehindFinalized)

def cleanupTick (self : RecvLoop) : List Emitted × RecvLoop :=
  if self.cleanupWithoutRecvFullBlocks > maxAllowedCleanupWithoutRecv ∨
      self.cleanupWithoutConfirmedRecvBlocksMeta > maxAllowedCleanupWithoutRecv ∨
      self.cleanupWithoutFinalizedRecvBlocksMeta > maxAllowedCleanupWithoutRecv then
    -- block or block info geyser stream stopped: restart the multiplexer
    ([], { self with exited := true })
  else
    ([], { self with
      cleanupWithoutRecvFullBlocks := self.cleanupWithoutRecvFullBlocks + 1
      cleanupWithoutConfirmedRecvBlocksMeta := self.cleanupWithoutConfirmedRecvBlocksMeta + 1
      cleanupWithoutFinalizedRecvBlocksMeta := self.cleanupWithoutFinalizedRecvBlocksMeta + 1
      recentProcessedBlocks := fun blockhash =>
        (self.recentProcessedBlocks blockhash).filter (retained self.lastFinalizedSlot) })

/-- The branch of the `tokio::select!` that an event takes. -/
def recv (self : RecvLoop) : RecvEvent → List Emitted × RecvLoop
  | .processedBlock processedBlock => self.recvProcessedBlock processedBlock
  | .blockinfoProcessed blockinfoProcessed => self.recvBlockinfoProcessed blockinfoProcessed
  | .blockinfoConfirmed blockinfoConfirmed => self.recvBlockinfoConfirmed blockinfoConfirmed
  | .blockinfoFinalized blockinfoFinalized => self.recvBlockinfoFinalized blockinfoFinalized
  | .cleanupTick => self.cleanupTick

/-- One pass of the recv loop; once it has been left, nothing is received any more. -/
def step (self : RecvLoop) (event : RecvEvent) : List Emitted × RecvLoop :=
  if self.exited then ([], self) else self.recv event

end RecvLoop

/-- The commitment levels of the produced blocks sent for `blockhash`, in the order sent. -/
def levels (out : List Emitted) (blockhash : Hash) : List Commitment :=
  out.filterMap fun
    | .producedBlock block => if block.blockhash = blockhash then some block.commitmentConfig else none
    | .blockInfo _ => none

@[simp] theorem levels_nil (blockhash : Hash) : levels [] blockhash = [] := rfl

@[simp] theorem levels_append (out out' : List Emitted) (blockhash : Hash) :
    levels (out ++ out') blockhash = levels out blockhash ++ levels out' blockhash :=
  List.filterMap_append

@[simp] theorem levels_cons_producedBlock (block : ProducedBlock) (out : List Emitted)
    (blockhash : Hash) : levels (.producedBlock block :: out) blockhash =
      if block.blockhash = blockhash then block.commitmentConfig :: levels out blockhash
      else levels out blockhash := by
  by_cases h : block.blockhash = blockhash <;> simp [levels, h]

@[simp] theorem levels_cons_blockInfo (blockInfo : BlockInfo) (out : List Emitted)
    (blockhash : Hash) : levels (.blockInfo blockInfo :: out) blockhash = levels out blockhash :=
  rfl

/-- What an event says about a blockhash: a processed block, or a confirmed or finalized block
info, with the blockhash. Processed block infos and ticks say nothing about produced blocks. -/
def RecvEvent.key : RecvEvent → Option (Commitment × Hash)
  | .processedBlock block => some (.processed, block.blockhash)
  | .blockinfoConfirmed info => some (.confirmed, info.blockhash)
  | .blockinfoFinalized info => some (.finalized, info.blockhash)
  | .blockinfoProcessed _ | .cleanupTick => none

/-- What the processed block stream guarantees: its blocks are at processed commitment. -/
def RecvEvent.commitmentOk : RecvEvent → Bool
  | .processedBlock block => block.commitmentConfig = .processed
  | _ => true

/-- The inputs of one iteration that the streams can deliver: each blockhash comes at most once as
a processed block, once as a confirmed info and once as a finalized info (each info stream is
strictly increasing in slot), and processed blocks are at processed commitment. -/
def Streams (events : List RecvEvent) : Prop :=
  (events.filterMap RecvEvent.key).Nodup ∧ ∀ e ∈ events, e.commitmentOk

instance (events : List RecvEvent) : Decidable (Streams events) :=
  inferInstanceAs (Decidable (_ ∧ _))

namespace RecvLoop

section Branches

variable (s : RecvLoop) (info : BlockInfo) {b : ProducedBlock}

theorem recvBlockinfoConfirmed_of_some (hr : s.recentProcessedBlocks info.blockhash = some b) :
    s.recvBlockinfoConfirmed info = ([.blockInfo info, .producedBlock b.toConfirmedBlock],
      { s with cleanupWithoutConfirmedRecvBlocksMeta := 0 }) := by
  simp [recvBlockinfoConfirmed, hr]

theorem recvBlockinfoConfirmed_of_none (hr : s.recentProcessedBlocks info.blockhash = none) :
    s.recvBlockinfoConfirmed info = ([.blockInfo info], { s with
      cleanupWithoutConfirmedRecvBlocksMeta := 0
      confirmedBlockNotYetProcessed :=
        Function.update s.confirmedBlockNotYetProcessed info.blockhash true }) := by
  simp [recvBlockinfoConfirmed, hr]

theorem recvBlockinfoFinalized_of_some (hr : s.recentProcessedBlocks info.blockhash = some b) :
    s.recvBlockinfoFinalized info = ([.blockInfo info, .producedBlock b.toFinalizedBlock],
      { s with
        cleanupWithoutFinalizedRecvBlocksMeta := 0
        lastFinalizedSlot := max s.lastFinalizedSlot info.slot
        recentProcessedBlocks := Function.update s.recentProcessedBlocks info.blockhash none
        startupCompleted := true }) := by
  simp [recvBlockinfoFinalized, hr]

theorem recvBlockinfoFinalized_of_none (hr : s.recentProcessedBlocks info.blockhash = none) :
    s.recvBlockinfoFinalized info = ([.blockInfo info], { s with
      cleanupWithoutFinalizedRecvBlocksMeta := 0
      lastFinalizedSlot := max s.lastFinalizedSlot info.slot
      finalizedBlockNotYetProcessed := if s.startupCompleted then
          Function.update s.finalizedBlockNotYetProcessed info.blockhash true
        else s.finalizedBlockNotYetProcessed }) := by
  unfold recvBlockinfoFinalized
  simp only [hr]
  split_ifs <;> rfl

end Branches

theorem levels_recvProcessedBlock (s : RecvLoop) (b : ProducedBlock) (h : Hash) :
    levels (s.recvProcessedBlock b).1 h = if b.blockhash = h then
      b.commitmentConfig :: ((if s.confirmedBlockNotYetProcessed h then [.confirmed] else []) ++
        (if s.finalizedBlockNotYetProcessed h then [.finalized] else []))
    else [] := by
  unfold recvProcessedBlock
  by_cases hb : b.blockhash = h
  · subst hb
    cases hc : s.confirmedBlockNotYetProcessed b.blockhash <;>
      cases hf : s.finalizedBlockNotYetProcessed b.blockhash <;> simp [hc, hf]
  · cases hc : s.confirmedBlockNotYetProcessed b.blockhash <;>
      cases hf : s.finalizedBlockNotYetProcessed b.blockhash <;> simp [hb, hc, hf]

/-- Every recent processed block is kept under its own blockhash and is at processed
commitment. -/
def RecentWf (s : RecvLoop) : Prop :=
  ∀ h b, s.recentProcessedBlocks h = some b → b.blockhash = h ∧ b.commitmentConfig = .processed

/-- What holds of the blockhash `h` once the events with keys `arrived` were received, where
`emitted` are the levels sent for `h`. -/
structure Inv (h : Hash) (s : RecvLoop) (emitted : List Commitment)
    (arrived : List (Commitment × Hash)) : Prop where
  recent_wf : RecentWf s
  before_processed : (Commitment.processed, h) ∉ arrived →
    emitted = [] ∧ s.recentProcessedBlocks h = none
  recent_emitted : ∀ b, s.recentProcessedBlocks h = some b → Commitment.processed ∈ emitted
  head : ∀ c ∈ emitted.head?, c = .processed
  nodup : emitted.Nodup
  emitted_arrived : ∀ c ∈ emitted, (c, h) ∈ arrived
  confirmed_arrived : s.confirmedBlockNotYetProcessed h = true → (Commitment.confirmed, h) ∈ arrived
  finalized_arrived : s.finalizedBlockNotYetProcessed h = true → (Commitment.finalized, h) ∈ arrived

theorem inv_start (h : Hash) : Inv h start [] [] where
  recent_wf := by simp [RecentWf, start]
  before_processed _ := ⟨rfl, rfl⟩
  recent_emitted := by simp [start]
  head := by simp
  nodup := List.nodup_nil
  emitted_arrived := by simp
  confirmed_arrived := by simp [start]
  finalized_arrived := by simp [start]

theorem Inv.mono {h : Hash} {s s' : RecvLoop} {emitted : List Commitment}
    {arrived arrived' : List (Commitment × Hash)} (hi : Inv h s emitted arrived)
    (hwf : RecentWf s')
    (hrecent : ∀ b, s'.recentProcessedBlocks h = some b → s.recentProcessedBlocks h = some b)
    (hconf : s'.confirmedBlockNotYetProcessed h = true →
      s.confirmedBlockNotYetProcessed h = true ∨ (Commitment.confirmed, h) ∈ arrived')
    (hfin : s'.finalizedBlockNotYetProcessed h = true →
      s.finalizedBlockNotYetProcessed h = true ∨ (Commitment.finalized, h) ∈ arrived')
    (harr : arrived ⊆ arrived') : Inv h s' emitted arrived' where
  recent_wf := hwf
  before_processed hn := by
    obtain ⟨he, hr⟩ := hi.before_processed fun hm => hn (harr hm)
    refine ⟨he, ?_⟩
    cases hs' : s'.recentProcessedBlocks h with
    | none => rfl
    | some b => simp [hr] at hrecent; exact absurd hs' (hrecent b)
  recent_emitted b hb := hi.recent_emitted b (hrecent b hb)
  head := hi.head
  nodup := hi.nodup
  emitted_arrived c hc := harr (hi.emitted_arrived c hc)
  confirmed_arrived hc := (hconf hc).elim (fun hc => harr (hi.confirmed_arrived hc)) id
  finalized_arrived hf := (hfin hf).elim (fun hf => harr (hi.finalized_arrived hf)) id

theorem Inv.frame {h : Hash} {s s' : RecvLoop} {emitted : List Commitment}
    {arrived arrived' : List (Commitment × Hash)} (hi : Inv h s emitted arrived)
    (hwf : RecentWf s') (hrecent : s'.recentProcessedBlocks h = s.recentProcessedBlocks h)
    (hconf : s'.confirmedBlockNotYetProcessed h = s.confirmedBlockNotYetProcessed h)
    (hfin : s'.finalizedBlockNotYetProcessed h = s.finalizedBlockNotYetProcessed h)
    (harr : arrived ⊆ arrived') : Inv h s' emitted arrived' :=
  hi.mono hwf (fun _ hb => hrecent ▸ hb) (fun hc => .inl (hconf ▸ hc))
    (fun hf => .inl (hfin ▸ hf)) harr

theorem Inv.emit {h : Hash} {s s' : RecvLoop} {emitted : List Commitment}
    {arrived arrived' : List (Commitment × Hash)} {c : Commitment} (hi : Inv h s emitted arrived)
    {b : ProducedBlock} (hb : s.recentProcessedBlocks h = some b) (hc : (c, h) ∉ arrived)
    (hc' : (c, h) ∈ arrived') (hwf : RecentWf s')
    (hrecent : ∀ b, s'.recentProcessedBlocks h = some b → s.recentProcessedBlocks h = some b)
    (hconf : s'.confirmedBlockNotYetProcessed h = s.confirmedBlockNotYetProcessed h)
    (hfin : s'.finalizedBlockNotYetProcessed h = s.finalizedBlockNotYetProcessed h)
    (harr : arrived ⊆ arrived') : Inv h s' (emitted ++ [c]) arrived' := by
  -- the processed block of `h` was sent, so the new level goes after it
  have hp : Commitment.processed ∈ emitted := hi.recent_emitted b hb
  have hne : emitted ≠ [] := List.ne_nil_of_mem hp
  have hnot : c ∉ emitted := fun hm => hc (hi.emitted_arrived c hm)
  exact {
    recent_wf := hwf
    before_processed := fun hn => absurd (hi.before_processed fun hm => hn (harr hm)).2 (by simp [hb])
    recent_emitted := fun b' hb' => List.mem_append_left _ (hi.recent_emitted b' (hrecent b' hb'))
    head := by rw [List.head?_append_of_ne_nil _ hne]; exact hi.head
    nodup := List.nodup_append.mpr ⟨hi.nodup, List.nodup_singleton c,
      fun a ha a' ha' => by rw [List.mem_singleton.mp ha']; exact fun hac => hnot (hac ▸ ha)⟩
    emitted_arrived := by
      intro c' hc''
      rcases List.mem_append.mp hc'' with hm | hm
      · exact harr (hi.emitted_arrived c' hm)
      · rw [List.mem_singleton.mp hm]
        exact hc'
    confirmed_arrived := fun h' => harr (hi.confirmed_arrived (hconf ▸ h'))
    finalized_arrived := fun h' => harr (hi.finalized_arrived (hfin ▸ h')) }

theorem RecentWf.of_step {s : RecvLoop} (hw : RecentWf s) (e : RecvEvent)
    (hok : e.commitmentOk = true) : RecentWf (s.step e).2 := by
  unfold RecvLoop.step
  split_ifs
  · exact hw
  cases e with
  | processedBlock b =>
    intro h b' hb'
    simp only [recv, recvProcessedBlock, Function.update_apply] at hb'
    split_ifs at hb' with hh
    · cases hb'
      exact ⟨hh.symm, by simpa [RecvEvent.commitmentOk] using hok⟩
    · exact hw h b' hb'
  | blockinfoProcessed i => exact hw
  | blockinfoConfirmed i =>
    cases hr : s.recentProcessedBlocks i.blockhash with
    | none => rw [recv, recvBlockinfoConfirmed_of_none s i hr]; exact hw
    | some b => rw [recv, recvBlockinfoConfirmed_of_some s i hr]; exact hw
  | blockinfoFinalized i =>
    cases hr : s.recentProcessedBlocks i.blockhash with
    | none => rw [recv, recvBlockinfoFinalized_of_none s i hr]; exact hw
    | some b =>
      rw [recv, recvBlockinfoFinalized_of_some s i hr]
      intro h b' hb'
      simp only [Function.update_apply] at hb'
      split_ifs at hb'
      exact hw h b' hb'
  | cleanupTick =>
    rw [recv]
    unfold cleanupTick
    split_ifs
    · exact hw
    · intro h b' hb'
      exact hw h b' (Option.eq_some_of_filter_eq_some hb')

theorem Inv.recvProcessedBlock_self {h : Hash} {s : RecvLoop} {emitted : List Commitment}
    {arrived : List (Commitment × Hash)} (hi : Inv h s emitted arrived) {b : ProducedBlock}
    (hb : b.blockhash = h) (hnew : (Commitment.processed, h) ∉ arrived)
    (hok : b.commitmentConfig = .processed) (hw : RecentWf (s.recvProcessedBlock b).2) :
    Inv h (s.recvProcessedBlock b).2 (emitted ++ levels (s.recvProcessedBlock b).1 h)
      (arrived ++ [(.processed, h)]) := by
  obtain ⟨rfl, -⟩ := hi.before_processed hnew
  subst hb
  rw [levels_recvProcessedBlock, if_pos rfl, hok, List.nil_append]
  exact {
    recent_wf := hw
    before_processed := fun hn => absurd (List.mem_append_right _ (List.mem_singleton_self _)) hn
    recent_emitted := fun _ _ => List.mem_cons_self
    head := by simp
    nodup := by
      cases s.confirmedBlockNotYetProcessed b.blockhash <;>
        cases s.finalizedBlockNotYetProcessed b.blockhash <;> simp
    emitted_arrived := by
      intro c hc
      simp only [List.mem_cons, List.mem_append, List.mem_ite_nil_right, List.not_mem_nil,
        or_false] at hc
      rcases hc with rfl | ⟨hc, rfl⟩ | ⟨hf, rfl⟩
      · simp
      · exact List.mem_append_left _ (hi.confirmed_arrived hc)
      · exact List.mem_append_left _ (hi.finalized_arrived hf)
    confirmed_arrived := by simp [recvProcessedBlock]
    finalized_arrived := by simp [recvProcessedBlock] }

section Branches

variable {h : Hash} {s : RecvLoop} {emitted : List Commitment} {arrived : List (Commitment × Hash)}

theorem Inv.recvProcessedBlock (hi : Inv h s emitted arrived) {b : ProducedBlock}
    (hnew : (Commitment.processed, b.blockhash) ∉ arrived) (hok : b.commitmentConfig = .processed)
    (hw : RecentWf (s.recvProcessedBlock b).2) :
    Inv h (s.recvProcessedBlock b).2 (emitted ++ levels (s.recvProcessedBlock b).1 h)
      (arrived ++ [(.processed, b.blockhash)]) := by
  by_cases hb : b.blockhash = h
  · subst hb
    exact hi.recvProcessedBlock_self rfl hnew hok hw
  · rw [levels_recvProcessedBlock, if_neg hb, List.append_nil]
    refine hi.frame hw ?_ ?_ ?_ (List.subset_append_left _ _) <;>
      simp [RecvLoop.recvProcessedBlock, Ne.symm hb]

theorem Inv.recvBlockinfoConfirmed (hi : Inv h s emitted arrived) {i : BlockInfo}
    (hnew : (Commitment.confirmed, i.blockhash) ∉ arrived)
    (hw : RecentWf (s.recvBlockinfoConfirmed i).2) :
    Inv h (s.recvBlockinfoConfirmed i).2 (emitted ++ levels (s.recvBlockinfoConfirmed i).1 h)
      (arrived ++ [(.confirmed, i.blockhash)]) := by
  have harr := List.subset_append_left arrived [(Commitment.confirmed, i.blockhash)]
  cases hr : s.recentProcessedBlocks i.blockhash with
  | some b =>
    rw [recvBlockinfoConfirmed_of_some s i hr] at hw ⊢
    have hbh := (hi.recent_wf _ _ hr).1
    by_cases hih : i.blockhash = h
    · subst hih
      simpa [hbh] using hi.emit hr hnew (by simp) hw (fun _ hb => hb) rfl rfl harr
    · simpa [hbh, hih] using hi.frame hw rfl rfl rfl harr
  | none =>
    rw [recvBlockinfoConfirmed_of_none s i hr] at hw ⊢
    simp only [levels_cons_blockInfo, levels_nil, List.append_nil]
    refine hi.mono hw (fun _ hb => hb) ?_ (fun hf => .inl hf) harr
    intro hc
    simp only [Function.update_apply] at hc
    split_ifs at hc with hih
    · exact .inr (by simp [hih])
    · exact .inl hc

theorem Inv.recvBlockinfoFinalized (hi : Inv h s emitted arrived) {i : BlockInfo}
    (hnew : (Commitment.finalized, i.blockhash) ∉ arrived)
    (hw : RecentWf (s.recvBlockinfoFinalized i).2) :
    Inv h (s.recvBlockinfoFinalized i).2 (emitted ++ levels (s.recvBlockinfoFinalized i).1 h)
      (arrived ++ [(.finalized, i.blockhash)]) := by
  have harr := List.subset_append_left arrived [(Commitment.finalized, i.blockhash)]
  cases hr : s.recentProcessedBlocks i.blockhash with
  | some b =>
    rw [recvBlockinfoFinalized_of_some s i hr] at hw ⊢
    have hbh := (hi.recent_wf _ _ hr).1
    by_cases hih : i.blockhash = h
    · subst hih
      simpa [hbh] using hi.emit hr hnew (by simp) hw (by simp) rfl rfl harr
    · have hrecent : Function.update s.recentProcessedBlocks i.blockhash none h =
          s.recentProcessedBlocks h := by simp [Ne.symm hih]
      simpa [hbh, hih] using hi.frame hw hrecent rfl rfl harr
  | none =>
    rw [recvBlockinfoFinalized_of_none s i hr] at hw ⊢
    simp only [levels_cons_blockInfo, levels_nil, List.append_nil]
    refine hi.mono hw (fun _ hb => hb) (fun hc => .inl hc) ?_ harr
    intro hf
    split_ifs at hf
    · simp only [Function.update_apply] at hf
      split_ifs at hf with hih
      · exact .inr (by simp [hih])
      · exact .inl hf
    · exact .inl hf

theorem Inv.cleanupTick (hi : Inv h s emitted arrived) (hw : RecentWf s.cleanupTick.2) :
    Inv h s.cleanupTick.2 (emitted ++ levels s.cleanupTick.1 h) arrived := by
  unfold RecvLoop.cleanupTick at hw ⊢
  split_ifs at hw ⊢
  · simpa using hi.frame hw rfl rfl rfl (List.Subset.refl _)
  · simpa using hi.mono hw (fun _ hb => Option.eq_some_of_filter_eq_some hb)
      (fun hc => .inl hc) (fun hf => .inl hf) (List.Subset.refl _)

end Branches

theorem Inv.of_step {h : Hash} {s : RecvLoop} {emitted : List Commitment}
    {arrived : List (Commitment × Hash)} (hi : Inv h s emitted arrived) (e : RecvEvent)
    (hnew : ∀ k ∈ e.key, k ∉ arrived) (hok : e.commitmentOk = true) :
    Inv h (s.step e).2 (emitted ++ levels (s.step e).1 h) (arrived ++ e.key.toList) := by
  have hw := hi.recent_wf.of_step e hok
  unfold RecvLoop.step at hw ⊢
  split_ifs at hw ⊢
  · simpa using hi.frame hw rfl rfl rfl (List.subset_append_left _ _)
  cases e with
  | processedBlock b =>
    exact hi.recvProcessedBlock (hnew _ rfl) (by simpa [RecvEvent.commitmentOk] using hok) hw
  | blockinfoProcessed i =>
    simpa [recv, recvBlockinfoProcessed, RecvEvent.key] using
      hi.frame hw rfl rfl rfl (List.Subset.refl _)
  | blockinfoConfirmed i => exact hi.recvBlockinfoConfirmed (hnew _ rfl) hw
  | blockinfoFinalized i => exact hi.recvBlockinfoFinalized (hnew _ rfl) hw
  | cleanupTick => simpa [recv, RecvEvent.key] using hi.cleanupTick hw

end RecvLoop

open RecvLoop in
/-- The slots of the block infos received at `commitment`, in order. -/
def infoSlots (events : List RecvEvent) (commitment : Commitment) : List Slot :=
  events.filterMap fun
    | .blockinfoProcessed info => if commitment = .processed then some info.slot else none
    | .blockinfoConfirmed info => if commitment = .confirmed then some info.slot else none
    | .blockinfoFinalized info => if commitment = .finalized then some info.slot else none
    | _ => none

/-- A finalized info that comes before its processed block, and a confirmed info that comes after
it: the finalized block is sent before the confirmed one. -/
theorem finalized_sent_before_confirmed :
    let b₀ : ProducedBlock := ⟨[], ⟨0⟩, 0, 1, .processed⟩
    let b₁ : ProducedBlock := ⟨[], ⟨1⟩, 1, 2, .processed⟩
    let events : List RecvEvent := [.processedBlock b₀, .blockinfoFinalized ⟨1, ⟨0⟩, .finalized⟩,
      .blockinfoFinalized ⟨2, ⟨1⟩, .finalized⟩, .processedBlock b₁,
      .blockinfoConfirmed ⟨2, ⟨1⟩, .confirmed⟩]
    Streams events ∧ (infoSlots events .confirmed).Pairwise (· < ·) ∧
      (infoSlots events .finalized).Pairwise (· < ·) ∧
      levels (StepSystem.runOutputs RecvLoop.step RecvLoop.start events).1 ⟨1⟩ =
        [.processed, .finalized, .confirmed] := by
  decide

end GrpcMultiplex

end LiteRpc
