import Mathlib.Data.List.Nodup
import LiteRpc.Lib.BTreeMap
import LiteRpc.Lib.Run
import LiteRpc.ProducedBlock

/-!
The merging task of `create_grpc_multiplex_processed_block_task`: the geyser streams of all
sources arrive on one channel, in any interleaving, and the task forwards each processed block on
`block_sender`. `slots_processed` is a `BTreeSet<u64>`, here a `BTreeMap` with unit values. An
update is skipped when its slot is in the set, or when the set is at least half full and the slot
is not above the least one kept; a block sent has its slot inserted, and the least slot is dropped
once the set grows past `MAX_SIZE`.

The timing warnings of the loop are left out. A block update is given by the `ProducedBlock` that
`from_grpc_block_update` makes of it, whose slot is the update's.
-/

namespace LiteRpc

namespace ProcessedBlockMultiplex

/-- The `update_oneof` of a `SubscribeUpdate`, as far as the task reads it. -/
inductive UpdateOneof where
  | slot (slot : Slot)
  | blockMeta (slot : Slot)
  | block (block : ProducedBlock)
  /-- an account, transaction, entry or ping update -/
  | other
deriving DecidableEq, Repr

/-- A `Message` of the geyser connector. -/
inductive Message where
  | geyserSubscribeUpdate (updateOneof : Option UpdateOneof)
  | connecting (attempt : Nat)
deriving DecidableEq, Repr

def extractSlotFromYellowstoneUpdate : Option UpdateOneof → Option Slot
  | some (.slot slot) => some slot
  | some (.blockMeta slot) => some slot
  | some (.block block) => some block.slot
  | _ => none

def mapBlockFromYellowstoneUpdate : Option UpdateOneof → Option (Slot × ProducedBlock)
  | some (.block block) => some (block.slot, block)
  | _ => none

def maxSize : Nat := 1024

/-- A branch of the task's `tokio::select!`, or the receiver of `block_sender` going away. -/
inductive MergeEvent where
  /-- `blocks_rx.recv()`; `none` once every sender is gone -/
  | recv (message : Option Message)
  | exitNotify
  | blockReceiverDropped
deriving DecidableEq, Repr

structure MergeLoop where
  slotsProcessed : BTreeMap Slot Unit
  /-- The receiver of `block_sender` is gone, so that sending fails. -/
  blockReceiverClosed : Bool
  /-- `'recv_loop` was left and the task has ended. -/
  exited : Bool

namespace MergeLoop

def start : MergeLoop := ⟨BTreeMap.empty, false, false⟩

/-- `slots_processed.insert(slot)`, then `pop_first` when the set has grown past `MAX_SIZE`. -/
def insertSlot (slotsProcessed : BTreeMap Slot Unit) (slot : Slot) : BTreeMap Slot Unit :=
  let slotsProcessed := slotsProcessed.insert slot ()
  if slotsProcessed.len > maxSize then slotsProcessed.popFirst else slotsProcessed

/-- The test that skips an update: the slot was sent, or the set is at least half full and the
slot is not above its least slot. -/
def skipsSlot (slotsProcessed : BTreeMap Slot Unit) (slot : Slot) : Bool :=
  slotsProcessed.containsKey slot ||
    decide (slotsProcessed.len ≥ maxSize / 2 ∧
      slot ≤ (slotsProcessed.firstKeyValue.map (·.1)).getD 0)

/-- A `GeyserSubscribeUpdate` message: the block it maps to is sent, unless its slot is skipped. -/
def recvUpdate (self : MergeLoop) (updateOneof : Option UpdateOneof) :
    List ProducedBlock × MergeLoop :=
  match extractSlotFromYellowstoneUpdate updateOneof with
  | none => ([], self)
  | some slot =>
    if skipsSlot self.slotsProcessed slot then ([], self)
    else
      match mapBlockFromYellowstoneUpdate updateOneof with
      | none => ([], self)
      | some (_, producedBlock) =>
        -- a failed send breaks the loop
        if self.blockReceiverClosed then ([], { self with exited := true })
        else ([producedBlock], { self with slotsProcessed := insertSlot self.slotsProcessed slot })

def step (self : MergeLoop) (event : MergeEvent) : List ProducedBlock × MergeLoop :=
  if self.exited then ([], self)
  else
    match event with
    | .recv (some (.geyserSubscribeUpdate updateOneof)) => self.recvUpdate updateOneof
    | .recv (some (.connecting _)) => ([], self)
    | .recv none => ([], { self with exited := true })
    | .exitNotify => ([], { self with exited := true })
    | .blockReceiverDropped => ([], { self with blockReceiverClosed := true })

/-- A slot below every slot kept, with the set at least half full: the task skips it. -/
def Evicted (slotsProcessed : BTreeMap Slot Unit) (slot : Slot) : Prop :=
  maxSize / 2 ≤ slotsProcessed.len ∧ ∀ e ∈ slotsProcessed.entries, slot < e.1

section Slots

variable {slotsProcessed : BTreeMap Slot Unit} {slot : Slot}

theorem Evicted.lt_firstKeyValue (h : Evicted slotsProcessed slot) :
    ∃ q, slotsProcessed.firstKeyValue = some q ∧ slot < q.1 := by
  obtain ⟨hlen, hbelow⟩ := h
  have hne : slotsProcessed.entries ≠ [] := by
    intro hnil
    simp [BTreeMap.len, hnil, maxSize] at hlen
  obtain ⟨q, hq⟩ := BTreeMap.firstKeyValue_isSome hne
  exact ⟨q, hq, hbelow q (BTreeMap.firstKeyValue_mem hq)⟩

theorem evicted_skipsSlot (h : Evicted slotsProcessed slot) : skipsSlot slotsProcessed slot = true := by
  obtain ⟨q, hq, hlt⟩ := h.lt_firstKeyValue
  simp only [skipsSlot, hq, Option.map_some, Option.getD_some, Bool.or_eq_true, decide_eq_true_eq]
  exact .inr ⟨h.1, Nat.le_of_lt hlt⟩

theorem lt_of_not_skipsSlot (h : skipsSlot slotsProcessed slot = false) {y : Slot}
    (hy : Evicted slotsProcessed y) : y < slot := by
  obtain ⟨q, hq, hyq⟩ := hy.lt_firstKeyValue
  simp only [skipsSlot, hq, Option.map_some, Option.getD_some, Bool.or_eq_false_iff,
    decide_eq_false_iff_not, not_and, Nat.not_le] at h
  exact Nat.lt_trans hyq (h.2 hy.1)

theorem containsKey_of_not_skipsSlot (h : skipsSlot slotsProcessed slot = false) :
    slotsProcessed.containsKey slot = false := by
  simp only [skipsSlot, Bool.or_eq_false_iff] at h
  exact h.1

theorem len_insertSlot (hnew : slotsProcessed.containsKey slot = false)
    (hlen : slotsProcessed.len ≤ maxSize) :
    slotsProcessed.len ≤ (insertSlot slotsProcessed slot).len ∧
      (insertSlot slotsProcessed slot).len ≤ maxSize := by
  have hins := BTreeMap.len_insert_of_containsKey_eq_false hnew ()
  dsimp only [insertSlot]
  split_ifs with hbig
  · simp only [BTreeMap.len_popFirst]
    omega
  · omega

theorem mem_of_mem_insertSlot {e : Slot × Unit} (he : e ∈ (insertSlot slotsProcessed slot).entries) :
    e ∈ (slotsProcessed.insert slot ()).entries := by
  dsimp only [insertSlot] at he
  split_ifs at he
  · exact BTreeMap.mem_of_mem_popFirst he
  · exact he

theorem mem_insertSlot_or_evicted (hnew : slotsProcessed.containsKey slot = false) {y : Slot}
    (hy : (y, ()) ∈ (slotsProcessed.insert slot ()).entries) :
    (y, ()) ∈ (insertSlot slotsProcessed slot).entries ∨ Evicted (insertSlot slotsProcessed slot) y := by
  have hins := BTreeMap.len_insert_of_containsKey_eq_false hnew ()
  dsimp only [insertSlot]
  split_ifs with hbig
  · rcases BTreeMap.mem_popFirst_or_lt hy with hkept | hbelow
    · exact .inl hkept
    · -- the set dropped its least slot, so it is full
      refine .inr ⟨?_, hbelow⟩
      simp only [BTreeMap.len_popFirst, maxSize] at hbig ⊢
      omega
  · exact .inl hy

theorem Evicted.insertSlot (hy : Evicted slotsProcessed y) (hnew : slotsProcessed.containsKey slot = false)
    (hlen : slotsProcessed.len ≤ maxSize) (hys : y < slot) :
    Evicted (insertSlot slotsProcessed slot) y := by
  obtain ⟨hhalf, hbelow⟩ := hy
  refine ⟨Nat.le_trans hhalf (len_insertSlot hnew hlen).1, fun e he => ?_⟩
  rcases BTreeMap.mem_insert (mem_of_mem_insertSlot he) with rfl | hold
  · exact hys
  · exact hbelow e hold

end Slots

/-- What holds of the task and the blocks it has sent: the set holds at most `MAX_SIZE` slots,
no slot was sent twice, and the slot of each block sent is in the set or skipped for being below
it. -/
structure Inv (s : MergeLoop) (out : List ProducedBlock) : Prop where
  len_le : s.slotsProcessed.len ≤ maxSize
  nodup : (out.map (·.slot)).Nodup
  sent : ∀ b ∈ out, (b.slot, ()) ∈ s.slotsProcessed.entries ∨ Evicted s.slotsProcessed b.slot

theorem inv_start : Inv start [] where
  len_le := by simp [start, BTreeMap.len, BTreeMap.empty, maxSize]
  nodup := List.nodup_nil
  sent := by simp

theorem Inv.of_slotsProcessed_eq {s s' : MergeLoop} {out : List ProducedBlock} (h : Inv s out)
    (heq : s'.slotsProcessed = s.slotsProcessed) : Inv s' out := by
  obtain ⟨hlen, hnodup, hsent⟩ := h
  exact ⟨heq ▸ hlen, hnodup, heq ▸ hsent⟩

theorem Inv.send {s : MergeLoop} {out : List ProducedBlock} (h : Inv s out) {b : ProducedBlock}
    (hskip : skipsSlot s.slotsProcessed b.slot = false) :
    Inv { s with slotsProcessed := insertSlot s.slotsProcessed b.slot } (out ++ [b]) := by
  have hnew := containsKey_of_not_skipsSlot hskip
  -- a slot sent before is in the set, which `b`'s is not, or below `b`'s
  have hold : ∀ b' ∈ out, b'.slot ≠ b.slot := by
    intro b' hb' heq
    rcases h.sent b' hb' with hmem | hevicted
    · exact BTreeMap.containsKey_eq_false hnew () (heq ▸ hmem)
    · have hskip' := evicted_skipsSlot hevicted
      rw [heq, hskip] at hskip'
      cases hskip'
  have hkeep : ∀ y, (y, ()) ∈ (s.slotsProcessed.insert b.slot ()).entries →
      (y, ()) ∈ (insertSlot s.slotsProcessed b.slot).entries ∨
        Evicted (insertSlot s.slotsProcessed b.slot) y :=
    fun y hy => mem_insertSlot_or_evicted hnew hy
  refine ⟨(len_insertSlot hnew h.len_le).2, ?_, ?_⟩
  · rw [List.map_append, List.map_singleton, List.nodup_append]
    refine ⟨h.nodup, List.nodup_singleton _, ?_⟩
    simp only [List.mem_map, List.mem_singleton]
    rintro _ ⟨b', hb', rfl⟩ _ rfl
    exact hold b' hb'
  · intro b' hb'
    rcases List.mem_append.mp hb' with hb' | hb'
    · rcases h.sent b' hb' with hmem | hevicted
      · exact hkeep _ (BTreeMap.mem_insert_of_mem hmem (hold b' hb'))
      · exact .inr (hevicted.insertSlot hnew h.len_le (lt_of_not_skipsSlot hskip hevicted))
    · rw [List.mem_singleton.mp hb']
      exact hkeep _ (BTreeMap.mem_insert_self _ _ _)

theorem Inv.recvUpdate {s : MergeLoop} {out : List ProducedBlock} (h : Inv s out)
    (updateOneof : Option UpdateOneof) :
    Inv (s.recvUpdate updateOneof).2 (out ++ (s.recvUpdate updateOneof).1) := by
  match updateOneof with
  | some (.block block) =>
    by_cases hskip : skipsSlot s.slotsProcessed block.slot
    · simpa [MergeLoop.recvUpdate, extractSlotFromYellowstoneUpdate, hskip] using h
    · cases hclosed : s.blockReceiverClosed
      · simpa [MergeLoop.recvUpdate, extractSlotFromYellowstoneUpdate,
          mapBlockFromYellowstoneUpdate, hskip, hclosed] using h.send (by simpa using hskip)
      · simp only [MergeLoop.recvUpdate, extractSlotFromYellowstoneUpdate,
          mapBlockFromYellowstoneUpdate, hskip, hclosed, Bool.false_eq_true, if_false, if_true,
          List.append_nil]
        exact h.of_slotsProcessed_eq rfl
  | some (.slot slot) | some (.blockMeta slot) =>
    by_cases hskip : skipsSlot s.slotsProcessed slot <;>
      simpa [MergeLoop.recvUpdate, extractSlotFromYellowstoneUpdate,
        mapBlockFromYellowstoneUpdate, hskip] using h
  | some .other | none => simpa [MergeLoop.recvUpdate, extractSlotFromYellowstoneUpdate] using h

theorem Inv.step {s : MergeLoop} {out : List ProducedBlock} (h : Inv s out) (event : MergeEvent) :
    Inv (s.step event).2 (out ++ (s.step event).1) := by
  by_cases hexited : s.exited
  · simpa [MergeLoop.step, hexited] using h
  · match event with
    | .recv (some (.geyserSubscribeUpdate updateOneof)) =>
      simpa [MergeLoop.step, hexited] using h.recvUpdate updateOneof
    | .recv (some (.connecting _)) => simpa [MergeLoop.step, hexited] using h
    | .recv none | .exitNotify | .blockReceiverDropped =>
      simp only [MergeLoop.step, hexited, Bool.false_eq_true, if_false, List.append_nil]
      exact h.of_slotsProcessed_eq rfl

/-- Over any interleaving of the merged streams, during one life of the task, no two blocks sent
on `block_sender` have the same slot, and `slots_processed` holds at most `MAX_SIZE` slots. -/
theorem merged_blocks_sent_once (events : List MergeEvent) :
    ((StepSystem.runOutputs step start events).1.map (·.slot)).Nodup ∧
      (StepSystem.runOutputs step start events).2.slotsProcessed.len ≤ maxSize := by
  have hrun := @StepSystem.runOutputs_history MergeLoop MergeEvent ProducedBlock step
    (fun _ => True) (fun _ _ _ => trivial) (fun s out _ => Inv s out)
    (fun _ _ _ event h _ => h.step event) start [] [] inv_start events trivial
  exact ⟨by simpa using hrun.nodup, hrun.len_le⟩

end MergeLoop

end ProcessedBlockMultiplex

end LiteRpc
