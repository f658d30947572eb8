import LiteRpc.Lib.RunningMax
import LiteRpc.Lib.Streak
import LiteRpc.Lib.Run
import Mathlib.Data.List.Chain

/-!
The slot notifications of the RPC polling path (`cluster-endpoints/src/rpc_polling/poll_slots.rs`).
`poll_slots` spawns two tasks that share an unbounded channel. `poll_commitment_slots` polls
`get_slot_with_commitment` and sends each slot above the last one it sent; after more than ten
errors in a row it returns its error, which drops the sender of the channel. The notifier starts
from the confirmed slot. On each slot it receives above its current one it notifies that slot as
processed, raising the estimated slot to it; when no slot comes for `AVERAGE_SLOT_CHANGE_TIME`, it
notifies the estimated slot one further, as long as that stays within 32 slots of the processed one.

A run is any interleaving of the poller's answers and the notifier's wake-ups. A wake-up receives
the first slot of the channel if there is one; otherwise the receive times out while the poller
runs, and returns `None` at once when the poller is gone. The timers, and the errors of sending on
the channels, are not modelled.
-/

namespace LiteRpc

open RunningMax Streak

/-- `SlotNotification`. -/
structure SlotNotification where
  processedSlot : Nat
  estimatedProcessedSlot : Nat
deriving DecidableEq, Repr

namespace SlotNotification

/-- `b` after `a`: neither slot goes back, and `b` is another notification. -/
def Advances (a b : SlotNotification) : Prop :=
  a.processedSlot ≤ b.processedSlot ∧ a.estimatedProcessedSlot ≤ b.estimatedProcessedSlot ∧ a ≠ b

/-- The estimated slot is the processed slot or one of the 32 after it. -/
def Bounded (n : SlotNotification) : Prop :=
  n.processedSlot ≤ n.estimatedProcessedSlot ∧ n.estimatedProcessedSlot ≤ n.processedSlot + 32

end SlotNotification

/-- The state of `poll_commitment_slots`. -/
structure SlotPoller where
  lastSlot : Nat
  errors : Nat
deriving DecidableEq, Repr

namespace SlotPoller

def new : SlotPoller := ⟨0, 0⟩

/-- One answer of `get_slot_with_commitment`: the slots sent on `slot_tx` and the next state, or the
error that ends the task after more than ten errors in a row. -/
def poll (self : SlotPoller) (slot : Except String Nat) : Except String (List Nat × SlotPoller) :=
  match slot with
  | .ok slot =>
    if slot > self.lastSlot then .ok ([slot], ⟨slot, 0⟩) else .ok ([], { self with errors := 0 })
  | .error e =>
    let errors := self.errors + 1
    if errors > 10 then .error ("Exceeded error count to get slots from rpc " ++ e)
    else .ok ([], { self with errors })

/-- An answer that counts as an error. -/
def isError (slot : Except String Nat) : Bool := !slot.isOk

theorem poll_of_ok {self : SlotPoller} {slot : Except String Nat} {sent : List Nat}
    {p : SlotPoller} (h : self.poll slot = .ok (sent, p)) :
    sent = records self.lastSlot slot.toOption.toList ∧
      p.lastSlot = slot.toOption.toList.foldl max self.lastSlot ∧
      p.errors = (if isError slot then self.errors + 1 else 0) ∧ p.errors ≤ 10 := by
  cases slot with
  | ok slot =>
    simp only [poll] at h
    split_ifs at h with hslot <;> simp only [Except.ok.injEq, Prod.mk.injEq] at h <;>
      obtain ⟨rfl, rfl⟩ := h
    · refine ⟨?_, show slot = max self.lastSlot slot by omega, rfl, Nat.zero_le _⟩
      show [slot] = records self.lastSlot [slot]
      rw [records_singleton, if_pos hslot]
    · refine ⟨?_, show self.lastSlot = max self.lastSlot slot by omega, rfl, Nat.zero_le _⟩
      show [] = records self.lastSlot [slot]
      rw [records_singleton, if_neg hslot]
  | error e =>
    simp only [poll] at h
    split_ifs at h with herr
    simp only [Except.ok.injEq, Prod.mk.injEq] at h
    obtain ⟨rfl, rfl⟩ := h
    exact ⟨rfl, rfl, rfl, show self.errors + 1 ≤ 10 by omega⟩

theorem poll_of_error {self : SlotPoller} {slot : Except String Nat} {e : String}
    (h : self.poll slot = .error e) : isError slot ∧ 10 ≤ self.errors := by
  cases slot with
  | ok slot =>
    simp only [poll] at h
    split_ifs at h
  | error e' =>
    simp only [poll] at h
    split_ifs at h with herr
    exact ⟨rfl, by omega⟩

end SlotPoller

/-- The state of the notifier task: `current_slot` and `estimated_slot`. -/
structure SlotNotifier where
  currentSlot : Nat
  estimatedSlot : Nat
deriving DecidableEq, Repr

namespace SlotNotifier

/-- The notification of the current state. -/
def last (self : SlotNotifier) : SlotNotification := ⟨self.currentSlot, self.estimatedSlot⟩

/-- A slot received from the poller. -/
def recv (self : SlotNotifier) (slot : Nat) : List SlotNotification × SlotNotifier :=
  if slot > self.currentSlot then
    let currentSlot := slot
    let estimatedSlot := if currentSlot > self.estimatedSlot then slot else self.estimatedSlot
    ([⟨currentSlot, estimatedSlot⟩], ⟨currentSlot, estimatedSlot⟩)
  else ([], self)

/-- `AVERAGE_SLOT_CHANGE_TIME` without a slot: the estimated slot forced one further. -/
def timeout (self : SlotNotifier) : List SlotNotification × SlotNotifier :=
  if self.estimatedSlot < self.currentSlot + 32 then
    let estimatedSlot := self.estimatedSlot + 1
    ([⟨self.currentSlot, estimatedSlot⟩], { self with estimatedSlot })
  else ([], self)

/-- Nothing, or a move to a state that it notifies, after the last one, within the bounds when the
last one is. -/
def Moves (n : SlotNotifier) (out : List SlotNotification) (n' : SlotNotifier) : Prop :=
  (out = [] ∧ n' = n) ∨
    (out = [n'.last] ∧ n.last.Advances n'.last ∧ (n.last.Bounded → n'.last.Bounded))

theorem recv_moves (self : SlotNotifier) (slot : Nat) :
    Moves self (self.recv slot).1 (self.recv slot).2 := by
  unfold recv
  split_ifs with hslot
  · refine .inr ⟨rfl, ⟨?_, ?_, ?_⟩, ?_⟩ <;>
      simp only [last, SlotNotification.Bounded, ne_eq, SlotNotification.mk.injEq] <;>
      (try split_ifs) <;> omega
  · exact .inl ⟨rfl, rfl⟩

theorem timeout_moves (self : SlotNotifier) : Moves self self.timeout.1 self.timeout.2 := by
  unfold timeout
  split_ifs with hest
  · refine .inr ⟨rfl, ⟨?_, ?_, ?_⟩, ?_⟩ <;>
      simp only [last, SlotNotification.Bounded, ne_eq, SlotNotification.mk.injEq] <;> omega
  · exact .inl ⟨rfl, rfl⟩

theorem recv_processed (self : SlotNotifier) (slot : Nat) :
    (self.recv slot).1.map SlotNotification.processedSlot = records self.currentSlot [slot] ∧
      (self.recv slot).2.currentSlot = max self.currentSlot slot := by
  unfold recv
  rw [records_singleton]
  split_ifs with hslot
  · simp only [List.map_cons, List.map_nil, true_and]
    omega
  · simp only [List.map_nil, true_and]
    omega

theorem timeout_processed (self : SlotNotifier) :
    records self.currentSlot (self.timeout.1.map SlotNotification.processedSlot) = [] ∧
      self.timeout.2.currentSlot = self.currentSlot := by
  unfold timeout
  split_ifs <;> simp [records_singleton]

end SlotNotifier

/-- The two tasks of `poll_slots` and the slots sent between them and not yet received. -/
structure PollSlots where
  /-- none once `poll_commitment_slots` has returned its error -/
  poller : Option SlotPoller
  channel : List Nat
  notifier : SlotNotifier
deriving DecidableEq, Repr

/-- What happens next: an answer to the poller, or a wake-up of the notifier. -/
inductive PollSlotsEvent where
  | poll (slot : Except String Nat)
  | wake

/-- The answer of a poll. -/
def PollSlotsEvent.answer? : PollSlotsEvent → Option (Except String Nat)
  | poll slot => some slot
  | wake => none

namespace PollSlots

/-- `poll_slots`, with the notifier started from the confirmed slot `slot`. -/
def start (slot : Nat) : PollSlots := ⟨some SlotPoller.new, [], ⟨slot, slot⟩⟩

/-- One event and the notifications it sends. -/
def step (self : PollSlots) : PollSlotsEvent → List SlotNotification × PollSlots
  | .poll slot =>
    match self.poller with
    | none => ([], self)
    | some poller =>
      match poller.poll slot with
      | .ok (sent, poller) => ([], { self with poller := some poller, channel := self.channel ++ sent })
      | .error _ => ([], { self with poller := none })
  | .wake =>
    match self.channel, self.poller with
    | slot :: rest, _ =>
      let r := self.notifier.recv slot
      (r.1, { self with channel := rest, notifier := r.2 })
    | [], some _ =>
      let r := self.notifier.timeout
      (r.1, { self with notifier := r.2 })
    | [], none => ([], self)

/-- What the poller has done after the `answers`: `before` are the answered slots while it ran. -/
structure PollerInv (poller : Option SlotPoller) (answers : List (Except String Nat))
    (before : List Nat) : Prop where
  before_prefix : before <+: answers.filterMap Except.toOption
  before_eq : poller.isSome → before = answers.filterMap Except.toOption
  lastSlot_eq : ∀ p ∈ poller, p.lastSlot = before.foldl max 0
  errors_eq : ∀ p ∈ poller, p.errors = streak SlotPoller.isError answers
  /-- the task runs until eleven answers in a row are errors -/
  isSome_iff : poller.isSome ↔ ¬ HasRun SlotPoller.isError 11 answers

theorem filterMap_toOption_concat (answers : List (Except String Nat)) (slot : Except String Nat) :
    (answers ++ [slot]).filterMap Except.toOption =
      answers.filterMap Except.toOption ++ slot.toOption.toList := by
  cases slot <;> simp [List.filterMap_append, Except.toOption]

theorem pollerInv_start : PollerInv (start slot₀).poller [] [] where
  before_prefix := List.nil_prefix
  before_eq _ := rfl
  lastSlot_eq p hp := by
    simp only [start, Option.mem_def, Option.some.injEq] at hp
    rw [← hp]
    rfl
  errors_eq p hp := by
    simp only [start, Option.mem_def, Option.some.injEq] at hp
    rw [← hp]
    rfl
  isSome_iff := by simp [start, not_hasRun_nil]

theorem PollerInv.stop {poller : Option SlotPoller} {answers : List (Except String Nat)}
    {before : List Nat} (h : PollerInv poller answers before) {slot : Except String Nat}
    (hrun : HasRun SlotPoller.isError 11 (answers ++ [slot])) :
    PollerInv none (answers ++ [slot]) before where
  before_prefix := by
    rw [filterMap_toOption_concat]
    exact h.before_prefix.trans (List.prefix_append _ _)
  before_eq := by simp
  lastSlot_eq := by simp
  errors_eq := by simp
  isSome_iff := by simpa using hrun

theorem PollerInv.poll_ok {p p' : SlotPoller} {answers : List (Except String Nat)}
    {before : List Nat} (h : PollerInv (some p) answers before) {slot : Except String Nat}
    {sent : List Nat} (hp : p.poll slot = .ok (sent, p')) :
    PollerInv (some p') (answers ++ [slot]) (before ++ slot.toOption.toList) ∧
      sent = records (before.foldl max 0) slot.toOption.toList := by
  obtain ⟨hsent, hlast, herrors, hbound⟩ := SlotPoller.poll_of_ok hp
  have hbefore := h.before_eq rfl
  have hlast₀ := h.lastSlot_eq p rfl
  have hstreak : streak SlotPoller.isError (answers ++ [slot]) = p'.errors := by
    rw [streak_concat, herrors, h.errors_eq p rfl]
  refine ⟨⟨?_, fun _ => ?_, fun q hq => ?_, fun q hq => ?_, ?_⟩, by rw [hsent, hlast₀]⟩
  · rw [filterMap_toOption_concat, hbefore]
  · rw [filterMap_toOption_concat, hbefore]
  · rw [Option.mem_def, Option.some.injEq] at hq
    rw [← hq, hlast, hlast₀, List.foldl_append]
  · rw [Option.mem_def, Option.some.injEq] at hq
    rw [← hq, hstreak]
  · -- no run before, and the count stays at ten at most
    have hnone : ¬ HasRun SlotPoller.isError 11 answers := h.isSome_iff.mp rfl
    simp only [Option.isSome_some, true_iff, hasRun_concat_iff, hstreak, not_or]
    exact ⟨hnone, by omega⟩

theorem PollerInv.poll_error {p : SlotPoller} {answers : List (Except String Nat)}
    {before : List Nat} (h : PollerInv (some p) answers before) {slot : Except String Nat}
    {e : String} (hp : p.poll slot = .error e) : PollerInv none (answers ++ [slot]) before := by
  obtain ⟨herr, hcount⟩ := SlotPoller.poll_of_error hp
  refine h.stop (hasRun_concat_iff.mpr (.inr ?_))
  rw [streak_concat, if_pos herr, ← h.errors_eq p rfl]
  omega

theorem PollerInv.gone {answers : List (Except String Nat)} {before : List Nat}
    (h : PollerInv none answers before) (slot : Except String Nat) :
    PollerInv none (answers ++ [slot]) before :=
  h.stop ((not_not.mp (mt h.isSome_iff.mpr (by simp))).append [slot])

/-- What the notifier has done from the confirmed slot `slot₀`, having received `received` and
sent `out`. -/
structure NotifierInv (slot₀ : Nat) (n : SlotNotifier) (out : List SlotNotification)
    (received : List Nat) : Prop where
  currentSlot_eq : n.currentSlot = received.foldl max slot₀
  /-- the processed slots notified are the running maxima of the slots received -/
  processed : records slot₀ (out.map SlotNotification.processedSlot) = records slot₀ received
  bounded : n.last.Bounded
  all_bounded : ∀ m ∈ out, m.Bounded
  chain : (⟨slot₀, slot₀⟩ :: out).IsChain SlotNotification.Advances
  last_eq : (⟨slot₀, slot₀⟩ :: out).getLast? = some n.last

theorem notifierInv_start (slot₀ : Nat) : NotifierInv slot₀ (start slot₀).notifier [] [] where
  currentSlot_eq := rfl
  processed := rfl
  bounded := by simp [start, SlotNotifier.last, SlotNotification.Bounded]
  all_bounded := by simp
  chain := List.IsChain.singleton _
  last_eq := rfl

theorem NotifierInv.next {slot₀ : Nat} {n n' : SlotNotifier} {out sent : List SlotNotification}
    {received more : List Nat} (h : NotifierInv slot₀ n out received) (hmoves : n.Moves sent n')
    (hproc : records n.currentSlot (sent.map SlotNotification.processedSlot) =
      records n.currentSlot more)
    (hcur : n'.currentSlot = more.foldl max n.currentSlot) :
    NotifierInv slot₀ n' (out ++ sent) (received ++ more) := by
  have hmax : (out.map SlotNotification.processedSlot).foldl max slot₀ = n.currentSlot := by
    rw [foldl_max_eq_of_records_eq h.processed, h.currentSlot_eq]
  have hnotify : n'.last.Bounded ∧ (∀ m ∈ out ++ sent, m.Bounded) ∧
      (⟨slot₀, slot₀⟩ :: (out ++ sent)).IsChain SlotNotification.Advances ∧
      (⟨slot₀, slot₀⟩ :: (out ++ sent)).getLast? = some n'.last := by
    rcases hmoves with ⟨rfl, rfl⟩ | ⟨rfl, hadv, hbound⟩
    · simpa using ⟨h.bounded, h.all_bounded, h.chain, h.last_eq⟩
    · have hbounded := hbound h.bounded
      refine ⟨hbounded, ?_, ?_, ?_⟩
      · intro m hm
        rcases List.mem_append.mp hm with hm | hm
        · exact h.all_bounded m hm
        · rw [List.mem_singleton.mp hm]
          exact hbounded
      · rw [← List.cons_append]
        exact h.chain.append (List.IsChain.singleton _) fun a ha b hb => by
          rw [h.last_eq, Option.mem_def, Option.some.injEq] at ha
          rw [List.head?_cons, Option.mem_def, Option.some.injEq] at hb
          rw [← ha, ← hb]
          exact hadv
      · rw [← List.cons_append, List.getLast?_append]
        simp
  obtain ⟨hbounded, hall, hchain, hlast⟩ := hnotify
  refine ⟨?_, ?_, hbounded, hall, hchain, hlast⟩
  · rw [hcur, h.currentSlot_eq, List.foldl_append]
  · rw [List.map_append, records_append, h.processed, hmax, hproc, h.currentSlot_eq,
      ← records_append]

theorem NotifierInv.recv {slot₀ : Nat} {n : SlotNotifier} {out : List SlotNotification}
    {received : List Nat} (h : NotifierInv slot₀ n out received) (slot : Nat) :
    NotifierInv slot₀ (n.recv slot).2 (out ++ (n.recv slot).1) (received ++ [slot]) := by
  obtain ⟨hproc, hcur⟩ := n.recv_processed slot
  refine h.next (n.recv_moves slot) ?_ (by rw [hcur]; rfl)
  rw [hproc, records_records, max_self]

theorem NotifierInv.timeout {slot₀ : Nat} {n : SlotNotifier} {out : List SlotNotification}
    {received : List Nat} (h : NotifierInv slot₀ n out received) :
    NotifierInv slot₀ n.timeout.2 (out ++ n.timeout.1) received := by
  obtain ⟨hproc, hcur⟩ := n.timeout_processed
  simpa using h.next n.timeout_moves (hproc.trans (records_nil _).symm) hcur

/-- What a run from `start slot₀` has done by `s`, having sent the notifications `out` for the
events `done`: the poller was answered the slots `before` while it ran, and the notifier received
`received` of the running maxima it sent on the channel. -/
structure RunInv (slot₀ : Nat) (s : PollSlots) (out : List SlotNotification)
    (done : List PollSlotsEvent) (before received : List Nat) : Prop where
  poller : PollerInv s.poller (done.filterMap PollSlotsEvent.answer?) before
  channel_eq : records 0 before = received ++ s.channel
  notifier : NotifierInv slot₀ s.notifier out received

theorem runInv_start (slot₀ : Nat) : RunInv slot₀ (start slot₀) [] [] [] [] :=
  ⟨pollerInv_start, rfl, notifierInv_start slot₀⟩

@[simp] theorem filterMap_answer?_poll (done : List PollSlotsEvent) (slot : Except String Nat) :
    (done ++ [PollSlotsEvent.poll slot]).filterMap PollSlotsEvent.answer? =
      done.filterMap PollSlotsEvent.answer? ++ [slot] := by
  simp [List.filterMap_append, PollSlotsEvent.answer?]

@[simp] theorem filterMap_answer?_wake (done : List PollSlotsEvent) :
    (done ++ [PollSlotsEvent.wake]).filterMap PollSlotsEvent.answer? = done.filterMap PollSlotsEvent.answer? := by
  simp [List.filterMap_append, PollSlotsEvent.answer?]

theorem RunInv.step {slot₀ : Nat} {s : PollSlots} {out : List SlotNotification}
    {done : List PollSlotsEvent} {before received : List Nat}
    (h : RunInv slot₀ s out done before received) (ev : PollSlotsEvent) :
    ∃ before' received',
      RunInv slot₀ (s.step ev).2 (out ++ (s.step ev).1) (done ++ [ev]) before' received' := by
  obtain ⟨hpoller, hchannel, hnotifier⟩ := h
  cases ev with
  | poll slot =>
    cases hp : s.poller with
    | none =>
      rw [hp] at hpoller
      simp only [PollSlots.step, hp, List.append_nil]
      refine ⟨before, received, ⟨?_, hchannel, hnotifier⟩⟩
      rw [filterMap_answer?_poll, hp]
      exact hpoller.gone slot
    | some p =>
      rw [hp] at hpoller
      cases hpoll : p.poll slot with
      | error e =>
        simp only [PollSlots.step, hp, hpoll, List.append_nil]
        refine ⟨before, received, ⟨?_, hchannel, hnotifier⟩⟩
        rw [filterMap_answer?_poll]
        exact hpoller.poll_error hpoll
      | ok r =>
        obtain ⟨sent, p'⟩ := r
        obtain ⟨hpoller', hsent⟩ := hpoller.poll_ok hpoll
        simp only [PollSlots.step, hp, hpoll, List.append_nil]
        refine ⟨before ++ slot.toOption.toList, received, ⟨?_, ?_, hnotifier⟩⟩
        · rw [filterMap_answer?_poll]
          exact hpoller'
        · rw [records_append, hchannel, hsent, List.append_assoc]
  | wake =>
    cases hc : s.channel with
    | cons slot rest =>
      simp only [PollSlots.step, hc]
      refine ⟨before, received ++ [slot], ⟨?_, ?_, hnotifier.recv slot⟩⟩
      · rw [filterMap_answer?_wake]
        exact hpoller
      · rw [hchannel, hc, List.append_assoc, List.singleton_append]
    | nil =>
      cases hp : s.poller with
      | some p =>
        simp only [PollSlots.step, hc, hp]
        refine ⟨before, received, ⟨?_, by rw [← hc]; exact hchannel, hnotifier.timeout⟩⟩
        rw [filterMap_answer?_wake, ← hp]
        exact hpoller
      | none =>
        simp only [PollSlots.step, hc, hp, List.append_nil]
        refine ⟨before, received, ⟨?_, hchannel, hnotifier⟩⟩
        rw [filterMap_answer?_wake]
        exact hpoller

theorem runInv_runOutputs (slot₀ : Nat) (events : List PollSlotsEvent) :
    ∃ before received, RunInv slot₀ (StepSystem.runOutputs step (start slot₀) events).2
      (StepSystem.runOutputs step (start slot₀) events).1 events before received := by
  have h := @StepSystem.runOutputs_history PollSlots PollSlotsEvent SlotNotification step
    (fun _ => True) (fun _ _ _ => trivial)
    (fun s out done => ∃ before received, RunInv slot₀ s out done before received)
    (fun _ _ _ ev ⟨before, received, h⟩ _ => h.step ev) (start slot₀) [] []
    ⟨[], [], runInv_start slot₀⟩ events trivial
  simpa only [List.nil_append] using h

theorem RunInv.records_before {slot₀ : Nat} {s : PollSlots} {out : List SlotNotification}
    {done : List PollSlotsEvent} {before received : List Nat}
    (h : RunInv slot₀ s out done before received) :
    records slot₀ before =
      records slot₀ (out.map SlotNotification.processedSlot) ++
        records s.notifier.currentSlot s.channel := by
  have hrec : records slot₀ (records 0 before) = records slot₀ before := by
    rw [records_records, Nat.max_zero]
  rw [← hrec, h.channel_eq, records_append, ← h.notifier.currentSlot_eq, h.notifier.processed]

/-- Test events: two new slots, one received twice, a slot below the last, a timeout. -/
def testEvents : List PollSlotsEvent :=
  [.poll (.ok 101), .wake, .poll (.ok 101), .wake, .poll (.ok 104), .poll (.ok 103), .wake, .wake]

/-- Every notification of `poll_slots` keeps its estimated slot within 32 after its processed slot,
and each one advances on the one before it, the first on the confirmed slot. -/
theorem poll_slots_notifications_bounded_advancing (slot₀ : Nat) (events : List PollSlotsEvent) :
    let out := (StepSystem.runOutputs step (start slot₀) events).1
    (∀ n ∈ out, n.Bounded) ∧ (⟨slot₀, slot₀⟩ :: out).IsChain SlotNotification.Advances := by
  obtain ⟨before, received, h⟩ := runInv_runOutputs slot₀ events
  exact ⟨h.notifier.all_bounded, h.notifier.chain⟩

example : (StepSystem.runOutputs step (start 100) testEvents).1 =
    [⟨101, 101⟩, ⟨101, 102⟩, ⟨104, 104⟩, ⟨104, 105⟩] := by decide

/-- The processed slots notified, where they rise above the confirmed slot, are the first rises of
the slots the RPC answered; all of them while the poller runs and the channel is empty. -/
theorem poll_slots_processed_follow_answers (slot₀ : Nat) (events : List PollSlotsEvent) :
    let r := StepSystem.runOutputs step (start slot₀) events
    let answered := (events.filterMap PollSlotsEvent.answer?).filterMap Except.toOption
    records slot₀ (r.1.map SlotNotification.processedSlot) <+: records slot₀ answered ∧
      (r.2.poller.isSome → r.2.channel = [] →
        records slot₀ (r.1.map SlotNotification.processedSlot) = records slot₀ answered) := by
  dsimp only
  obtain ⟨before, received, h⟩ := runInv_runOutputs slot₀ events
  have hbefore := h.records_before
  refine ⟨?_, fun hsome hempty => ?_⟩
  · -- what is notified is a prefix of what the poller was answered while it ran
    have hnotified := hbefore ▸ List.prefix_append _ _
    exact hnotified.trans (records_isPrefix slot₀ h.poller.before_prefix)
  · rw [← h.poller.before_eq hsome, hbefore, hempty, records_nil, List.append_nil]

theorem poll_slots_processed_follow_answers_of_test_events :
    let r := StepSystem.runOutputs step (start 100) testEvents
    (r.2.poller.isSome ∧ r.2.channel = []) ∧
      records 100 (r.1.map SlotNotification.processedSlot) = [101, 104] ∧
      records 100 (r.1.map SlotNotification.processedSlot) =
        records 100 ((testEvents.filterMap PollSlotsEvent.answer?).filterMap Except.toOption) :=
  ⟨by decide, by decide,
    (poll_slots_processed_follow_answers 100 testEvents).2 (by decide) (by decide)⟩

/-- `poll_commitment_slots` keeps running exactly as long as no eleven of its answers in a row
have been errors. -/
theorem poll_slots_poller_runs_until_eleven_errors (slot₀ : Nat) (events : List PollSlotsEvent) :
    (StepSystem.runOutputs step (start slot₀) events).2.poller.isSome ↔
      ¬ HasRun SlotPoller.isError 11 (events.filterMap PollSlotsEvent.answer?) := by
  obtain ⟨before, received, h⟩ := runInv_runOutputs slot₀ events
  exact h.poller.isSome_iff

example :
    (StepSystem.runOutputs step (start 100) (List.replicate 10 (.poll (.error "rpc")))).2.poller =
      some ⟨0, 10⟩ ∧
    (StepSystem.runOutputs step (start 100) (List.replicate 11 (.poll (.error "rpc")))).2.poller =
      none := by decide

theorem step_of_poller_none {s : PollSlots} (hpoller : s.poller = none) (ev : PollSlotsEvent) :
    (s.step ev).2.poller = none ∧ (s.step ev).1.length + (s.step ev).2.channel.length ≤
      s.channel.length := by
  cases ev with
  | poll slot => simp [PollSlots.step, hpoller]
  | wake =>
    cases hc : s.channel with
    | cons slot rest =>
      simp only [PollSlots.step, hc, hpoller, List.length_cons, true_and]
      have hlen : (s.notifier.recv slot).1.length ≤ 1 := by
        unfold SlotNotifier.recv
        split_ifs <;> simp
      omega
    | nil => simp [PollSlots.step, hc, hpoller]

/-- After `poll_commitment_slots` has failed, `poll_slots` notifies at most the slots left on the
channel, whatever happens next: no timeout notifies any more. -/
theorem poll_slots_after_poller_fails (s : PollSlots) (hpoller : s.poller = none)
    (events : List PollSlotsEvent) :
    (StepSystem.runOutputs step s events).1.length ≤ s.channel.length := by
  induction events generalizing s with
  | nil => simp
  | cons ev events ih =>
    obtain ⟨hnone, hlen⟩ := step_of_poller_none hpoller ev
    have hrest := ih (s.step ev).2 hnone
    rw [StepSystem.runOutputs_cons, List.length_append]
    omega

theorem poll_slots_after_poller_fails_of_test_events :
    let s := (StepSystem.runOutputs step (start 100)
      (.poll (.ok 101) :: List.replicate 11 (.poll (.error "rpc")))).2
    s.poller = none ∧ s.channel = [101] ∧
      (StepSystem.runOutputs step s [.wake, .wake, .wake]).1.length ≤ 1 :=
  ⟨by decide, by decide, poll_slots_after_poller_fails _ (by decide) _⟩

end PollSlots

end LiteRpc
