import Mathlib.Algebra.Order.Group.Multiset
import Mathlib.Tactic.Abel
import Mathlib.Data.Multiset.Dedup
import LiteRpc.AccountData
import LiteRpc.Lib.Run

/-!
The tasks of `poll_block`, which fetch blocks over RPC: `num_parallel_tasks` workers that take
jobs `(slot, commitment)` from `block_schedule_queue`, the replay task that moves jobs from
`slot_retry_queue` back to it, and the slot poller that schedules the new slots of each
`SlotNotification` at the confirmed level. A worker sends the block it fetched on
`block_notification_sender` and reschedules it at the finalized level; a job it could not fetch
goes back to the retry queue, which the replay task drops when its slot is more than 128 slots
behind `recent_slot`.

The tasks run in any interleaving: a run is a sequence of events, each a step of one task. The
workers form one pool; which worker holds a job does not matter, and a worker whose send fails
ends and drops its job. The instants the retry queue carries are left out: the replay task may
schedule its job at any later step. The block info sent beside each block is left out, and a
block sent is given by its slot and commitment, which `from_ui_block` copies from the job.
-/

namespace LiteRpc

namespace PollBlocks

/-- How a worker's `process_block` of a job and the sends after it end. -/
inductive FetchOutcome where
  /-- the block is sent, then its block info, and a block below finalized is rescheduled at
  finalized -/
  | sent
  /-- the block is sent, then sending its block info or rescheduling it fails and the worker
  ends -/
  | sentThenFailed
  /-- `process_block` returns `None` and the job goes back to the retry queue -/
  | notFetched
  /-- sending the block, or the job back to the retry queue, fails and the worker ends -/
  | failed
deriving DecidableEq, Repr

inductive PollEvent where
  /-- the slot poller receives a `SlotNotification` -/
  | slotNotification (estimatedProcessedSlot : Nat)
  /-- the slot poller schedules the next slot of its last notification -/
  | scheduleNext
  /-- a worker receives the oldest job of `block_schedule_queue` -/
  | workerRecv
  /-- a worker holding the job is done with it -/
  | workerDone (job : Nat × Commitment) (outcome : FetchOutcome)
  /-- the replay task receives the oldest job of `slot_retry_queue` -/
  | replayRecv
  /-- the replay task schedules the job it holds -/
  | replaySend
deriving DecidableEq, Repr

structure PollBlock where
  recentSlot : Nat
  /-- The slots of the last notification the slot poller has still to schedule. -/
  toSchedule : List Nat
  /-- `block_schedule_queue`, oldest first. -/
  blockScheduleQueue : List (Nat × Commitment)
  /-- The jobs the workers are processing. -/
  processing : List (Nat × Commitment)
  /-- `slot_retry_queue`, oldest first. -/
  slotRetryQueue : List (Nat × Commitment)
  /-- The job the replay task holds until its instant. -/
  replaying : Option (Nat × Commitment)

namespace PollBlock

/-- The tasks once the slot poller has stored the current slot in `recent_slot`. -/
def start (currentSlot : Nat) : PollBlock := ⟨currentSlot, [], [], [], [], none⟩

/-- The slot poller's loop body: a notification ahead of `recent_slot` raises it and schedules
the slots after the old one up to the new one. The poller receives only once it has scheduled
the slots of the last notification. -/
def slotNotification (self : PollBlock) (estimatedProcessedSlot : Nat) : PollBlock :=
  if self.toSchedule = [] ∧ self.recentSlot < estimatedProcessedSlot then
    { self with
      recentSlot := estimatedProcessedSlot
      toSchedule := List.range' (self.recentSlot + 1) (estimatedProcessedSlot - self.recentSlot) }
  else self

def scheduleNext (self : PollBlock) : PollBlock :=
  match self.toSchedule with
  | [] => self
  | slot :: rest =>
    { self with
      toSchedule := rest
      blockScheduleQueue := self.blockScheduleQueue ++ [(slot, .confirmed)] }

def workerRecv (self : PollBlock) : PollBlock :=
  match self.blockScheduleQueue with
  | [] => self
  | job :: rest => { self with blockScheduleQueue := rest, processing := self.processing ++ [job] }

/-- The job a fetched block is rescheduled as: at finalized, unless it was finalized. -/
def finalizedRetry (job : Nat × Commitment) : List (Nat × Commitment) :=
  if job.2 ≠ .finalized then [(job.1, .finalized)] else []

/-- A worker's loop body after `process_block`: the blocks it sends, and the tasks after it. -/
def workerDone (self : PollBlock) (job : Nat × Commitment) (outcome : FetchOutcome) :
    List (Nat × Commitment) × PollBlock :=
  if job ∈ self.processing then
    let self := { self with processing := self.processing.erase job }
    match outcome with
    | .sent => ([job], { self with slotRetryQueue := self.slotRetryQueue ++ finalizedRetry job })
    | .sentThenFailed => ([job], self)
    | .notFetched => ([], { self with slotRetryQueue := self.slotRetryQueue ++ [job] })
    | .failed => ([], self)
  else ([], self)

/-- The replay task's receive: a job more than 128 slots behind `recent_slot` is dropped. -/
def replayRecv (self : PollBlock) : PollBlock :=
  match self.replaying, self.slotRetryQueue with
  | none, job :: rest =>
    if self.recentSlot - job.1 > 128 then { self with slotRetryQueue := rest }
    else { self with slotRetryQueue := rest, replaying := some job }
  | _, _ => self

def replaySend (self : PollBlock) : PollBlock :=
  match self.replaying with
  | none => self
  | some job => { self with replaying := none, blockScheduleQueue := self.blockScheduleQueue ++ [job] }

/-- One step of one task, with the blocks it sends on `block_notification_sender`. -/
def step (self : PollBlock) : PollEvent → List (Nat × Commitment) × PollBlock
  | .slotNotification estimatedProcessedSlot => ([], self.slotNotification estimatedProcessedSlot)
  | .scheduleNext => ([], self.scheduleNext)
  | .workerRecv => ([], self.workerRecv)
  | .workerDone job outcome => self.workerDone job outcome
  | .replayRecv => ([], self.replayRecv)
  | .replaySend => ([], self.replaySend)

end PollBlock

namespace PollBlock

/-- The jobs in flight: the slots the poller has still to schedule, at confirmed, the jobs of the
two queues, and those the workers and the replay task hold. -/
def jobs (self : PollBlock) : Multiset (Nat × Commitment) :=
  ↑(self.toSchedule.map fun slot => (slot, Commitment.confirmed)) + ↑self.blockScheduleQueue +
    ↑self.processing + ↑self.slotRetryQueue + ↑self.replaying.toList

@[simp] theorem recentSlot_scheduleNext (self : PollBlock) :
    self.scheduleNext.recentSlot = self.recentSlot := by
  unfold scheduleNext
  split <;> rfl

@[simp] theorem recentSlot_workerRecv (self : PollBlock) :
    self.workerRecv.recentSlot = self.recentSlot := by
  unfold workerRecv
  split <;> rfl

@[simp] theorem recentSlot_workerDone (self : PollBlock) (job : Nat × Commitment)
    (outcome : FetchOutcome) : (self.workerDone job outcome).2.recentSlot = self.recentSlot := by
  unfold workerDone
  split_ifs <;> cases outcome <;> rfl

@[simp] theorem recentSlot_replayRecv (self : PollBlock) :
    self.replayRecv.recentSlot = self.recentSlot := by
  unfold replayRecv
  split
  · split_ifs <;> rfl
  · rfl

@[simp] theorem recentSlot_replaySend (self : PollBlock) :
    self.replaySend.recentSlot = self.recentSlot := by
  unfold replaySend
  split <;> rfl

theorem jobs_scheduleNext (self : PollBlock) : self.scheduleNext.jobs = self.jobs := by
  unfold scheduleNext
  split
  · rfl
  · rename_i slot rest htoSchedule
    simp only [jobs, htoSchedule, List.map_cons, ← Multiset.coe_add, ← Multiset.cons_coe,
      ← Multiset.singleton_add]
    abel

theorem jobs_workerRecv (self : PollBlock) : self.workerRecv.jobs = self.jobs := by
  unfold workerRecv
  split
  · rfl
  · rename_i job rest hqueue
    simp only [jobs, hqueue, ← Multiset.coe_add, ← Multiset.cons_coe, ← Multiset.singleton_add]
    abel

theorem jobs_replayRecv_le (self : PollBlock) : self.replayRecv.jobs ≤ self.jobs := by
  unfold replayRecv
  split
  · rename_i job rest hreplaying hretry
    have hjobs : self.jobs = {job} + { self with slotRetryQueue := rest }.jobs := by
      simp only [jobs, hreplaying, hretry, ← Multiset.cons_coe, ← Multiset.singleton_add]
      abel
    split_ifs
    · rw [hjobs]
      exact Multiset.le_add_left _ _
    · simp only [jobs, hreplaying, hretry, Option.toList_some, Option.toList_none,
        ← Multiset.cons_coe, ← Multiset.singleton_add, Multiset.coe_nil]
      exact le_of_eq (by abel)
  · exact le_rfl

theorem jobs_replaySend (self : PollBlock) : self.replaySend.jobs = self.jobs := by
  unfold replaySend
  split
  · rfl
  · rename_i job hreplaying
    simp only [jobs, hreplaying, Option.toList_some, Option.toList_none, ← Multiset.coe_add,
      Multiset.coe_singleton, Multiset.coe_nil]
    abel

theorem workerDone_cases (self : PollBlock) (job : Nat × Commitment) (outcome : FetchOutcome) :
    ((self.workerDone job outcome).1 = [] ∧ (self.workerDone job outcome).2.jobs ≤ self.jobs) ∨
      ((self.workerDone job outcome).1 = [job] ∧ job ∈ self.jobs ∧
        (self.workerDone job outcome).2.jobs ≤ self.jobs.erase job + ↑(finalizedRetry job)) := by
  unfold workerDone
  split_ifs with hmem
  · -- the job leaves the workers
    have hjobs : self.jobs = job ::ₘ { self with processing := self.processing.erase job }.jobs := by
      have hperm : (↑self.processing : Multiset (Nat × Commitment)) =
          job ::ₘ ↑(self.processing.erase job) :=
        Multiset.coe_eq_coe.mpr (List.perm_cons_erase hmem)
      simp only [jobs, hperm, ← Multiset.singleton_add]
      abel
    have herase : self.jobs.erase job = { self with processing := self.processing.erase job }.jobs := by
      rw [hjobs, Multiset.erase_cons_head]
    have hin : job ∈ self.jobs := by
      rw [hjobs]
      exact Multiset.mem_cons_self _ _
    cases outcome with
    | sent =>
      refine .inr ⟨rfl, hin, le_of_eq ?_⟩
      rw [herase]
      simp only [jobs, ← Multiset.coe_add]
      abel
    | sentThenFailed => exact .inr ⟨rfl, hin, herase ▸ Multiset.le_add_right _ _⟩
    | notFetched =>
      refine .inl ⟨rfl, le_of_eq ?_⟩
      rw [hjobs]
      simp only [jobs, ← Multiset.coe_add, Multiset.coe_singleton, ← Multiset.singleton_add]
      abel
    | failed => exact .inl ⟨rfl, hjobs ▸ Multiset.le_cons_self _ _⟩
  · exact .inl ⟨rfl, le_rfl⟩

/-- The invariant of the tasks and of the blocks sent so far: each job is in flight once or was
sent once, no later than `recent_slot`, at confirmed or finalized, and a job at finalized exists
only once its slot was sent at confirmed. -/
structure Inv (tasks : PollBlock) (sent : List (Nat × Commitment)) : Prop where
  nodup : (tasks.jobs + ↑sent).Nodup
  le_recentSlot : ∀ job ∈ tasks.jobs + ↑sent, job.1 ≤ tasks.recentSlot
  commitment : ∀ job ∈ tasks.jobs + ↑sent, job.2 = .confirmed ∨ job.2 = .finalized
  confirmed_sent : ∀ slot, (slot, Commitment.finalized) ∈ tasks.jobs →
    (slot, Commitment.confirmed) ∈ sent
  confirmed_first : ∀ i slot, sent[i]? = some (slot, Commitment.finalized) →
    (slot, Commitment.confirmed) ∈ sent.take i

theorem mem_finalizedRetry {job x : Nat × Commitment} :
    x ∈ finalizedRetry job ↔ x = (job.1, .finalized) ∧ job.2 ≠ .finalized := by
  unfold finalizedRetry
  split_ifs with hfin <;> simp [hfin]

theorem nodup_finalizedRetry (job : Nat × Commitment) : (finalizedRetry job).Nodup := by
  unfold finalizedRetry
  split_ifs <;> simp

theorem confirmed_first_append {sent : List (Nat × Commitment)} {job : Nat × Commitment}
    (h : ∀ i slot, sent[i]? = some (slot, Commitment.finalized) →
      (slot, Commitment.confirmed) ∈ sent.take i)
    (hjob : ∀ slot, job = (slot, Commitment.finalized) → (slot, Commitment.confirmed) ∈ sent) :
    ∀ i slot, (sent ++ [job])[i]? = some (slot, Commitment.finalized) →
      (slot, Commitment.confirmed) ∈ (sent ++ [job]).take i := by
  intro i slot hi
  rcases Nat.lt_or_ge i sent.length with hlt | hge
  · rw [List.getElem?_append_left hlt] at hi
    rw [List.take_append_of_le_length hlt.le]
    exact h i slot hi
  · -- the block at `i` is the new one, and all of `sent` comes before it
    obtain ⟨rfl, hjobeq⟩ : i = sent.length ∧ job = (slot, .finalized) := by
      rw [List.getElem?_append_right hge] at hi
      rcases hk : i - sent.length with _ | k
      · simp [hk] at hi
        exact ⟨by omega, hi⟩
      · simp [hk] at hi
    rw [List.take_left]
    exact hjob slot hjobeq

theorem inv_start (currentSlot : Nat) : Inv (start currentSlot) [] := by
  constructor <;> simp [start, jobs]

section Steps

variable {self self' : PollBlock} {sent : List (Nat × Commitment)}

theorem Inv.of_le (h : Inv self sent) (hjobs : self'.jobs ≤ self.jobs)
    (hslot : self.recentSlot ≤ self'.recentSlot) : Inv self' sent := by
  have hle : self'.jobs + ↑sent ≤ self.jobs + ↑sent := Multiset.add_le_add_iff_right.mpr hjobs
  exact
    { nodup := Multiset.nodup_of_le hle h.nodup
      le_recentSlot := fun job hjob => (h.le_recentSlot job (Multiset.mem_of_le hle hjob)).trans hslot
      commitment := fun job hjob => h.commitment job (Multiset.mem_of_le hle hjob)
      confirmed_sent := fun slot hfin => h.confirmed_sent slot (Multiset.mem_of_le hjobs hfin)
      confirmed_first := h.confirmed_first }

theorem Inv.not_mem_sent (h : Inv self sent) {job : Nat × Commitment} (hjob : job ∈ self.jobs) :
    job ∉ sent := fun hsent =>
  Multiset.disjoint_left.mp (Multiset.nodup_add.mp h.nodup).2.2 hjob hsent

theorem Inv.finalizedRetry_fresh (h : Inv self sent) {job : Nat × Commitment}
    (hjob : job ∈ self.jobs) : ∀ x ∈ finalizedRetry job, x ∉ self.jobs + ↑sent := by
  intro x hx hmem
  obtain ⟨rfl, hfin⟩ := mem_finalizedRetry.mp hx
  have hconfirmed : job = (job.1, .confirmed) := by
    have := h.commitment job (Multiset.mem_add.mpr (.inl hjob))
    exact Prod.ext rfl (this.resolve_right hfin)
  have hsent : (job.1, Commitment.confirmed) ∈ sent := by
    rcases Multiset.mem_add.mp hmem with hin | hin
    · exact h.confirmed_sent job.1 hin
    · obtain ⟨i, hi⟩ := List.mem_iff_getElem?.mp (Multiset.mem_coe.mp hin)
      exact List.mem_of_mem_take (h.confirmed_first i job.1 hi)
  exact h.not_mem_sent hjob (hconfirmed ▸ hsent)

theorem Inv.send (h : Inv self sent) {job : Nat × Commitment} (hjob : job ∈ self.jobs)
    (hjobs : self'.jobs ≤ self.jobs.erase job + ↑(finalizedRetry job))
    (hslot : self'.recentSlot = self.recentSlot) : Inv self' (sent ++ [job]) := by
  have hle : self'.jobs + ↑(sent ++ [job]) ≤ self.jobs + ↑sent + ↑(finalizedRetry job) :=
    calc self'.jobs + ↑(sent ++ [job])
        ≤ self.jobs.erase job + ↑(finalizedRetry job) + ↑(sent ++ [job]) :=
          Multiset.add_le_add_iff_right.mpr hjobs
      _ = job ::ₘ self.jobs.erase job + ↑sent + ↑(finalizedRetry job) := by
        rw [← Multiset.coe_add, Multiset.coe_singleton, ← Multiset.singleton_add]
        abel
      _ = self.jobs + ↑sent + ↑(finalizedRetry job) := by rw [Multiset.cons_erase hjob]
  have hjob' : job.1 ≤ self.recentSlot := h.le_recentSlot job (Multiset.mem_add.mpr (.inl hjob))
  have hretry : ∀ x ∈ finalizedRetry job, x = (job.1, .finalized) ∧ job.2 ≠ .finalized :=
    fun _ hx => mem_finalizedRetry.mp hx
  have hmem : ∀ x ∈ self'.jobs + ↑(sent ++ [job]), x ∈ self.jobs + ↑sent ∨ x ∈ finalizedRetry job := by
    intro x hx
    simpa [Multiset.mem_add] using Multiset.mem_of_le hle hx
  refine
    { nodup := Multiset.nodup_of_le hle ?_
      le_recentSlot := fun x hx => ?_
      commitment := fun x hx => ?_
      confirmed_sent := fun slot hfin => ?_
      confirmed_first :=
        confirmed_first_append h.confirmed_first fun slot hjobeq => h.confirmed_sent slot (hjobeq ▸ hjob) }
  · rw [Multiset.Nodup.add_iff h.nodup (Multiset.coe_nodup.mpr (nodup_finalizedRetry job))]
    exact Multiset.disjoint_right.mpr fun hx hmem' => h.finalizedRetry_fresh hjob _ hx hmem'
  · rw [hslot]
    rcases hmem x hx with hx | hx
    · exact h.le_recentSlot x hx
    · rw [(hretry x hx).1]
      exact hjob'
  · rcases hmem x hx with hx | hx
    · exact h.commitment x hx
    · exact .inr (by rw [(hretry x hx).1])
  · rcases Multiset.mem_add.mp (Multiset.mem_of_le hjobs hfin) with hin | hin
    · exact List.mem_append_left _ (h.confirmed_sent slot (Multiset.mem_of_le (Multiset.erase_le _ _) hin))
    · obtain ⟨hx, hne⟩ := hretry _ (Multiset.mem_coe.mp hin)
      have hconfirmed := (h.commitment job (Multiset.mem_add.mpr (.inl hjob))).resolve_right hne
      obtain ⟨rfl, -⟩ := Prod.mk.inj hx
      exact List.mem_append_right _ (List.mem_singleton.mpr (Prod.ext rfl hconfirmed.symm))

theorem Inv.schedule (h : Inv self sent) {newJobs : List (Nat × Commitment)}
    (hnodup : newJobs.Nodup)
    (hnew : ∀ x ∈ newJobs, self.recentSlot < x.1 ∧ x.1 ≤ self'.recentSlot ∧ x.2 = .confirmed)
    (hjobs : self'.jobs = ↑newJobs + self.jobs) (hslot : self.recentSlot ≤ self'.recentSlot) :
    Inv self' sent := by
  have hjobs' : self'.jobs + ↑sent = ↑newJobs + (self.jobs + ↑sent) := by
    rw [hjobs, add_assoc]
  have hmem : ∀ x ∈ self'.jobs + ↑sent, x ∈ newJobs ∨ x ∈ self.jobs + ↑sent := by
    intro x hx
    rw [hjobs'] at hx
    simpa using Multiset.mem_add.mp hx
  refine
    { nodup := ?_
      le_recentSlot := fun x hx => ?_
      commitment := fun x hx => ?_
      confirmed_sent := fun slot hfin => ?_
      confirmed_first := h.confirmed_first }
  · rw [hjobs', Multiset.Nodup.add_iff (Multiset.coe_nodup.mpr hnodup) h.nodup]
    refine Multiset.disjoint_left.mpr fun hx hold => ?_
    have hlt := (hnew _ (Multiset.mem_coe.mp hx)).1
    have hle := h.le_recentSlot _ hold
    omega
  · rcases hmem x hx with hx | hx
    · exact (hnew x hx).2.1
    · exact (h.le_recentSlot x hx).trans hslot
  · rcases hmem x hx with hx | hx
    · exact .inl (hnew x hx).2.2
    · exact h.commitment x hx
  · rw [hjobs] at hfin
    rcases Multiset.mem_add.mp hfin with hin | hin
    · nomatch (hnew _ (Multiset.mem_coe.mp hin)).2.2
    · exact h.confirmed_sent slot hin

theorem Inv.slotNotification (h : Inv self sent) (estimatedProcessedSlot : Nat) :
    Inv (self.slotNotification estimatedProcessedSlot) sent := by
  unfold PollBlock.slotNotification
  split_ifs with hguard
  · obtain ⟨hnil, hlt⟩ := hguard
    have hnodup : ((List.range' (self.recentSlot + 1) (estimatedProcessedSlot - self.recentSlot)).map
        fun slot => (slot, Commitment.confirmed)).Nodup :=
      (List.nodup_range' ..).map fun _ _ hxy => (Prod.mk.inj hxy).1
    refine h.schedule hnodup ?_ ?_ hlt.le
    · intro x hx
      obtain ⟨slot, hslot, rfl⟩ := List.mem_map.mp hx
      rw [List.mem_range'_1] at hslot
      exact ⟨by omega, by simp only; omega, rfl⟩
    · simp only [jobs, hnil, List.map_nil, Multiset.coe_nil, zero_add]
      abel
  · exact h

theorem Inv.step (h : Inv self sent) (event : PollEvent) :
    Inv (self.step event).2 (sent ++ (self.step event).1) := by
  cases event with
  | slotNotification estimatedProcessedSlot =>
    simpa [PollBlock.step] using h.slotNotification estimatedProcessedSlot
  | scheduleNext => simpa [PollBlock.step] using h.of_le (jobs_scheduleNext self).le (by simp)
  | workerRecv => simpa [PollBlock.step] using h.of_le (jobs_workerRecv self).le (by simp)
  | workerDone job outcome =>
    rcases workerDone_cases self job outcome with ⟨hout, hjobs⟩ | ⟨hout, hjob, hjobs⟩
    · simpa [PollBlock.step, hout] using h.of_le hjobs (by simp)
    · simpa [PollBlock.step, hout] using h.send hjob hjobs (by simp)
  | replayRecv => simpa [PollBlock.step] using h.of_le (jobs_replayRecv_le self) (by simp)
  | replaySend => simpa [PollBlock.step] using h.of_le (jobs_replaySend self).le (by simp)

end Steps

end PollBlock

/-- Over any interleaving of the workers, the replay task and the slot poller, and whatever each
fetch does, the blocks sent on `block_notification_sender` are distinct pairs of a slot and a
commitment, each at confirmed or finalized, and a slot's block at finalized comes after its block
at confirmed. No order of the notifications is needed: the poller schedules only the slots above
`recent_slot`. -/
theorem poll_block_sends_each_block_once (currentSlot : Nat) (events : List PollEvent) :
    let sent := (StepSystem.runOutputs PollBlock.step (PollBlock.start currentSlot) events).1
    sent.Nodup ∧ (∀ job ∈ sent, job.2 = .confirmed ∨ job.2 = .finalized) ∧
      ∀ i slot, sent[i]? = some (slot, Commitment.finalized) →
        (slot, Commitment.confirmed) ∈ sent.take i := by
  have hrun := @StepSystem.runOutputs_history PollBlock PollEvent (Nat × Commitment) PollBlock.step
    (fun _ => True) (fun _ _ _ => trivial) (fun tasks out _ => PollBlock.Inv tasks out)
    (fun _ _ _ _ h _ => h.step _) (PollBlock.start currentSlot) [] [] (PollBlock.inv_start currentSlot)
    events trivial
  simp only [List.nil_append] at hrun
  refine ⟨?_, fun job hjob => hrun.commitment job (by simp [hjob]), hrun.confirmed_first⟩
  exact Multiset.coe_nodup.mp (Multiset.nodup_add.mp hrun.nodup).2.1

end PollBlocks

end LiteRpc
