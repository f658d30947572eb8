import LiteRpc.TxStore

/-!
`TransactionReplayer::start_service` and the replay scheduling of
`TransactionService::send_wire_transaction`: every transaction sent through lite-rpc is forwarded
once by `TxSender::forward_txs` and queued for replay; the replayer loop takes the oldest entry,
puts it back unchanged while it is not due, and otherwise sends it to the TPU again unless the
data cache reports it confirmed or expired, re-queueing it while `replay_count < max_replay`.

Instants are clock ticks. `retry_offset.mul_f32(count)` is floating point and is taken as a
function `mulF32`; nothing below depends on its values.
-/

namespace LiteRpc

structure TransactionReplay where
  transaction : SentTransactionInfo
  replayCount : Nat
  maxReplay : Nat
  replayAt : Nat
deriving DecidableEq, Repr

namespace DataCache

/-- The transaction expired (the last block height is past its last valid one) or has a status. -/
def checkIfConfirmedOrExpiredBlockheight (lastBlockHeight : Nat) (txs : TxStore)
    (sentTransactionInfo : SentTransactionInfo) : Bool :=
  decide (lastBlockHeight > sentTransactionInfo.lastValidBlockHeight) ||
    txs.isTransactionConfirmed sentTransactionInfo.signature

end DataCache

namespace TransactionReplayer

section Loop

variable (retryOffset : Nat) (mulF32 : Nat → Nat)

/-- One iteration of the loop on the received entry at instant `now`, with the data cache's last
block height and transaction store at that time: the transaction sent to the TPU, if any, and
the entry sent back on the replay channel, if any. -/
def replayIteration (now lastBlockHeight : Nat) (txs : TxStore) (txReplay : TransactionReplay) :
    Option SentTransactionInfo × Option TransactionReplay :=
  if now < txReplay.replayAt ∧ txReplay.replayAt > now + retryOffset then
    -- requeue: the transaction will be replayed after the retry offset
    (none, some txReplay)
  else
    -- `sleep_until(replay_at)` when it is not due yet
    let now := max now txReplay.replayAt
    if DataCache.checkIfConfirmedOrExpiredBlockheight lastBlockHeight txs txReplay.transaction then
      (none, none)
    else if txReplay.replayCount < txReplay.maxReplay then
      let replayCount := txReplay.replayCount + 1
      (some txReplay.transaction,
        some { txReplay with replayCount := replayCount, replayAt := now + mulF32 replayCount })
    else (some txReplay.transaction, none)

/-- What reaches the replay channel and its receiver: `send_wire_transaction` forwards a
transaction (through `TxSender::forward_txs`) and queues it with `replay_count` 0, or the loop
receives the oldest queued entry. -/
inductive ReplayEvent where
  | sendWireTransaction (transactionInfo : SentTransactionInfo) (maxReplay replayAt : Nat)
  | recv (now lastBlockHeight : Nat) (txs : TxStore)

/-- The transactions sent to the TPU by an event, and the replay queue after it. -/
def step (queue : List TransactionReplay) :
    ReplayEvent → List SentTransactionInfo × List TransactionReplay
  | .sendWireTransaction transactionInfo maxReplay replayAt =>
    ([transactionInfo], queue ++ [⟨transactionInfo, 0, maxReplay, replayAt⟩])
  | .recv now lastBlockHeight txs =>
    match queue with
    | [] => ([], [])
    | txReplay :: queue =>
      let r := replayIteration retryOffset mulF32 now lastBlockHeight txs txReplay
      (r.1.toList, queue ++ r.2.toList)

variable (t : SentTransactionInfo)

/-- The sends of `t` an entry can still cause: one per replay left and the one at `max_replay`. -/
def budget (txReplay : TransactionReplay) : Nat :=
  if txReplay.transaction = t then txReplay.maxReplay - txReplay.replayCount + 1 else 0

def queueBudget (queue : List TransactionReplay) : Nat := (queue.map (budget t)).sum

theorem replayIteration_budget (now lastBlockHeight : Nat) (txs : TxStore)
    (txReplay : TransactionReplay) :
    (replayIteration retryOffset mulF32 now lastBlockHeight txs txReplay).1.toList.count t +
      ((replayIteration retryOffset mulF32 now lastBlockHeight txs txReplay).2.toList.map
        (budget t)).sum ≤ budget t txReplay := by
  unfold replayIteration
  by_cases ht : txReplay.transaction = t
  · split_ifs with hearly hdone hlt
    · simp
    · simp
    · -- sent and queued again with one replay less
      simp [budget, ht]
      omega
    · simp [budget, ht]
  · split_ifs <;> simp [budget, ht]

theorem step_recv_budget (queue : List TransactionReplay) (now lastBlockHeight : Nat)
    (txs : TxStore) :
    (step retryOffset mulF32 queue (.recv now lastBlockHeight txs)).1.count t +
      queueBudget t (step retryOffset mulF32 queue (.recv now lastBlockHeight txs)).2 ≤
        queueBudget t queue := by
  cases queue with
  | nil => simp [step, queueBudget]
  | cons txReplay queue =>
    have h := replayIteration_budget retryOffset mulF32 t now lastBlockHeight txs txReplay
    simp only [step, queueBudget, List.map_append, List.sum_append, List.map_cons,
      List.sum_cons] at h ⊢
    omega

/-- The `max_replay` of an event that sends `t` through `send_wire_transaction`. -/
def ReplayEvent.maxReplayOf : ReplayEvent → Option Nat
  | .sendWireTransaction transactionInfo maxReplay _ =>
    if transactionInfo = t then some maxReplay else none
  | .recv .. => none

theorem step_budget (queue : List TransactionReplay) (e : ReplayEvent) :
    (step retryOffset mulF32 queue e).1.count t + queueBudget t (step retryOffset mulF32 queue e).2 ≤
      queueBudget t queue + (([e].filterMap (ReplayEvent.maxReplayOf t)).map (· + 2)).sum := by
  cases e with
  | sendWireTransaction transactionInfo maxReplay replayAt =>
    by_cases ht : transactionInfo = t
    · simp [step, queueBudget, budget, ReplayEvent.maxReplayOf, ht]
      omega
    · simp [step, queueBudget, budget, ReplayEvent.maxReplayOf, ht]
  | recv now lastBlockHeight txs =>
    simpa [ReplayEvent.maxReplayOf, List.filterMap_cons] using
      step_recv_budget retryOffset mulF32 t queue now lastBlockHeight txs

theorem count_runOutputs_le (events : List ReplayEvent) :
    (StepSystem.runOutputs (step retryOffset mulF32) [] events).1.count t ≤
      ((events.filterMap (ReplayEvent.maxReplayOf t)).map (· + 2)).sum := by
  have hrun : ([] ++ (StepSystem.runOutputs (step retryOffset mulF32) [] events).1).count t +
      queueBudget t (StepSystem.runOutputs (step retryOffset mulF32) [] events).2 ≤
      ((([] ++ events).filterMap (ReplayEvent.maxReplayOf t)).map (· + 2)).sum :=
    StepSystem.runOutputs_history (fun _ => True) (fun _ _ _ => trivial)
    (fun queue out as => out.count t + queueBudget t queue ≤
      ((as.filterMap (ReplayEvent.maxReplayOf t)).map (· + 2)).sum)
    (fun queue out as e hi _ => by
      have h := step_budget retryOffset mulF32 t queue e
      simp only [List.count_append, List.filterMap_append, List.map_append, List.sum_append]
      omega)
    (by simp [queueBudget]) events trivial
  simp only [List.nil_append] at hrun
  omega

/-- A transaction sent once through `send_wire_transaction`, with `max_replay = r`, reaches the
TPU at most `r + 2` times in any run. -/
theorem count_runOutputs_le_of_single (events : List ReplayEvent) {r : Nat}
    (h : events.filterMap (ReplayEvent.maxReplayOf t) = [r]) :
    (StepSystem.runOutputs (step retryOffset mulF32) [] events).1.count t ≤ r + 2 := by
  have hle := count_runOutputs_le retryOffset mulF32 t events
  rw [h] at hle
  simpa using hle

/-- The instants at which the remaining replays of an entry are due, when each is received when
it is due. -/
def dueTimes : Nat → Nat → Nat → List Nat
  | _, _, 0 => []
  | replayAt, replayCount, n + 1 =>
    replayAt :: dueTimes (replayAt + mulF32 (replayCount + 1)) (replayCount + 1) n

/-- The receives of an entry at its due times, with a data cache in which the transaction is
neither confirmed nor expired. -/
def dueRecvs (replayAt replayCount n : Nat) : List ReplayEvent :=
  (dueTimes mulF32 replayAt replayCount n).map fun now => .recv now 0 TxStore.new

theorem dueRecvs_succ (replayAt replayCount n : Nat) :
    dueRecvs mulF32 replayAt replayCount (n + 1) = .recv replayAt 0 TxStore.new ::
      dueRecvs mulF32 (replayAt + mulF32 (replayCount + 1)) (replayCount + 1) n := rfl

theorem step_recv_due (txReplay : TransactionReplay) (queue : List TransactionReplay) :
    step retryOffset mulF32 (txReplay :: queue) (.recv txReplay.replayAt 0 TxStore.new) =
      ([txReplay.transaction], queue ++
        if txReplay.replayCount < txReplay.maxReplay then
          [⟨txReplay.transaction, txReplay.replayCount + 1, txReplay.maxReplay,
            txReplay.replayAt + mulF32 (txReplay.replayCount + 1)⟩]
        else []) := by
  simp only [step, replayIteration, lt_irrefl, false_and, if_false, max_self,
    DataCache.checkIfConfirmedOrExpiredBlockheight, TxStore.isTransactionConfirmed, TxStore.new]
  split_ifs <;> simp_all

theorem runOutputs_dueRecvs (r : Nat) :
    ∀ n replayCount replayAt, replayCount + n = r →
      StepSystem.runOutputs (step retryOffset mulF32) [⟨t, replayCount, r, replayAt⟩]
        (dueRecvs mulF32 replayAt replayCount (n + 1)) = (List.replicate (n + 1) t, [])
  | 0, replayCount, replayAt, h => by
    subst h
    rw [dueRecvs_succ, StepSystem.runOutputs_cons, step_recv_due]
    simp [dueRecvs, dueTimes]
  | n + 1, replayCount, replayAt, h => by
    have ih := runOutputs_dueRecvs r n (replayCount + 1) (replayAt + mulF32 (replayCount + 1))
      (by omega)
    have hlt : replayCount < r := by omega
    rw [dueRecvs_succ, StepSystem.runOutputs_cons, step_recv_due]
    simp only [hlt, if_true, List.nil_append]
    rw [ih, List.replicate_succ]
    rfl

/-- A transaction sent with `max_replay = r`, never confirmed and never expired, whose replays are
each received when due, reaches the TPU `r + 2` times: once through `forward_txs` and `r + 1`
times through the replayer. -/
theorem sent_max_replay_plus_two_times (r replayAt : Nat) :
    (StepSystem.runOutputs (step retryOffset mulF32) []
      (.sendWireTransaction t r replayAt :: dueRecvs mulF32 replayAt 0 (r + 1))).1 =
        List.replicate (r + 2) t := by
  rw [StepSystem.runOutputs_cons]
  have h := runOutputs_dueRecvs retryOffset mulF32 t r r 0 replayAt (by omega)
  simp only [step, List.nil_append] at h ⊢
  rw [h, List.replicate_succ]
  rfl

end Loop

end TransactionReplayer

end LiteRpc
