import LiteRpc.QuicConnection
import LiteRpc.PrioritizationFeeHeap
import LiteRpc.TransactionReplayer
import LiteRpc.Lib.Run

/-!
The task that sends the transactions for one TPU node on the direct QUIC path,
`ActiveConnection::listen` (`services/src/tpu_utils/tpu_connection_manager.rs`).

A heap filler task receives the transactions of the broadcast channel, drops those the data cache
finds confirmed or expired, inserts the others into a `PrioritizationFeesHeap` and notifies the
main loop through `fill_notify`; when the last blockheight has changed it removes the expired
transactions from the heap. The main loop first takes a permit of the `QuicConnectionPool` for a
task that makes the first connection. Then, on each notification, it pops the heap until it is
empty: a transaction not yet confirmed gets a permit, the main loop waiting in `select_all` while
every permit is taken, and a task that sends it with `send_transaction` and then drops the permit.
On the exit notification the filler stops, and the main loop awaits it, clears the heap and closes
the connections.

`fill_notify` stores one notification while the main loop is elsewhere (`fillNotify`). The exit
notification reaches only the receivers subscribed before it was sent: those of the filler and of
the main loop, subscribed when `listen` starts, and that of each task, subscribed when it is
spawned. The filler subscribes before the first `get_pooled_connection`, the main loop and the
task of the first connection after it. A step is one task's step, with what the data cache, the transaction store and the
network answer it; a spawned task runs its call in one step, when it ends.
-/

namespace LiteRpc

/-- The network's answers with the exit notification taken out, for a receiver it cannot reach. -/
def SendEnv.withoutExit (env : SendEnv) : SendEnv :=
  { env with exitAt := none, connect := { env.connect with exitAt := none } }

/-- A pass that wrote the transaction. -/
def SendPass.written : SendPass → Bool
  | .sent _ (.ok ()) => true
  | _ => false

namespace ActiveConnection

/-- Where the main loop of `listen` is. -/
inductive MainLoop where
  /-- Before its first `get_pooled_connection`. -/
  | starting
  /-- In `select_all` of `get_pooled_connection`, waiting for a permit: for the task of the first
  connection (`none`), or for a popped transaction. -/
  | acquiring (tx : Option SentTransactionInfo)
  /-- In the `select!` on `fill_notify` and the exit notification. -/
  | waiting
  /-- In the `'process_heap` loop. -/
  | processing
  /-- Out of its loop, awaiting the filler. -/
  | exiting
  /-- Returned, or ended by a panic. -/
  | exited
deriving DecidableEq, Repr

/-- The popped transaction the main loop holds while it waits for a permit. -/
def MainLoop.held : MainLoop → List SentTransactionInfo
  | .acquiring (some tx) => [tx]
  | _ => []

/-- The main loop looks at the heap again only on a notification of `fill_notify`. -/
@[simp] def MainLoop.awaitsFill : MainLoop → Bool
  | .starting => true
  | .acquiring none => true
  | .acquiring (some _) => false
  | .waiting => true
  | .processing => false
  | .exiting => false
  | .exited => false

/-- A task that `listen` spawned with a permit of the pool's semaphore `index`: the first
`get_connection`, or the `send_transaction` of a transaction. `seesExit`: its receiver was
subscribed before the exit notification was sent. -/
inductive PermitTask where
  | connecting (index : Nat) (seesExit : Bool)
  | sending (index : Nat) (tx : SentTransactionInfo) (seesExit : Bool)
deriving DecidableEq, Repr

namespace PermitTask

def index : PermitTask → Nat
  | .connecting index _ => index
  | .sending index _ _ => index

def seesExit : PermitTask → Bool
  | .connecting _ seesExit => seesExit
  | .sending _ _ seesExit => seesExit

/-- The connection and the transaction of a sending task. -/
def sendingPair? : PermitTask → Option (Nat × SentTransactionInfo)
  | .connecting _ _ => none
  | .sending index tx _ => some (index, tx)

end PermitTask

/-- The tasks of `listen` and what they share. -/
structure Listen where
  heap : PrioritizationFeesHeap
  /-- The filler's `current_blockheight`. -/
  currentBlockheight : Nat
  fillerRunning : Bool
  /-- The notification `fill_notify` stores. -/
  fillNotify : Bool
  main : MainLoop
  pool : QuicConnectionPool
  tasks : List PermitTask
  /-- The filler's receiver was subscribed before the exit notification was sent. -/
  fillerSeesExit : Bool
  /-- The main loop's receiver, subscribed as it enters its loop, was subscribed before the exit
  notification was sent. -/
  mainSeesExit : Bool
  exitNotified : Bool

/-- What the tasks do that is seen from outside: a transaction inserted into the heap, handed to
a sending task on a connection, and written on it. -/
inductive ListenOutput where
  | insert (tx : SentTransactionInfo)
  | spawn (index : Nat) (tx : SentTransactionInfo)
  | write (index : Nat) (tx : SentTransactionInfo)
deriving DecidableEq, Repr

/-- What happens next in `listen`, with what the data cache, the transaction store and the network
answer. -/
inductive ListenEvent where
  /-- The filler receives `tx`, with the last blockheight at the data cache's check and after the
  insert, and the transaction store. -/
  | recv (tx : SentTransactionInfo) (blockheightAtCheck : Nat) (txs : TxStore) (lastBlockheight : Nat)
  /-- The main loop's first `get_pooled_connection`. -/
  | begin
  /-- The filler's `select!` takes the exit notification. -/
  | fillerExit
  /-- The main loop's `select!` takes the stored notification. -/
  | wake
  /-- The main loop's `select!` takes the exit notification. -/
  | mainExit
  /-- The main loop pops the heap, with the transaction store and which connections are open. -/
  | pop (txs : TxStore) (closeReasonIsNone : Connection → Bool)
  /-- A spawned task ends, with what the network answers its call. -/
  | finish (task : PermitTask) (env : Nat → SendEnv)
  /-- The filler has ended: the main loop clears the heap and closes the connections. -/
  | close
  /-- `update_connections` sends the exit notification. -/
  | exit

section Steps

variable (connectionRetryCount : Nat)

/-- The main loop with a permit of semaphore `index`: it spawns the task for `tx?` and goes on;
with the first connection's permit it enters its loop and subscribes to the exit notification. -/
def spawnWith (self : Listen) (index : Nat) : Option SentTransactionInfo → List ListenOutput × Listen
  | none =>
    ([], { self with
      tasks := self.tasks ++ [.connecting index !self.exitNotified]
      main := .waiting
      mainSeesExit := !self.exitNotified })
  | some tx =>
    ([.spawn index tx],
      { self with tasks := self.tasks ++ [.sending index tx !self.exitNotified], main := .processing })

/-- `get_pooled_connection` for `tx?`: a permit taken and the task spawned, or the main loop
waiting for a permit; the panic of `select_all` on a pool with no connection ends `listen`. -/
def getPooledConnection (self : Listen) (closeReasonIsNone : Connection → Bool)
    (tx? : Option SentTransactionInfo) : List ListenOutput × Listen :=
  match self.pool.getPermitAndIndex closeReasonIsNone with
  | .ok (some index) => spawnWith { self with pool := self.pool.acquire index } index tx?
  | .ok none => ([], { self with main := .acquiring tx? })
  | .error _ => ([], { self with main := .exited })

/-- `listen` with the pool and the heap made and the filler spawned. `exitNotified`: the exit
notification was sent before the filler subscribed to it. -/
def start (connectionParameters : QuicConnectionParameters) (maxUniStreamConnections : Nat)
    (lastBlockheight : Nat) (exitNotified : Bool) : Listen :=
  let pool := QuicConnectionPool.new connectionParameters connectionParameters.maxNumberOfConnections
    maxUniStreamConnections
  let heap := PrioritizationFeesHeap.new
    (connectionParameters.prioritizationHeapSize.getD (2 * maxUniStreamConnections))
  ⟨heap, lastBlockheight, true, false, .starting, pool, [], !exitNotified, false, exitNotified⟩

/-- The call of a task that ends, on the connection of its semaphore: what it writes, and the
connection it leaves. -/
def runTask (connection : QuicConnection) (canExit : Bool) (env : Nat → SendEnv) :
    PermitTask → List ListenOutput × QuicConnection
  | .connecting _ _ =>
    let env := if canExit then env 0 else (env 0).withoutExit
    ([], (connection.getConnection connectionRetryCount env.connect).2)
  | .sending index tx _ =>
    let (passes, connection) := connection.sendTransaction connectionRetryCount fun i =>
      if canExit then env i else (env i).withoutExit
    (if passes.any SendPass.written then [.write index tx] else [], connection)

/-- One step of `listen`, and what it does. -/
def step (self : Listen) : ListenEvent → List ListenOutput × Listen
  | .recv tx blockheightAtCheck txs lastBlockheight =>
    if !self.fillerRunning then ([], self)
    else if DataCache.checkIfConfirmedOrExpiredBlockheight blockheightAtCheck txs tx then ([], self)
    else match self.heap.insert tx with
      -- a panic of `insert` ends the filler
      | .error _ => ([], { self with fillerRunning := false })
      | .ok heap =>
        if lastBlockheight ≠ self.currentBlockheight then
          ([.insert tx], { self with
            heap := (heap.removeExpiredTransactions lastBlockheight).2
            fillNotify := true
            currentBlockheight := lastBlockheight })
        else ([.insert tx], { self with heap, fillNotify := true })
  | .begin =>
    -- no connection of the new pool has connected yet, so `is_connected` is not asked
    if self.main = .starting then getPooledConnection self (fun _ => false) none
    else ([], self)
  | .fillerExit =>
    if self.fillerRunning && self.fillerSeesExit && self.exitNotified then
      ([], { self with fillerRunning := false })
    else ([], self)
  | .wake =>
    if self.main = .waiting && self.fillNotify then
      ([], { self with fillNotify := false, main := .processing })
    else ([], self)
  | .mainExit =>
    if self.main = .waiting && self.mainSeesExit && self.exitNotified then
      ([], { self with main := .exiting })
    else ([], self)
  | .pop txs closeReasonIsNone =>
    if self.main ≠ .processing then ([], self)
    else match self.heap.pop with
      -- a panic of `pop` ends `listen`
      | .error _ => ([], { self with main := .exited })
      | .ok (none, heap) => ([], { self with heap, main := .waiting })
      | .ok (some tx, heap) =>
        if txs.isTransactionConfirmed tx.signature then ([], { self with heap })
        else getPooledConnection { self with heap } closeReasonIsNone (some tx)
  | .finish task env =>
    if task ∉ self.tasks then ([], self)
    else
      let (written, connection) := runTask connectionRetryCount (self.pool.connection task.index)
        (task.seesExit && self.exitNotified) env task
      let self := { self with
        tasks := self.tasks.erase task
        pool := self.pool.setConnection task.index connection }
      -- the dropped permit goes to the main loop waiting in `select_all`, or back to its semaphore
      let (spawned, self) := match self.main with
        | .acquiring tx? => spawnWith self task.index tx?
        | _ => ([], { self with pool := self.pool.release task.index })
      (written ++ spawned, self)
  | .close =>
    if self.main = .exiting && !self.fillerRunning then
      ([], { self with heap := self.heap.clear.2, main := .exited })
    else ([], self)
  | .exit => ([], { self with exitNotified := true })

section SpawnWith

variable (self : Listen) (index : Nat) (tx? : Option SentTransactionInfo)

@[simp] theorem spawnWith_pool : (spawnWith self index tx?).2.pool = self.pool := by
  cases tx? <;> rfl

@[simp] theorem spawnWith_heap : (spawnWith self index tx?).2.heap = self.heap := by
  cases tx? <;> rfl

@[simp] theorem spawnWith_fillNotify : (spawnWith self index tx?).2.fillNotify = self.fillNotify := by
  cases tx? <;> rfl

@[simp] theorem spawnWith_fillerRunning :
    (spawnWith self index tx?).2.fillerRunning = self.fillerRunning := by
  cases tx? <;> rfl

@[simp] theorem spawnWith_fillerSeesExit :
    (spawnWith self index tx?).2.fillerSeesExit = self.fillerSeesExit := by
  cases tx? <;> rfl

theorem spawnWith_mainSeesExit : (spawnWith self index tx?).2.mainSeesExit =
    if tx?.isSome then self.mainSeesExit else !self.exitNotified := by
  cases tx? <;> rfl

@[simp] theorem spawnWith_exitNotified :
    (spawnWith self index tx?).2.exitNotified = self.exitNotified := by
  cases tx? <;> rfl

theorem spawnWith_main :
    (spawnWith self index tx?).2.main = if tx?.isSome then .processing else .waiting := by
  cases tx? <;> rfl

theorem spawnWith_main_ne_acquiring (tx' : Option SentTransactionInfo) :
    (spawnWith self index tx?).2.main ≠ .acquiring tx' := by
  cases tx? <;> simp [spawnWith]

theorem spawnWith_tasks_index :
    (spawnWith self index tx?).2.tasks.map PermitTask.index = self.tasks.map PermitTask.index ++ [index] := by
  cases tx? <;> simp [spawnWith, PermitTask.index]

theorem spawnWith_sendingPairs :
    (spawnWith self index tx?).2.tasks.filterMap PermitTask.sendingPair? =
      self.tasks.filterMap PermitTask.sendingPair? ++ (tx?.map fun tx => (index, tx)).toList := by
  cases tx? <;> simp [spawnWith, PermitTask.sendingPair?]

theorem spawnWith_fst :
    (spawnWith self index tx?).1 = (tx?.map fun tx => ListenOutput.spawn index tx).toList := by
  cases tx? <;> rfl

end SpawnWith

/-- What every run keeps of the permits of the pool: at each semaphore the free permits and those
the running tasks hold add up to `maxPermits`, and the main loop waits in `select_all` only while
every permit is held. -/
structure PermitInv (maxPermits : Nat) (s : Listen) : Prop where
  conserves : Semaphores.Conserves maxPermits s.pool.transactionsInSendingSemaphore
    (s.tasks.map PermitTask.index)
  acquiring : ∀ tx?, s.main = .acquiring tx? →
    ∀ permits ∈ s.pool.transactionsInSendingSemaphore, permits = 0

variable {maxPermits : Nat}

theorem step_recv_eq (s : Listen) (tx : SentTransactionInfo) (blockheightAtCheck : Nat)
    (txs : TxStore) (lastBlockheight : Nat) :
    ∃ heap currentBlockheight fillerRunning fillNotify,
      (step connectionRetryCount s (.recv tx blockheightAtCheck txs lastBlockheight)).2 =
        { s with heap, currentBlockheight, fillerRunning, fillNotify } := by
  simp only [step]
  split_ifs <;> (try split) <;> exact ⟨_, _, _, _, rfl⟩

theorem PermitInv.frame {s s' : Listen} (h : PermitInv maxPermits s)
    (hpool : s'.pool.transactionsInSendingSemaphore = s.pool.transactionsInSendingSemaphore)
    (htasks : s'.tasks = s.tasks) (hmain : ∀ tx?, s'.main = .acquiring tx? → s.main = .acquiring tx?) :
    PermitInv maxPermits s' where
  conserves := by rw [hpool, htasks]; exact h.conserves
  acquiring tx? hacq := by rw [hpool]; exact h.acquiring tx? (hmain tx? hacq)

theorem permitInv_getPooledConnection {s : Listen}
    (h : Semaphores.Conserves maxPermits s.pool.transactionsInSendingSemaphore
      (s.tasks.map PermitTask.index))
    (closeReasonIsNone : Connection → Bool) (tx? : Option SentTransactionInfo) :
    PermitInv maxPermits (getPooledConnection s closeReasonIsNone tx?).2 := by
  unfold getPooledConnection
  split
  · rename_i index hindex
    obtain ⟨hi, hfree⟩ := QuicConnectionPool.getPermitAndIndex_free hindex
    refine ⟨?_, fun tx' hmain => absurd hmain (spawnWith_main_ne_acquiring _ _ _ tx')⟩
    rw [spawnWith_pool, spawnWith_tasks_index]
    exact h.acquire hi hfree (List.perm_append_singleton _ _)
  · rename_i hnone
    exact ⟨h, fun _ _ => QuicConnectionPool.getPermitAndIndex_eq_none hnone⟩
  · exact ⟨h, fun _ hmain => by cases hmain⟩

theorem PermitInv.finish {s : Listen} (h : PermitInv maxPermits s) {task : PermitTask}
    (htask : task ∈ s.tasks) (env : Nat → SendEnv) :
    PermitInv maxPermits (step connectionRetryCount s (.finish task env)).2 := by
  have hheld : (s.tasks.map PermitTask.index).Perm
      (task.index :: (s.tasks.erase task).map PermitTask.index) :=
    (List.perm_cons_erase htask).map PermitTask.index
  simp only [step, if_neg (not_not.mpr htask)]
  split
  · rename_i tx? hacq
    refine ⟨?_, fun tx' hmain => absurd hmain (spawnWith_main_ne_acquiring _ _ _ tx')⟩
    rw [spawnWith_pool, spawnWith_tasks_index]
    exact h.conserves.perm ((List.perm_append_singleton _ _).trans hheld.symm)
  · rename_i hnot
    refine ⟨h.conserves.release hheld, fun tx' hmain => absurd hmain (hnot tx')⟩

theorem PermitInv.step {s : Listen} (h : PermitInv maxPermits s) (event : ListenEvent) :
    PermitInv maxPermits (ActiveConnection.step connectionRetryCount s event).2 := by
  cases event with
  | recv tx blockheightAtCheck txs lastBlockheight =>
    obtain ⟨heap, currentBlockheight, fillerRunning, fillNotify, hstep⟩ :=
      step_recv_eq connectionRetryCount s tx blockheightAtCheck txs lastBlockheight
    rw [hstep]
    exact h.frame rfl rfl fun _ => id
  | begin =>
    simp only [ActiveConnection.step]
    split_ifs
    · exact permitInv_getPooledConnection h.conserves _ none
    · exact h
  | fillerExit =>
    simp only [ActiveConnection.step]
    split_ifs
    · exact h.frame rfl rfl fun _ => id
    · exact h
  | wake =>
    simp only [ActiveConnection.step]
    split_ifs
    · exact h.frame rfl rfl fun _ hmain => by cases hmain
    · exact h
  | mainExit =>
    simp only [ActiveConnection.step]
    split_ifs
    · exact h.frame rfl rfl fun _ hmain => by cases hmain
    · exact h
  | pop txs closeReasonIsNone =>
    simp only [ActiveConnection.step]
    split_ifs with hproc
    · exact h
    · split
      · exact h.frame rfl rfl fun _ hmain => by cases hmain
      · exact h.frame rfl rfl fun _ hmain => by cases hmain
      · split_ifs
        · exact h.frame rfl rfl fun _ => id
        · refine permitInv_getPooledConnection ?_ closeReasonIsNone _
          exact h.conserves
  | finish task env =>
    by_cases htask : task ∈ s.tasks
    · exact h.finish connectionRetryCount htask env
    · simp only [ActiveConnection.step, if_pos htask]
      exact h
  | close =>
    simp only [ActiveConnection.step]
    split_ifs
    · exact h.frame rfl rfl fun _ hmain => by cases hmain
    · exact h
  | exit => exact h.frame rfl rfl fun _ => id

namespace ListenOutput

/-- The transaction an output inserts into the heap. -/
@[simp] def inserted? : ListenOutput → Option SentTransactionInfo
  | .insert tx => some tx
  | .spawn _ _ => none
  | .write _ _ => none

/-- The transaction an output hands to a sending task, with its connection. -/
@[simp] def spawned? : ListenOutput → Option (Nat × SentTransactionInfo)
  | .insert _ => none
  | .spawn index tx => some (index, tx)
  | .write _ _ => none

/-- The transaction an output writes, with its connection. -/
@[simp] def written? : ListenOutput → Option (Nat × SentTransactionInfo)
  | .insert _ => none
  | .spawn _ _ => none
  | .write index tx => some (index, tx)

end ListenOutput

/-- The transactions inserted into the heap. -/
def inserted (out : List ListenOutput) : List SentTransactionInfo :=
  out.filterMap ListenOutput.inserted?

/-- The transactions handed to sending tasks, with their connections. -/
def spawned (out : List ListenOutput) : List (Nat × SentTransactionInfo) :=
  out.filterMap ListenOutput.spawned?

/-- The transactions written, with their connections. -/
def written (out : List ListenOutput) : List (Nat × SentTransactionInfo) :=
  out.filterMap ListenOutput.written?

section Outputs

variable (out out' : List ListenOutput) (o : ListenOutput)

@[simp] theorem inserted_append : inserted (out ++ out') = inserted out ++ inserted out' :=
  List.filterMap_append

@[simp] theorem spawned_append : spawned (out ++ out') = spawned out ++ spawned out' :=
  List.filterMap_append

@[simp] theorem written_append : written (out ++ out') = written out ++ written out' :=
  List.filterMap_append

@[simp] theorem inserted_singleton : inserted [o] = o.inserted?.toList := by
  cases o <;> rfl

@[simp] theorem spawned_singleton : spawned [o] = o.spawned?.toList := by
  cases o <;> rfl

@[simp] theorem written_singleton : written [o] = o.written?.toList := by
  cases o <;> rfl

/-- What a task that ends writes: its transaction on its connection, when its call wrote it. -/
def PermitTask.writes (task : PermitTask) (wrote : Bool) : List ListenOutput :=
  if wrote then (task.sendingPair?.map fun p => ListenOutput.write p.1 p.2).toList else []

@[simp] theorem inserted_writes (task : PermitTask) (wrote : Bool) :
    inserted (task.writes wrote) = [] := by
  cases wrote <;> cases task <;> rfl

@[simp] theorem spawned_writes (task : PermitTask) (wrote : Bool) :
    spawned (task.writes wrote) = [] := by
  cases wrote <;> cases task <;> rfl

theorem written_writes_sublist (task : PermitTask) (wrote : Bool) :
    List.Sublist (written (task.writes wrote)) task.sendingPair?.toList := by
  cases wrote <;> cases task <;> simp [PermitTask.writes, PermitTask.sendingPair?, written]

end Outputs

open PrioritizationFeesHeap in
/-- What every run keeps for a heap of capacity `cap`, with the outputs `out` so far: the heap is
well formed; while the main loop waits for a notification and none is stored, the heap is empty;
the filler
stops only on the exit notification it subscribed to, and the main loop too, unless `select_all`
panics on a pool with no connection; the transactions in the
heap, held by the main loop and handed to tasks were inserted, each at most as often; and those
written and those the sending tasks hold were handed to tasks, each at most as often. -/
structure Inv (cap : Nat) (s : Listen) (out : List ListenOutput) : Prop where
  wf : s.heap.Wf
  capacity : s.heap.maxNumberOfTransactions = cap
  no_lost_wakeup : s.main.awaitsFill → s.fillNotify = false →
    contents s.heap.map.map = []
  filler_stopped : s.fillerRunning = false → s.fillerSeesExit ∧ s.exitNotified
  main_stopped : s.main = .exiting ∨ s.main = .exited →
    (s.mainSeesExit ∧ s.exitNotified) ∨ s.pool.transactionsInSendingSemaphore = []
  handed : (contents s.heap.map.map ++ s.main.held ++ (spawned out).map Prod.snd).Subperm
    (inserted out)
  sent : (written out ++ s.tasks.filterMap PermitTask.sendingPair?).Subperm (spawned out)

section Inv

open PrioritizationFeesHeap

variable {cap : Nat} {s : Listen} {out : List ListenOutput}

theorem Inv.spawned_subperm (h : Inv cap s out) :
    ((spawned out).map Prod.snd).Subperm (inserted out) :=
  (List.sublist_append_right _ _).subperm.trans h.handed

theorem Inv.written_subperm (h : Inv cap s out) : (written out).Subperm (spawned out) :=
  (List.sublist_append_left _ _).subperm.trans h.sent

theorem Inv.insert (h : Inv cap s out) {tx : SentTransactionInfo} {heap : PrioritizationFeesHeap}
    (hwf : heap.Wf) (hcap : heap.maxNumberOfTransactions = cap)
    (hsub : (contents heap.map.map).Subperm (tx :: contents s.heap.map.map)) (currentBlockheight : Nat) :
    Inv cap { s with heap, fillNotify := true, currentBlockheight } (out ++ [.insert tx]) where
  wf := hwf
  capacity := hcap
  no_lost_wakeup _ hfill := by cases hfill
  filler_stopped := h.filler_stopped
  main_stopped := h.main_stopped
  handed := by
    simp only [inserted_append, spawned_append, inserted_singleton, spawned_singleton,
      ListenOutput.inserted?, ListenOutput.spawned?, Option.toList_some, Option.toList_none,
      List.append_nil]
    have hheap := (List.subperm_append_right ((spawned out).map Prod.snd)).mpr
      ((List.subperm_append_right s.main.held).mpr hsub)
    have hlast := List.perm_append_singleton tx
      (contents s.heap.map.map ++ s.main.held ++ (spawned out).map Prod.snd)
    exact (hheap.trans hlast.symm.subperm).trans ((List.subperm_append_right [tx]).mpr h.handed)
  sent := by simpa using h.sent

theorem Inv.recv (hcap : 0 < cap) (h : Inv cap s out) (tx : SentTransactionInfo)
    (blockheightAtCheck : Nat) (txs : TxStore) (lastBlockheight : Nat) :
    Inv cap (step connectionRetryCount s (.recv tx blockheightAtCheck txs lastBlockheight)).2
      (out ++ (step connectionRetryCount s (.recv tx blockheightAtCheck txs lastBlockheight)).1) := by
  obtain ⟨heap, hins, hstep⟩ := h.wf.insert_step (h.capacity ▸ hcap) tx
  have hwf := hstep.wf h.wf
  have hcap' : heap.maxNumberOfTransactions = cap := hstep.maxNumberOfTransactions.trans h.capacity
  simp only [step]
  split_ifs with hrun hcheck hl
  · simpa using h
  · simpa using h
  · rw [hins]
    refine h.insert (hwf.removeExpiredTransactions lastBlockheight) hcap' ?_ lastBlockheight
    rw [contents_removeExpiredTransactions]
    exact List.filter_sublist.subperm.trans hstep.subperm
  · rw [hins]
    exact h.insert hwf hcap' hstep.subperm s.currentBlockheight

@[simp] theorem MainLoop.held_acquiring (tx? : Option SentTransactionInfo) :
    (MainLoop.acquiring tx?).held = tx?.toList := by
  cases tx? <;> rfl

theorem getPooledConnection_main (s : Listen) (main : MainLoop) (closeReasonIsNone : Connection → Bool)
    (tx? : Option SentTransactionInfo) :
    getPooledConnection { s with main } closeReasonIsNone tx? =
      getPooledConnection s closeReasonIsNone tx? := by
  cases tx? <;> rfl

theorem getPooledConnection_cases (s : Listen) (closeReasonIsNone : Connection → Bool)
    (tx? : Option SentTransactionInfo) :
    (∃ index, getPooledConnection s closeReasonIsNone tx? =
      spawnWith { s with pool := s.pool.acquire index } index tx?) ∨
      getPooledConnection s closeReasonIsNone tx? = ([], { s with main := .acquiring tx? }) ∨
      s.pool.transactionsInSendingSemaphore = [] ∧
        getPooledConnection s closeReasonIsNone tx? = ([], { s with main := .exited }) := by
  unfold getPooledConnection
  split
  · exact .inl ⟨_, rfl⟩
  · exact .inr (.inl rfl)
  · rename_i hpanic
    exact .inr (.inr ⟨QuicConnectionPool.getPermitAndIndex_eq_error hpanic, rfl⟩)

theorem Inv.spawnWith (h : Inv cap s out) {tx? : Option SentTransactionInfo}
    (hheld : s.main.held = tx?.toList) (hawaits : tx? = none → s.main.awaitsFill) (index : Nat) :
    Inv cap (spawnWith s index tx?).2 (out ++ (spawnWith s index tx?).1) where
  wf := by rw [spawnWith_heap]; exact h.wf
  capacity := by rw [spawnWith_heap]; exact h.capacity
  no_lost_wakeup hmain hfill := by
    rw [spawnWith_main] at hmain
    rw [spawnWith_fillNotify] at hfill
    rw [spawnWith_heap]
    cases tx? with
    | none => exact h.no_lost_wakeup (hawaits rfl) hfill
    | some tx => simp at hmain
  filler_stopped hrun := by
    simp only [spawnWith_fillerRunning, spawnWith_fillerSeesExit, spawnWith_exitNotified] at hrun ⊢
    exact h.filler_stopped hrun
  main_stopped hmain := by
    rw [spawnWith_main] at hmain
    split_ifs at hmain <;> simp at hmain
  handed := by
    have hh := h.handed
    rw [hheld] at hh
    rw [spawnWith_heap, spawnWith_main, spawnWith_fst]
    cases tx? with
    | none => simpa [MainLoop.held] using hh
    | some tx =>
      have hmove : (contents s.heap.map.map ++ ((spawned out).map Prod.snd ++ [tx])).Perm
          (contents s.heap.map.map ++ [tx] ++ (spawned out).map Prod.snd) := by
        rw [List.append_assoc]
        exact List.perm_append_comm.append_left _
      simpa [MainLoop.held] using hmove.subperm.trans hh
  sent := by
    rw [spawnWith_sendingPairs, spawnWith_fst]
    cases tx? with
    | none => simpa using h.sent
    | some tx =>
      simpa [← List.append_assoc, List.subperm_append_right] using h.sent

theorem Inv.withPool (h : Inv cap s out) {pool : QuicConnectionPool}
    (hpool : pool.transactionsInSendingSemaphore.length = s.pool.transactionsInSendingSemaphore.length) :
    Inv cap { s with pool } out :=
  ⟨h.wf, h.capacity, h.no_lost_wakeup, h.filler_stopped,
    fun hmain => (h.main_stopped hmain).imp_right fun hnil =>
      List.eq_nil_of_length_eq_zero (by rw [hpool, hnil, List.length_nil]),
    h.handed, h.sent⟩

theorem Inv.mainPanics (h : Inv cap s out) (hpool : s.pool.transactionsInSendingSemaphore = []) :
    Inv cap { s with main := .exited } out where
  wf := h.wf
  capacity := h.capacity
  no_lost_wakeup hmain := by simp at hmain
  filler_stopped := h.filler_stopped
  main_stopped _ := .inr hpool
  handed := by
    refine List.Subperm.trans ?_ h.handed
    exact ((List.nil_sublist _).append_left _ |>.append_right _).subperm
  sent := h.sent

theorem Inv.toProcessing (h : Inv cap s out) (fillNotify : Bool) :
    Inv cap { s with fillNotify, main := .processing } out where
  wf := h.wf
  capacity := h.capacity
  no_lost_wakeup hmain := by simp at hmain
  filler_stopped := h.filler_stopped
  main_stopped hmain := by simp at hmain
  handed := by
    refine List.Subperm.trans ?_ h.handed
    exact ((List.nil_sublist _).append_left _ |>.append_right _).subperm
  sent := h.sent

theorem Inv.popped (h : Inv cap s out) (hheld : s.main.held = []) {tx : SentTransactionInfo}
    {heap : PrioritizationFeesHeap} (hwf : heap.Wf) (hcap : heap.maxNumberOfTransactions = cap)
    (hperm : (contents s.heap.map.map).Perm (tx :: contents heap.map.map)) :
    Inv cap { s with heap, main := .acquiring (some tx) } out where
  wf := hwf
  capacity := hcap
  no_lost_wakeup hmain := by simp at hmain
  filler_stopped := h.filler_stopped
  main_stopped hmain := by simp at hmain
  handed := by
    have hh := h.handed
    rw [hheld, List.append_nil] at hh
    rw [MainLoop.held_acquiring, Option.toList_some]
    exact (((List.perm_append_singleton _ _).trans hperm.symm).append_right _).subperm.trans hh
  sent := h.sent

theorem Inv.pop (h : Inv cap s out) (txs : TxStore) (closeReasonIsNone : Connection → Bool) :
    Inv cap (step connectionRetryCount s (.pop txs closeReasonIsNone)).2
      (out ++ (step connectionRetryCount s (.pop txs closeReasonIsNone)).1) := by
  by_cases hproc : s.main = .processing
  swap
  · simp only [step, if_pos hproc]
    simpa using h
  obtain ⟨⟨tx?, heap⟩, hpop, hwf, hcap, hperm, hnone⟩ := h.wf.pop_step
  have hcap' := hcap.trans h.capacity
  simp only [step, hproc, ne_eq, not_true_eq_false, if_false, hpop]
  cases tx? with
  | none =>
    have hempty : contents heap.map.map = [] := hnone rfl
    refine ⟨hwf, hcap', fun _ _ => hempty, h.filler_stopped, fun hmain => by simp at hmain, ?_, ?_⟩
    · simpa [hempty, MainLoop.held] using h.spawned_subperm
    · simpa using h.sent
  | some tx =>
    have hpopped := h.popped (by rw [hproc]; rfl) hwf hcap' hperm
    dsimp only
    split_ifs
    · -- a confirmed transaction is dropped
      simpa using hpopped.toProcessing s.fillNotify
    · rw [← getPooledConnection_main _ (.acquiring (some tx))]
      rcases getPooledConnection_cases { s with heap, main := .acquiring (some tx) } closeReasonIsNone
          (some tx) with ⟨index, hget⟩ | hget | ⟨hpool, hget⟩
      · rw [hget]
        exact (hpopped.withPool (by simp)).spawnWith rfl (fun hnone => by cases hnone) index
      · rw [hget]
        simpa using hpopped
      · rw [hget]
        simpa using hpopped.mainPanics hpool

theorem runTask_fst (connection : QuicConnection) (canExit : Bool) (env : Nat → SendEnv)
    (task : PermitTask) :
    ∃ wrote, (runTask connectionRetryCount connection canExit env task).1 = task.writes wrote := by
  cases task with
  | connecting index seesExit => exact ⟨false, rfl⟩
  | sending index tx seesExit => exact ⟨_, rfl⟩

theorem Inv.taskEnds (h : Inv cap s out) {task : PermitTask} (htask : task ∈ s.tasks)
    (wrote : Bool) (pool : QuicConnectionPool)
    (hpool : pool.transactionsInSendingSemaphore.length = s.pool.transactionsInSendingSemaphore.length) :
    Inv cap { s with tasks := s.tasks.erase task, pool } (out ++ task.writes wrote) where
  wf := h.wf
  capacity := h.capacity
  no_lost_wakeup := h.no_lost_wakeup
  filler_stopped := h.filler_stopped
  main_stopped hmain := (h.main_stopped hmain).imp_right fun hnil =>
    List.eq_nil_of_length_eq_zero (by rw [hpool, hnil, List.length_nil])
  handed := by simpa using h.handed
  sent := by
    have hpairs : (s.tasks.filterMap PermitTask.sendingPair?).Perm
        (task.sendingPair?.toList ++ (s.tasks.erase task).filterMap PermitTask.sendingPair?) := by
      have hp := (List.perm_cons_erase htask).filterMap PermitTask.sendingPair?
      rw [List.filterMap_cons] at hp
      cases hpair : task.sendingPair? <;> simpa [hpair] using hp
    have hw := ((written_writes_sublist task wrote).append_right
      ((s.tasks.erase task).filterMap PermitTask.sendingPair?)).append_left (written out)
    rw [spawned_append, spawned_writes, List.append_nil, written_append, List.append_assoc]
    exact (hw.subperm.trans (hpairs.symm.append_left _).subperm).trans h.sent

theorem Inv.finish (h : Inv cap s out) {task : PermitTask} (htask : task ∈ s.tasks)
    (env : Nat → SendEnv) :
    Inv cap (step connectionRetryCount s (.finish task env)).2
      (out ++ (step connectionRetryCount s (.finish task env)).1) := by
  obtain ⟨wrote, hrun⟩ := runTask_fst connectionRetryCount (s.pool.connection task.index)
    (task.seesExit && s.exitNotified) env task
  simp only [step, if_neg (not_not.mpr htask)]
  rw [hrun]
  have h₁ := h.taskEnds htask wrote (s.pool.setConnection task.index
    (runTask connectionRetryCount (s.pool.connection task.index) (task.seesExit && s.exitNotified) env
      task).2) (by simp)
  split
  · rename_i tx? hacq
    rw [← List.append_assoc]
    exact h₁.spawnWith (by rw [hacq, MainLoop.held_acquiring])
      (fun hnone => by rw [hacq, hnone]; rfl) task.index
  · simpa using h₁.withPool (by simp)

theorem Inv.close (h : Inv cap s out) :
    Inv cap (step connectionRetryCount s .close).2 (out ++ (step connectionRetryCount s .close).1) := by
  simp only [step]
  split_ifs with hclose
  · have hexit : s.main = .exiting := by
      simp only [Bool.and_eq_true, decide_eq_true_eq] at hclose
      exact hclose.1
    refine ⟨wf_clear s.heap, h.capacity, fun hmain => by simp at hmain,
      h.filler_stopped, fun _ => h.main_stopped (.inl hexit), ?_, by simpa using h.sent⟩
    simpa [PrioritizationFeesHeap.clear, MainLoop.held] using h.spawned_subperm
  · simpa using h

theorem Inv.withMain (h : Inv cap s out) {main : MainLoop} (hheld : main.held = s.main.held)
    (hawaits : main.awaitsFill → s.main.awaitsFill)
    (hstopped : main = .exiting ∨ main = .exited → s.main = .exiting ∨ s.main = .exited) :
    Inv cap { s with main } out where
  wf := h.wf
  capacity := h.capacity
  no_lost_wakeup hmain := h.no_lost_wakeup (hawaits hmain)
  filler_stopped := h.filler_stopped
  main_stopped hmain := h.main_stopped (hstopped hmain)
  handed := by simpa [hheld] using h.handed
  sent := h.sent

theorem Inv.step (hcap : 0 < cap) (h : Inv cap s out) (event : ListenEvent) :
    Inv cap (ActiveConnection.step connectionRetryCount s event).2
      (out ++ (ActiveConnection.step connectionRetryCount s event).1) := by
  cases event with
  | recv tx blockheightAtCheck txs lastBlockheight =>
    exact h.recv connectionRetryCount hcap tx blockheightAtCheck txs lastBlockheight
  | begin =>
    simp only [ActiveConnection.step]
    split_ifs with hstart
    · rcases getPooledConnection_cases s (fun _ => false) none with ⟨index, hget⟩ | hget | ⟨hpool, hget⟩
      · rw [hget]
        exact (h.withPool (by simp)).spawnWith (by rw [hstart]; rfl) (fun _ => by rw [hstart]; rfl)
          index
      · -- no free permit: the main loop waits for one before entering its loop
        rw [hget, List.append_nil]
        exact h.withMain (by rw [hstart]; rfl) (fun _ => by rw [hstart]; rfl)
          (fun hmain => by simp at hmain)
      · rw [hget, List.append_nil]
        exact h.mainPanics hpool
    · simpa using h
  | fillerExit =>
    simp only [ActiveConnection.step]
    split_ifs with hexit
    · -- the filler takes the exit notification it subscribed to
      simp only [Bool.and_eq_true] at hexit
      rw [List.append_nil]
      exact ⟨h.wf, h.capacity, h.no_lost_wakeup, fun _ => ⟨hexit.1.2, hexit.2⟩, h.main_stopped,
        h.handed, h.sent⟩
    · simpa using h
  | wake =>
    simp only [ActiveConnection.step]
    split_ifs
    · simpa using h.toProcessing false
    · simpa using h
  | mainExit =>
    simp only [ActiveConnection.step]
    split_ifs with hexit
    · -- the main loop takes the exit notification it subscribed to
      simp only [Bool.and_eq_true, decide_eq_true_eq] at hexit
      obtain ⟨⟨hwait, hsees⟩, hnotified⟩ := hexit
      rw [List.append_nil]
      refine ⟨h.wf, h.capacity, fun hmain => by simp at hmain, h.filler_stopped,
        fun _ => .inl ⟨hsees, hnotified⟩, ?_, h.sent⟩
      simpa [hwait, MainLoop.held] using h.handed
    · simpa using h
  | pop txs closeReasonIsNone => exact h.pop connectionRetryCount txs closeReasonIsNone
  | finish task env =>
    by_cases htask : task ∈ s.tasks
    · exact h.finish connectionRetryCount htask env
    · simp only [ActiveConnection.step, if_pos htask]
      simpa using h
  | close => exact h.close connectionRetryCount
  | exit =>
    simp only [ActiveConnection.step, List.append_nil]
    exact ⟨h.wf, h.capacity, h.no_lost_wakeup, fun hrun => ⟨(h.filler_stopped hrun).1, rfl⟩,
      fun hmain => (h.main_stopped hmain).imp_left fun hsees => ⟨hsees.1, rfl⟩, h.handed, h.sent⟩

theorem inv_start (connectionParameters : QuicConnectionParameters)
    (maxUniStreamConnections lastBlockheight : Nat) (exitNotified : Bool) :
    Inv (connectionParameters.prioritizationHeapSize.getD (2 * maxUniStreamConnections))
      (start connectionParameters maxUniStreamConnections lastBlockheight exitNotified) [] where
  wf := wf_new _
  capacity := rfl
  no_lost_wakeup _ _ := contents_empty
  filler_stopped hrun := by cases hrun
  main_stopped hmain := by simp [start] at hmain
  handed := by simp [start, inserted, spawned, MainLoop.held, PrioritizationFeesHeap.new]
  sent := by simp [start, written, spawned]

end Inv

theorem permitInv_start (connectionParameters : QuicConnectionParameters)
    (maxUniStreamConnections lastBlockheight : Nat) (exitNotified : Bool) :
    PermitInv maxUniStreamConnections
      (start connectionParameters maxUniStreamConnections lastBlockheight exitNotified) where
  conserves := Semaphores.conserves_replicate _ _
  acquiring _ hmain := by simp [start] at hmain

/-- What a step may do to the exit flags: the notification is never forgotten, the filler keeps its
receiver, and the main loop subscribes only as it enters its loop. -/
structure KeepsExit (s s' : Listen) : Prop where
  exitNotified : s.exitNotified = true → s'.exitNotified = true
  fillerSeesExit : s'.fillerSeesExit = s.fillerSeesExit
  mainSeesExit : s'.mainSeesExit = s.mainSeesExit ∨ s'.mainSeesExit = !s.exitNotified

theorem KeepsExit.of_eq {s s' : Listen} (hn : s'.exitNotified = s.exitNotified)
    (hf : s'.fillerSeesExit = s.fillerSeesExit) (hm : s'.mainSeesExit = s.mainSeesExit) :
    KeepsExit s s' :=
  ⟨fun h => hn ▸ h, hf, .inl hm⟩

theorem KeepsExit.of_flags {s s₁ s' : Listen} (h : KeepsExit s₁ s')
    (hn : s₁.exitNotified = s.exitNotified) (hf : s₁.fillerSeesExit = s.fillerSeesExit)
    (hm : s₁.mainSeesExit = s.mainSeesExit) : KeepsExit s s' :=
  ⟨fun h' => h.exitNotified (hn ▸ h'), h.fillerSeesExit.trans hf, hm ▸ hn ▸ h.mainSeesExit⟩

theorem keepsExit_spawnWith (s : Listen) (index : Nat) (tx? : Option SentTransactionInfo) :
    KeepsExit s (spawnWith s index tx?).2 where
  exitNotified h := by rw [spawnWith_exitNotified]; exact h
  fillerSeesExit := spawnWith_fillerSeesExit s index tx?
  mainSeesExit := by
    rw [spawnWith_mainSeesExit]
    cases tx? <;> simp

theorem keepsExit_getPooledConnection (s : Listen) (closeReasonIsNone : Connection → Bool)
    (tx? : Option SentTransactionInfo) :
    KeepsExit s (getPooledConnection s closeReasonIsNone tx?).2 := by
  rcases getPooledConnection_cases s closeReasonIsNone tx? with ⟨index, hget⟩ | hget | ⟨-, hget⟩
  · rw [hget]
    exact (keepsExit_spawnWith _ index tx?).of_flags rfl rfl rfl
  all_goals
    rw [hget]
    exact .of_eq rfl rfl rfl

theorem keepsExit_step (s : Listen) (event : ListenEvent) :
    KeepsExit s (step connectionRetryCount s event).2 := by
  cases event with
  | recv tx blockheightAtCheck txs lastBlockheight =>
    obtain ⟨heap, currentBlockheight, fillerRunning, fillNotify, hstep⟩ :=
      step_recv_eq connectionRetryCount s tx blockheightAtCheck txs lastBlockheight
    rw [hstep]
    exact .of_eq rfl rfl rfl
  | begin =>
    simp only [step]
    split_ifs
    · exact keepsExit_getPooledConnection s _ none
    · exact .of_eq rfl rfl rfl
  | pop txs closeReasonIsNone =>
    simp only [step]
    split_ifs
    · exact .of_eq rfl rfl rfl
    · split
      · exact .of_eq rfl rfl rfl
      · exact .of_eq rfl rfl rfl
      · split_ifs
        · exact .of_eq rfl rfl rfl
        · exact (keepsExit_getPooledConnection _ closeReasonIsNone _).of_flags rfl rfl rfl
  | finish task env =>
    by_cases htask : task ∈ s.tasks
    · simp only [step, if_neg (not_not.mpr htask)]
      split
      · exact (keepsExit_spawnWith _ task.index _).of_flags rfl rfl rfl
      · exact .of_eq rfl rfl rfl
    · simp only [step, if_pos htask]
      exact .of_eq rfl rfl rfl
  | exit => exact ⟨fun _ => rfl, rfl, .inl rfl⟩
  | fillerExit | wake | mainExit | close =>
    simp only [step]
    split_ifs <;> exact .of_eq rfl rfl rfl

theorem length_pool_getPooledConnection (s : Listen) (closeReasonIsNone : Connection → Bool)
    (tx? : Option SentTransactionInfo) :
    (getPooledConnection s closeReasonIsNone tx?).2.pool.transactionsInSendingSemaphore.length =
      s.pool.transactionsInSendingSemaphore.length := by
  rcases getPooledConnection_cases s closeReasonIsNone tx? with ⟨index, hget⟩ | hget | ⟨-, hget⟩ <;>
    simp [hget]

theorem length_pool_step (s : Listen) (event : ListenEvent) :
    (step connectionRetryCount s event).2.pool.transactionsInSendingSemaphore.length =
      s.pool.transactionsInSendingSemaphore.length := by
  cases event with
  | recv tx blockheightAtCheck txs lastBlockheight =>
    obtain ⟨heap, currentBlockheight, fillerRunning, fillNotify, hstep⟩ :=
      step_recv_eq connectionRetryCount s tx blockheightAtCheck txs lastBlockheight
    rw [hstep]
  | begin =>
    simp only [step]
    split_ifs
    · exact length_pool_getPooledConnection s _ none
    · rfl
  | pop txs closeReasonIsNone =>
    simp only [step]
    split_ifs
    · rfl
    · split
      · rfl
      · rfl
      · split_ifs
        · rfl
        · exact length_pool_getPooledConnection _ closeReasonIsNone _
  | finish task env =>
    by_cases htask : task ∈ s.tasks
    · simp only [step, if_neg (not_not.mpr htask)]
      split <;> simp
    · simp only [step, if_pos htask]
  | exit => rfl
  | fillerExit | wake | mainExit | close =>
    simp only [step]
    split_ifs <;> rfl

theorem exitNotified_step {s : Listen} {event : ListenEvent}
    (h : s.exitNotified = true ∨ event = .exit) :
    (step connectionRetryCount s event).2.exitNotified = true := by
  rcases h with h | rfl
  · exact (keepsExit_step connectionRetryCount s event).exitNotified h
  · rfl

theorem KeepsExit.mainAfterExit {s s' : Listen} (h : KeepsExit s s')
    (hn : s.exitNotified = true) (hm : s.mainSeesExit = false) :
    s'.exitNotified = true ∧ s'.mainSeesExit = false := by
  refine ⟨h.exitNotified hn, ?_⟩
  rcases h.mainSeesExit with h' | h'
  · rw [h', hm]
  · rw [h', hn]
    rfl

/-- `listen` before the main loop's first `get_pooled_connection`: no task runs, and the main loop
has not subscribed to the exit notification. -/
structure Starting (s : Listen) : Prop where
  main : s.main = .starting
  tasks : s.tasks = []
  mainSeesExit : s.mainSeesExit = false

theorem starting_start (connectionParameters : QuicConnectionParameters)
    (maxUniStreamConnections lastBlockheight : Nat) (exitNotified : Bool) :
    Starting (start connectionParameters maxUniStreamConnections lastBlockheight exitNotified) :=
  ⟨rfl, rfl, rfl⟩

theorem Starting.step {s : Listen} (h : Starting s) {event : ListenEvent} (hne : event ≠ .begin) :
    Starting (ActiveConnection.step connectionRetryCount s event).2 := by
  cases event with
  | recv tx blockheightAtCheck txs lastBlockheight =>
    obtain ⟨heap, currentBlockheight, fillerRunning, fillNotify, hstep⟩ :=
      step_recv_eq connectionRetryCount s tx blockheightAtCheck txs lastBlockheight
    rw [hstep]
    exact ⟨h.main, h.tasks, h.mainSeesExit⟩
  | begin => exact absurd rfl hne
  | fillerExit =>
    simp only [ActiveConnection.step]
    split_ifs
    · exact ⟨h.main, h.tasks, h.mainSeesExit⟩
    · exact h
  | exit => exact ⟨h.main, h.tasks, h.mainSeesExit⟩
  | finish task env => simpa [ActiveConnection.step, h.tasks] using h
  | wake | mainExit | pop | close => simpa [ActiveConnection.step, h.main] using h

end Steps

section Runs

open StepSystem PrioritizationFeesHeap

variable (connectionParameters : QuicConnectionParameters)
  (maxUniStreamConnections lastBlockheight : Nat) (exitNotified : Bool)

/-- The outputs and the state of `listen` after the events, from its start. -/
def runListen (events : List ListenEvent) : List ListenOutput × Listen :=
  runOutputs (step connectionParameters.connectionRetryCount)
    (start connectionParameters maxUniStreamConnections lastBlockheight exitNotified) events

theorem permitInv_runListen (events : List ListenEvent) :
    PermitInv maxUniStreamConnections
      (runListen connectionParameters maxUniStreamConnections lastBlockheight exitNotified events).2 :=
  runOutputs_invariant (fun s _ => PermitInv maxUniStreamConnections s)
    (fun _ _ event h => h.step _ event)
    (permitInv_start connectionParameters maxUniStreamConnections lastBlockheight exitNotified) events

theorem inv_runListen
    (hcap : 0 < connectionParameters.prioritizationHeapSize.getD (2 * maxUniStreamConnections))
    (events : List ListenEvent) :
    Inv (connectionParameters.prioritizationHeapSize.getD (2 * maxUniStreamConnections))
      (runListen connectionParameters maxUniStreamConnections lastBlockheight exitNotified events).2
      (runListen connectionParameters maxUniStreamConnections lastBlockheight exitNotified events).1 :=
  runOutputs_invariant (Inv _) (fun _ _ event h => h.step _ hcap event)
    (inv_start connectionParameters maxUniStreamConnections lastBlockheight exitNotified) events

theorem starting_runListen (pre : List ListenEvent) (hpre : ∀ event ∈ pre, event ≠ .begin) :
    Starting (runListen connectionParameters maxUniStreamConnections lastBlockheight exitNotified pre).2 ∧
      (exitNotified = true ∨ ListenEvent.exit ∈ pre →
        (runListen connectionParameters maxUniStreamConnections lastBlockheight exitNotified
          pre).2.exitNotified = true) := by
  have hstep : ∀ (s : Listen) (out : List ListenOutput) (as : List ListenEvent) (event : ListenEvent),
      (Starting s ∧ (exitNotified = true ∨ ListenEvent.exit ∈ as → s.exitNotified = true)) →
      (∀ e ∈ as ++ [event], e ≠ .begin) →
      Starting (step connectionParameters.connectionRetryCount s event).2 ∧
        (exitNotified = true ∨ ListenEvent.exit ∈ as ++ [event] →
          (step connectionParameters.connectionRetryCount s event).2.exitNotified = true) := by
    intro s out as event h hp
    refine ⟨h.1.step _ (hp event (by simp)), fun hx => exitNotified_step _ ?_⟩
    rw [List.mem_append, List.mem_singleton] at hx
    rcases hx with hx | hx | hx
    · exact .inl (h.2 (.inl hx))
    · exact .inl (h.2 (.inr hx))
    · exact .inr hx.symm
  have h := @runOutputs_history _ _ _ (step connectionParameters.connectionRetryCount)
    (fun l => ∀ event ∈ l, event ≠ .begin)
    (fun l l' h event he => h event (List.mem_append_left l' he))
    (fun s _ as => Starting s ∧ (exitNotified = true ∨ ListenEvent.exit ∈ as → s.exitNotified = true))
    hstep (start connectionParameters maxUniStreamConnections lastBlockheight exitNotified) [] []
    ⟨starting_start connectionParameters maxUniStreamConnections lastBlockheight exitNotified,
      fun hx => by simpa [start] using hx⟩ pre (by simpa using hpre)
  simp only [List.nil_append] at h
  exact h

theorem length_pool_runListen (events : List ListenEvent) :
    (runListen connectionParameters maxUniStreamConnections lastBlockheight exitNotified
      events).2.pool.transactionsInSendingSemaphore.length =
        connectionParameters.maxNumberOfConnections :=
  runOutputs_invariant
    (fun s _ => s.pool.transactionsInSendingSemaphore.length =
      connectionParameters.maxNumberOfConnections)
    (fun s _ event h => (length_pool_step _ s event).trans h) (by simp [start]) events

theorem pool_ne_nil_runListen (hconn : 0 < connectionParameters.maxNumberOfConnections)
    (events : List ListenEvent) :
    (runListen connectionParameters maxUniStreamConnections lastBlockheight exitNotified
      events).2.pool.transactionsInSendingSemaphore ≠ [] := by
  intro hnil
  have hlen := length_pool_runListen connectionParameters maxUniStreamConnections lastBlockheight
    exitNotified events
  rw [hnil, List.length_nil] at hlen
  omega

/-- At every connection of the pool, the free permits and those the running tasks hold add up to
`max_uni_stream_connections`, every task holds a permit of a connection of the pool, and the main
loop waits in `select_all` only while every permit is held. -/
theorem listen_permits_bounded (events : List ListenEvent) :
    (∀ index (hi : index < (runListen connectionParameters maxUniStreamConnections lastBlockheight
        exitNotified events).2.pool.transactionsInSendingSemaphore.length),
      (runListen connectionParameters maxUniStreamConnections lastBlockheight exitNotified
          events).2.pool.transactionsInSendingSemaphore[index] +
        ((runListen connectionParameters maxUniStreamConnections lastBlockheight exitNotified
          events).2.tasks.map PermitTask.index).count index = maxUniStreamConnections) ∧
      (∀ index ∈ (runListen connectionParameters maxUniStreamConnections lastBlockheight
          exitNotified events).2.tasks.map PermitTask.index,
        index < (runListen connectionParameters maxUniStreamConnections lastBlockheight
          exitNotified events).2.pool.transactionsInSendingSemaphore.length) ∧
      ∀ tx?, (runListen connectionParameters maxUniStreamConnections lastBlockheight exitNotified
          events).2.main = .acquiring tx? →
        ∀ permits ∈ (runListen connectionParameters maxUniStreamConnections lastBlockheight
          exitNotified events).2.pool.transactionsInSendingSemaphore, permits = 0 := by
  have h := permitInv_runListen connectionParameters maxUniStreamConnections lastBlockheight
    exitNotified events
  exact ⟨h.conserves.add_count, h.conserves.lt_length, h.acquiring⟩

section PositiveCapacity

variable (hcap : 0 < connectionParameters.prioritizationHeapSize.getD (2 * maxUniStreamConnections))

include hcap

/-- No notification of `fill_notify` is lost: whenever the main loop waits for one and none is
stored, the heap is empty, so every transaction left in the heap is popped without waiting for
another insert. -/
theorem listen_no_lost_wakeup (events : List ListenEvent) :
    (runListen connectionParameters maxUniStreamConnections lastBlockheight exitNotified
        events).2.main.awaitsFill →
      (runListen connectionParameters maxUniStreamConnections lastBlockheight exitNotified
        events).2.fillNotify = false →
      contents (runListen connectionParameters maxUniStreamConnections lastBlockheight exitNotified
        events).2.heap.map.map = [] :=
  (inv_runListen connectionParameters maxUniStreamConnections lastBlockheight exitNotified hcap
    events).no_lost_wakeup

/-- Every transaction written on a connection was handed to a task on that connection, and every
transaction handed to a task was inserted into the heap, each at most as often. -/
theorem listen_writes_only_handed (events : List ListenEvent) :
    (written (runListen connectionParameters maxUniStreamConnections lastBlockheight exitNotified
        events).1).Subperm
      (spawned (runListen connectionParameters maxUniStreamConnections lastBlockheight exitNotified
        events).1) ∧
    ((spawned (runListen connectionParameters maxUniStreamConnections lastBlockheight exitNotified
        events).1).map Prod.snd).Subperm
      (inserted (runListen connectionParameters maxUniStreamConnections lastBlockheight exitNotified
        events).1) := by
  have h := inv_runListen connectionParameters maxUniStreamConnections lastBlockheight exitNotified
    hcap events
  exact ⟨h.written_subperm, h.spawned_subperm⟩

/-- With at least one connection, neither `insert`, `pop` nor `select_all` panics: the filler stops,
and the main loop leaves its loop, only on an exit notification sent after they subscribed to it. -/
theorem listen_stops_only_on_exit (hconn : 0 < connectionParameters.maxNumberOfConnections)
    (events : List ListenEvent) :
    ((runListen connectionParameters maxUniStreamConnections lastBlockheight exitNotified
        events).2.fillerRunning = false →
      (runListen connectionParameters maxUniStreamConnections lastBlockheight exitNotified
        events).2.fillerSeesExit ∧
      (runListen connectionParameters maxUniStreamConnections lastBlockheight exitNotified
        events).2.exitNotified) ∧
    ((runListen connectionParameters maxUniStreamConnections lastBlockheight exitNotified
        events).2.main = .exiting ∨
      (runListen connectionParameters maxUniStreamConnections lastBlockheight exitNotified
        events).2.main = .exited →
      (runListen connectionParameters maxUniStreamConnections lastBlockheight exitNotified
        events).2.mainSeesExit ∧
      (runListen connectionParameters maxUniStreamConnections lastBlockheight exitNotified
        events).2.exitNotified) := by
  have h := inv_runListen connectionParameters maxUniStreamConnections lastBlockheight exitNotified
    hcap events
  -- the pool keeps its connections, so `select_all` has a semaphore to wait on
  have hpool := pool_ne_nil_runListen connectionParameters maxUniStreamConnections lastBlockheight
    exitNotified hconn events
  exact ⟨h.filler_stopped, fun hmain => (h.main_stopped hmain).resolve_right hpool⟩

/-- With at least one connection, an exit notification sent before the main loop's first
`get_pooled_connection` ends, before `listen` starts or while its filler already runs, never
reaches the main loop: whatever happens next, it never leaves its loop, so the heap is never
cleared and the connections never closed. -/
theorem listen_exit_before_main_loop_never_ends
    (hconn : 0 < connectionParameters.maxNumberOfConnections) (pre post : List ListenEvent)
    (hpre : ∀ event ∈ pre, event ≠ .begin) (hexit : exitNotified = true ∨ ListenEvent.exit ∈ pre) :
    (runListen connectionParameters maxUniStreamConnections lastBlockheight exitNotified
        (pre ++ post)).2.main ≠ .exiting ∧
      (runListen connectionParameters maxUniStreamConnections lastBlockheight exitNotified
        (pre ++ post)).2.main ≠ .exited := by
  obtain ⟨hstart, hnotified⟩ :=
    starting_runListen connectionParameters maxUniStreamConnections lastBlockheight exitNotified pre hpre
  -- the main loop subscribes after the notification, and no later step gives it one
  have hafter : (runListen connectionParameters maxUniStreamConnections lastBlockheight exitNotified
      (pre ++ post)).2.mainSeesExit = false := by
    have h := runOutputs_invariant (fun s _ => s.exitNotified = true ∧ s.mainSeesExit = false)
      (fun s _ event h =>
        (keepsExit_step connectionParameters.connectionRetryCount s event).mainAfterExit h.1 h.2)
      (s := (runListen connectionParameters maxUniStreamConnections lastBlockheight exitNotified
        pre).2) ⟨hnotified hexit, hstart.mainSeesExit⟩ post
    rw [runListen, runOutputs_append]
    exact h.2
  have hinv := inv_runListen connectionParameters maxUniStreamConnections lastBlockheight
    exitNotified hcap (pre ++ post)
  have hpool := pool_ne_nil_runListen connectionParameters maxUniStreamConnections lastBlockheight
    exitNotified hconn (pre ++ post)
  refine not_or.mp fun hmain => ?_
  have hsees := ((hinv.main_stopped hmain).resolve_right hpool).1
  rw [hafter] at hsees
  cases hsees

end PositiveCapacity

end Runs

/-- Two connections with one connection attempt each, the first taken while more than half of its
permits are free, and a heap of the default size. -/
def testParameters : QuicConnectionParameters := ⟨1, 2, 50, none⟩

/-- `listen` takes its first connection, wakes on a stored notification, then the exit
notification ends it. -/
def testEvents : List ListenEvent := [.begin, .wake, .exit, .mainExit, .fillerExit, .close]

theorem listen_no_lost_wakeup_of_test_events :
    0 < testParameters.prioritizationHeapSize.getD (2 * 4) ∧
      ((runListen testParameters 4 0 false testEvents).2.main.awaitsFill →
        (runListen testParameters 4 0 false testEvents).2.fillNotify = false →
        PrioritizationFeesHeap.contents
          (runListen testParameters 4 0 false testEvents).2.heap.map.map = []) :=
  ⟨by decide, listen_no_lost_wakeup testParameters 4 0 false (by decide) testEvents⟩

theorem listen_writes_only_handed_of_test_events :
    0 < testParameters.prioritizationHeapSize.getD (2 * 4) ∧
      (written (runListen testParameters 4 0 false testEvents).1).Subperm
        (spawned (runListen testParameters 4 0 false testEvents).1) ∧
      ((spawned (runListen testParameters 4 0 false testEvents).1).map Prod.snd).Subperm
        (inserted (runListen testParameters 4 0 false testEvents).1) :=
  ⟨by decide, listen_writes_only_handed testParameters 4 0 false (by decide) testEvents⟩

theorem listen_stops_only_on_exit_of_test_events :
    0 < testParameters.prioritizationHeapSize.getD (2 * 4) ∧
      0 < testParameters.maxNumberOfConnections ∧
      (((runListen testParameters 4 0 false testEvents).2.fillerRunning = false →
        (runListen testParameters 4 0 false testEvents).2.fillerSeesExit ∧
        (runListen testParameters 4 0 false testEvents).2.exitNotified) ∧
      ((runListen testParameters 4 0 false testEvents).2.main = .exiting ∨
        (runListen testParameters 4 0 false testEvents).2.main = .exited →
        (runListen testParameters 4 0 false testEvents).2.mainSeesExit ∧
        (runListen testParameters 4 0 false testEvents).2.exitNotified)) :=
  ⟨by decide, by decide,
    listen_stops_only_on_exit testParameters 4 0 false (by decide) (by decide) testEvents⟩

/-- The exit notification comes while the filler already runs: the filler stops on it, the main
loop never does. -/
theorem listen_exit_before_main_loop_never_ends_of_test_events :
    0 < testParameters.prioritizationHeapSize.getD (2 * 4) ∧
      0 < testParameters.maxNumberOfConnections ∧
      (∀ event ∈ [ListenEvent.exit], event ≠ .begin) ∧
      (false = true ∨ ListenEvent.exit ∈ [ListenEvent.exit]) ∧
      ((runListen testParameters 4 0 false ([.exit] ++ testEvents)).2.main ≠ .exiting ∧
        (runListen testParameters 4 0 false ([.exit] ++ testEvents)).2.main ≠ .exited) :=
  ⟨by decide, by decide, by simp, .inr (List.mem_singleton_self _),
    listen_exit_before_main_loop_never_ends testParameters 4 0 false (by decide) (by decide) [.exit]
      testEvents (by simp) (.inr (List.mem_singleton_self _))⟩

example : (runListen testParameters 4 0 false ([.exit] ++ testEvents)).2.fillerRunning = false ∧
    (runListen testParameters 4 0 false ([.exit] ++ testEvents)).2.main = .waiting ∧
    (runListen testParameters 4 0 false testEvents).2.main = .exited := by
  decide

/-- With no connection, the first `get_pooled_connection` panics in `select_all`, and `listen`
ends with no exit notification. -/
example : (runListen { testParameters with maxNumberOfConnections := 0 } 4 0 false [.begin]).2.main =
    .exited := by
  decide

end ActiveConnection

end LiteRpc
