import LiteRpc.Lib.Broadcast
import LiteRpc.Lib.Chunks
import LiteRpc.AutoReconnect
import LiteRpc.TxStore

/-!
The path of lite-rpc's transactions through the forward proxy
(`services/src/tpu_utils/quic_proxy_connection_manager.rs`). `update_connection` records the TPU
nodes of the slot and, the first time, spawns `read_transactions_and_broadcast` with the receiver
that `TpuService::update_quic_connections` subscribed to the transaction channel. That task loops:
it stops on the exit signal; it receives a transaction, and up to
`number_of_transactions_per_unistream - 1` more that are already there; with no TPU node it drops
them; otherwise `send_copy_of_txs_to_quicproxy` sends them in chunks of `CHUNK_SIZE_PER_STREAM`,
one `TpuForwardingRequest` of the nodes and the chunk on a unidirectional stream each, through the
`AutoReconnect` connection to the proxy, until a send fails. Any error of the receiver ends the
task ("aborting"), `Lagged` included, and so does a panic of the connection.

`TpuService::send_transaction` broadcasts a transaction, and fails while the channel has no
receiver. The channel is the list of the transactions it accepted (`Broadcast`), and the task's
receiver is its position in it; `TpuService` keeps the sender, so the channel is never closed. A
step is one event: a transaction sent, an `update_connection`, `signal_shutdown`, or one pass of the
task's loop with what the network answers its sends.
-/

namespace LiteRpc

open ProxyRequestFormat
open QuicForwardProxy (AutoReconnect)

/-- `TpuNode`. -/
structure TpuNode where
  tpuIdentity : Pubkey
  tpuAddress : SocketAddr
deriving DecidableEq

/-- `CHUNK_SIZE_PER_STREAM`. -/
def chunkSizePerStream : Nat := 20

theorem chunkSizePerStream_pos : 0 < chunkSizePerStream := by decide

/-- The task `read_transactions_and_broadcast`: the position of its receiver, its connection to the
proxy, and whether it still runs. -/
structure ProxyTask where
  next : Nat
  autoConnection : AutoReconnect
  running : Bool
deriving DecidableEq

/-- `QuicProxyConnectionManager`, without its endpoint; the task it spawned, if any.
`simple_thread_started` is set exactly when the task is spawned. -/
structure QuicProxyConnectionManager where
  proxyAddr : SocketAddr
  currentTpuNodes : List TpuNode
  exitSignal : Bool
  task : Option ProxyTask

/-- The transaction channel of `TpuService` and its connection manager on the proxy path. -/
structure ProxyPath where
  log : List SentTransactionInfo
  manager : QuicProxyConnectionManager

/-- What happens next on the proxy path. -/
inductive ProxyEvent where
  /-- `TpuService::send_transaction`. -/
  | sendTransaction (tx : SentTransactionInfo)
  /-- `update_connection` with the nodes of `connections_to_keep`, in the map's order. -/
  | updateConnection (connectionsToKeep : List TpuNode)
  | signalShutdown
  /-- A pass of the task's loop; the send of the `i`-th chunk meets `envs i`. -/
  | wake (envs : Nat → AutoReconnect.SendEnv)

/-- What is seen of the proxy path: a transaction the channel accepts or refuses, a request sent to
the proxy, and a panic of the task. -/
inductive ProxyOutput where
  | broadcast (tx : SentTransactionInfo)
  | rejected (tx : SentTransactionInfo)
  | forwarded (request : TpuForwardingRequest)
  | panicked (message : String)

/-- `TxData::new(signature, transaction)` of a transaction received. -/
def SentTransactionInfo.toTxData (tx : SentTransactionInfo) : TxData :=
  TxData.new tx.signature tx.transaction

/-- The request of an output that sends one. -/
def ProxyOutput.forwarded? : ProxyOutput → Option TpuForwardingRequest
  | .forwarded request => some request
  | _ => none

/-- The transaction of an output that the channel accepts. -/
def ProxyOutput.broadcast? : ProxyOutput → Option SentTransactionInfo
  | .broadcast tx => some tx
  | _ => none

/-- The requests sent to the proxy, in order. -/
def forwardedRequests (out : List ProxyOutput) : List TpuForwardingRequest :=
  out.filterMap ProxyOutput.forwarded?

/-- The transactions of the requests sent to the proxy, in order. -/
def forwardedTxs (out : List ProxyOutput) : List TxData :=
  (forwardedRequests out).flatMap (·.transactions)

/-- The transactions the channel accepted, in order. -/
def broadcastTxs (out : List ProxyOutput) : List SentTransactionInfo :=
  out.filterMap ProxyOutput.broadcast?

@[simp] theorem forwardedRequests_append (out out' : List ProxyOutput) :
    forwardedRequests (out ++ out') = forwardedRequests out ++ forwardedRequests out' :=
  List.filterMap_append

@[simp] theorem forwardedTxs_append (out out' : List ProxyOutput) :
    forwardedTxs (out ++ out') = forwardedTxs out ++ forwardedTxs out' := by
  simp [forwardedTxs]

@[simp] theorem broadcastTxs_append (out out' : List ProxyOutput) :
    broadcastTxs (out ++ out') = broadcastTxs out ++ broadcastTxs out' :=
  List.filterMap_append

@[simp] theorem forwardedRequests_map_forwarded (requests : List TpuForwardingRequest) :
    forwardedRequests (requests.map .forwarded) = requests := by
  simp [forwardedRequests, List.filterMap_map, Function.comp_def, ProxyOutput.forwarded?]

namespace QuicProxyConnectionManager

def new (proxyAddr : SocketAddr) : QuicProxyConnectionManager := ⟨proxyAddr, [], false, none⟩

def simpleThreadStarted (self : QuicProxyConnectionManager) : Bool := self.task.isSome

section Task

variable (showAddr : SocketAddr → String) (capacity numberOfTransactionsPerUnistream : Nat)

/-- The loop of `send_copy_of_txs_to_quicproxy` over the chunks, the send of the `i`-th meeting
`envs i`: the requests sent, and then either a panic or the result with the connection after it. -/
def sendChunks (tpuData : List (SocketAddr × Pubkey)) (envs : Nat → AutoReconnect.SendEnv) :
    Nat → List (List TxData) → AutoReconnect →
      List TpuForwardingRequest × Except String (Except String Unit × AutoReconnect)
  | _, [], autoConnection => ([], .ok (.ok (), autoConnection))
  | i, chunk :: chunks, autoConnection =>
    let forwardingRequest := TpuForwardingRequest.new tpuData chunk
    match autoConnection.sendUni showAddr (envs i) with
    | .error panic => ([], .error panic)
    | .ok (.ok (), autoConnection) =>
      let (sent, outcome) := sendChunks tpuData envs (i + 1) chunks autoConnection
      (forwardingRequest :: sent, outcome)
    | .ok (.error e, autoConnection) =>
      ([], .ok (.error ("Failed to send data to quic proxy: " ++ e), autoConnection))

/-- The `tpu_data` of `send_copy_of_txs_to_quicproxy`: each node's address and identity. -/
def tpuData (tpuFanoutNodes : List TpuNode) : List (SocketAddr × Pubkey) :=
  tpuFanoutNodes.map fun tpu => (tpu.tpuAddress, tpu.tpuIdentity)

/-- `send_copy_of_txs_to_quicproxy`. -/
def sendCopyOfTxsToQuicproxy (txs : List TxData) (autoConnection : AutoReconnect)
    (tpuFanoutNodes : List TpuNode) (envs : Nat → AutoReconnect.SendEnv) :
    List TpuForwardingRequest × Except String (Except String Unit × AutoReconnect) :=
  sendChunks showAddr (tpuData tpuFanoutNodes) envs 0
    (Chunks.chunks chunkSizePerStream chunkSizePerStream_pos txs) autoConnection

/-- The `for _ in 1..number_of_transactions_per_unistream` loop of `try_recv` from `next`, `k` more
at most: the transactions received, the receiver's position, and whether an error ends the task. -/
def batchMore (log : List SentTransactionInfo) (senderAlive : Bool) :
    Nat → Nat → List SentTransactionInfo × Nat × Bool
  | 0, next => ([], next, false)
  | k + 1, next =>
    match Broadcast.recv capacity log senderAlive next with
    | (.ok tx, next) =>
      let (txs, next, abort) := batchMore log senderAlive k next
      (tx :: txs, next, abort)
    | (.empty, next) => ([], next, false)
    | (.lagged _, next) => ([], next, true)
    | (.closed, next) => ([], next, true)

/-- One pass of the loop of `read_transactions_and_broadcast`. -/
def wake (self : ProxyTask) (log : List SentTransactionInfo) (senderAlive : Bool)
    (tpuNodes : List TpuNode) (exitSignal : Bool) (envs : Nat → AutoReconnect.SendEnv) :
    List ProxyOutput × ProxyTask :=
  if exitSignal then ([], { self with running := false })
  else
    match Broadcast.recv capacity log senderAlive self.next with
    -- the `select!` waits
    | (.empty, _) => ([], self)
    | (.ok firstTx, next) =>
      let (more, next, abort) :=
        batchMore capacity log senderAlive (numberOfTransactionsPerUnistream - 1) next
      if abort then ([], { self with next, running := false })
      else if tpuNodes.isEmpty then ([], { self with next })
      else
        match sendCopyOfTxsToQuicproxy showAddr ((firstTx :: more).map (·.toTxData))
            self.autoConnection tpuNodes envs with
        | (sent, .ok (_, autoConnection)) => (sent.map .forwarded, { self with next, autoConnection })
        -- a panic ends the task
        | (sent, .error panic) => (sent.map .forwarded ++ [.panicked panic],
            { self with next, running := false })
    -- "Broadcast channel error (close) on recv - aborting"
    | (.lagged _, next) => ([], { self with next, running := false })
    | (.closed, next) => ([], { self with next, running := false })

theorem sendChunks_fst (tpuData : List (SocketAddr × Pubkey)) (envs : Nat → AutoReconnect.SendEnv)
    (chunks : List (List TxData)) (i : Nat) (autoConnection : AutoReconnect) :
    ∃ k, (sendChunks showAddr tpuData envs i chunks autoConnection).1 =
      (chunks.take k).map (TpuForwardingRequest.new tpuData) := by
  induction chunks generalizing i autoConnection with
  | nil => exact ⟨0, rfl⟩
  | cons chunk chunks ih =>
    unfold sendChunks
    split
    · exact ⟨0, rfl⟩
    · rename_i autoConnection' _
      obtain ⟨k, hk⟩ := ih (i + 1) autoConnection'
      refine ⟨k + 1, ?_⟩
      rw [List.take_succ_cons, List.map_cons, ← hk]
    · exact ⟨0, rfl⟩

theorem batchMore_of_ok {log : List SentTransactionInfo} {senderAlive : Bool} {k next next' : Nat}
    {tx : SentTransactionInfo} (h : Broadcast.recv capacity log senderAlive next = (.ok tx, next')) :
    batchMore capacity log senderAlive (k + 1) next =
      (tx :: (batchMore capacity log senderAlive k next').1,
        (batchMore capacity log senderAlive k next').2) := by
  simp only [batchMore, h]

theorem reader_batchMore {log read : List SentTransactionInfo} (senderAlive : Bool) (k : Nat)
    {next : Nat} (h : Broadcast.Reader log next read) :
    Broadcast.Reader log (batchMore capacity log senderAlive k next).2.1
      (read ++ (batchMore capacity log senderAlive k next).1) := by
  induction k generalizing next read with
  | zero => simpa [batchMore] using h
  | succ k ih =>
    have hr := h.receive capacity senderAlive
    rcases hrecv : Broadcast.recv capacity log senderAlive next with ⟨_ | _ | _ | _, next'⟩
    · -- one more transaction, and the rest of the batch after it
      rw [hrecv] at hr
      rw [batchMore_of_ok capacity hrecv, List.append_cons]
      exact ih hr
    all_goals
      rw [hrecv] at hr
      simpa [batchMore, hrecv, Broadcast.Recv.toList] using hr

theorem broadcastTxs_wake (self : ProxyTask) (log : List SentTransactionInfo) (senderAlive : Bool)
    (tpuNodes : List TpuNode) (exitSignal : Bool) (envs : Nat → AutoReconnect.SendEnv) :
    broadcastTxs (wake showAddr capacity numberOfTransactionsPerUnistream self log senderAlive
      tpuNodes exitSignal envs).1 = [] := by
  unfold wake
  split
  · rfl
  split
  · rfl
  · -- a batch: dropped, or sent to the proxy
    split
    split_ifs
    · rfl
    · rfl
    · split <;> simp [broadcastTxs, ProxyOutput.broadcast?]
  · rfl
  · rfl

theorem wake_of_lagged {self : ProxyTask} {log : List SentTransactionInfo}
    (hlag : self.next + capacity < log.length) (senderAlive : Bool) (tpuNodes : List TpuNode)
    (exitSignal : Bool) (envs : Nat → AutoReconnect.SendEnv) :
    (wake showAddr capacity numberOfTransactionsPerUnistream self log senderAlive tpuNodes
        exitSignal envs).1 = [] ∧
      (wake showAddr capacity numberOfTransactionsPerUnistream self log senderAlive tpuNodes
        exitSignal envs).2.running = false := by
  cases exitSignal with
  | true => exact ⟨rfl, rfl⟩
  | false => simp [wake, Broadcast.recv_of_lagged hlag]

theorem wake_of_send {self : ProxyTask} {log more : List SentTransactionInfo} {senderAlive : Bool}
    {tpuNodes : List TpuNode} {firstTx : SentTransactionInfo} {next next' : Nat}
    (hrecv : Broadcast.recv capacity log senderAlive self.next = (.ok firstTx, next))
    (hbatch : batchMore capacity log senderAlive (numberOfTransactionsPerUnistream - 1) next =
      (more, next', false))
    (hnodes : tpuNodes ≠ []) (envs : Nat → AutoReconnect.SendEnv) :
    forwardedRequests (wake showAddr capacity numberOfTransactionsPerUnistream self log senderAlive
        tpuNodes false envs).1 =
      (sendCopyOfTxsToQuicproxy showAddr ((firstTx :: more).map SentTransactionInfo.toTxData)
        self.autoConnection tpuNodes envs).1 ∧
    (wake showAddr capacity numberOfTransactionsPerUnistream self log senderAlive tpuNodes false
      envs).2.next = next' := by
  simp only [wake, hrecv, hbatch, hnodes, Bool.false_eq_true, if_false, List.isEmpty_iff]
  rcases sendCopyOfTxsToQuicproxy showAddr ((firstTx :: more).map SentTransactionInfo.toTxData)
    self.autoConnection tpuNodes envs with ⟨sent, _ | ⟨_, autoConnection⟩⟩
  · -- a panic is seen after the requests sent before it
    simp [forwardedRequests, ProxyOutput.forwarded?, List.filterMap_map, Function.comp_def]
  · simp

theorem wake_forwarded {self : ProxyTask} {log read : List SentTransactionInfo}
    (h : Broadcast.Reader log self.next read) (senderAlive : Bool) (tpuNodes : List TpuNode)
    (exitSignal : Bool) (envs : Nat → AutoReconnect.SendEnv) :
    ∃ batch k, forwardedRequests (wake showAddr capacity numberOfTransactionsPerUnistream self log
          senderAlive tpuNodes exitSignal envs).1 =
        ((Chunks.chunks chunkSizePerStream chunkSizePerStream_pos
          (batch.map SentTransactionInfo.toTxData)).take k).map
            (TpuForwardingRequest.new (tpuData tpuNodes)) ∧
      Broadcast.Reader log (wake showAddr capacity numberOfTransactionsPerUnistream self log
          senderAlive tpuNodes exitSignal envs).2.next (read ++ batch) ∧
      (tpuNodes = [] → k = 0) := by
  cases exitSignal with
  | true => exact ⟨[], 0, rfl, by simpa [wake] using h, fun _ => rfl⟩
  | false =>
    have hr := h.receive capacity senderAlive
    rcases hrecv : Broadcast.recv capacity log senderAlive self.next with
      ⟨_ | _ | _ | _, next⟩ <;> rw [hrecv] at hr
    case ok firstTx =>
      have hb := reader_batchMore capacity senderAlive (numberOfTransactionsPerUnistream - 1) hr
      rcases hbatch : batchMore capacity log senderAlive (numberOfTransactionsPerUnistream - 1) next
        with ⟨more, next', abort⟩
      rw [hbatch] at hb
      simp only [Broadcast.Recv.toList, List.append_assoc, List.singleton_append] at hb
      by_cases habort : abort = true
      · exact ⟨firstTx :: more, 0, by simp [wake, hrecv, hbatch, habort, forwardedRequests],
          by simpa [wake, hrecv, hbatch, habort] using hb, fun _ => rfl⟩
      by_cases hnodes : tpuNodes = []
      · exact ⟨firstTx :: more, 0, by simp [wake, hrecv, hbatch, habort, hnodes, forwardedRequests],
          by simpa [wake, hrecv, hbatch, habort, hnodes] using hb, fun _ => rfl⟩
      obtain ⟨k, hk⟩ := sendChunks_fst showAddr (tpuData tpuNodes) envs
        (Chunks.chunks chunkSizePerStream chunkSizePerStream_pos
          ((firstTx :: more).map SentTransactionInfo.toTxData)) 0 self.autoConnection
      obtain ⟨hfwd, hnext⟩ := wake_of_send showAddr capacity numberOfTransactionsPerUnistream hrecv
        (by simpa [habort] using hbatch) hnodes envs
      exact ⟨firstTx :: more, k, hfwd.trans hk, hnext ▸ hb, fun hnil => absurd hnil hnodes⟩
    case empty => exact ⟨[], 0, by simp [wake, hrecv, forwardedRequests], by simpa [wake, hrecv] using h,
      fun _ => rfl⟩
    all_goals
      exact ⟨[], 0, by simp [wake, hrecv, forwardedRequests],
        by simpa [wake, hrecv, Broadcast.Recv.toList] using hr, fun _ => rfl⟩

end Task

end QuicProxyConnectionManager

namespace ProxyPath

/-- The channel has a receiver: the task's, while it runs. -/
def receiverAlive (self : ProxyPath) : Bool :=
  match self.manager.task with
  | some task => task.running
  | none => false

section Step

variable (showAddr : SocketAddr → String) (capacity numberOfTransactionsPerUnistream : Nat)

/-- A step of the proxy path. -/
def step (self : ProxyPath) : ProxyEvent → List ProxyOutput × ProxyPath
  | .sendTransaction tx =>
    -- `broadcast::Sender::send` fails without a receiver
    if self.receiverAlive then ([.broadcast tx], { self with log := self.log ++ [tx] })
    else ([.rejected tx], self)
  | .updateConnection connectionsToKeep =>
    let manager := { self.manager with currentTpuNodes := connectionsToKeep }
    match self.manager.task with
    | some _ => ([], { self with manager })
    | none =>
      -- the receiver `update_quic_connections` subscribed now starts at the end of the channel
      let task : ProxyTask := ⟨self.log.length, AutoReconnect.new self.manager.proxyAddr, true⟩
      ([], { self with manager := { manager with task := some task } })
  | .signalShutdown => ([], { self with manager := { self.manager with exitSignal := true } })
  | .wake envs =>
    match self.manager.task with
    | some task =>
      if task.running then
        let (out, task) := QuicProxyConnectionManager.wake showAddr capacity
          numberOfTransactionsPerUnistream task self.log true self.manager.currentTpuNodes
          self.manager.exitSignal envs
        (out, { self with manager := { self.manager with task := some task } })
      else ([], self)
    | none => ([], self)

end Step

/-- `TpuService::new` with a new channel, and the connection manager to the proxy at `proxyAddr`. -/
def init (proxyAddr : SocketAddr) : ProxyPath := ⟨[], QuicProxyConnectionManager.new proxyAddr⟩

/-- The task's receiver has read `read` of the channel; before the task is spawned, nothing. -/
def TaskReads : Option ProxyTask → List SentTransactionInfo → List SentTransactionInfo → Prop
  | some task, log, read => Broadcast.Reader log task.next read
  | none, _, read => read = []

theorem TaskReads.sublist {task? : Option ProxyTask} {log read : List SentTransactionInfo}
    (h : TaskReads task? log read) : read.Sublist log := by
  cases task? with
  | none => simp [TaskReads.eq_def] at h; simp [h]
  | some task => exact (Broadcast.Reader.sublist h).trans (List.take_sublist _ _)

theorem TaskReads.send {task? : Option ProxyTask} {log read : List SentTransactionInfo}
    (h : TaskReads task? log read) (tx : SentTransactionInfo) : TaskReads task? (log ++ [tx]) read := by
  cases task? with
  | none => exact h
  | some task => exact Broadcast.Reader.send h tx

section Step

variable (showAddr : SocketAddr → String) (capacity numberOfTransactionsPerUnistream : Nat)

theorem step_channel (s : ProxyPath) (event : ProxyEvent) :
    (step showAddr capacity numberOfTransactionsPerUnistream s event).2.log =
        s.log ++ broadcastTxs (step showAddr capacity numberOfTransactionsPerUnistream s event).1 ∧
      ∀ tx ∈ broadcastTxs (step showAddr capacity numberOfTransactionsPerUnistream s event).1,
        event = .sendTransaction tx := by
  cases event with
  | sendTransaction tx =>
    simp only [step]
    split <;> simp [broadcastTxs, ProxyOutput.broadcast?]
  | updateConnection connectionsToKeep =>
    simp only [step]
    split <;> simp [broadcastTxs]
  | signalShutdown => simp [step, broadcastTxs]
  | wake envs =>
    simp only [step]
    split
    · split
      · simp [QuicProxyConnectionManager.broadcastTxs_wake]
      · simp [broadcastTxs]
    · simp [broadcastTxs]

theorem step_log (s : ProxyPath) (event : ProxyEvent) :
    (step showAddr capacity numberOfTransactionsPerUnistream s event).2.log =
      s.log ++ broadcastTxs (step showAddr capacity numberOfTransactionsPerUnistream s event).1 :=
  (step_channel showAddr capacity numberOfTransactionsPerUnistream s event).1

theorem eq_of_mem_broadcastTxs_step {s : ProxyPath} {event : ProxyEvent} {tx : SentTransactionInfo}
    (htx : tx ∈ broadcastTxs (step showAddr capacity numberOfTransactionsPerUnistream s event).1) :
    event = .sendTransaction tx :=
  (step_channel showAddr capacity numberOfTransactionsPerUnistream s event).2 tx htx

theorem currentTpuNodes_step (s : ProxyPath) (event : ProxyEvent) :
    (step showAddr capacity numberOfTransactionsPerUnistream s event).2.manager.currentTpuNodes =
        s.manager.currentTpuNodes ∨
      event = .updateConnection
        (step showAddr capacity numberOfTransactionsPerUnistream s event).2.manager.currentTpuNodes := by
  cases event with
  | sendTransaction tx =>
    simp only [step]
    split <;> simp
  | updateConnection connectionsToKeep =>
    simp only [step]
    split <;> simp
  | signalShutdown => simp [step]
  | wake envs =>
    simp only [step]
    split
    · split <;> simp
    · simp

theorem step_forwarded {s : ProxyPath} {read : List SentTransactionInfo}
    (h : TaskReads s.manager.task s.log read) (event : ProxyEvent) :
    ∃ batch k, forwardedRequests (step showAddr capacity numberOfTransactionsPerUnistream s event).1 =
        ((Chunks.chunks chunkSizePerStream chunkSizePerStream_pos
          (batch.map SentTransactionInfo.toTxData)).take k).map
            (TpuForwardingRequest.new (QuicProxyConnectionManager.tpuData s.manager.currentTpuNodes)) ∧
      TaskReads (step showAddr capacity numberOfTransactionsPerUnistream s event).2.manager.task
        (step showAddr capacity numberOfTransactionsPerUnistream s event).2.log (read ++ batch) ∧
      (s.manager.currentTpuNodes = [] → k = 0) := by
  cases event with
  | sendTransaction tx =>
    refine ⟨[], 0, ?_, ?_, fun _ => rfl⟩
    all_goals simp only [step]; split
    · simp [forwardedRequests, ProxyOutput.forwarded?]
    · simp [forwardedRequests, ProxyOutput.forwarded?]
    · simpa using h.send tx
    · simpa using h
  | updateConnection connectionsToKeep =>
    refine ⟨[], 0, ?_, ?_, fun _ => rfl⟩
    · simp only [step]
      split <;> simp [forwardedRequests]
    · simp only [step]
      rcases htask : s.manager.task with _ | task <;> rw [htask] at h
      · -- the task spawned now reads from the end of the channel
        simp only [TaskReads] at h
        simpa [TaskReads, h] using Broadcast.reader_subscribe s.log
      · simpa using h
  | signalShutdown => exact ⟨[], 0, rfl, by simpa [step] using h, fun _ => rfl⟩
  | wake envs =>
    rcases htask : s.manager.task with _ | task
    · exact ⟨[], 0, by simp [step, htask, forwardedRequests], by simpa [step, htask] using h,
        fun _ => rfl⟩
    rw [htask] at h
    by_cases hrun : task.running = true
    · obtain ⟨batch, k, hfwd, hread, hk⟩ := QuicProxyConnectionManager.wake_forwarded showAddr
        capacity numberOfTransactionsPerUnistream h true s.manager.currentTpuNodes
        s.manager.exitSignal envs
      exact ⟨batch, k, by simpa [step, htask, hrun] using hfwd,
        by simpa [step, htask, hrun, TaskReads] using hread, hk⟩
    · exact ⟨[], 0, by simp [step, htask, hrun, forwardedRequests],
        by simpa [step, htask, hrun, TaskReads] using h, fun _ => rfl⟩

end Step

end ProxyPath

/-- A transaction that fits the format: a 64-byte signature, and a length that fits a `u64`. -/
def SentTransactionInfo.Fits (tx : SentTransactionInfo) : Prop :=
  tx.signature.signature < 256 ^ 64 ∧ tx.transaction.length < 256 ^ 8

/-- Nodes that fit the format: a number that fits a `u64`, and 32-byte identities. -/
def TpuNode.Fit (nodes : List TpuNode) : Prop :=
  nodes.length < 256 ^ 8 ∧ ∀ node ∈ nodes, node.tpuIdentity.key < 256 ^ 32

instance (tx : SentTransactionInfo) : Decidable tx.Fits := inferInstanceAs (Decidable (_ ∧ _))

instance (nodes : List TpuNode) : Decidable (TpuNode.Fit nodes) :=
  inferInstanceAs (Decidable (_ ∧ _))

/-- What an event brings in fits the format. -/
def ProxyEvent.fits : ProxyEvent → Bool
  | .sendTransaction tx => decide tx.Fits
  | .updateConnection connectionsToKeep => decide (TpuNode.Fit connectionsToKeep)
  | .signalShutdown => true
  | .wake _ => true

/-- A request as `send_copy_of_txs_to_quicproxy` sends them, of what fits the format: of the
format's version, to some node, with one to `CHUNK_SIZE_PER_STREAM` transactions. -/
structure Sendable (request : TpuForwardingRequest) : Prop where
  fits : request.Fits
  version : request.formatVersion = formatVersion1
  nodes_ne_nil : request.tpuNodes ≠ []
  transactions_ne_nil : request.transactions ≠ []
  transactions_length_le : request.transactions.length ≤ chunkSizePerStream

theorem sendable_new {nodes : List TpuNode} {chunk : List TxData} (hnodes : TpuNode.Fit nodes)
    (hne : nodes ≠ []) (hchunk : chunk ≠ [] ∧ chunk.length ≤ chunkSizePerStream)
    (htxs : ∀ tx ∈ chunk, ∃ t : SentTransactionInfo, t.Fits ∧ tx = t.toTxData) :
    Sendable (TpuForwardingRequest.new (QuicProxyConnectionManager.tpuData nodes) chunk) where
  fits := by
    have hlen : chunk.length < 256 ^ 8 := by
      have := hchunk.2
      unfold chunkSizePerStream at this
      omega
    refine new_fits (by simpa [QuicProxyConnectionManager.tpuData] using hnodes.1) ?_ hlen ?_
    · simpa [QuicProxyConnectionManager.tpuData] using hnodes.2
    · intro tx htx
      obtain ⟨t, ht, rfl⟩ := htxs tx htx
      exact ht
  version := rfl
  nodes_ne_nil := by simpa [TpuForwardingRequest.new, QuicProxyConnectionManager.tpuData] using hne
  transactions_ne_nil := hchunk.1
  transactions_length_le := hchunk.2

namespace ProxyPath

section Runs

open StepSystem

variable (showAddr : SocketAddr → String) (capacity numberOfTransactionsPerUnistream : Nat)

/-- The outputs and the state of the proxy path after the events, from its start. -/
def runPath (proxyAddr : SocketAddr) (events : List ProxyEvent) : List ProxyOutput × ProxyPath :=
  runOutputs (step showAddr capacity numberOfTransactionsPerUnistream) (init proxyAddr) events

/-- A proxy, a node, a transaction, and a network where every send goes through, for tests. -/
def testProxyAddr : SocketAddr := .v4 ⟨⟨⟨[127, 0, 0, 11], rfl⟩⟩, 11111⟩

def testShowAddr : SocketAddr → String := fun _ => "127.0.0.11:11111"

def testNode : TpuNode := ⟨⟨7⟩, .v4 ⟨⟨⟨[127, 0, 0, 2], rfl⟩⟩, 8009⟩⟩

def testTx : SentTransactionInfo := ⟨⟨3⟩, 5, [1, 2, 3], 100, 0⟩

def testEnvs : Nat → AutoReconnect.SendEnv := fun _ => ⟨⟨false, .ok 7⟩, .ok ()⟩

/-- What the proxy path forwards: the channel holds the transactions it accepted, and the requests
sent hold a sublist of what the task's receiver read. -/
structure Forwarding (s : ProxyPath) (out : List ProxyOutput) : Prop where
  log_eq : s.log = broadcastTxs out
  reads : ∃ read, TaskReads s.manager.task s.log read ∧
    (forwardedTxs out).Sublist (read.map SentTransactionInfo.toTxData)

theorem forwarding_init (proxyAddr : SocketAddr) : Forwarding (init proxyAddr) [] :=
  ⟨rfl, [], rfl, List.Sublist.slnil⟩

theorem Forwarding.step {s : ProxyPath} {out : List ProxyOutput} (h : Forwarding s out)
    (event : ProxyEvent) :
    Forwarding (step showAddr capacity numberOfTransactionsPerUnistream s event).2
      (out ++ (step showAddr capacity numberOfTransactionsPerUnistream s event).1) where
  log_eq := by rw [step_log, h.log_eq, broadcastTxs_append]
  reads := by
    obtain ⟨read, hread, hsub⟩ := h.reads
    obtain ⟨batch, k, hfwd, hread', -⟩ :=
      step_forwarded showAddr capacity numberOfTransactionsPerUnistream hread event
    refine ⟨read ++ batch, hread', ?_⟩
    rw [forwardedTxs_append, List.map_append]
    refine hsub.append ?_
    have hpre := @Chunks.flatten_take_chunks_prefix _ _ chunkSizePerStream_pos
      (batch.map SentTransactionInfo.toTxData) k
    simp only [forwardedTxs, hfwd, List.flatMap_map, TpuForwardingRequest.new_transactions,
      List.flatMap_id']
    exact hpre.sublist

theorem forwarding_runPath (proxyAddr : SocketAddr) (events : List ProxyEvent) :
    Forwarding (runPath showAddr capacity numberOfTransactionsPerUnistream proxyAddr events).2
      (runPath showAddr capacity numberOfTransactionsPerUnistream proxyAddr events).1 :=
  runOutputs_invariant (fun s out => Forwarding s out)
    (fun _ _ event h => h.step showAddr capacity numberOfTransactionsPerUnistream event)
    (forwarding_init proxyAddr) events

/-- The proxy path forwards only transactions the channel accepted, each at most as often, and in
the order they were sent. -/
theorem proxy_forwards_broadcast_in_order (proxyAddr : SocketAddr) (events : List ProxyEvent) :
    (forwardedTxs (runPath showAddr capacity numberOfTransactionsPerUnistream proxyAddr events).1).Sublist
      ((broadcastTxs (runPath showAddr capacity numberOfTransactionsPerUnistream proxyAddr
        events).1).map SentTransactionInfo.toTxData) := by
  have h := forwarding_runPath showAddr capacity numberOfTransactionsPerUnistream proxyAddr events
  obtain ⟨read, hread, hsub⟩ := h.reads
  rw [← h.log_eq]
  exact hsub.trans (hread.sublist.map _)

/-- What the proxy path holds, of events that fit the format: the channel's transactions and the
nodes fit it, the task's receiver is within the channel, and every request sent can be sent. -/
structure Fitting (s : ProxyPath) (out : List ProxyOutput) : Prop where
  log_fits : ∀ tx ∈ s.log, tx.Fits
  nodes_fit : TpuNode.Fit s.manager.currentTpuNodes
  reads : ∃ read, TaskReads s.manager.task s.log read
  forwarded : ∀ request ∈ forwardedRequests out, Sendable request

theorem fitting_init (proxyAddr : SocketAddr) : Fitting (init proxyAddr) [] where
  log_fits := by simp [init]
  nodes_fit := by simp [init, QuicProxyConnectionManager.new, TpuNode.Fit]
  reads := ⟨[], rfl⟩
  forwarded := by simp [forwardedRequests]

theorem Fitting.step {s : ProxyPath} {out : List ProxyOutput} (h : Fitting s out)
    {event : ProxyEvent} (hevent : event.fits = true) :
    Fitting (step showAddr capacity numberOfTransactionsPerUnistream s event).2
      (out ++ (step showAddr capacity numberOfTransactionsPerUnistream s event).1) := by
  obtain ⟨read, hread⟩ := h.reads
  obtain ⟨batch, k, hfwd, hread', hk⟩ :=
    step_forwarded showAddr capacity numberOfTransactionsPerUnistream hread event
  have hlog : ∀ tx ∈ (ProxyPath.step showAddr capacity numberOfTransactionsPerUnistream s event).2.log,
      tx.Fits := by
    intro tx htx
    rw [step_log, List.mem_append] at htx
    rcases htx with htx | htx
    · exact h.log_fits tx htx
    · rw [eq_of_mem_broadcastTxs_step showAddr capacity numberOfTransactionsPerUnistream htx] at hevent
      simpa [ProxyEvent.fits] using hevent
  refine ⟨hlog, ?_, ⟨read ++ batch, hread'⟩, ?_⟩
  · rcases currentTpuNodes_step showAddr capacity numberOfTransactionsPerUnistream s event with
      hnodes | hnodes
    · rw [hnodes]
      exact h.nodes_fit
    · rw [hnodes] at hevent
      simpa [ProxyEvent.fits] using hevent
  · intro request hreq
    rw [forwardedRequests_append, List.mem_append] at hreq
    rcases hreq with hreq | hreq
    · exact h.forwarded request hreq
    rw [hfwd, List.mem_map] at hreq
    obtain ⟨chunk, hchunk, rfl⟩ := hreq
    have hk0 : k ≠ 0 := by
      rintro rfl
      simp at hchunk
    have hmem := List.mem_of_mem_take hchunk
    refine sendable_new h.nodes_fit (fun hnil => hk0 (hk hnil)) (Chunks.mem_chunks hmem) ?_
    intro tx htx
    have hbatch : tx ∈ batch.map SentTransactionInfo.toTxData := by
      have hflat := List.mem_flatten.mpr ⟨chunk, hmem, htx⟩
      rwa [Chunks.flatten_chunks] at hflat
    obtain ⟨t, ht, rfl⟩ := List.mem_map.mp hbatch
    exact ⟨t, hlog t (hread'.sublist.subset (List.mem_append_right read ht)), rfl⟩

theorem sendable_runPath (proxyAddr : SocketAddr) (events : List ProxyEvent)
    (hfits : ∀ event ∈ events, event.fits = true) :
    ∀ request ∈ forwardedRequests
      (runPath showAddr capacity numberOfTransactionsPerUnistream proxyAddr events).1,
      Sendable request := by
  have h := @runOutputs_history _ _ _ (step showAddr capacity numberOfTransactionsPerUnistream)
    (fun l => ∀ event ∈ l, event.fits = true)
    (fun l l' h event he => h event (List.mem_append_left l' he))
    (fun s out _ => Fitting s out)
    (fun _ _ _ event h hp => h.step showAddr capacity numberOfTransactionsPerUnistream
      (hp event (by simp)))
    (init proxyAddr) [] [] (fitting_init proxyAddr) events (by simpa using hfits)
  simp only [List.nil_append] at h
  exact h.forwarded

/-- Of events that fit the format, every request the proxy path sends goes to some node with one
to `CHUNK_SIZE_PER_STREAM` transactions, and the proxy's `try_deserialize_from_wire_format` reads it
back. -/
theorem proxy_reads_every_forwarded_request (addrSerde : SocketAddrSerde) (proxyAddr : SocketAddr)
    (events : List ProxyEvent) (hfits : ∀ event ∈ events, event.fits = true) :
    ∀ request ∈ forwardedRequests
        (runPath showAddr capacity numberOfTransactionsPerUnistream proxyAddr events).1,
      request.tpuNodes ≠ [] ∧ request.transactions ≠ [] ∧
        request.transactions.length ≤ chunkSizePerStream ∧
        QuicForwardProxy.TpuForwardingRequest.tryDeserializeFromWireFormat addrSerde
          (request.serialize addrSerde) = .ok request.toProxy := by
  intro request hreq
  have hsend := sendable_runPath showAddr capacity numberOfTransactionsPerUnistream proxyAddr events
    hfits request hreq
  exact ⟨hsend.nodes_ne_nil, hsend.transactions_ne_nil, hsend.transactions_length_le,
    tryDeserializeFromWireFormat_serialize addrSerde hsend.fits hsend.version⟩

/-- The task spawned with a node, and two passes around three transactions. -/
def testForwardEvents : List ProxyEvent :=
  [.updateConnection [testNode], .sendTransaction testTx, .wake testEnvs, .sendTransaction testTx,
    .sendTransaction testTx, .wake testEnvs]

theorem proxy_reads_every_forwarded_request_of_test_events :
    (∀ event ∈ testForwardEvents, event.fits = true) ∧
      ∀ request ∈ forwardedRequests (runPath testShowAddr 2 4 testProxyAddr testForwardEvents).1,
        request.tpuNodes ≠ [] ∧ request.transactions ≠ [] ∧
          request.transactions.length ≤ chunkSizePerStream ∧
          QuicForwardProxy.TpuForwardingRequest.tryDeserializeFromWireFormat SocketAddr.serde
            (request.serialize SocketAddr.serde) = .ok request.toProxy :=
  ⟨by decide, proxy_reads_every_forwarded_request testShowAddr 2 4 SocketAddr.serde testProxyAddr
    testForwardEvents (by decide)⟩

/-- The task's receiver fell behind what the channel keeps: the task has stopped, or still lags. -/
def Stalled (s : ProxyPath) : Prop :=
  ∃ task, s.manager.task = some task ∧ (task.running = true → task.next + capacity < s.log.length)

theorem Stalled.step {s : ProxyPath} (h : Stalled capacity s) (event : ProxyEvent) :
    Stalled capacity (step showAddr capacity numberOfTransactionsPerUnistream s event).2 ∧
      forwardedRequests (step showAddr capacity numberOfTransactionsPerUnistream s event).1 = [] := by
  obtain ⟨task, htask, hlag⟩ := h
  cases event with
  | sendTransaction tx =>
    have halive : s.receiverAlive = task.running := by simp [receiverAlive, htask]
    by_cases hrun : task.running = true
    · -- the channel takes it, and the receiver lags the more
      simp only [ProxyPath.step, halive, hrun, if_true]
      refine ⟨⟨task, htask, fun hr => ?_⟩, rfl⟩
      have hlt := hlag hr
      rw [List.length_append]
      omega
    · simp only [ProxyPath.step, halive, hrun, Bool.false_eq_true, if_false]
      exact ⟨⟨task, htask, hlag⟩, rfl⟩
  | updateConnection connectionsToKeep =>
    simp only [ProxyPath.step, htask]
    exact ⟨⟨task, rfl, hlag⟩, rfl⟩
  | signalShutdown => exact ⟨⟨task, htask, hlag⟩, rfl⟩
  | wake envs =>
    by_cases hrun : task.running = true
    · -- the pass of the task ends it
      obtain ⟨hout, hstop⟩ := QuicProxyConnectionManager.wake_of_lagged showAddr capacity
        numberOfTransactionsPerUnistream (hlag hrun) true s.manager.currentTpuNodes
        s.manager.exitSignal envs
      simp only [ProxyPath.step, htask, hrun, if_true]
      exact ⟨⟨_, rfl, fun hr => absurd hr (by simp [hstop])⟩, by simp [hout, forwardedRequests]⟩
    · simp only [ProxyPath.step, htask, hrun, Bool.false_eq_true, if_false]
      exact ⟨⟨task, htask, hlag⟩, rfl⟩

/-- Once the task's receiver falls behind what the channel keeps, `Lagged` ends the task, and
`simple_thread_started` keeps `update_connection` from spawning another: nothing is forwarded to the
proxy again, whatever happens next. -/
theorem proxy_forwarding_ends_after_lag (s : ProxyPath) (task : ProxyTask)
    (htask : s.manager.task = some task) (hlag : task.next + capacity < s.log.length)
    (events : List ProxyEvent) :
    forwardedRequests
      (runOutputs (step showAddr capacity numberOfTransactionsPerUnistream) s events).1 = [] := by
  have h := runOutputs_invariant (fun s out => Stalled capacity s ∧ forwardedRequests out = [])
    (fun s _ event h => ⟨(h.1.step showAddr capacity numberOfTransactionsPerUnistream event).1, by
      rw [forwardedRequests_append, h.2,
        (h.1.step showAddr capacity numberOfTransactionsPerUnistream event).2]
      rfl⟩)
    (s := s) ⟨⟨task, htask, fun _ => hlag⟩, rfl⟩ events
  exact h.2

/-- The task spawned, and three transactions sent before its first pass. -/
def testLagEvents : List ProxyEvent :=
  [.updateConnection [testNode], .sendTransaction testTx, .sendTransaction testTx,
    .sendTransaction testTx]

theorem proxy_forwarding_ends_after_lag_of_test_events :
    (runPath testShowAddr 2 4 testProxyAddr testLagEvents).2.manager.task =
        some ⟨0, AutoReconnect.new testProxyAddr, true⟩ ∧
      0 + 2 < (runPath testShowAddr 2 4 testProxyAddr testLagEvents).2.log.length ∧
      forwardedRequests (runOutputs (step testShowAddr 2 4)
        (runPath testShowAddr 2 4 testProxyAddr testLagEvents).2
        [.wake testEnvs, .sendTransaction testTx, .wake testEnvs]).1 = [] :=
  ⟨by decide, by decide,
    proxy_forwarding_ends_after_lag testShowAddr 2 4 _ ⟨0, AutoReconnect.new testProxyAddr, true⟩
      (by decide) (by decide) _⟩

/-- With room for the three transactions in the channel, the same pass forwards them, in one
request. -/
example : (runOutputs (step testShowAddr 4 4) (runPath testShowAddr 4 4 testProxyAddr testLagEvents).2
    [.wake testEnvs]).1.length = 1 := by
  decide +kernel

end Runs

end ProxyPath

end LiteRpc
