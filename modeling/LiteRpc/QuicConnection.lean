import LiteRpc.Lib.Semaphore

/-!
The QUIC connections of the TPU client (`services/src/quic_connection.rs` and
`quic_connection_utils.rs`). A `QuicConnection` keeps the connection it made to a TPU node, the
stable id of the last connection that failed with a retryable error, and a count of timeouts.
`get_connection` connects when it has no connection, reconnects with 0-RTT when its connection is
that failed one, and otherwise hands out the connection it has. `send_transaction` gets a
connection, opens a unidirectional stream and writes the transaction on it, each raced against the
exit notification, in a loop of at most `connection_retry_count` passes. A `QuicConnectionPool`
holds the connections to one TPU node with a counting semaphore each, whose permits bound the
streams in flight on the connection.

The network enters as what it answers (`ConnectEnv`, `SendEnv`): the connection an attempt makes,
if any, the outcome of opening a stream and of writing on it, and which `select!` the exit
notification wins, if any. A connection is its `stable_id()`, and whether it is closed is the
parameter `closeReasonIsNone`. A call is one atomic step: the second checks of `get_connection`
under the write lock, which find a connection another task made meanwhile, are not reached.
-/

namespace LiteRpc

/-- A quinn `Connection`, by what the code reads of it: its `stable_id()`. -/
structure Connection where
  stableId : Nat
deriving DecidableEq, Repr

/-- `QuicConnectionError`. -/
inductive QuicConnectionError where
  | timeOut
  | connectionError (retry : Bool)
deriving DecidableEq, Repr

/-- The fields of `QuicConnectionParameters` that the connections, their pool and the task sending
through them read. -/
structure QuicConnectionParameters where
  connectionRetryCount : Nat
  maxNumberOfConnections : Nat
  unistreamsToCreateNewConnectionInPercentage : UInt8
  prioritizationHeapSize : Option Nat
deriving DecidableEq, Repr

/-- What the network answers the attempts of `QuicConnectionUtils::connect`: the connection each
attempt makes, if any, by whether it is a 0-RTT attempt and by its number, and the attempt at
which the exit notification wins the `select!`, if any. -/
structure ConnectEnv where
  attempt : Bool → Nat → Option Connection
  exitAt : Option Nat

namespace QuicConnectionUtils

/-- `connect`: at most `connection_retry_count` attempts, with `make_connection_0rtt` when
`already_connected`; the first connection made is returned, and the exit notification gives up. -/
def connect (alreadyConnected : Bool) (connectionRetryCount : Nat) (env : ConnectEnv) :
    Option Connection :=
  go (List.range connectionRetryCount)
where
  go : List Nat → Option Connection
    | [] => none
    | i :: is =>
      if env.exitAt = some i then none
      else match env.attempt alreadyConnected i with
        | some connection => some connection
        | none => go is

end QuicConnectionUtils

/-- The state a `QuicConnection` shares among its clones: the connection, `last_stable_id`,
`timeout_counters` and `has_connected_once`. -/
structure QuicConnection where
  connection : Option Connection
  lastStableId : Nat
  timeoutCounters : Nat
  hasConnectedOnce : Bool
deriving DecidableEq, Repr

/-- The `select!`s of a pass of `send_transaction` that the exit notification can win. -/
inductive SendSelect where
  | getConnection
  | openUnistream
  | writeAll
deriving DecidableEq, Repr

/-- What one pass of the loop of `send_transaction` meets: the answers to the connection attempts
of `get_connection`, the `select!` the exit notification wins, if any, and the results of
`open_unistream` and of `write_all`. -/
structure SendEnv where
  connect : ConnectEnv
  exitAt : Option SendSelect
  openUnistream : Except QuicConnectionError Unit
  writeAll : Except QuicConnectionError Unit

/-- How a pass of `send_transaction` ends: on the exit notification, without a connection, or
after opening a stream on the connection of `stableId` and writing on it, with the first error. -/
inductive SendPass where
  | exitNotified
  | couldNotConnect
  | sent (stableId : Nat) (result : Except QuicConnectionError Unit)
deriving DecidableEq, Repr

namespace QuicConnection

def new : QuicConnection := ⟨none, 0, 0, false⟩

/-- `is_connected`: a connection without a close reason. -/
def isConnected (self : QuicConnection) (closeReasonIsNone : Connection → Bool) : Bool :=
  match self.connection with
  | some connection => closeReasonIsNone connection
  | none => false

section Calls

variable (connectionRetryCount : Nat)

/-- `get_connection`: the connection to use, and the state it leaves. -/
def getConnection (self : QuicConnection) (env : ConnectEnv) : Option Connection × QuicConnection :=
  match self.connection with
  | some connection =>
    if connection.stableId = self.lastStableId then
      -- the connection failed with a retryable error: reconnect, with 0-RTT
      match QuicConnectionUtils.connect true connectionRetryCount env with
      | some newConn => (some newConn, { self with connection := some newConn })
      | none => (none, self)
    else (some connection, self)
  | none =>
    let connection := QuicConnectionUtils.connect false connectionRetryCount env
    (connection, { self with connection := connection, hasConnectedOnce := true })

/-- The `select!`s on `open_unistream` and then on `write_all` on its stream: the first error, or
`none` when the exit notification wins one of them. -/
def streamResult? (env : SendEnv) : Option (Except QuicConnectionError Unit) :=
  if env.exitAt = some .openUnistream then none
  else match env.openUnistream with
    | .error e => some (.error e)
    | .ok () => if env.exitAt = some .writeAll then none else some env.writeAll

/-- The `match` on the result of the stream: `do_retry`, and the timeout counted. -/
def handleResult (self : QuicConnection) : Except QuicConnectionError Unit → Bool × QuicConnection
  | .ok () => (false, self)
  | .error (.connectionError retry) => (retry, self)
  | .error .timeOut => (false, { self with timeoutCounters := self.timeoutCounters + 1 })

/-- One pass of the loop of `send_transaction`: how it ends, and whether the loop goes on
(`yield`) or breaks (`done`), with the state it leaves. -/
def sendPass (self : QuicConnection) (env : SendEnv) : SendPass × ForInStep QuicConnection :=
  if env.exitAt = some .getConnection then (.exitNotified, .done self) else
  match self.getConnection connectionRetryCount env.connect with
  | (none, self) => (.couldNotConnect, .done self)
  | (some connection, self) =>
    let currentStableId := connection.stableId
    match streamResult? env with
    | none => (.exitNotified, .done self)
    | some result =>
      let (doRetry, self) := self.handleResult result
      if doRetry then
        (.sent currentStableId result, .done { self with lastStableId := currentStableId })
      else if !doRetry then (.sent currentStableId result, .done self)
      else (.sent currentStableId result, .yield self)

/-- The loop of `send_transaction` over the passes `is`, the pass `i` meeting `env i`. -/
def sendLoop (env : Nat → SendEnv) : List Nat → QuicConnection → List SendPass × QuicConnection
  | [], self => ([], self)
  | i :: is, self =>
    match sendPass connectionRetryCount self (env i) with
    | (pass, .done self) => ([pass], self)
    | (pass, .yield self) =>
      let (passes, self) := sendLoop env is self
      (pass :: passes, self)

/-- `send_transaction`: the passes of its loop over `0..connection_retry_count`, and the state it
leaves. -/
def sendTransaction (self : QuicConnection) (env : Nat → SendEnv) : List SendPass × QuicConnection :=
  sendLoop connectionRetryCount env (List.range connectionRetryCount) self

theorem getConnection_connection {self : QuicConnection} {env : ConnectEnv} {connection : Connection}
    (h : (self.getConnection connectionRetryCount env).1 = some connection) :
    (self.getConnection connectionRetryCount env).2.connection = some connection := by
  unfold getConnection at h ⊢
  split at h
  · split_ifs at h ⊢
    · split at h <;> simp_all
    · simp_all
  · exact h

theorem getConnection_of_lastStableId {self : QuicConnection} {connection : Connection}
    (hconn : self.connection = some connection) (hid : connection.stableId = self.lastStableId)
    (env : ConnectEnv) :
    (self.getConnection connectionRetryCount env).1 =
      QuicConnectionUtils.connect true connectionRetryCount env := by
  unfold getConnection
  rw [hconn]
  dsimp only
  rw [if_pos hid]
  split <;> simp_all

theorem lastIf_eq (doRetry : Bool) (pass : SendPass) (retried kept : QuicConnection) :
    (if doRetry then (pass, ForInStep.done retried)
      else if !doRetry then (pass, ForInStep.done kept) else (pass, ForInStep.yield kept)) =
      (pass, .done (if doRetry then retried else kept)) := by
  cases doRetry <;> rfl

theorem sendPass_of_result {self s : QuicConnection} {env : SendEnv} {connection : Connection}
    {result : Except QuicConnectionError Unit} (hexit : env.exitAt ≠ some .getConnection)
    (hget : self.getConnection connectionRetryCount env.connect = (some connection, s))
    (hresult : streamResult? env = some result) :
    sendPass connectionRetryCount self env =
      (.sent connection.stableId result, .done (if (s.handleResult result).1 then
        { (s.handleResult result).2 with lastStableId := connection.stableId }
        else (s.handleResult result).2)) := by
  simp only [sendPass, if_neg hexit, hget, hresult]
  exact lastIf_eq _ _ _ _

theorem sendPass_snd (self : QuicConnection) (env : SendEnv) :
    (sendPass connectionRetryCount self env).2 = .done (sendPass connectionRetryCount self env).2.value := by
  by_cases hexit : env.exitAt = some .getConnection
  · simp only [sendPass, if_pos hexit]
    rfl
  rcases hget : self.getConnection connectionRetryCount env.connect with ⟨_ | connection, s⟩
  · simp only [sendPass, if_neg hexit, hget]
    rfl
  rcases hresult : streamResult? env with _ | result
  · simp only [sendPass, if_neg hexit, hget, hresult]
    rfl
  · rw [sendPass_of_result connectionRetryCount hexit hget hresult]
    rfl

theorem sendPass_retryable {self : QuicConnection} {env : SendEnv} {stableId : Nat}
    (h : (sendPass connectionRetryCount self env).1 = .sent stableId (.error (.connectionError true))) :
    (sendPass connectionRetryCount self env).2.value.connection = some ⟨stableId⟩ ∧
      (sendPass connectionRetryCount self env).2.value.lastStableId = stableId := by
  by_cases hexit : env.exitAt = some .getConnection
  · simp [sendPass, if_pos hexit] at h
  rcases hget : self.getConnection connectionRetryCount env.connect with ⟨_ | connection, s⟩
  · simp [sendPass, if_neg hexit, hget] at h
  have hconn := getConnection_connection connectionRetryCount (congrArg Prod.fst hget)
  rw [hget] at hconn
  rcases hresult : streamResult? env with _ | result
  · simp [sendPass, if_neg hexit, hget, hresult] at h
  rw [sendPass_of_result connectionRetryCount hexit hget hresult] at h ⊢
  simp only [SendPass.sent.injEq] at h
  obtain ⟨rfl, rfl⟩ := h
  -- a retryable error sets `do_retry` and leaves the state as `get_connection` did
  exact ⟨hconn, rfl⟩

theorem sendLoop_cons (env : Nat → SendEnv) (i : Nat) (is : List Nat) (self : QuicConnection) :
    sendLoop connectionRetryCount env (i :: is) self =
      ([(sendPass connectionRetryCount self (env i)).1],
        (sendPass connectionRetryCount self (env i)).2.value) := by
  rw [sendLoop]
  split
  · rename_i pass self' hpass
    rw [hpass]
    rfl
  · rename_i pass self' hpass
    have hdone := sendPass_snd connectionRetryCount self (env i)
    rw [hpass] at hdone
    cases hdone

theorem sendTransaction_eq (self : QuicConnection) (env : Nat → SendEnv) :
    sendTransaction connectionRetryCount self env =
      if connectionRetryCount = 0 then ([], self)
      else ([(sendPass connectionRetryCount self (env 0)).1],
        (sendPass connectionRetryCount self (env 0)).2.value) := by
  unfold sendTransaction
  cases connectionRetryCount with
  | zero => rfl
  | succ n =>
    rw [List.range_succ_eq_map, sendLoop_cons, if_neg (Nat.succ_ne_zero n)]

/-- `send_transaction` makes one pass whatever `connection_retry_count` is, once it is not zero:
a retryable error ends the call as any other outcome does. -/
theorem send_transaction_never_retries (self : QuicConnection) (env : Nat → SendEnv) :
    (sendTransaction connectionRetryCount self env).1.length = min connectionRetryCount 1 := by
  rw [sendTransaction_eq]
  split_ifs with hzero
  · simp [hzero]
  · simp only [List.length_singleton]
    omega

/-- After `send_transaction` fails with a retryable error, the next `get_connection` on the
connection reconnects with 0-RTT: the failed connection is not used again. -/
theorem retryable_error_reconnects (self : QuicConnection) (env : Nat → SendEnv) (stableId : Nat)
    (h : (sendTransaction connectionRetryCount self env).1 =
      [.sent stableId (.error (.connectionError true))]) (env' : ConnectEnv) :
    ((sendTransaction connectionRetryCount self env).2.getConnection connectionRetryCount env').1 =
      QuicConnectionUtils.connect true connectionRetryCount env' := by
  rw [sendTransaction_eq] at h ⊢
  by_cases hzero : connectionRetryCount = 0
  · simp [hzero] at h
  · rw [if_neg hzero] at h ⊢
    obtain ⟨hconn, hid⟩ := sendPass_retryable connectionRetryCount (List.head_eq_of_cons_eq h)
    exact getConnection_of_lastStableId connectionRetryCount hconn hid.symm env'

end Calls

/-- A network that connects at once, as the connection of stable id 7, opens the stream, and fails
the write with a retryable error. -/
def testRetryableEnv : Nat → SendEnv := fun _ =>
  ⟨⟨fun _ _ => some ⟨7⟩, none⟩, none, .ok (), .error (.connectionError true)⟩

/-- A network that makes no connection. -/
def testNoConnection : ConnectEnv := ⟨fun _ _ => none, none⟩

theorem retryable_error_reconnects_of_test_env :
    (sendTransaction 1 new testRetryableEnv).1 = [.sent 7 (.error (.connectionError true))] ∧
      ((sendTransaction 1 new testRetryableEnv).2.getConnection 1 testNoConnection).1 =
        QuicConnectionUtils.connect true 1 testNoConnection :=
  ⟨by decide, retryable_error_reconnects 1 new testRetryableEnv 7 (by decide) testNoConnection⟩

end QuicConnection

/-- `QuicConnectionPool`: the connections, the free permits of the semaphore of each in
`transactions_in_sending_semaphore`, and the free permits above which an open connection is
taken before the others. -/
structure QuicConnectionPool where
  connections : List QuicConnection
  transactionsInSendingSemaphore : List Nat
  thresholdToCreateNewConnection : Nat
  length_eq : transactionsInSendingSemaphore.length = connections.length

namespace QuicConnectionPool

/-- `usize::MAX`, where `saturating_mul` stops. -/
def usizeMax : Nat := 2 ^ 64 - 1

def new (connectionParameters : QuicConnectionParameters)
    (nbConnection maxNumberOfUnistreamConnection : Nat) : QuicConnectionPool where
  connections := List.replicate nbConnection QuicConnection.new
  transactionsInSendingSemaphore := List.replicate nbConnection maxNumberOfUnistreamConnection
  thresholdToCreateNewConnection :=
    min (maxNumberOfUnistreamConnection *
      min connectionParameters.unistreamsToCreateNewConnectionInPercentage.toNat 100) usizeMax / 100
  length_eq := by simp

/-- The connection of a semaphore, `self.connections[index]`. -/
def connection (self : QuicConnectionPool) (index : Nat) : QuicConnection :=
  self.connections.getD index QuicConnection.new

/-- The first loop of `get_permit_and_index`: a connection never connected, or open with more free
permits than the threshold, whose semaphore has a free permit for `try_acquire_owned`. -/
def preferredPermit? (self : QuicConnectionPool) (closeReasonIsNone : Connection → Bool) :
    Option Nat :=
  (List.range self.transactionsInSendingSemaphore.length).find? fun index =>
    let permits := self.transactionsInSendingSemaphore.getD index 0
    let connection := self.connection index
    (!connection.hasConnectedOnce ||
      (connection.isConnected closeReasonIsNone && decide (permits > self.thresholdToCreateNewConnection)))
      && decide (0 < permits)

/-- The `select_all` of `get_permit_and_index` over the semaphores' `acquire_owned`: the first
semaphore with a free permit, none while they all wait. -/
def firstFreePermit? (self : QuicConnectionPool) : Option Nat :=
  self.transactionsInSendingSemaphore.findIdx? (0 < ·)

/-- The panic of `futures::future::select_all` on an empty iterator. -/
def selectAllEmpty : String := "iterator provided to select_all was empty"

/-- `get_permit_and_index`: the semaphore whose permit is taken, none while it waits for one; with
no semaphore at all, `select_all` panics. -/
def getPermitAndIndex (self : QuicConnectionPool) (closeReasonIsNone : Connection → Bool) :
    Except String (Option Nat) :=
  match self.preferredPermit? closeReasonIsNone with
  | some index => .ok (some index)
  | none =>
    if self.transactionsInSendingSemaphore = [] then .error selectAllEmpty
    else .ok self.firstFreePermit?

/-- A permit of semaphore `index` taken. -/
def acquire (self : QuicConnectionPool) (index : Nat) : QuicConnectionPool where
  connections := self.connections
  transactionsInSendingSemaphore := self.transactionsInSendingSemaphore.modify index (· - 1)
  thresholdToCreateNewConnection := self.thresholdToCreateNewConnection
  length_eq := by rw [List.length_modify, self.length_eq]

/-- A permit of semaphore `index` dropped. -/
def release (self : QuicConnectionPool) (index : Nat) : QuicConnectionPool where
  connections := self.connections
  transactionsInSendingSemaphore := self.transactionsInSendingSemaphore.modify index (· + 1)
  thresholdToCreateNewConnection := self.thresholdToCreateNewConnection
  length_eq := by rw [List.length_modify, self.length_eq]

/-- The state of connection `index` after a call on it. -/
def setConnection (self : QuicConnectionPool) (index : Nat) (connection : QuicConnection) :
    QuicConnectionPool where
  connections := self.connections.set index connection
  transactionsInSendingSemaphore := self.transactionsInSendingSemaphore
  thresholdToCreateNewConnection := self.thresholdToCreateNewConnection
  length_eq := by rw [List.length_set, self.length_eq]

@[simp] theorem new_transactionsInSendingSemaphore (connectionParameters : QuicConnectionParameters)
    (nbConnection maxNumberOfUnistreamConnection : Nat) :
    (new connectionParameters nbConnection maxNumberOfUnistreamConnection).transactionsInSendingSemaphore =
      List.replicate nbConnection maxNumberOfUnistreamConnection := rfl

variable (self : QuicConnectionPool) (index : Nat)

@[simp] theorem acquire_transactionsInSendingSemaphore :
    (self.acquire index).transactionsInSendingSemaphore =
      self.transactionsInSendingSemaphore.modify index (· - 1) := rfl

@[simp] theorem release_transactionsInSendingSemaphore :
    (self.release index).transactionsInSendingSemaphore =
      self.transactionsInSendingSemaphore.modify index (· + 1) := rfl

@[simp] theorem setConnection_transactionsInSendingSemaphore (connection : QuicConnection) :
    (self.setConnection index connection).transactionsInSendingSemaphore =
      self.transactionsInSendingSemaphore := rfl

variable {self index} {closeReasonIsNone : Connection → Bool}

theorem getPermitAndIndex_free (h : self.getPermitAndIndex closeReasonIsNone = .ok (some index)) :
    ∃ hi : index < self.transactionsInSendingSemaphore.length,
      0 < self.transactionsInSendingSemaphore[index] := by
  unfold getPermitAndIndex at h
  split at h
  · rename_i index' hpreferred
    cases h
    have hlt := List.mem_range.mp (List.mem_of_find?_eq_some hpreferred)
    have hfree := List.find?_some hpreferred
    simp only [Bool.and_eq_true, decide_eq_true_eq] at hfree
    refine ⟨hlt, ?_⟩
    rw [List.getElem_eq_getD 0]
    exact hfree.2
  · split at h
    · cases h
    · obtain ⟨hi, hfree, -⟩ := List.findIdx?_eq_some_iff_getElem.mp (Except.ok.inj h)
      exact ⟨hi, of_decide_eq_true hfree⟩

theorem getPermitAndIndex_eq_none (h : self.getPermitAndIndex closeReasonIsNone = .ok none) :
    ∀ permits ∈ self.transactionsInSendingSemaphore, permits = 0 := by
  unfold getPermitAndIndex at h
  split at h
  · cases h
  · split at h
    · cases h
    · intro permits hmem
      have hnot := List.findIdx?_eq_none_iff.mp (Except.ok.inj h) permits hmem
      simpa using hnot

theorem getPermitAndIndex_eq_error {panic : String}
    (h : self.getPermitAndIndex closeReasonIsNone = .error panic) :
    self.transactionsInSendingSemaphore = [] := by
  unfold getPermitAndIndex at h
  split at h
  · cases h
  · split at h
    · assumption
    · cases h

end QuicConnectionPool

end LiteRpc
