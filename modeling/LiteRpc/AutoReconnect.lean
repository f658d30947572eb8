import LiteRpc.Lib.Streak
import LiteRpc.Lib.RunExcept
import LiteRpc.ProxyRequestFormat

/-!
The connection of the forward proxy to one TPU node, with automatic reconnect
(`quic-forward-proxy/src/quinn_auto_reconnect.rs`; `services/src/tpu_utils/quinn_auto_reconnect.rs`
is a copy without `ShuttingDown` and `force_shutdown`). `refresh` keeps an open connection and
otherwise connects again. A connection attempt that times out is a failed attempt; the one that
fails with `MAX_RETRY_ATTEMPTS` failed attempts behind it makes the error permanent. Any other
connection error panics. `force_shutdown` ends the connection for good.

A connection is named by its stable id. Whether it has been closed, what connecting gives and what
a send on the connection gives come from the network, as arguments; so does the `Display` text of
the target address.
-/

namespace LiteRpc

namespace QuicForwardProxy

open Streak

/-- `ConnectionState`. -/
inductive ConnectionState where
  | notConnected
  | connection (conn : Nat)
  | permanentError
  | failedAttempt (attempts : Nat)
  | shuttingDown
deriving DecidableEq, Repr

def maxRetryAttempts : Nat := 10

/-- What connecting gives: `connect` failing at once, or the awaited connection, a timeout or
another error. -/
inductive ConnectResult where
  | connectError (message : String)
  | ok (conn : Nat)
  | timedOut
  | error (message : String)
deriving DecidableEq, Repr

/-- A timed-out attempt, the one kind of failure `create_connection` returns. -/
def ConnectResult.isTimedOut : ConnectResult → Bool
  | timedOut => true
  | _ => false

/-- A result `create_connection` returns on, without a panic. -/
def ConnectResult.returns : ConnectResult → Bool
  | ok _ | timedOut => true
  | connectError _ | error _ => false

/-- What the network answers to one `refresh`: whether the current connection has a close reason,
and what a connection attempt gives. -/
structure RefreshEnv where
  closed : Bool
  connect : ConnectResult
deriving DecidableEq, Repr

/-- `AutoReconnect`, without its endpoint. -/
structure AutoReconnect where
  current : ConnectionState
  targetAddress : SocketAddr
deriving DecidableEq

namespace AutoReconnect

variable (showAddr : SocketAddr → String)

def new (targetAddress : SocketAddr) : AutoReconnect := ⟨.notConnected, targetAddress⟩

def isPermanentDead (self : AutoReconnect) : Bool :=
  match self.current with
  | .permanentError => true
  | _ => false

/-- `create_connection`: the connection, `None` on a timeout, a panic on any other error. -/
def createConnection (self : AutoReconnect) (result : ConnectResult) : Except String (Option Nat) :=
  match result with
  | .connectError e => .error ("handshake: " ++ e)
  | .ok conn => .ok (some conn)
  | .timedOut => .ok none
  | .error e =>
    .error ("Connection to " ++ showAddr self.targetAddress ++ " failed with unexpected error: " ++ e)

/-- `refresh`. The read-locked check of an open connection comes to the same as the write-locked
one, and is left out. -/
def refresh (self : AutoReconnect) (env : RefreshEnv) : Except String AutoReconnect :=
  match self.current with
  | .connection _ =>
    if env.closed then do
      match ← self.createConnection showAddr env.connect with
      | some newConnection => pure { self with current := .connection newConnection }
      | none => pure { self with current := .failedAttempt 1 }
    else pure self
  | .notConnected => do
    match ← self.createConnection showAddr env.connect with
    | some newConnection => pure { self with current := .connection newConnection }
    | none => pure { self with current := .failedAttempt 1 }
  | .permanentError => pure self
  | .failedAttempt attempts => do
    match ← self.createConnection showAddr env.connect with
    | some newConnection => pure { self with current := .connection newConnection }
    | none =>
      if attempts < maxRetryAttempts then pure { self with current := .failedAttempt (attempts + 1) }
      else pure { self with current := .permanentError }
  | .shuttingDown => pure self

/-- `refresh_and_get`: the connection, or the error it bails with; a panic of `refresh` outside. -/
def refreshAndGet (self : AutoReconnect) (env : RefreshEnv) :
    Except String (Except String Nat × AutoReconnect) := do
  let self ← self.refresh showAddr env
  match self.current with
  | .notConnected => pure (.error "not connected", self)
  | .connection conn => pure (.ok conn, self)
  | .permanentError => pure (.error "permanent error", self)
  | .failedAttempt _ => pure (.error "failed connection attempt", self)
  | .shuttingDown => pure (.error "shutting down", self)

/-- What the network answers to one `send_uni`: to its refresh, and to opening, writing and
finishing the stream. -/
structure SendEnv where
  refresh : RefreshEnv
  stream : Except String Unit
deriving DecidableEq, Repr

/-- `send_uni`: the result of the send, and the connection after it. -/
def sendUni (self : AutoReconnect) (env : SendEnv) : Except String (Except String Unit × AutoReconnect) := do
  let (conn, self) ← self.refreshAndGet showAddr env.refresh
  match conn with
  | .error e => pure (.error e, self)
  | .ok _ => pure (env.stream, self)

/-- `force_shutdown`. -/
def forceShutdown (self : AutoReconnect) : AutoReconnect := { self with current := .shuttingDown }

/-- `refresh` calls `create_connection`: on anything but an open connection and the two states
that end the connection. -/
def connects : ConnectionState → Bool → Bool
  | .connection _, closed => closed
  | .notConnected, _ => true
  | .permanentError, _ => false
  | .failedAttempt _, _ => true
  | .shuttingDown, _ => false

/-- The attempt a refresh makes. -/
def attempt? (self : AutoReconnect) (env : RefreshEnv) : Option ConnectResult :=
  if connects self.current env.closed then some env.connect else none

/-- The state after an attempt that does not panic: the new connection, or one more failed
attempt, up to the permanent error. -/
def afterAttempt : ConnectionState → Option Nat → ConnectionState
  | _, some newConnection => .connection newConnection
  | .failedAttempt attempts, none =>
    if attempts < maxRetryAttempts then .failedAttempt (attempts + 1) else .permanentError
  | _, none => .failedAttempt 1

theorem refresh_of_not_connects {self : AutoReconnect} {env : RefreshEnv}
    (h : connects self.current env.closed = false) : self.refresh showAddr env = .ok self := by
  unfold refresh
  cases hc : self.current <;> simp_all [connects]

theorem refresh_of_connects {self : AutoReconnect} {env : RefreshEnv}
    (h : connects self.current env.closed = true) :
    self.refresh showAddr env =
      (self.createConnection showAddr env.connect).map
        fun conn => { self with current := afterAttempt self.current conn } := by
  unfold refresh
  cases hc : self.current with
  | connection conn =>
    simp only [connects, hc] at h
    simp only [h, if_true]
    cases self.createConnection showAddr env.connect with
    | error e => rfl
    | ok newConnection => cases newConnection <;> rfl
  | notConnected =>
    cases self.createConnection showAddr env.connect with
    | error e => rfl
    | ok newConnection => cases newConnection <;> rfl
  | permanentError => simp [connects, hc] at h
  | failedAttempt attempts =>
    cases self.createConnection showAddr env.connect with
    | error e => rfl
    | ok newConnection =>
      cases newConnection with
      | none =>
        show _ = Except.ok _
        simp only [afterAttempt]
        split_ifs <;> rfl
      | some conn => rfl
  | shuttingDown => simp [connects, hc] at h

theorem createConnection_ok_iff {self : AutoReconnect} {result : ConnectResult} :
    (∃ conn, self.createConnection showAddr result = .ok conn) ↔ result.returns := by
  cases result <;> simp [createConnection, ConnectResult.returns]

theorem createConnection_eq_ok {self : AutoReconnect} {result : ConnectResult} {conn : Option Nat}
    (h : self.createConnection showAddr result = .ok conn) :
    (result.isTimedOut ∧ conn = none) ∨ (result.isTimedOut = false ∧ conn.isSome) := by
  cases result <;> simp only [createConnection, reduceCtorEq, Except.ok.injEq] at h <;>
    simp [ConnectResult.isTimedOut, ← h]

/-- A refresh with the attempt it makes. -/
def refreshAttempt (self : AutoReconnect) (env : RefreshEnv) :
    Except String (List ConnectResult × AutoReconnect) := do
  let next ← self.refresh showAddr env
  pure ((self.attempt? env).toList, next)

/-- What the attempts made so far say of the state a run of refreshes from `new` reaches: the
failed attempts in a row are counted, and the error is permanent once one more failed. -/
def AttemptsInv (attempts : List ConnectResult) : ConnectionState → Prop
  | .notConnected => attempts = []
  | .connection _ => streak ConnectResult.isTimedOut attempts = 0 ∧
      ¬ HasRun ConnectResult.isTimedOut (maxRetryAttempts + 1) attempts
  | .failedAttempt n => streak ConnectResult.isTimedOut attempts = n ∧ 1 ≤ n ∧
      n ≤ maxRetryAttempts ∧ ¬ HasRun ConnectResult.isTimedOut (maxRetryAttempts + 1) attempts
  | .permanentError => HasRun ConnectResult.isTimedOut (maxRetryAttempts + 1) attempts
  | .shuttingDown => False

theorem AttemptsInv.streak_le {attempts : List ConnectResult} {state : ConnectionState}
    (h : AttemptsInv attempts state) (hstate : state ≠ .permanentError) :
    streak ConnectResult.isTimedOut attempts ≤ maxRetryAttempts ∧
      ¬ HasRun ConnectResult.isTimedOut (maxRetryAttempts + 1) attempts := by
  cases state with
  | notConnected =>
    rw [show attempts = [] from h]
    exact ⟨Nat.zero_le _, not_hasRun_nil (Nat.succ_pos _)⟩
  | connection conn => exact ⟨h.1 ▸ Nat.zero_le _, h.2⟩
  | failedAttempt n => exact ⟨h.1 ▸ h.2.2.1, h.2.2.2⟩
  | permanentError => exact absurd rfl hstate
  | shuttingDown => exact absurd h id

theorem attemptsInv_first_failure {attempts : List ConnectResult} {result : ConnectResult}
    (hzero : streak ConnectResult.isTimedOut attempts = 0)
    (hrun : ¬ HasRun ConnectResult.isTimedOut (maxRetryAttempts + 1) attempts)
    (htimed : result.isTimedOut) : AttemptsInv (attempts ++ [result]) (.failedAttempt 1) := by
  have hstreak : streak ConnectResult.isTimedOut (attempts ++ [result]) = 1 := by
    rw [streak_concat, if_pos htimed, hzero]
  refine ⟨hstreak, le_refl 1, by decide, ?_⟩
  rw [hasRun_concat_iff, not_or, hstreak]
  exact ⟨hrun, by decide⟩

theorem attemptsInv_afterAttempt {attempts : List ConnectResult} {state : ConnectionState}
    (h : AttemptsInv attempts state) (hconnects : state ≠ .permanentError ∧ state ≠ .shuttingDown)
    {result : ConnectResult} {conn : Option Nat}
    (hresult : (result.isTimedOut ∧ conn = none) ∨ (result.isTimedOut = false ∧ conn.isSome)) :
    AttemptsInv (attempts ++ [result]) (afterAttempt state conn) := by
  obtain ⟨hle, hrun⟩ := h.streak_le hconnects.1
  rcases hresult with ⟨htimed, rfl⟩ | ⟨hok, hsome⟩
  · cases state with
    | failedAttempt n =>
      obtain ⟨hn, -⟩ := h
      have hstreak : streak ConnectResult.isTimedOut (attempts ++ [result]) = n + 1 := by
        rw [streak_concat, if_pos htimed, hn]
      simp only [afterAttempt]
      split_ifs with hlt
      · -- one more failed attempt, still within the allowed ones
        refine ⟨hstreak, by omega, hlt, ?_⟩
        rw [hasRun_concat_iff, not_or, hstreak]
        exact ⟨hrun, by omega⟩
      · -- the attempt after the last one allowed: eleven in a row
        exact hasRun_of_le_streak (by rw [hstreak]; omega)
    | notConnected =>
      rw [show attempts = [] from h] at hrun ⊢
      exact attemptsInv_first_failure rfl hrun htimed
    | connection _ => exact attemptsInv_first_failure h.1 hrun htimed
    | permanentError => exact absurd rfl hconnects.1
    | shuttingDown => exact absurd rfl hconnects.2
  · obtain ⟨newConnection, rfl⟩ := Option.isSome_iff_exists.mp hsome
    have hstreak : streak ConnectResult.isTimedOut (attempts ++ [result]) = 0 := by
      rw [streak_concat, hok, if_neg Bool.false_ne_true]
    refine ⟨hstreak, ?_⟩
    rw [hasRun_concat_iff, not_or, hstreak]
    exact ⟨hrun, by decide⟩

theorem AttemptsInv.refresh {attempts : List ConnectResult} {self next : AutoReconnect}
    {env : RefreshEnv} (h : AttemptsInv attempts self.current)
    (hok : self.refresh showAddr env = .ok next) :
    AttemptsInv (attempts ++ (self.attempt? env).toList) next.current := by
  unfold attempt?
  cases hc : connects self.current env.closed
  · rw [refresh_of_not_connects showAddr hc] at hok
    cases hok
    simpa using h
  · rw [refresh_of_connects showAddr hc] at hok
    cases hconn : self.createConnection showAddr env.connect with
    | error e => rw [hconn] at hok; cases hok
    | ok conn =>
      rw [hconn] at hok
      cases hok
      have hends : self.current ≠ .permanentError ∧ self.current ≠ .shuttingDown := by
        constructor <;> intro hstate <;> rw [hstate] at hc <;> cases hc
      exact attemptsInv_afterAttempt h hends (createConnection_eq_ok showAddr hconn)

theorem refresh_eq_ok_of_returns {self : AutoReconnect} {env : RefreshEnv}
    (henv : env.connect.returns) :
    ∃ next, self.refresh showAddr env = .ok next := by
  cases hc : connects self.current env.closed
  · exact ⟨self, refresh_of_not_connects showAddr hc⟩
  · obtain ⟨conn, hconn⟩ := (createConnection_ok_iff showAddr).mpr henv
    rw [refresh_of_connects showAddr hc, hconn]
    exact ⟨_, rfl⟩

/-- Refreshing one after the other from a new connection, when no attempted connection fails
otherwise than by timing out: the refreshes return, the failed attempts in a row are counted,
and the connection is dead for good exactly when one more than `MAX_RETRY_ATTEMPTS` attempts in a
row timed out. -/
theorem auto_reconnect_dead_after_eleven_timeouts (targetAddress : SocketAddr)
    (envs : List RefreshEnv)
    (henvs : ∀ env ∈ envs, env.connect.returns) :
    ∃ attempts next,
      StepSystem.runOutputsE (refreshAttempt showAddr) (new targetAddress) envs =
        .ok (attempts, next) ∧
      envs.foldlM (refresh showAddr) (new targetAddress) = .ok next ∧
      (next.isPermanentDead ↔ HasRun ConnectResult.isTimedOut (maxRetryAttempts + 1) attempts) ∧
      ∀ n, next.current = .failedAttempt n → n = streak ConnectResult.isTimedOut attempts := by
  obtain ⟨⟨attempts, next⟩, hrun, hinv⟩ :=
    @StepSystem.runOutputsE_of_invariant String AutoReconnect RefreshEnv ConnectResult
      (refreshAttempt showAddr) (fun env : RefreshEnv => env.connect.returns)
      (fun (s : AutoReconnect) (attempts : List ConnectResult) (_ : List RefreshEnv) =>
        AttemptsInv attempts s.current)
      (fun s attempts _ env henv hs => by
        obtain ⟨next, hnext⟩ := @refresh_eq_ok_of_returns showAddr s env henv
        refine ⟨((s.attempt? env).toList, next), ?_, hs.refresh showAddr hnext⟩
        unfold refreshAttempt
        rw [hnext]
        rfl)
      (new targetAddress) [] [] (show AttemptsInv [] (new targetAddress).current from rfl) envs henvs
  have hfold : envs.foldlM (refresh showAddr) (new targetAddress) = .ok next := by
    rw [← @StepSystem.runOutputsE_map_snd String AutoReconnect RefreshEnv ConnectResult
      (refreshAttempt showAddr) (refresh showAddr) (fun s env => by
      unfold refreshAttempt
      cases s.refresh showAddr env <;> rfl), hrun]
    rfl
  simp only [List.nil_append] at hinv
  refine ⟨attempts, next, hrun, hfold, ?_, fun n hn => ?_⟩
  · cases hstate : next.current with
    | permanentError =>
      rw [hstate] at hinv
      exact ⟨fun _ => hinv, fun _ => by simp [isPermanentDead, hstate]⟩
    | shuttingDown => rw [hstate] at hinv; exact absurd hinv id
    | _ =>
      rw [hstate] at hinv
      have hrun := (hinv.streak_le (by simp)).2
      simpa [isPermanentDead, hstate] using hrun
  · rw [hn] at hinv
    exact hinv.1.symm

/-- A target address for tests. -/
def testTarget : SocketAddr := .v4 ⟨⟨⟨[127, 0, 0, 9], rfl⟩⟩, 8009⟩

/-- Ten timeouts and a connection, closed and connected again, then closed and eleven timeouts. -/
def testRefreshEnvs : List RefreshEnv :=
  List.replicate 10 ⟨false, .timedOut⟩ ++ [⟨false, .ok 7⟩, ⟨true, .ok 8⟩] ++
    List.replicate 11 ⟨true, .timedOut⟩

theorem auto_reconnect_dead_after_eleven_timeouts_of_test_envs :
    (∀ env ∈ testRefreshEnvs, env.connect.returns) ∧
      ∃ attempts next,
        StepSystem.runOutputsE (refreshAttempt fun _ => "127.0.0.9:8009") (new testTarget)
          testRefreshEnvs = .ok (attempts, next) ∧
        testRefreshEnvs.foldlM (refresh fun _ => "127.0.0.9:8009") (new testTarget) = .ok next ∧
        (next.isPermanentDead ↔
          HasRun ConnectResult.isTimedOut (maxRetryAttempts + 1) attempts) ∧
        ∀ n, next.current = .failedAttempt n → n = streak ConnectResult.isTimedOut attempts :=
  ⟨by decide, auto_reconnect_dead_after_eleven_timeouts _ testTarget testRefreshEnvs (by decide)⟩

example : testRefreshEnvs.foldlM (refresh fun _ => "127.0.0.9:8009") (new testTarget) =
    .ok ⟨.permanentError, testTarget⟩ ∧
    (testRefreshEnvs.take 12).foldlM (refresh fun _ => "127.0.0.9:8009") (new testTarget) =
      .ok ⟨.connection 8, testTarget⟩ := by
  decide

end AutoReconnect

end QuicForwardProxy

end LiteRpc
