import LiteRpc.Lib.Aggregate
import LiteRpc.Lib.Run
import LiteRpc.LeaderSchedule
import LiteRpc.ProxyRequestFormat

/-!
The connections of the TPU service to the next leaders, on the direct QUIC path
(`services/src/tpu_utils/tpu_service.rs`, `tpu_connection_manager.rs`). On each slot notification,
`update_quic_connections` asks the leader schedule for the leaders from four slots before the
processed slot to `fanout_slots` slots after the estimated one, looks up their TPU addresses in the
cluster info, and hands the leaders with an address, on their QUIC port, to
`TpuConnectionManager::update_connections`. That starts a listening task for each identity
without a connection, and sends the exit notification to the tasks of the identities it no longer
keeps.

A listening task is seen from outside by its start and its exit (`ConnectionEvent`); what it does
in between (the transaction heap, the connection pool) is not modelled. A notification carries what
the leader fetcher and the cluster info answer at that moment (`TpuTick`). The path through the
forward proxy (`QuicProxyConnectionManager`) is not modelled.
-/

namespace LiteRpc

/-- `QUIC_PORT_OFFSET` of the Solana SDK. -/
def quicPortOffset : UInt16 := 6

namespace SocketAddr

def port : SocketAddr → UInt16
  | v4 addr => addr.port
  | v6 addr => addr.port

def setPort (addr : SocketAddr) (port : UInt16) : SocketAddr :=
  match addr with
  | v4 addr => v4 { addr with port }
  | v6 addr => v6 { addr with port }

end SocketAddr

/-- `ContactInfo` of a cluster node, with the field read here. -/
structure ContactInfo where
  tpu : Option SocketAddr

/-- `TpuServiceConfig`, with the field read here. -/
structure TpuServiceConfig where
  fanoutSlots : Nat

/-- An `ActiveConnection` by the identity and the address its listening task connects to. -/
structure ActiveConnection where
  identity : Pubkey
  tpuAddress : SocketAddr
deriving DecidableEq

/-- What `update_connections` does to a listening task: `start_listening` on a new connection, or
`exit_notifier.send(())` to one it drops. -/
inductive ConnectionEvent where
  | startListening (identity : Pubkey) (tpuAddress : SocketAddr)
  | exitNotifier (identity : Pubkey) (tpuAddress : SocketAddr)
deriving DecidableEq

namespace ConnectionEvent

def identity : ConnectionEvent → Pubkey
  | startListening identity _ => identity
  | exitNotifier identity _ => identity

/-- The connection of one identity after its events, starting from none: a start opens it at its
address and an exit closes it. The result is none when an event does not fit: a start of an open
connection, or an exit of a closed one or of another address. -/
def replay : Option (Option SocketAddr) → ConnectionEvent → Option (Option SocketAddr)
  | some none, startListening _ addr => some (some addr)
  | some (some addr), exitNotifier _ addr' => if addr = addr' then some none else none
  | _, _ => none

end ConnectionEvent

/-- `TpuConnectionManager`, by its map from identities to active connections; its endpoints are not
modelled. -/
structure TpuConnectionManager where
  identityToActiveConnection : List (Pubkey × ActiveConnection)

namespace TpuConnectionManager

def new : TpuConnectionManager := ⟨[]⟩

/-- The active connection of an identity. -/
def connection (self : TpuConnectionManager) (identity : Pubkey) : Option ActiveConnection :=
  self.identityToActiveConnection.lookup identity

/-- One entry of the loop of `update_connections` over `connections_to_keep`: a connection and its
listening task for an identity without one. -/
def addConnection (acc : List ConnectionEvent × List (Pubkey × ActiveConnection))
    (entry : Pubkey × SocketAddr) : List ConnectionEvent × List (Pubkey × ActiveConnection) :=
  let (identity, socketAddr) := entry
  if (acc.2.lookup identity).isNone then
    (acc.1 ++ [.startListening identity socketAddr], acc.2 ++ [(identity, ⟨identity, socketAddr⟩)])
  else acc

/-- `update_connections`: connections for the identities to keep that have none, then `retain` of
the connections to keep, with an exit notification to each one dropped. -/
def updateConnections (self : TpuConnectionManager) (connectionsToKeep : List (Pubkey × SocketAddr)) :
    List ConnectionEvent × TpuConnectionManager :=
  let (started, active) := connectionsToKeep.foldl addConnection ([], self.identityToActiveConnection)
  let keep := fun (identity : Pubkey) => (connectionsToKeep.lookup identity).isSome
  (started ++ (active.filter fun e => !keep e.1).map fun e => .exitNotifier e.1 e.2.tpuAddress,
    ⟨active.filter fun e => keep e.1⟩)

/-- What `update_connections` does to one identity, from its connection and the address it is
kept at: a start of a connection for a kept identity without one, an exit of the connection of an
identity no longer kept, and nothing otherwise, not even for a kept identity whose address
changed. -/
def updateAt (identity : Pubkey) :
    Option ActiveConnection → Option SocketAddr → List ConnectionEvent × Option ActiveConnection
  | none, some addr => ([.startListening identity addr], some ⟨identity, addr⟩)
  | some c, none => ([.exitNotifier identity c.tpuAddress], none)
  | some c, some _ => ([], some c)
  | none, none => ([], none)

theorem updateAt_isSome (identity : Pubkey) (c : Option ActiveConnection) (addr : Option SocketAddr) :
    (updateAt identity c addr).2.isSome = addr.isSome := by
  cases c <;> cases addr <;> rfl

theorem replay_updateAt (identity : Pubkey) (c : Option ActiveConnection) (addr : Option SocketAddr) :
    (updateAt identity c addr).1.foldl ConnectionEvent.replay (some (c.map ActiveConnection.tpuAddress)) =
      some ((updateAt identity c addr).2.map ActiveConnection.tpuAddress) := by
  cases c <;> cases addr <;> simp [updateAt, ConnectionEvent.replay]

theorem addConnection_of_none {acc : List ConnectionEvent × List (Pubkey × ActiveConnection)}
    {identity : Pubkey} (addr : SocketAddr) (h : acc.2.lookup identity = none) :
    addConnection acc (identity, addr) =
      (acc.1 ++ [.startListening identity addr], acc.2 ++ [(identity, ⟨identity, addr⟩)]) := by
  simp [addConnection, h]

theorem addConnection_of_ne_none {acc : List ConnectionEvent × List (Pubkey × ActiveConnection)}
    {identity : Pubkey} (addr : SocketAddr) (h : acc.2.lookup identity ≠ none) :
    addConnection acc (identity, addr) = acc := by
  simp [addConnection, Option.isNone_iff_eq_none, h]

theorem foldl_addConnection (connectionsToKeep : List (Pubkey × SocketAddr))
    (acc : List ConnectionEvent × List (Pubkey × ActiveConnection)) (k : Pubkey) :
    ((connectionsToKeep.foldl addConnection acc).1.filter fun e => e.identity = k) =
        (acc.1.filter fun e => e.identity = k) ++
          (if acc.2.lookup k = none then
            (connectionsToKeep.lookup k).toList.map (.startListening k) else []) ∧
      (connectionsToKeep.foldl addConnection acc).2.lookup k =
        (acc.2.lookup k).or ((connectionsToKeep.lookup k).map fun addr => ⟨k, addr⟩) := by
  induction connectionsToKeep generalizing acc with
  | nil => simp
  | cons entry rest ih =>
    obtain ⟨identity, addr⟩ := entry
    obtain ⟨ih₁, ih₂⟩ := ih (addConnection acc (identity, addr))
    rw [List.foldl_cons, ih₁, ih₂]
    by_cases hnew : acc.2.lookup identity = none
    · -- a new identity: its connection is appended
      rw [addConnection_of_none addr hnew]
      by_cases hk : k = identity
      · subst hk
        simp [hnew, List.lookup_append, ConnectionEvent.identity]
      · simp only [List.lookup_append, GroupMap.lookup_cons_of_ne hk, List.lookup_nil,
          Option.or_none]
        simp [ConnectionEvent.identity, Ne.symm hk]
    · rw [addConnection_of_ne_none addr hnew]
      by_cases hk : k = identity
      · subst hk
        obtain ⟨c, hc⟩ := Option.ne_none_iff_exists'.mp hnew
        simp [hc]
      · simp [GroupMap.lookup_cons_of_ne hk]

theorem nodup_foldl_addConnection (connectionsToKeep : List (Pubkey × SocketAddr))
    (acc : List ConnectionEvent × List (Pubkey × ActiveConnection)) (hacc : (acc.2.map Prod.fst).Nodup) :
    ((connectionsToKeep.foldl addConnection acc).2.map Prod.fst).Nodup := by
  induction connectionsToKeep generalizing acc with
  | nil => exact hacc
  | cons entry rest ih =>
    obtain ⟨identity, addr⟩ := entry
    apply ih
    by_cases hnew : acc.2.lookup identity = none
    · -- the identity is not among the keys yet
      have hnot : identity ∉ acc.2.map Prod.fst := by
        intro hmem
        obtain ⟨e, he, hkey⟩ := List.mem_map.mp hmem
        have hlookup := List.lookup_eq_none_iff.mp hnew e he
        simp [hkey] at hlookup
      rw [addConnection_of_none addr hnew, List.map_append, List.nodup_append]
      refine ⟨hacc, List.nodup_singleton _, ?_⟩
      intro a ha b hb
      simp only [List.map_cons, List.map_nil, List.mem_singleton] at hb
      rw [hb]
      exact fun h => hnot (h ▸ ha)
    · rw [addConnection_of_ne_none addr hnew]
      exact hacc

theorem filter_exits (active : List (Pubkey × ActiveConnection)) (hactive : (active.map Prod.fst).Nodup)
    (keep : Pubkey → Bool) (k : Pubkey) :
    (((active.filter fun e => !keep e.1).map fun e => ConnectionEvent.exitNotifier e.1 e.2.tpuAddress).filter
        fun e => e.identity = k) =
      if keep k then [] else (active.lookup k).toList.map fun c => .exitNotifier k c.tpuAddress := by
  rw [List.filter_map, List.filter_filter]
  have hkey : (((fun e => decide (e.identity = k)) ∘ fun e : Pubkey × ActiveConnection =>
      ConnectionEvent.exitNotifier e.1 e.2.tpuAddress)) = fun e => decide (e.1 = k) := by
    funext e
    rfl
  rw [hkey]
  have hsplit : (active.filter fun e => decide (e.1 = k) && !keep e.1) =
      (active.filter fun e => decide (e.1 = k)).filter fun e => !keep e.1 := by
    rw [List.filter_filter]
    congr 1
    funext e
    exact Bool.and_comm _ _
  rw [hsplit, GroupMap.filter_key_eq_lookup hactive]
  cases hc : active.lookup k <;> cases hk : keep k <;> simp [hk]

theorem updateConnections_at {self : TpuConnectionManager}
    (hself : (self.identityToActiveConnection.map Prod.fst).Nodup)
    (connectionsToKeep : List (Pubkey × SocketAddr)) (k : Pubkey) :
    ((self.updateConnections connectionsToKeep).1.filter fun e => e.identity = k) =
        (updateAt k (self.connection k) (connectionsToKeep.lookup k)).1 ∧
      (self.updateConnections connectionsToKeep).2.connection k =
        (updateAt k (self.connection k) (connectionsToKeep.lookup k)).2 := by
  obtain ⟨hstarted, hlookup⟩ := foldl_addConnection connectionsToKeep ([], self.identityToActiveConnection) k
  have hnodup := nodup_foldl_addConnection connectionsToKeep
    ([], self.identityToActiveConnection) hself
  unfold updateConnections connection
  simp only [List.filter_append]
  rw [hstarted, filter_exits _ hnodup fun identity => (connectionsToKeep.lookup identity).isSome,
    GroupMap.lookup_filter_key fun identity => (connectionsToKeep.lookup identity).isSome, hlookup]
  cases hc : self.identityToActiveConnection.lookup k <;>
    cases ha : connectionsToKeep.lookup k <;> simp [updateAt]

theorem nodup_updateConnections {self : TpuConnectionManager}
    (hself : (self.identityToActiveConnection.map Prod.fst).Nodup)
    (connectionsToKeep : List (Pubkey × SocketAddr)) :
    ((self.updateConnections connectionsToKeep).2.identityToActiveConnection.map Prod.fst).Nodup :=
  ((nodup_foldl_addConnection connectionsToKeep ([], self.identityToActiveConnection)
    hself).sublist (List.filter_sublist.map _))

end TpuConnectionManager

/-- A slot notification as the loop of `TpuService::start` receives it, with what the leader
fetcher and the cluster info answer at that moment. -/
structure TpuTick where
  processedSlot : Nat
  estimatedProcessedSlot : Nat
  getSlotLeaders : Nat → Nat → Except String (List LeaderData)
  clusterNodes : Pubkey → Option ContactInfo

namespace TpuService

variable (config : TpuServiceConfig)

/-- The address of the QUIC port of a TPU address: `QUIC_PORT_OFFSET` added to the port, a `u16`
sum, which wraps in a release build. -/
def quicAddress (addr : SocketAddr) : SocketAddr := addr.setPort (addr.port + quicPortOffset)

/-- The `connections_to_keep` of `update_quic_connections`: the leaders with a TPU address in the
cluster info, with the address of its QUIC port, collected into a hash map. -/
def connectionsToKeep (clusterNodes : Pubkey → Option ContactInfo) (nextLeaders : List LeaderData) :
    List (Pubkey × SocketAddr) :=
  GroupMap.collect (nextLeaders.filterMap fun x =>
    ((clusterNodes x.pubkey).bind ContactInfo.tpu).map fun addr => (x.pubkey, quicAddress addr))

/-- `update_quic_connections`: the leaders from four slots before the processed slot to
`fanout_slots` after the estimated one, handed to `update_connections`; a failed fetch of the
leaders is returned as the error. -/
def updateQuicConnections (getSlotLeaders : Nat → Nat → Except String (List LeaderData))
    (clusterNodes : Pubkey → Option ContactInfo) (manager : TpuConnectionManager)
    (currentSlot estimatedSlot : Nat) : Except String (List ConnectionEvent × TpuConnectionManager) := do
  let fanout := config.fanoutSlots
  let lastSlot := estimatedSlot + fanout
  let currentSlot := currentSlot - 4
  let nextLeaders ← getSlotLeaders currentSlot lastSlot
  pure (manager.updateConnections (connectionsToKeep clusterNodes nextLeaders))

/-- One notification of the loop of `start`, with the events sent so far. -/
def startStep (acc : List ConnectionEvent × TpuConnectionManager) (tick : TpuTick) :
    Except String (List ConnectionEvent × TpuConnectionManager) := do
  let (events, manager) ← updateQuicConnections config tick.getSlotLeaders tick.clusterNodes
    acc.2 tick.processedSlot tick.estimatedProcessedSlot
  pure (acc.1 ++ events, manager)

/-- The loop of `start`: `update_quic_connections` on each notification; its error ends the loop. -/
def start (manager : TpuConnectionManager) (ticks : List TpuTick) :
    Except String (List ConnectionEvent × TpuConnectionManager) :=
  ticks.foldlM (startStep config) ([], manager)

theorem mem_keptLeaders (clusterNodes : Pubkey → Option ContactInfo) (nextLeaders : List LeaderData)
    (k : Pubkey) (v : SocketAddr) :
    (k, v) ∈ nextLeaders.filterMap (fun x =>
        ((clusterNodes x.pubkey).bind ContactInfo.tpu).map fun addr => (x.pubkey, quicAddress addr)) ↔
      (∃ x ∈ nextLeaders, x.pubkey = k) ∧
        ((clusterNodes k).bind ContactInfo.tpu).map quicAddress = some v := by
  simp only [List.mem_filterMap, Option.map_eq_some_iff, Prod.mk.injEq]
  constructor
  · rintro ⟨x, hx, addr, haddr, rfl, rfl⟩
    exact ⟨⟨x, hx, rfl⟩, addr, haddr, rfl⟩
  · rintro ⟨⟨x, hx, rfl⟩, addr, haddr, rfl⟩
    exact ⟨x, hx, addr, haddr, rfl, rfl⟩

theorem lookup_connectionsToKeep (clusterNodes : Pubkey → Option ContactInfo)
    (nextLeaders : List LeaderData) (k : Pubkey) :
    (connectionsToKeep clusterNodes nextLeaders).lookup k =
      if ∃ x ∈ nextLeaders, x.pubkey = k then
        ((clusterNodes k).bind ContactInfo.tpu).map quicAddress
      else none := by
  rw [connectionsToKeep, GroupMap.lookup_collect]
  cases hlast : (GroupMap.valuesOf (nextLeaders.filterMap fun x =>
      ((clusterNodes x.pubkey).bind ContactInfo.tpu).map fun addr => (x.pubkey, quicAddress addr))
        k).getLast? with
  | none =>
    rw [List.getLast?_eq_none_iff] at hlast
    split_ifs with hlead
    · cases haddr : ((clusterNodes k).bind ContactInfo.tpu).map quicAddress with
      | none => rfl
      | some v =>
        have hmem := (mem_keptLeaders clusterNodes nextLeaders k v).mpr ⟨hlead, haddr⟩
        rw [← GroupMap.mem_valuesOf, hlast] at hmem
        exact absurd hmem List.not_mem_nil
    · rfl
  | some v =>
    have hmem := GroupMap.mem_valuesOf.mp (List.mem_of_getLast? hlast)
    obtain ⟨hlead, haddr⟩ := (mem_keptLeaders clusterNodes nextLeaders k v).mp hmem
    rw [if_pos hlead, haddr]

theorem isSome_lookup_connectionsToKeep (clusterNodes : Pubkey → Option ContactInfo)
    (nextLeaders : List LeaderData) (k : Pubkey) :
    ((connectionsToKeep clusterNodes nextLeaders).lookup k).isSome ↔
      (∃ x ∈ nextLeaders, x.pubkey = k) ∧ ((clusterNodes k).bind ContactInfo.tpu).isSome := by
  rw [lookup_connectionsToKeep]
  split_ifs with hlead
  · rw [Option.isSome_map]
    simp [hlead]
  · simp [hlead]

/-- The leaders `update_quic_connections` asks for on a notification. -/
def fetchLeaders (tick : TpuTick) : Except String (List LeaderData) :=
  tick.getSlotLeaders (tick.processedSlot - 4) (tick.estimatedProcessedSlot + config.fanoutSlots)

theorem updateQuicConnections_of_ok (tick : TpuTick) (manager : TpuConnectionManager)
    {nextLeaders : List LeaderData} (hfetch : fetchLeaders config tick = .ok nextLeaders) :
    updateQuicConnections config tick.getSlotLeaders tick.clusterNodes manager tick.processedSlot
        tick.estimatedProcessedSlot =
      .ok (manager.updateConnections (connectionsToKeep tick.clusterNodes nextLeaders)) := by
  unfold fetchLeaders at hfetch
  simp [updateQuicConnections, hfetch]

/-- What a run of `start` from a new manager has done by `manager`, having sent the events `out`
for the notifications `done`: the events of each identity replay to its connection, and the
connections are those of the leaders of the last window with a TPU address. -/
structure RunInv (manager : TpuConnectionManager) (out : List ConnectionEvent)
    (done : List TpuTick) : Prop where
  nodup : (manager.identityToActiveConnection.map Prod.fst).Nodup
  replay : ∀ k, (out.filter fun e => e.identity = k).foldl ConnectionEvent.replay (some none) =
    some ((manager.connection k).map ActiveConnection.tpuAddress)
  window : ∀ tick ∈ done.getLast?, ∀ nextLeaders, fetchLeaders config tick = .ok nextLeaders →
    ∀ k, (manager.connection k).isSome ↔
      (∃ x ∈ nextLeaders, x.pubkey = k) ∧ ((tick.clusterNodes k).bind ContactInfo.tpu).isSome

theorem runInv_new : RunInv config TpuConnectionManager.new [] [] :=
  ⟨List.nodup_nil, fun _ => rfl, by simp⟩

theorem RunInv.step {manager : TpuConnectionManager} {out : List ConnectionEvent}
    {done : List TpuTick} (h : RunInv config manager out done) (tick : TpuTick)
    {nextLeaders : List LeaderData} (hfetch : fetchLeaders config tick = .ok nextLeaders) :
    RunInv config (manager.updateConnections (connectionsToKeep tick.clusterNodes nextLeaders)).2
      (out ++ (manager.updateConnections (connectionsToKeep tick.clusterNodes nextLeaders)).1)
      (done ++ [tick]) := by
  have hat := TpuConnectionManager.updateConnections_at h.nodup
    (connectionsToKeep tick.clusterNodes nextLeaders)
  refine ⟨TpuConnectionManager.nodup_updateConnections h.nodup _, fun k => ?_, ?_⟩
  · -- the identity's new events continue its replay from its old connection
    rw [List.filter_append, List.foldl_append, h.replay k, (hat k).1, (hat k).2]
    exact TpuConnectionManager.replay_updateAt _ _ _
  · intro last hlast leaders hleaders k
    simp only [List.getLast?_append, List.getLast?_singleton, Option.some_or,
      Option.mem_def, Option.some.injEq] at hlast
    subst hlast
    rw [hfetch, Except.ok.injEq] at hleaders
    subst hleaders
    rw [(hat k).2, TpuConnectionManager.updateAt_isSome, isSome_lookup_connectionsToKeep]

/-- Over any notifications whose leaders are fetched, the loop of `start` from a new manager runs
on, and then: the events of each identity alternate a start and an exit of the same address,
beginning with a start, and end with a start exactly when it has a connection, on the address of
that start; and the identities with a connection are the leaders of the last window that have a TPU
address. -/
theorem tpu_connections_follow_leader_window (ticks : List TpuTick)
    (hfetch : ∀ tick ∈ ticks, ∃ nextLeaders, fetchLeaders config tick = .ok nextLeaders) :
    ∃ out manager, start config TpuConnectionManager.new ticks = .ok (out, manager) ∧
      (∀ k, (out.filter fun e => e.identity = k).foldl ConnectionEvent.replay (some none) =
        some ((manager.connection k).map ActiveConnection.tpuAddress)) ∧
      ∀ tick ∈ ticks.getLast?, ∀ nextLeaders, fetchLeaders config tick = .ok nextLeaders →
        ∀ k, (manager.connection k).isSome ↔
          (∃ x ∈ nextLeaders, x.pubkey = k) ∧ ((tick.clusterNodes k).bind ContactInfo.tpu).isSome := by
  have hinit : (fun (acc : List ConnectionEvent × TpuConnectionManager) done =>
      RunInv config acc.2 acc.1 done) ([], TpuConnectionManager.new) [] := runInv_new config
  have hrun := StepSystem.foldlM_ok_of_invariant_on (startStep config)
    (fun tick => ∃ nextLeaders, fetchLeaders config tick = .ok nextLeaders)
    (fun acc done => RunInv config acc.2 acc.1 done)
    (fun acc done tick ⟨nextLeaders, hnext⟩ hacc => by
      let r := acc.2.updateConnections (connectionsToKeep tick.clusterNodes nextLeaders)
      refine ⟨(acc.1 ++ r.1, r.2), ?_, hacc.step config tick hnext⟩
      simp only [startStep, updateQuicConnections_of_ok config tick acc.2 hnext]
      rfl)
    hinit hfetch
  obtain ⟨⟨out, manager⟩, hstart, hinv⟩ := hrun
  exact ⟨out, manager, hstart, hinv.replay, by simpa using hinv.window⟩

/-- A leader that stays in the window with a TPU address keeps its connection as it was, on the
address it was started on, even when its contact info now gives another address; it is sent no
event. -/
theorem kept_leader_keeps_connection {manager : TpuConnectionManager}
    (hmanager : (manager.identityToActiveConnection.map Prod.fst).Nodup) (tick : TpuTick)
    {nextLeaders : List LeaderData} (hfetch : fetchLeaders config tick = .ok nextLeaders)
    {k : Pubkey} {c : ActiveConnection} (hc : manager.connection k = some c)
    (hlead : ∃ x ∈ nextLeaders, x.pubkey = k)
    (haddr : ((tick.clusterNodes k).bind ContactInfo.tpu).isSome) :
    ∃ events manager', updateQuicConnections config tick.getSlotLeaders tick.clusterNodes manager
        tick.processedSlot tick.estimatedProcessedSlot = .ok (events, manager') ∧
      manager'.connection k = some c ∧ (events.filter fun e => e.identity = k) = [] := by
  rw [updateQuicConnections_of_ok config tick manager hfetch]
  let r := manager.updateConnections (connectionsToKeep tick.clusterNodes nextLeaders)
  refine ⟨r.1, r.2, rfl, ?_⟩
  have hat := TpuConnectionManager.updateConnections_at hmanager
    (connectionsToKeep tick.clusterNodes nextLeaders) k
  obtain ⟨addr, haddr'⟩ := Option.isSome_iff_exists.mp
    ((isSome_lookup_connectionsToKeep tick.clusterNodes nextLeaders k).mpr ⟨hlead, haddr⟩)
  rw [hat.1, hat.2, hc, haddr']
  exact ⟨rfl, rfl⟩

end TpuService

/-- A loopback address on a port. -/
def testTpuAddr (port : UInt16) : SocketAddr := .v4 ⟨⟨⟨[127, 0, 0, 1], rfl⟩⟩, port⟩

def testTpuConfig : TpuServiceConfig := ⟨12⟩

/-- Leader 1 with a TPU address and leader 2 without one, then leader 2 alone, now with an
address. -/
def testTicks : List TpuTick :=
  [⟨10, 12, fun _ _ => .ok [⟨10, ⟨1⟩⟩, ⟨14, ⟨2⟩⟩],
      fun k => if k = ⟨1⟩ then some ⟨some (testTpuAddr 8000)⟩ else some ⟨none⟩⟩,
    ⟨20, 22, fun _ _ => .ok [⟨20, ⟨2⟩⟩], fun _ => some ⟨some (testTpuAddr 9000)⟩⟩]

example : (TpuService.start testTpuConfig TpuConnectionManager.new testTicks).map Prod.fst =
    .ok [.startListening ⟨1⟩ (testTpuAddr 8006), .startListening ⟨2⟩ (testTpuAddr 9006),
      .exitNotifier ⟨1⟩ (testTpuAddr 8006)] := by
  rfl

theorem tpu_connections_follow_leader_window_of_test_ticks :
    (∀ tick ∈ testTicks, ∃ nextLeaders, TpuService.fetchLeaders testTpuConfig tick = .ok nextLeaders) ∧
      ∃ out manager, TpuService.start testTpuConfig TpuConnectionManager.new testTicks =
          .ok (out, manager) ∧
        (∀ k, (out.filter fun e => e.identity = k).foldl ConnectionEvent.replay (some none) =
          some ((manager.connection k).map ActiveConnection.tpuAddress)) ∧
        ∀ tick ∈ testTicks.getLast?, ∀ nextLeaders,
          TpuService.fetchLeaders testTpuConfig tick = .ok nextLeaders →
          ∀ k, (manager.connection k).isSome ↔
            (∃ x ∈ nextLeaders, x.pubkey = k) ∧
              ((tick.clusterNodes k).bind ContactInfo.tpu).isSome := by
  have hfetch : ∀ tick ∈ testTicks, ∃ nextLeaders,
      TpuService.fetchLeaders testTpuConfig tick = .ok nextLeaders := by
    intro tick htick
    simp only [testTicks, List.mem_cons, List.not_mem_nil, or_false] at htick
    rcases htick with rfl | rfl <;> exact ⟨_, rfl⟩
  exact ⟨hfetch, TpuService.tpu_connections_follow_leader_window testTpuConfig testTicks hfetch⟩

theorem kept_leader_keeps_connection_of_test_tick :
    let manager : TpuConnectionManager := ⟨[(⟨2⟩, ⟨⟨2⟩, testTpuAddr 8006⟩)]⟩
    let tick : TpuTick := ⟨20, 22, fun _ _ => .ok [⟨20, ⟨2⟩⟩], fun _ => some ⟨some (testTpuAddr 9000)⟩⟩
    (manager.identityToActiveConnection.map Prod.fst).Nodup ∧
      TpuService.fetchLeaders testTpuConfig tick = .ok [⟨20, ⟨2⟩⟩] ∧
      manager.connection ⟨2⟩ = some ⟨⟨2⟩, testTpuAddr 8006⟩ ∧
      (∃ x ∈ [LeaderData.mk 20 ⟨2⟩], x.pubkey = ⟨2⟩) ∧
      ((tick.clusterNodes ⟨2⟩).bind ContactInfo.tpu).isSome ∧
      ∃ events manager', TpuService.updateQuicConnections testTpuConfig tick.getSlotLeaders
          tick.clusterNodes manager tick.processedSlot tick.estimatedProcessedSlot =
            .ok (events, manager') ∧
        manager'.connection ⟨2⟩ = some ⟨⟨2⟩, testTpuAddr 8006⟩ ∧
        (events.filter fun e => e.identity = ⟨2⟩) = [] :=
  ⟨by decide, rfl, rfl, ⟨_, List.mem_singleton_self _, rfl⟩, rfl,
    TpuService.kept_leader_keeps_connection testTpuConfig (by decide) _ rfl rfl
      ⟨_, List.mem_singleton_self _, rfl⟩ rfl⟩

end LiteRpc
