import LiteRpc.AutoReconnect
import LiteRpc.Lib.Run
import Mathlib.Data.List.Nodup
import Mathlib.Data.Prod.Basic

/-!
The outbound side of the forward proxy (`quic-forward-proxy/src/outbound`). `tx_forwarder` takes
the packets of the inbound side one by one. For a TPU node it has no agent for, it spawns an agent:
`PARALLEL_TPU_CONNECTION_COUNT` connection tasks, each subscribed to one broadcast channel, each
with its own `AutoReconnect` and a `Sharder` that picks the packets of its shard. It then marks the
agent used, at most every 200 ms (`Debouncer`) shuts down the agents idle for more than
`AGENT_SHUTDOWN_IDLE` by their exit signals, and sends the packet on the broadcast channel, with
`expect("send must succeed")`.

A connection task takes the next message of its receiver. It stops on the global exit signal, on
its agent's exit signal when its receiver is empty or its connection dead, on a receive error
(it lagged behind the channel's capacity, or the channel closed), and when its connection is dead
for good. A packet for its node and shard is sent with all the other such packets waiting, one
transaction after the other; the fallback timeout of the batch lets the network decide how many of
the sends complete. A panic of a connection attempt ends the task.

A task's pass up to its sends is one step, and a run interleaves the packets the forwarder
receives, the exit signal and the passes of the tasks. What a send writes to a TPU node is the
output of the run, with the packet and the place in it the transaction comes from.
-/

namespace LiteRpc

namespace QuicForwardProxy

def parallelTpuConnectionCount : Nat := 4

/-- `AGENT_SHUTDOWN_IDLE`, in milliseconds. -/
def agentShutdownIdle : Nat := 2500

/-- The capacity of `broadcast_in`. -/
def broadcastCapacity : Nat := 1024

/-- `Sharder`: the position is below the number of shards, which `new` asserts. -/
structure Sharder where
  nShards : Nat
  pos : Nat
  pos_lt : pos < nShards
deriving DecidableEq

namespace Sharder

def new (pos nShards : Nat) : Except String Sharder :=
  if 0 < nShards then
    if h : pos < nShards then .ok ⟨nShards, pos, h⟩ else .error "out of range"
  else .error "assertion failed: n_shards > 0"

def matching (self : Sharder) (hash : Nat) : Bool := hash % self.nShards == self.pos

theorem pos_eq_of_matching {a b : Sharder} {hash : Nat} (ha : a.matching hash)
    (hb : b.matching hash) (hn : a.nShards = b.nShards) : a.pos = b.pos := by
  simp only [matching, beq_iff_eq] at ha hb
  rw [← ha, ← hb, hn]

end Sharder

/-- `Debouncer`, with its cooldown and the last firing in milliseconds. -/
structure Debouncer where
  cooldownMs : Int
  last : Int
deriving DecidableEq, Repr

namespace Debouncer

def new (cooldownMs : Nat) : Debouncer := ⟨cooldownMs, -1⟩

/-- `can_fire` at `epochNow`, the milliseconds since the Unix epoch. -/
def canFire (self : Debouncer) (epochNow : Int) : Bool × Debouncer :=
  if epochNow - self.last > self.cooldownMs then (true, { self with last := epochNow })
  else (false, self)

end Debouncer

/-- `AgentHandle`; its exit signal is named by its place among all the signals made. -/
structure AgentHandle where
  tpuAddress : SocketAddr
  agentExitSignal : Nat
  lastUsedAt : Nat

/-- A connection task of an agent: its node, shard and agent, the position of its receiver on the
broadcast channel, its connection, and whether it still runs. -/
structure ConnectionTask where
  tpuAddress : SocketAddr
  sharder : Sharder
  agentExitSignal : Nat
  next : Nat
  autoConnection : AutoReconnect
  running : Bool

/-- `tx_forwarder` and the tasks it spawned. -/
structure TxForwarder where
  agents : List (SocketAddr × AgentHandle)
  agentExitSignals : List Bool
  agentShutdownDebouncer : Debouncer
  /-- every packet sent on `broadcast_in`, the first first -/
  broadcast : List ForwardPacket
  tasks : List ConnectionTask
  exitSignal : Bool
  /-- what `tx_forwarder` ended with, its error or its panic; `broadcast_in` is dropped then -/
  exited : Option String

/-- A transaction written to a TPU node: by which task, from which packet of the broadcast channel
and which place in it. -/
structure Sent where
  task : Nat
  packet : Nat
  index : Nat
  tx : List UInt8
deriving DecidableEq, Repr

/-- The transactions of the packet at `k`, with their places. -/
def tagged (k : Nat) (packet : ForwardPacket) : List (Nat × Nat × List UInt8) :=
  packet.transactions.zipIdx.map fun (tx, j) => (k, j, tx)

/-- What `recv` on a receiver gives. -/
inductive RecvResult where
  | ok (k : Nat) (packet : ForwardPacket)
  | lagged
  | closed
  | pending

/-- `recv` on a receiver at `next`: the oldest message kept when it lagged behind, the next one,
the closed channel once the sender is dropped, or nothing yet. -/
def recv (broadcast : List ForwardPacket) (next : Nat) (senderAlive : Bool) : RecvResult × Nat :=
  if next < broadcast.length - broadcastCapacity then (.lagged, broadcast.length - broadcastCapacity)
  else
    match broadcast[next]? with
    | some packet => (.ok next packet, next + 1)
    | none => if senderAlive then (.pending, next) else (.closed, next)

namespace ConnectionTask

variable (showAddr : SocketAddr → String)

/-- The packets a task takes: for its node and of its shard. -/
def takes (task : ConnectionTask) (packet : ForwardPacket) : Bool :=
  packet.tpuAddress == task.tpuAddress && task.sharder.matching packet.shardHash

/-- The `try_recv` loop after a packet: the transactions of the waiting packets the task takes. -/
def batchMore (task : ConnectionTask) (waiting : List (ForwardPacket × Nat)) :
    List (Nat × Nat × List UInt8) :=
  (waiting.filter fun (packet, _) => task.takes packet).flatMap fun (packet, k) => tagged k packet

/-- `send_tx_batch_to_tpu`: the transactions written, one `send_uni` after the other with the
network's answers, until the answers run out at the fallback timeout; a panic ends it. -/
def sendTxBatchToTpu (autoConnection : AutoReconnect) :
    List (Nat × Nat × List UInt8) → List AutoReconnect.SendEnv →
      List (Nat × Nat × List UInt8) × Except String AutoReconnect
  | [], _ => ([], .ok autoConnection)
  | _, [] => ([], .ok autoConnection)
  | item :: batch, env :: envs =>
    match autoConnection.sendUni showAddr env with
    | .error panic => ([], .error panic)
    | .ok (result, autoConnection) =>
      let rest := sendTxBatchToTpu autoConnection batch envs
      ((if result matches .ok _ then [item] else []) ++ rest.1, rest.2)

/-- The task after its loop ends: its connection shut down, its receiver dropped. -/
def stop (task : ConnectionTask) : ConnectionTask :=
  { task with autoConnection := task.autoConnection.forceShutdown, running := false }

/-- One pass of the loop of a connection task, with the broadcast channel, whether its sender is
alive, the two exit signals, and the network's answers to its sends. -/
def wake (task : ConnectionTask) (broadcast : List ForwardPacket) (senderAlive globalExit
    agentExit : Bool) (sends : List AutoReconnect.SendEnv) :
    List (Nat × Nat × List UInt8) × ConnectionTask :=
  let (result, next) := recv broadcast task.next senderAlive
  match result with
  | .pending => ([], task)
  | result =>
    let task := { task with next }
    if globalExit then ([], task.stop)
    else if agentExit && (next == broadcast.length || task.autoConnection.isPermanentDead) then
      ([], task.stop)
    else
      match result with
      | .ok k packet =>
        if packet.tpuAddress != task.tpuAddress then ([], task)
        else if !task.sharder.matching packet.shardHash then ([], task)
        else if task.autoConnection.isPermanentDead then ([], task.stop)
        else
          let batch := tagged k packet ++ task.batchMore ((broadcast.zipIdx).drop next)
          let task := { task with next := broadcast.length }
          match sendTxBatchToTpu showAddr task.autoConnection batch sends with
          | (written, .ok autoConnection) => (written, { task with autoConnection })
          | (written, .error _) => (written, { task with running := false })
      | _ => ([], task.stop)

end ConnectionTask

namespace TxForwarder

variable (showAddr : SocketAddr → String)

def start : TxForwarder := ⟨[], [], Debouncer.new 200, [], [], false, none⟩

/-- The agent `or_insert_with` makes: its exit signal, and its tasks subscribed to the broadcast
channel as it is now. -/
def spawnAgent (self : TxForwarder) (tpuAddress : SocketAddr) (now : Nat) : TxForwarder :=
  let agent := self.agentExitSignals.length
  { self with
    agents := self.agents ++ [(tpuAddress, ⟨tpuAddress, agent, now⟩)]
    agentExitSignals := self.agentExitSignals ++ [false]
    tasks := self.tasks ++ (List.finRange parallelTpuConnectionCount).map fun idx =>
      ⟨tpuAddress, ⟨parallelTpuConnectionCount, idx, idx.isLt⟩, agent, self.broadcast.length,
        AutoReconnect.new tpuAddress, true⟩ }

/-- `AgentHandle::touch`. -/
def touch (self : TxForwarder) (tpuAddress : SocketAddr) (now : Nat) : TxForwarder :=
  { self with
    agents := self.agents.map fun (address, handle) =>
      if address = tpuAddress then (address, { handle with lastUsedAt := now }) else (address, handle) }

/-- The removal of one agent in `cleanup_agents`, and its exit signal. -/
def shutdownAgent (self : TxForwarder) (tpuAddress : SocketAddr) : TxForwarder :=
  match self.agents.lookup tpuAddress with
  | some removedAgent =>
    { self with
      agents := self.agents.filter (·.1 != tpuAddress)
      agentExitSignals := self.agentExitSignals.set removedAgent.agentExitSignal true }
  | none => self

/-- `cleanup_agents`: the agents of the other nodes idle for more than `AGENT_SHUTDOWN_IDLE`. -/
def cleanupAgents (self : TxForwarder) (currentTpuAddress : SocketAddr) (now : Nat) : TxForwarder :=
  let toShutdown := (self.agents.filter fun (tpuAddress, handle) =>
    tpuAddress != currentTpuAddress && decide (now - handle.lastUsedAt > agentShutdownIdle)).map
      Prod.fst
  toShutdown.foldl shutdownAgent self

/-- The message `expect` panics with when no receiver is left. -/
def sendMustSucceed : String := "send must succeed: SendError \x7b .. \x7d"

/-- One pass of the loop of `tx_forwarder` on a packet, `now` and `epochNow` the clocks. The exit
signal is checked before the next receive. -/
def receive (self : TxForwarder) (forwardPacket : ForwardPacket) (now : Nat) (epochNow : Int) :
    TxForwarder :=
  let tpuAddress := forwardPacket.tpuAddress
  let self := if (self.agents.lookup tpuAddress).isSome then self
    else self.spawnAgent tpuAddress now
  let self := self.touch tpuAddress now
  let (fire, agentShutdownDebouncer) := self.agentShutdownDebouncer.canFire epochNow
  let self := { self with agentShutdownDebouncer }
  let self := if fire then self.cleanupAgents tpuAddress now else self
  if self.tasks.any (·.running) then
    let self := { self with broadcast := self.broadcast ++ [forwardPacket] }
    if self.exitSignal then { self with exited := some "exit signal received" } else self
  else { self with exited := some sendMustSucceed }

end TxForwarder

/-- What happens next: a packet from the inbound side at the two clocks, the exit signal, or a
pass of a connection task with the network's answers to its sends. -/
inductive ForwarderEvent where
  | packet (forwardPacket : ForwardPacket) (now : Nat) (epochNow : Int)
  | exit
  | wake (task : Nat) (sends : List AutoReconnect.SendEnv)

namespace TxForwarder

variable (showAddr : SocketAddr → String)

/-- One event and the transactions it writes. -/
def step (self : TxForwarder) : ForwarderEvent → List Sent × TxForwarder
  | .packet forwardPacket now epochNow =>
    if self.exited.isNone then ([], self.receive forwardPacket now epochNow) else ([], self)
  | .exit => ([], { self with exitSignal := true })
  | .wake i sends =>
    match self.tasks[i]? with
    | some task =>
      if task.running then
        let r := task.wake showAddr self.broadcast self.exited.isNone self.exitSignal
          (self.agentExitSignals.getD task.agentExitSignal false) sends
        (r.1.map fun (k, j, tx) => ⟨i, k, j, tx⟩, { self with tasks := self.tasks.set i r.2 })
      else ([], self)
    | none => ([], self)

end TxForwarder

/-- The packet and the place in it of a transaction of a batch. -/
def place (item : Nat × Nat × List UInt8) : Nat × Nat := (item.1, item.2.1)

theorem mem_tagged {k : Nat} {packet : ForwardPacket} {item : Nat × Nat × List UInt8}
    (h : item ∈ tagged k packet) :
    item.1 = k ∧ packet.transactions[item.2.1]? = some item.2.2 := by
  obtain ⟨⟨tx, j⟩, hmem, rfl⟩ := List.mem_map.mp h
  exact ⟨rfl, List.mem_zipIdx_iff_getElem?.mp hmem⟩

theorem nodup_map_place_tagged (k : Nat) (packet : ForwardPacket) :
    ((tagged k packet).map place).Nodup := by
  have hplaces : (tagged k packet).map place =
      (packet.transactions.zipIdx.map Prod.snd).map (Prod.mk k) := by
    simp only [tagged, List.map_map]
    rfl
  rw [hplaces, List.zipIdx_map_snd]
  exact (List.nodup_range' ..).map (Prod.mk_right_injective k)

theorem drop_zipIdx {α : Type} (l : List α) (k n : Nat) :
    (l.zipIdx k).drop n = (l.drop n).zipIdx (k + n) := by
  induction l generalizing k n with
  | nil => simp
  | cons a l ih =>
    cases n with
    | zero => rfl
    | succ n =>
      rw [List.zipIdx_cons, List.drop_succ_cons, List.drop_succ_cons, ih]
      congr 1
      omega

theorem mem_drop_zipIdx {broadcast : List ForwardPacket} {next : Nat}
    {x : ForwardPacket × Nat} (h : x ∈ (broadcast.zipIdx).drop next) :
    next ≤ x.2 ∧ broadcast[x.2]? = some x.1 := by
  rw [drop_zipIdx, Nat.zero_add, List.mem_zipIdx_iff_le_and_getElem?_sub, List.getElem?_drop] at h
  obtain ⟨hle, hget⟩ := h
  rw [Nat.add_sub_cancel' hle] at hget
  exact ⟨hle, hget⟩

theorem nodup_map_snd_drop_zipIdx (broadcast : List ForwardPacket) (next : Nat) :
    (((broadcast.zipIdx).drop next).map Prod.snd).Nodup := by
  rw [drop_zipIdx, List.zipIdx_map_snd]
  exact List.nodup_range' ..

namespace ConnectionTask

variable (showAddr : SocketAddr → String)

theorem mem_batchMore {task : ConnectionTask} {waiting : List (ForwardPacket × Nat)}
    {item : Nat × Nat × List UInt8} (h : item ∈ task.batchMore waiting) :
    ∃ packet, (packet, item.1) ∈ waiting ∧ task.takes packet ∧
      packet.transactions[item.2.1]? = some item.2.2 := by
  obtain ⟨⟨packet, k⟩, hmem, hitem⟩ := List.mem_flatMap.mp h
  obtain ⟨hwaiting, htakes⟩ := List.mem_filter.mp hmem
  obtain ⟨rfl, htx⟩ := mem_tagged hitem
  exact ⟨packet, hwaiting, htakes, htx⟩

theorem nodup_map_place_batchMore (task : ConnectionTask) {waiting : List (ForwardPacket × Nat)}
    (hw : (waiting.map Prod.snd).Nodup) : ((task.batchMore waiting).map place).Nodup := by
  have hfilter : ((waiting.filter fun x => task.takes x.1).map Prod.snd).Nodup :=
    hw.sublist ((List.filter_sublist).map _)
  rw [batchMore, List.map_flatMap, List.nodup_flatMap]
  refine ⟨fun x _ => nodup_map_place_tagged x.2 x.1, ?_⟩
  refine (List.pairwise_map.mp hfilter).imp fun {x y} hxy => ?_
  refine List.disjoint_left.mpr fun a hax hay => ?_
  obtain ⟨ia, hia, rfl⟩ := List.mem_map.mp hax
  obtain ⟨ib, hib, hab⟩ := List.mem_map.mp hay
  have hx := (mem_tagged hia).1
  have hy := (mem_tagged hib).1
  exact hxy (by rw [← hx, ← hy]; exact (congrArg Prod.fst hab).symm)

theorem sendTxBatchToTpu_sublist (autoConnection : AutoReconnect)
    (batch : List (Nat × Nat × List UInt8)) (sends : List AutoReconnect.SendEnv) :
    List.Sublist (sendTxBatchToTpu showAddr autoConnection batch sends).1 batch := by
  induction batch generalizing autoConnection sends with
  | nil => exact List.nil_sublist _
  | cons item batch ih =>
    cases sends with
    | nil => exact List.nil_sublist _
    | cons env envs =>
      simp only [sendTxBatchToTpu]
      cases autoConnection.sendUni showAddr env with
      | error panic => exact List.nil_sublist _
      | ok r =>
        obtain ⟨result, autoConnection⟩ := r
        dsimp only
        split
        · exact (ih autoConnection envs).cons_cons item
        · exact (ih autoConnection envs).cons item

/-- What the writes of a pass can be: distinct places between two positions of the receiver, each a
transaction of a packet the task takes. -/
structure Writes (task : ConnectionTask) (broadcast : List ForwardPacket) (lo hi : Nat)
    (written : List (Nat × Nat × List UInt8)) : Prop where
  nodup : (written.map place).Nodup
  mem : ∀ item ∈ written, lo ≤ item.1 ∧ item.1 < hi ∧ ∃ packet, broadcast[item.1]? = some packet ∧
    task.takes packet ∧ packet.transactions[item.2.1]? = some item.2.2

theorem writes_nil (task : ConnectionTask) (broadcast : List ForwardPacket) (lo hi : Nat) :
    Writes task broadcast lo hi [] :=
  ⟨List.nodup_nil, fun _ h => absurd h List.not_mem_nil⟩

theorem Writes.sublist {task : ConnectionTask} {broadcast : List ForwardPacket} {lo hi : Nat}
    {batch written : List (Nat × Nat × List UInt8)} (h : Writes task broadcast lo hi batch)
    (hsub : List.Sublist written batch) : Writes task broadcast lo hi written :=
  ⟨h.nodup.sublist (hsub.map place), fun item hitem => h.mem item (hsub.subset hitem)⟩

theorem writes_batch {task : ConnectionTask} {broadcast : List ForwardPacket}
    {packet : ForwardPacket} (hget : broadcast[task.next]? = some packet)
    (htakes : task.takes packet) :
    Writes task broadcast task.next broadcast.length
      (tagged task.next packet ++ task.batchMore ((broadcast.zipIdx).drop (task.next + 1))) := by
  have hlt : task.next < broadcast.length := (List.getElem?_eq_some_iff.mp hget).1
  refine ⟨?_, fun item hitem => ?_⟩
  · rw [List.map_append, List.nodup_append]
    refine ⟨nodup_map_place_tagged _ _,
      nodup_map_place_batchMore task (nodup_map_snd_drop_zipIdx _ _), ?_⟩
    intro a ha b hb hab
    obtain ⟨ia, hia, rfl⟩ := List.mem_map.mp ha
    obtain ⟨ib, hib, rfl⟩ := List.mem_map.mp hb
    obtain ⟨packet', hwaiting, -⟩ := mem_batchMore hib
    have hafter := (mem_drop_zipIdx hwaiting).1
    have hfirst := (mem_tagged hia).1
    have hk : (place ia).1 = (place ib).1 := congrArg Prod.fst hab
    change ia.1 = ib.1 at hk
    simp only at hafter
    omega
  · rcases List.mem_append.mp hitem with hfirst | hwaiting
    · obtain ⟨hk, htx⟩ := mem_tagged hfirst
      exact ⟨hk.ge, hk ▸ hlt, packet, hk ▸ hget, htakes, htx⟩
    · obtain ⟨packet', hmem, htakes', htx⟩ := mem_batchMore hwaiting
      obtain ⟨hafter, hget'⟩ := mem_drop_zipIdx hmem
      exact ⟨by simp only at hafter; omega, (List.getElem?_eq_some_iff.mp hget').1, packet', hget',
        htakes', htx⟩

end ConnectionTask

theorem recv_next_le {broadcast : List ForwardPacket} {next : Nat} (senderAlive : Bool)
    (h : next ≤ broadcast.length) :
    next ≤ (recv broadcast next senderAlive).2 ∧ (recv broadcast next senderAlive).2 ≤ broadcast.length := by
  unfold recv
  by_cases hlag : next < broadcast.length - broadcastCapacity
  · rw [if_pos hlag]
    exact ⟨hlag.le, Nat.sub_le _ _⟩
  · rw [if_neg hlag]
    cases hget : broadcast[next]? with
    | some packet => exact ⟨Nat.le_succ _, (List.getElem?_eq_some_iff.mp hget).1⟩
    | none => cases senderAlive <;> exact ⟨le_refl _, h⟩

theorem recv_eq_ok {broadcast : List ForwardPacket} {next : Nat} {senderAlive : Bool} {k : Nat}
    {packet : ForwardPacket} {next' : Nat}
    (h : recv broadcast next senderAlive = (.ok k packet, next')) :
    k = next ∧ next' = next + 1 ∧ broadcast[next]? = some packet := by
  unfold recv at h
  by_cases hlag : next < broadcast.length - broadcastCapacity
  · rw [if_pos hlag] at h
    simp at h
  · rw [if_neg hlag] at h
    cases hget : broadcast[next]? with
    | some packet' =>
      rw [hget] at h
      simp only [Prod.mk.injEq, RecvResult.ok.injEq] at h
      obtain ⟨⟨rfl, rfl⟩, rfl⟩ := h
      exact ⟨rfl, rfl, rfl⟩
    | none =>
      rw [hget] at h
      cases senderAlive <;> simp at h

namespace ConnectionTask

variable (showAddr : SocketAddr → String)

/-- What one pass of a task can do: keep its node, shard and agent, move its receiver forward
within the channel, and write distinct transactions of packets it takes between the two
positions of the receiver. -/
structure Pass (task : ConnectionTask) (broadcast : List ForwardPacket)
    (written : List (Nat × Nat × List UInt8)) (task' : ConnectionTask) : Prop where
  tpuAddress : task'.tpuAddress = task.tpuAddress
  sharder : task'.sharder = task.sharder
  agentExitSignal : task'.agentExitSignal = task.agentExitSignal
  next_le : task.next ≤ task'.next
  le_length : task'.next ≤ broadcast.length
  writes : Writes task broadcast task.next task'.next written

theorem batchMore_with_next (task : ConnectionTask) (next : Nat)
    (waiting : List (ForwardPacket × Nat)) :
    ({ task with next } : ConnectionTask).batchMore waiting = task.batchMore waiting := rfl

theorem pass_move {task : ConnectionTask} {broadcast : List ForwardPacket} {next : Nat}
    (hle : task.next ≤ next) (hle' : next ≤ broadcast.length) :
    Pass task broadcast [] { task with next } :=
  ⟨rfl, rfl, rfl, hle, hle', writes_nil _ _ _ _⟩

theorem Pass.stop {task task' : ConnectionTask} {broadcast : List ForwardPacket}
    (h : Pass task broadcast [] task') : Pass task broadcast [] task'.stop :=
  ⟨h.tpuAddress, h.sharder, h.agentExitSignal, h.next_le, h.le_length, h.writes⟩

theorem wake_pass (task : ConnectionTask) (broadcast : List ForwardPacket)
    (senderAlive globalExit agentExit : Bool) (sends : List AutoReconnect.SendEnv)
    (h : task.next ≤ broadcast.length) :
    Pass task broadcast (task.wake showAddr broadcast senderAlive globalExit agentExit sends).1
      (task.wake showAddr broadcast senderAlive globalExit agentExit sends).2 := by
  obtain ⟨hle, hle'⟩ := recv_next_le senderAlive h
  unfold wake
  rcases hr : recv broadcast task.next senderAlive with ⟨result, next⟩
  rw [hr] at hle hle'
  dsimp only at hle hle' ⊢
  have hmove := pass_move hle hle'
  cases result with
  | pending => exact pass_move (le_refl _) h
  | lagged => dsimp only; split_ifs <;> exact hmove.stop
  | closed => dsimp only; split_ifs <;> exact hmove.stop
  | ok k packet =>
    obtain ⟨rfl, rfl, hget⟩ := recv_eq_ok hr
    dsimp only
    split_ifs with hexit hagent htpu hshard hdead
    · exact hmove.stop
    · exact hmove.stop
    · exact hmove
    · exact hmove
    · exact hmove.stop
    · -- a packet the task takes: the writes are among the transactions of its batch
      have htakes : task.takes packet := by
        simp only [bne_iff_ne, ne_eq, Decidable.not_not, Bool.not_eq_true', Bool.not_eq_false]
          at htpu hshard
        simp [takes, htpu, hshard]
      have hwrites := writes_batch hget htakes
      rw [batchMore_with_next]
      have hsub := sendTxBatchToTpu_sublist showAddr task.autoConnection
        (tagged task.next packet ++ task.batchMore ((broadcast.zipIdx).drop (task.next + 1))) sends
      rcases hsend : sendTxBatchToTpu showAddr task.autoConnection
        (tagged task.next packet ++ task.batchMore ((broadcast.zipIdx).drop (task.next + 1))) sends
        with ⟨written, _ | autoConnection⟩
      all_goals
        rw [hsend] at hsub
        exact ⟨rfl, rfl, rfl, h, le_refl _, hwrites.sublist hsub⟩

theorem takes_eq_of_pass {task task' : ConnectionTask} {broadcast : List ForwardPacket}
    {written : List (Nat × Nat × List UInt8)} (h : Pass task broadcast written task') :
    task'.takes = task.takes := by
  funext packet
  simp only [takes, h.tpuAddress, h.sharder]

end ConnectionTask

theorem getElem?_of_prefix {α : Type} {l l' : List α} (h : l <+: l') {i : Nat} {a : α}
    (hi : l[i]? = some a) : l'[i]? = some a := by
  obtain ⟨rest, rfl⟩ := h
  rw [List.getElem?_append_left (List.getElem?_eq_some_iff.mp hi).1, hi]

namespace TxForwarder

variable (showAddr : SocketAddr → String)

/-- The tasks of new agents, their exit signals from `lo` on and below `hi`, their receivers
within the channel, and the tasks of one agent with shards of their own. -/
structure Spawned (lo hi len : Nat) (spawned : List ConnectionTask) : Prop where
  signal : ∀ task ∈ spawned, lo ≤ task.agentExitSignal ∧ task.agentExitSignal < hi
  nShards : ∀ task ∈ spawned, task.sharder.nShards = parallelTpuConnectionCount
  next_le : ∀ task ∈ spawned, task.next ≤ len
  shard_unique : ∀ (i j : Nat) (ti tj : ConnectionTask), spawned[i]? = some ti →
    spawned[j]? = some tj → ti.agentExitSignal = tj.agentExitSignal →
      ti.sharder.pos = tj.sharder.pos → i = j

theorem spawned_nil (lo hi len : Nat) : Spawned lo hi len [] :=
  ⟨by simp, by simp, by simp, by simp⟩

/-- The forwarder after a pass of its loop: tasks appended, packets appended, exit signals added. -/
structure Grows (self self' : TxForwarder) : Prop where
  tasks : ∃ spawned, self'.tasks = self.tasks ++ spawned ∧
    Spawned self.agentExitSignals.length self'.agentExitSignals.length self'.broadcast.length
      spawned
  broadcast : self.broadcast <+: self'.broadcast
  signals : self.agentExitSignals.length ≤ self'.agentExitSignals.length

theorem grows_of_eq {self self' : TxForwarder} (htasks : self'.tasks = self.tasks)
    (hbroadcast : self.broadcast <+: self'.broadcast)
    (hsignals : self'.agentExitSignals.length = self.agentExitSignals.length) : Grows self self' :=
  ⟨⟨[], by rw [htasks, List.append_nil], spawned_nil _ _ _⟩, hbroadcast, hsignals.ge⟩

theorem Grows.frame {self mid self' : TxForwarder} (h : Grows self mid)
    (htasks : self'.tasks = mid.tasks) (hbroadcast : mid.broadcast <+: self'.broadcast)
    (hsignals : self'.agentExitSignals.length = mid.agentExitSignals.length) : Grows self self' := by
  obtain ⟨⟨spawned, hmid, hs⟩, hb, hsig⟩ := h
  refine ⟨⟨spawned, by rw [htasks, hmid], ?_⟩, hb.trans hbroadcast, hsignals ▸ hsig⟩
  refine ⟨fun task ht => hsignals ▸ hs.signal task ht, hs.nShards, fun task ht => ?_,
    hs.shard_unique⟩
  exact (hs.next_le task ht).trans hbroadcast.length_le

theorem grows_spawnAgent (self : TxForwarder) (tpuAddress : SocketAddr) (now : Nat) :
    Grows self (self.spawnAgent tpuAddress now) := by
  refine ⟨⟨_, rfl, ?_⟩, List.prefix_refl _, by simp [spawnAgent]⟩
  refine ⟨fun task ht => ?_, fun task ht => ?_, fun task ht => ?_, fun i j ti tj hi hj _ hpos => ?_⟩
  · obtain ⟨idx, -, rfl⟩ := List.mem_map.mp ht
    simp [spawnAgent]
  · obtain ⟨idx, -, rfl⟩ := List.mem_map.mp ht
    rfl
  · obtain ⟨idx, -, rfl⟩ := List.mem_map.mp ht
    exact le_refl _
  · rw [List.getElem?_map, Option.map_eq_some_iff] at hi hj
    obtain ⟨a, ha, rfl⟩ := hi
    obtain ⟨b, hb, rfl⟩ := hj
    have hai := (List.getElem?_eq_some_iff.mp ha).2
    have hbj := (List.getElem?_eq_some_iff.mp hb).2
    rw [List.getElem_finRange] at hai hbj
    rw [← hai, ← hbj] at hpos
    simpa using hpos

theorem shutdownAgent_frame (self : TxForwarder) (tpuAddress : SocketAddr) :
    (self.shutdownAgent tpuAddress).tasks = self.tasks ∧
      (self.shutdownAgent tpuAddress).broadcast = self.broadcast ∧
      (self.shutdownAgent tpuAddress).agentExitSignals.length = self.agentExitSignals.length := by
  unfold shutdownAgent
  split
  · exact ⟨rfl, rfl, List.length_set⟩
  · exact ⟨rfl, rfl, rfl⟩

theorem cleanupAgents_frame (self : TxForwarder) (currentTpuAddress : SocketAddr) (now : Nat) :
    (self.cleanupAgents currentTpuAddress now).tasks = self.tasks ∧
      (self.cleanupAgents currentTpuAddress now).broadcast = self.broadcast ∧
      (self.cleanupAgents currentTpuAddress now).agentExitSignals.length =
        self.agentExitSignals.length := by
  unfold cleanupAgents
  generalize (List.map Prod.fst _ : List SocketAddr) = toShutdown
  induction toShutdown generalizing self with
  | nil => exact ⟨rfl, rfl, rfl⟩
  | cons tpuAddress rest ih =>
    obtain ⟨ht, hb, hs⟩ := ih (self.shutdownAgent tpuAddress)
    obtain ⟨ht', hb', hs'⟩ := shutdownAgent_frame self tpuAddress
    exact ⟨ht.trans ht', hb.trans hb', hs.trans hs'⟩

theorem grows_receive (self : TxForwarder) (forwardPacket : ForwardPacket) (now : Nat)
    (epochNow : Int) : Grows self (self.receive forwardPacket now epochNow) := by
  let spawned := if (self.agents.lookup forwardPacket.tpuAddress).isSome then self
    else self.spawnAgent forwardPacket.tpuAddress now
  have hspawned : Grows self spawned := by
    by_cases h : (self.agents.lookup forwardPacket.tpuAddress).isSome
    · simp only [spawned, h, if_true]
      exact grows_of_eq rfl (List.prefix_refl _) rfl
    · simp only [spawned, h, if_false, Bool.false_eq_true]
      exact grows_spawnAgent self _ now
  let touched := spawned.touch forwardPacket.tpuAddress now
  let debounced : TxForwarder := { touched with
    agentShutdownDebouncer := (touched.agentShutdownDebouncer.canFire epochNow).2 }
  let cleaned := if (touched.agentShutdownDebouncer.canFire epochNow).1 then
    debounced.cleanupAgents forwardPacket.tpuAddress now else debounced
  have hcleaned : cleaned.tasks = spawned.tasks ∧ cleaned.broadcast = spawned.broadcast ∧
      cleaned.agentExitSignals.length = spawned.agentExitSignals.length := by
    by_cases hfire : (touched.agentShutdownDebouncer.canFire epochNow).1
    · simp only [cleaned, hfire, if_true]
      exact cleanupAgents_frame debounced _ now
    · simp only [cleaned, hfire, if_false, Bool.false_eq_true]
      exact ⟨rfl, rfl, rfl⟩
  have hreceive : self.receive forwardPacket now epochNow =
      if cleaned.tasks.any (·.running) then
        (if cleaned.exitSignal then
          { cleaned with
            broadcast := cleaned.broadcast ++ [forwardPacket]
            exited := some "exit signal received" }
        else { cleaned with broadcast := cleaned.broadcast ++ [forwardPacket] })
      else { cleaned with exited := some sendMustSucceed } := rfl
  obtain ⟨ht, hb, hs⟩ := hcleaned
  rw [hreceive]
  split_ifs
  · exact hspawned.frame ht (hb ▸ List.prefix_append _ _) hs
  · exact hspawned.frame ht (hb ▸ List.prefix_append _ _) hs
  · exact hspawned.frame ht (hb ▸ List.prefix_refl _) hs

/-- What a run from `start` keeps, with the transactions it wrote: every task's exit signal made,
its shards out of `PARALLEL_TPU_CONNECTION_COUNT`, the tasks of one agent with shards of their own,
every receiver within the channel; every write a transaction of a packet its task takes and has
passed, and no write of a task twice. -/
structure Inv (fw : TxForwarder) (out : List Sent) : Prop where
  signal_lt : ∀ task ∈ fw.tasks, task.agentExitSignal < fw.agentExitSignals.length
  nShards : ∀ task ∈ fw.tasks, task.sharder.nShards = parallelTpuConnectionCount
  shard_unique : ∀ (i j : Nat) (ti tj : ConnectionTask), fw.tasks[i]? = some ti →
    fw.tasks[j]? = some tj → ti.agentExitSignal = tj.agentExitSignal →
      ti.sharder.pos = tj.sharder.pos → i = j
  next_le : ∀ task ∈ fw.tasks, task.next ≤ fw.broadcast.length
  routed : ∀ s ∈ out, ∃ task packet, fw.tasks[s.task]? = some task ∧
    fw.broadcast[s.packet]? = some packet ∧ task.takes packet ∧
      packet.transactions[s.index]? = some s.tx ∧ s.packet < task.next
  nodup : (out.map fun s => (s.task, s.packet, s.index)).Nodup

theorem inv_start : Inv start [] :=
  ⟨by simp [start], by simp [start], by simp [start], by simp [start], by simp, List.nodup_nil⟩

theorem Inv.grows {self self' : TxForwarder} {out : List Sent} (h : Inv self out)
    (hg : Grows self self') : Inv self' out := by
  obtain ⟨⟨spawned, htasks, hs⟩, hb, hsig⟩ := hg
  have hold : ∀ {i : Nat} {task : ConnectionTask}, self.tasks[i]? = some task →
      self'.tasks[i]? = some task := fun hi => by
    rw [htasks, List.getElem?_append_left (List.getElem?_eq_some_iff.mp hi).1, hi]
  refine ⟨fun task ht => ?_, fun task ht => ?_, fun i j ti tj hi hj hsame hpos => ?_,
    fun task ht => ?_, fun s hs' => ?_, h.nodup⟩
  · rw [htasks] at ht
    rcases List.mem_append.mp ht with ht | ht
    · exact (h.signal_lt task ht).trans_le hsig
    · exact (hs.signal task ht).2
  · rw [htasks] at ht
    rcases List.mem_append.mp ht with ht | ht
    · exact h.nShards task ht
    · exact hs.nShards task ht
  · -- old tasks keep their agents; a new agent's signal is none of the old ones
    rw [htasks] at hi hj
    have hlt : ∀ {k : Nat} {t : ConnectionTask}, (self.tasks ++ spawned)[k]? = some t →
        k < self.tasks.length → self.tasks[k]? = some t := fun hk hlt => by
      rwa [List.getElem?_append_left hlt] at hk
    have hge : ∀ {k : Nat} {t : ConnectionTask}, (self.tasks ++ spawned)[k]? = some t →
        self.tasks.length ≤ k → spawned[k - self.tasks.length]? = some t := fun hk hge => by
      rwa [List.getElem?_append_right hge] at hk
    by_cases hilt : i < self.tasks.length <;> by_cases hjlt : j < self.tasks.length
    · exact h.shard_unique i j ti tj (hlt hi hilt) (hlt hj hjlt) hsame hpos
    · have hold := h.signal_lt ti (List.mem_of_getElem? (hlt hi hilt))
      have hnew := (hs.signal tj (List.mem_of_getElem? (hge hj (not_lt.mp hjlt)))).1
      omega
    · have hold := h.signal_lt tj (List.mem_of_getElem? (hlt hj hjlt))
      have hnew := (hs.signal ti (List.mem_of_getElem? (hge hi (not_lt.mp hilt)))).1
      omega
    · have := hs.shard_unique _ _ ti tj (hge hi (not_lt.mp hilt)) (hge hj (not_lt.mp hjlt))
        hsame hpos
      omega
  · rw [htasks] at ht
    rcases List.mem_append.mp ht with ht | ht
    · exact (h.next_le task ht).trans hb.length_le
    · exact hs.next_le task ht
  · obtain ⟨task, packet, htask, hpacket, hrest⟩ := h.routed s hs'
    exact ⟨task, packet, hold htask, getElem?_of_prefix hb hpacket, hrest⟩

theorem map_key_sent (i : Nat) (written : List (Nat × Nat × List UInt8)) :
    ((written.map fun x => (⟨i, x.1, x.2.1, x.2.2⟩ : Sent)).map
      fun s => (s.task, s.packet, s.index)) =
      (written.map place).map (Prod.mk i) := by
  simp only [List.map_map]
  rfl

theorem Inv.wake {self : TxForwarder} {out : List Sent} (h : Inv self out) {i : Nat}
    {task task' : ConnectionTask} (hi : self.tasks[i]? = some task)
    {written : List (Nat × Nat × List UInt8)} (hpass : task.Pass self.broadcast written task') :
    Inv { self with tasks := self.tasks.set i task' }
      (out ++ written.map fun x => ⟨i, x.1, x.2.1, x.2.2⟩) := by
  have htakes := ConnectionTask.takes_eq_of_pass hpass
  have hset : ∀ {j : Nat} {t : ConnectionTask}, (self.tasks.set i task')[j]? = some t →
      (j = i ∧ t = task') ∨ (j ≠ i ∧ self.tasks[j]? = some t) := fun hj => by
    rw [List.getElem?_set] at hj
    split_ifs at hj with hij hlt
    · exact .inl ⟨hij.symm, (Option.some.inj hj).symm⟩
    · exact .inr ⟨Ne.symm hij, hj⟩
  have hmem : ∀ t ∈ self.tasks.set i task', t ∈ self.tasks ∨ t = task' :=
    fun t ht => List.mem_or_eq_of_mem_set ht
  have htask : task ∈ self.tasks := List.mem_of_getElem? hi
  refine ⟨fun t ht => ?_, fun t ht => ?_, fun j l tj tl hj hl hsame hpos => ?_,
    fun t ht => ?_, fun s hs => ?_, ?_⟩
  · rcases hmem t ht with ht | rfl
    · exact h.signal_lt t ht
    · exact hpass.agentExitSignal ▸ h.signal_lt task htask
  · rcases hmem t ht with ht | rfl
    · exact h.nShards t ht
    · exact hpass.sharder ▸ h.nShards task htask
  · have hsame' : ∀ {k : Nat} {t : ConnectionTask}, (self.tasks.set i task')[k]? = some t →
        ∃ t₀, self.tasks[k]? = some t₀ ∧ t.agentExitSignal = t₀.agentExitSignal ∧
          t.sharder = t₀.sharder := fun hk => by
      rcases hset hk with ⟨rfl, rfl⟩ | ⟨-, hk⟩
      · exact ⟨task, hi, hpass.agentExitSignal, hpass.sharder⟩
      · exact ⟨_, hk, rfl, rfl⟩
    obtain ⟨tj₀, hj₀, hjsig, hjsh⟩ := hsame' hj
    obtain ⟨tl₀, hl₀, hlsig, hlsh⟩ := hsame' hl
    exact h.shard_unique j l tj₀ tl₀ hj₀ hl₀ (hjsig ▸ hlsig ▸ hsame) (hjsh ▸ hlsh ▸ hpos)
  · rcases hmem t ht with ht | rfl
    · exact h.next_le t ht
    · exact hpass.le_length
  · rcases List.mem_append.mp hs with hs | hs
    · -- an earlier write: its task is the same, or has moved its receiver forward
      obtain ⟨t, packet, ht, hpacket, htakes', htx, hlt⟩ := h.routed s hs
      by_cases hsi : s.task = i
      · rw [hsi, hi, Option.some.injEq] at ht
        subst ht
        refine ⟨task', packet, ?_, hpacket, htakes ▸ htakes', htx, hlt.trans_le hpass.next_le⟩
        rw [hsi, List.getElem?_set_self (List.getElem?_eq_some_iff.mp hi).1]
      · refine ⟨t, packet, ?_, hpacket, htakes', htx, hlt⟩
        rw [List.getElem?_set_ne (Ne.symm hsi), ht]
    · obtain ⟨item, hitem, rfl⟩ := List.mem_map.mp hs
      obtain ⟨-, hlt, packet, hpacket, htakes', htx⟩ := hpass.writes.mem item hitem
      refine ⟨task', packet, ?_, hpacket, htakes ▸ htakes', htx, hlt⟩
      rw [List.getElem?_set_self (List.getElem?_eq_some_iff.mp hi).1]
  · rw [List.map_append, List.nodup_append, map_key_sent]
    refine ⟨h.nodup, hpass.writes.nodup.map (Prod.mk_right_injective i), ?_⟩
    intro a ha b hb hab
    obtain ⟨s, hs, rfl⟩ := List.mem_map.mp ha
    obtain ⟨pl, hpl, rfl⟩ := List.mem_map.mp hb
    obtain ⟨item, hitem, rfl⟩ := List.mem_map.mp hpl
    simp only [place, Prod.mk.injEq] at hab
    obtain ⟨hsi, hk, -⟩ := hab
    obtain ⟨t, packet, ht, -, -, -, hlt⟩ := h.routed s hs
    rw [hsi, hi, Option.some.injEq] at ht
    subst ht
    have hge := (hpass.writes.mem item hitem).1
    omega

theorem Inv.step {self : TxForwarder} {out : List Sent} (h : Inv self out) (ev : ForwarderEvent) :
    Inv (self.step showAddr ev).2 (out ++ (self.step showAddr ev).1) := by
  cases ev with
  | packet forwardPacket now epochNow =>
    simp only [TxForwarder.step]
    split
    · rw [List.append_nil]
      exact h.grows (grows_receive self forwardPacket now epochNow)
    · simpa using h
  | exit =>
    rw [TxForwarder.step, List.append_nil]
    exact h.grows (grows_of_eq rfl (List.prefix_refl _) rfl)
  | wake i sends =>
    simp only [TxForwarder.step]
    cases hi : self.tasks[i]? with
    | none => simpa using h
    | some task =>
      dsimp only
      split
      · dsimp only
        exact h.wake hi (ConnectionTask.wake_pass showAddr task self.broadcast _ _ _ sends
          (h.next_le task (List.mem_of_getElem? hi)))
      · simpa using h

theorem inv_runOutputs (events : List ForwarderEvent) :
    Inv (StepSystem.runOutputs (step showAddr) start events).2
      (StepSystem.runOutputs (step showAddr) start events).1 := by
  have h := @StepSystem.runOutputs_history TxForwarder ForwarderEvent Sent (step showAddr)
    (fun _ => True) (fun _ _ _ => trivial) (fun self out _ => Inv self out)
    (fun _ _ _ ev h _ => h.step showAddr ev) start [] [] inv_start events trivial
  simpa only [List.nil_append] using h

/-- The agent of a task, by its exit signal. -/
def agentOf (self : TxForwarder) (i : Nat) : Option Nat :=
  self.tasks[i]?.map ConnectionTask.agentExitSignal

theorem Inv.task_eq {self : TxForwarder} {out : List Sent} (h : Inv self out) {s s' : Sent}
    (hs : s ∈ out) (hs' : s' ∈ out) (hagent : self.agentOf s.task = self.agentOf s'.task)
    (hplace : s.packet = s'.packet) : s.task = s'.task := by
  obtain ⟨t, packet, ht, hpacket, htakes, -⟩ := h.routed s hs
  obtain ⟨t', packet', ht', hpacket', htakes', -⟩ := h.routed s' hs'
  rw [hplace, hpacket', Option.some.injEq] at hpacket
  subst hpacket
  simp only [agentOf, ht, ht', Option.map_some, Option.some.injEq] at hagent
  have hpos : t.sharder.pos = t'.sharder.pos := by
    simp only [ConnectionTask.takes, Bool.and_eq_true] at htakes htakes'
    exact Sharder.pos_eq_of_matching htakes.2 htakes'.2
      ((h.nShards t (List.mem_of_getElem? ht)).trans
        (h.nShards t' (List.mem_of_getElem? ht')).symm)
  exact h.shard_unique _ _ t t' ht ht' hagent hpos

/-- Every transaction `tx_forwarder` writes, over any interleaving of packets, exit signals and
passes of its tasks, is a transaction of a packet it received, written by a task for that packet's
TPU node and shard; and the tasks of one agent never write a transaction of a packet twice. -/
theorem tx_forwarder_writes_routed_once (events : List ForwarderEvent) :
    let r := StepSystem.runOutputs (step showAddr) start events
    (∀ s ∈ r.1, ∃ task packet, r.2.tasks[s.task]? = some task ∧ r.2.broadcast[s.packet]? = some packet ∧
      packet.tpuAddress = task.tpuAddress ∧ task.sharder.matching packet.shardHash ∧
      packet.transactions[s.index]? = some s.tx) ∧
    ∀ agent, ((r.1.filter fun s => r.2.agentOf s.task = some agent).map
      fun s => (s.packet, s.index)).Nodup := by
  intro r
  have h := inv_runOutputs showAddr events
  refine ⟨fun s hs => ?_, fun agent => ?_⟩
  · obtain ⟨task, packet, ht, hpacket, htakes, htx, -⟩ := h.routed s hs
    simp only [ConnectionTask.takes, Bool.and_eq_true, beq_iff_eq] at htakes
    exact ⟨task, packet, ht, hpacket, htakes.1, htakes.2, htx⟩
  · have hsub : List.Sublist (r.1.filter fun s => r.2.agentOf s.task = some agent) r.1 :=
      List.filter_sublist
    have hkeys := h.nodup.sublist (hsub.map _)
    refine (hkeys.of_map _).map_on fun s hs s' hs' hplace => ?_
    -- the same place by the same agent is the same task, and then the same write
    have hs₀ := hsub.subset hs
    have hs'₀ := hsub.subset hs'
    have hagent : r.2.agentOf s.task = r.2.agentOf s'.task := by
      rw [of_decide_eq_true (List.mem_filter.mp hs).2, of_decide_eq_true (List.mem_filter.mp hs').2]
    simp only [Prod.mk.injEq] at hplace
    have htask := h.task_eq hs₀ hs'₀ hagent hplace.1
    exact List.inj_on_of_nodup_map hkeys hs hs' (by rw [htask, hplace.1, hplace.2])

/-- Two TPU nodes for tests. -/
def testTpuX : SocketAddr := .v4 ⟨⟨⟨[10, 0, 0, 1], rfl⟩⟩, 8009⟩

def testTpuY : SocketAddr := .v4 ⟨⟨⟨[10, 0, 0, 2], rfl⟩⟩, 8009⟩

/-- A send the network answers: connected, and the stream written. -/
def testSendOk : AutoReconnect.SendEnv := ⟨⟨false, .ok 1⟩, .ok ()⟩

/-- A packet for node X; one for node Y once X has been idle past `AGENT_SHUTDOWN_IDLE`, which
shuts X's agent down; another for X, which spawns a new agent for it; then a pass of the first
task of the old agent and of the new one. -/
def testReplacedAgentEvents : List ForwarderEvent :=
  [.packet ⟨[[1]], testTpuX, 0⟩ 0 1000, .packet ⟨[[2]], testTpuY, 0⟩ 3000 4000,
    .packet ⟨[[3]], testTpuX, 0⟩ 3001 4001, .wake 0 [testSendOk, testSendOk],
    .wake 8 [testSendOk]]

/-- Across agents, a transaction can be written twice to one node: a shut-down agent whose task
still finds packets waiting goes on taking them, those for the new agent of its node included. -/
theorem tx_forwarder_writes_twice_after_agent_replaced :
    (StepSystem.runOutputs (step fun _ => "10.0.0.1:8009") start testReplacedAgentEvents).1 =
        [⟨0, 0, 0, [1]⟩, ⟨0, 2, 0, [3]⟩, ⟨8, 2, 0, [3]⟩] ∧
      (StepSystem.runOutputs (step fun _ => "10.0.0.1:8009") start
        testReplacedAgentEvents).2.agentOf 0 ≠
        (StepSystem.runOutputs (step fun _ => "10.0.0.1:8009") start
          testReplacedAgentEvents).2.agentOf 8 ∧
      (StepSystem.runOutputs (step fun _ => "10.0.0.1:8009") start
        testReplacedAgentEvents).2.tasks.map ConnectionTask.tpuAddress =
        [testTpuX, testTpuX, testTpuX, testTpuX, testTpuY, testTpuY, testTpuY, testTpuY,
          testTpuX, testTpuX, testTpuX, testTpuX] := by
  decide

/-- A send the network answers with a timed-out connection attempt. -/
def testSendTimedOut : AutoReconnect.SendEnv := ⟨⟨false, .timedOut⟩, .ok ()⟩

/-- All packets for node X, which never answers: a packet of eleven transactions for each shard,
each sent by its task with eleven timed-out attempts, then one more packet per shard, at which
each task finds its connection dead for good and stops, then one more packet. -/
def testDeadNodeEvents : List ForwarderEvent :=
  (List.range parallelTpuConnectionCount).map (fun s =>
      .packet ⟨List.replicate 11 [s.toUInt8], testTpuX, s⟩ s (1000 + s)) ++
    (List.range parallelTpuConnectionCount).flatMap (fun s =>
      List.replicate (s + 1) (.wake s (List.replicate 11 testSendTimedOut))) ++
    (List.range parallelTpuConnectionCount).map (fun s =>
      .packet ⟨[[9]], testTpuX, s⟩ (4 + s) (1004 + s)) ++
    (List.range parallelTpuConnectionCount).flatMap (fun s => List.replicate (s + 1) (.wake s [])) ++
    [.packet ⟨[[9]], testTpuX, 0⟩ 8 1008]

/-- When the connections of the only agent are dead for good, its tasks stop while the agent,
used by every packet, stays; the next packet then has no receiver, and `tx_forwarder` panics on
`expect("send must succeed")`, without any exit signal. -/
theorem tx_forwarder_panics_after_connections_die :
    (StepSystem.runOutputs (step fun _ => "10.0.0.1:8009") start testDeadNodeEvents).2.exited =
        some sendMustSucceed ∧
      (StepSystem.runOutputs (step fun _ => "10.0.0.1:8009") start
        testDeadNodeEvents).2.exitSignal = false ∧
      (StepSystem.runOutputs (step fun _ => "10.0.0.1:8009") start
        testDeadNodeEvents).2.agents.map Prod.fst = [testTpuX] ∧
      (StepSystem.runOutputs (step fun _ => "10.0.0.1:8009") start
        testDeadNodeEvents).2.tasks.all (fun task => !task.running) := by
  decide

end TxForwarder

end QuicForwardProxy

end LiteRpc
