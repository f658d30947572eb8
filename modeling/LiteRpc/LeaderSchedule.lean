import Mathlib.Data.List.Range
import LiteRpc.AccountData
import LiteRpc.Lib.Run

/-!
The leader schedule as lite-rpc hands it to `TpuService::update_quic_connections` through
`LeaderFetcherInterface::get_slot_leaders(from, to)`: `CalculatedSchedule::get_slot_leaders`
over the current and the next epoch, `GrpcLeaderGetter`, which reads it, and
`JsonRpcLeaderGetter`, which keeps a queue of leaders fetched with the RPC `get_slot_leaders`.

`EpochSchedule::get_epoch_and_slot_index` of the Solana SDK is a parameter `epochSchedule`; the
RPC call of `JsonRpcLeaderGetter` is a parameter `rpcGetSlotLeaders`. The interface's parameters
`from` and `to` are `fromSlot` and `toSlot` here; slots are natural numbers, as `Slot` is
elsewhere.

The interface asks for the leaders of all slots `>= from` and `<= to`. Both getters serve the
window `[from, to)` instead: `GrpcLeaderGetter` asks for `to - from` leaders, and
`JsonRpcLeaderGetter` caches `slot..slot + leaders_to_cache_count`, exclusive.
-/

namespace LiteRpc

structure LeaderData where
  leaderSlot : Nat
  pubkey : Pubkey
deriving DecidableEq, Repr

/-- The leader schedule of one epoch, by slot index. -/
structure LeaderScheduleData where
  scheduleBySlot : List Pubkey
  epoch : Nat
deriving DecidableEq, Repr

structure CalculatedSchedule where
  current : Option LeaderScheduleData
  next : Option LeaderScheduleData
deriving DecidableEq, Repr

namespace CalculatedSchedule

/-- `MAX_GET_SLOT_LEADERS` of the RPC client API. -/
def maxGetSlotLeaders : Nat := 5000

/-- The closure `extend_slot_from_epoch`: appends up to `limit - len` leaders of one epoch from
`slotIndex`, then lowers `limit` by the number of leaders collected so far. `limit` is a `usize`
whose subtraction wraps, as in a release build. -/
def extendSlotFromEpoch (acc : List Pubkey × UInt64) (leaderSchedule : List Pubkey)
    (slotIndex : Nat) : List Pubkey × UInt64 :=
  let take := acc.2.toNat - acc.1.length
  let slotLeaders := acc.1 ++ (leaderSchedule.drop slotIndex).take take
  (slotLeaders, acc.2 - slotLeaders.length.toUInt64)

/-- The epochs searched for a start slot: the current one at the slot's index, the next one at
that index, and the next one from its start for the following epoch, each when its epoch
matches. -/
def candidates (self : CalculatedSchedule) (epoch slotIndex : Nat) :
    List (LeaderScheduleData × Nat) :=
  [(self.current, slotIndex, epoch), (self.next, slotIndex, epoch), (self.next, 0, epoch + 1)].filterMap
    fun (epochData, slotIndex, epoch) =>
      epochData.bind fun epochData => if epochData.epoch = epoch then some (epochData, slotIndex) else none

/-- `extend_slot_from_epoch` applied to each epoch searched, in order, from no leaders and the
whole limit. -/
def extendAll (res : List (LeaderScheduleData × Nat)) (limit : Nat) : List Pubkey × UInt64 :=
  res.foldl (fun acc epochData => extendSlotFromEpoch acc epochData.1.scheduleBySlot epochData.2)
    ([], limit.toUInt64)

def getSlotLeaders (self : CalculatedSchedule) (startSlot limit : Nat)
    (epochSchedule : Nat → Nat × Nat) : Except String (List Pubkey) :=
  if limit > maxGetSlotLeaders then
    .error ("Invalid Params: Invalid limit; max " ++ toString maxGetSlotLeaders)
  else
    let epoch := (epochSchedule startSlot).1
    let slotIndex := (epochSchedule startSlot).2
    let res := self.candidates epoch slotIndex
    let slotLeaders := (extendAll res limit).1
    if res.isEmpty then
      .error ("Invalid Params: Invalid slot range: leader schedule for epoch " ++ toString epoch ++
        " is unavailable")
    else .ok slotLeaders

/-- The schedule kept for an epoch: the current one, or else the next one, as
`get_leader_schedule_for_slot` looks it up. -/
def scheduleOf (self : CalculatedSchedule) (epoch : Nat) : Option LeaderScheduleData :=
  (self.current.filter (·.epoch = epoch)).or (self.next.filter (·.epoch = epoch))

/-- The leader the schedule assigns to a slot: the one at the slot's index in the schedule of the
slot's epoch. -/
def leaderAt (self : CalculatedSchedule) (epochSchedule : Nat → Nat × Nat) (slot : Nat) :
    Option Pubkey :=
  (self.scheduleOf (epochSchedule slot).1).bind fun epochData =>
    epochData.scheduleBySlot[(epochSchedule slot).2]?

theorem extendSlotFromEpoch_length_le (acc : List Pubkey × UInt64) (leaderSchedule : List Pubkey)
    (slotIndex : Nat) :
    (extendSlotFromEpoch acc leaderSchedule slotIndex).1.length ≤ max acc.1.length acc.2.toNat := by
  simp only [extendSlotFromEpoch, List.length_append, List.length_take]
  omega

theorem extendSlotFromEpoch_fst_of_le (acc : List Pubkey × UInt64) (leaderSchedule : List Pubkey)
    (slotIndex : Nat) (h : acc.2.toNat ≤ acc.1.length) :
    (extendSlotFromEpoch acc leaderSchedule slotIndex).1 = acc.1 := by
  simp [extendSlotFromEpoch, Nat.sub_eq_zero_of_le h]

theorem toNat_toUInt64 {n : Nat} (h : n ≤ maxGetSlotLeaders) : n.toUInt64.toNat = n :=
  UInt64.toNat_ofNat_of_lt' (by unfold maxGetSlotLeaders at h; simp [UInt64.size]; omega)

theorem extendSlotFromEpoch_nil (leaderSchedule : List Pubkey) (slotIndex : Nat) {limit : Nat}
    (hlimit : limit ≤ maxGetSlotLeaders) :
    (extendSlotFromEpoch ([], limit.toUInt64) leaderSchedule slotIndex).1 =
        (leaderSchedule.drop slotIndex).take limit ∧
      (extendSlotFromEpoch ([], limit.toUInt64) leaderSchedule slotIndex).2.toNat =
        limit - ((leaderSchedule.drop slotIndex).take limit).length := by
  have hlen : ((leaderSchedule.drop slotIndex).take limit).length ≤ limit := List.length_take_le _ _
  have hsub : ((leaderSchedule.drop slotIndex).take limit).length.toUInt64 ≤ limit.toUInt64 := by
    rw [UInt64.le_iff_toNat_le, toNat_toUInt64 hlimit, toNat_toUInt64 (by omega)]
    exact hlen
  refine ⟨by simp [extendSlotFromEpoch, toNat_toUInt64 hlimit], ?_⟩
  simp only [extendSlotFromEpoch, List.length_nil, Nat.sub_zero, toNat_toUInt64 hlimit,
    List.nil_append]
  rw [UInt64.toNat_sub_of_le _ _ hsub, toNat_toUInt64 hlimit, toNat_toUInt64 (by omega)]

theorem candidates_length_le (self : CalculatedSchedule) (epoch slotIndex : Nat) :
    (self.candidates epoch slotIndex).length ≤ 2 := by
  obtain ⟨current, next⟩ := self
  rcases current with _ | current <;> rcases next with _ | next <;>
    simp [candidates, List.filterMap_cons] <;> split_ifs <;> simp_all

theorem candidates_of_current {self : CalculatedSchedule} {data : LeaderScheduleData}
    (hcurrent : self.current = some data) (slotIndex : Nat) :
    ∃ rest, self.candidates data.epoch slotIndex = (data, slotIndex) :: rest ∧ rest.length ≤ 1 := by
  have hlen := candidates_length_le self data.epoch slotIndex
  simp only [candidates, hcurrent, List.filterMap_cons, Option.bind_some, if_pos] at hlen ⊢
  exact ⟨_, rfl, by simpa using hlen⟩

theorem extendAll_length_le {res : List (LeaderScheduleData × Nat)} (hres : res.length ≤ 2)
    {limit : Nat} (hlimit : limit ≤ maxGetSlotLeaders) : (extendAll res limit).1.length ≤ limit := by
  match res, hres with
  | [], _ => simp [extendAll]
  | [(data, slotIndex)], _ =>
    have h := (extendSlotFromEpoch_nil data.scheduleBySlot slotIndex hlimit).1
    simp only [extendAll, List.foldl_cons, List.foldl_nil, h]
    exact List.length_take_le _ _
  | [(data₁, slotIndex₁), (data₂, slotIndex₂)], _ =>
    obtain ⟨h₁, h₁'⟩ := extendSlotFromEpoch_nil data₁.scheduleBySlot slotIndex₁ hlimit
    have hlen₁ : ((data₁.scheduleBySlot.drop slotIndex₁).take limit).length ≤ limit :=
      List.length_take_le _ _
    have h₂ := extendSlotFromEpoch_length_le
      (extendSlotFromEpoch ([], limit.toUInt64) data₁.scheduleBySlot slotIndex₁)
      data₂.scheduleBySlot slotIndex₂
    rw [h₁, h₁'] at h₂
    simp only [extendAll, List.foldl_cons, List.foldl_nil]
    omega

theorem getSlotLeaders_length_le (self : CalculatedSchedule) (epochSchedule : Nat → Nat × Nat)
    {startSlot limit : Nat} {slotLeaders : List Pubkey}
    (h : self.getSlotLeaders startSlot limit epochSchedule = .ok slotLeaders) :
    slotLeaders.length ≤ limit := by
  simp only [getSlotLeaders] at h
  split_ifs at h with hmax hempty
  cases h
  exact extendAll_length_le (candidates_length_le _ _ _) (Nat.le_of_not_gt hmax)

theorem extendAll_pair (data₁ data₂ : LeaderScheduleData) (slotIndex₁ slotIndex₂ : Nat)
    {limit : Nat} (hlimit : limit ≤ maxGetSlotLeaders) :
    (extendAll [(data₁, slotIndex₁), (data₂, slotIndex₂)] limit).1 =
      (data₁.scheduleBySlot.drop slotIndex₁ ++ data₂.scheduleBySlot.drop slotIndex₂).take
        (limit - min (data₁.scheduleBySlot.length - slotIndex₁)
          (limit - (data₁.scheduleBySlot.length - slotIndex₁))) := by
  obtain ⟨h₁, h₁'⟩ := extendSlotFromEpoch_nil data₁.scheduleBySlot slotIndex₁ hlimit
  simp only [extendAll, List.foldl_cons, List.foldl_nil]
  simp only [extendSlotFromEpoch.eq_def (extendSlotFromEpoch _ _ _), h₁, h₁',
    List.take_append, List.length_take, List.length_drop]
  have hfirst : (data₁.scheduleBySlot.drop slotIndex₁).take limit =
      (data₁.scheduleBySlot.drop slotIndex₁).take (limit - min (data₁.scheduleBySlot.length -
        slotIndex₁) (limit - (data₁.scheduleBySlot.length - slotIndex₁))) := by
    rw [List.take_eq_take_iff, List.length_drop]
    omega
  rw [← hfirst]
  congr 2
  omega

/-- Over the current epoch of the start slot and the next one, a request returns the leaders
from the start slot on, but `min left (limit - left)` fewer than the limit, where `left` are the
slots left in the current epoch: the whole window only when it ends in the current epoch. -/
theorem slot_leaders_short_across_epoch_boundary (self : CalculatedSchedule)
    (epochSchedule : Nat → Nat × Nat) {current next : LeaderScheduleData}
    (hcurrent : self.current = some current) (hnext : self.next = some next)
    (hepoch : next.epoch = current.epoch + 1) {startSlot limit slotIndex : Nat}
    (hstart : epochSchedule startSlot = (current.epoch, slotIndex))
    (hlimit : limit ≤ maxGetSlotLeaders) :
    self.getSlotLeaders startSlot limit epochSchedule =
      .ok ((current.scheduleBySlot.drop slotIndex ++ next.scheduleBySlot).take
        (limit - min (current.scheduleBySlot.length - slotIndex)
          (limit - (current.scheduleBySlot.length - slotIndex)))) := by
  have hres : self.candidates current.epoch slotIndex = [(current, slotIndex), (next, 0)] := by
    simp [candidates, hcurrent, hnext, hepoch]
  have hall := extendAll_pair current next slotIndex 0 hlimit
  rw [List.drop_zero] at hall
  simp [getSlotLeaders, hstart, hres, hall, Nat.not_lt.mpr hlimit]

/-- Epochs of four slots, from slot 3 with a limit of 3: the leaders of slots 3 and 4 only. -/
theorem slot_leaders_short_across_epoch_boundary_from_slot_three :
    let self : CalculatedSchedule :=
      ⟨some ⟨[⟨0⟩, ⟨1⟩, ⟨2⟩, ⟨3⟩], 0⟩, some ⟨[⟨4⟩, ⟨5⟩, ⟨6⟩, ⟨7⟩], 1⟩⟩
    self.getSlotLeaders 3 3 (fun slot => (slot / 4, slot % 4)) = .ok [⟨3⟩, ⟨4⟩] ∧
      ([⟨3⟩, ⟨4⟩] : List Pubkey) ≠ ([⟨0⟩, ⟨1⟩, ⟨2⟩, ⟨3⟩, ⟨4⟩, ⟨5⟩, ⟨6⟩, ⟨7⟩].drop 3).take 3 := by
  intro self
  have h := @slot_leaders_short_across_epoch_boundary self (fun slot => (slot / 4, slot % 4))
    ⟨[⟨0⟩, ⟨1⟩, ⟨2⟩, ⟨3⟩], 0⟩ ⟨[⟨4⟩, ⟨5⟩, ⟨6⟩, ⟨7⟩], 1⟩ rfl rfl rfl 3 3 3 rfl (by decide)
  exact ⟨h.trans rfl, by decide⟩

end CalculatedSchedule

namespace GrpcLeaderGetter

variable (epochSchedule : Nat → Nat × Nat) (leaderScheduleData : CalculatedSchedule)

def getSlotLeaders (fromSlot toSlot : Nat) : Except String (List LeaderData) :=
  -- the epochs of `from` and `to`, to see if they are in the current stored epoch
  let fromEpoch := (epochSchedule fromSlot).1
  let toEpoch := (epochSchedule toSlot).1
  let currentEpoch := (leaderScheduleData.current.map (·.epoch)).getD fromEpoch
  let nextEpoch := (leaderScheduleData.current.map (·.epoch)).getD toEpoch + 1
  if fromSlot > toSlot then
    .error ("invalid arguments for get_slot_leaders: from:" ++ toString fromSlot ++ " to:" ++
      toString toSlot ++ " from:" ++ toString fromSlot ++ " > to:" ++ toString toSlot)
  else if fromEpoch < currentEpoch ∨ fromEpoch > nextEpoch then
    .error ("invalid arguments for get_slot_leaders: from:" ++ toString fromSlot ++ " to:" ++
      toString toSlot ++ " from_epoch:" ++ toString fromEpoch ++ " < current_epoch:" ++
      toString currentEpoch ++ " || from_epoch > next_epoch:" ++ toString nextEpoch)
  else if toEpoch < currentEpoch ∨ toEpoch > nextEpoch then
    .error ("invalid arguments for get_slot_leaders: from:" ++ toString fromSlot ++ " to:" ++
      toString toSlot ++ " to_epoch:" ++ toString toEpoch ++ " < current_epoch:" ++
      toString currentEpoch ++ " || to_epoch:" ++ toString toEpoch ++ " > next_epoch:" ++
      toString nextEpoch)
  else
    let limit := toSlot - fromSlot
    match leaderScheduleData.getSlotLeaders fromSlot limit epochSchedule with
    | .error e => .error e
    | .ok schedule =>
      .ok (schedule.zipIdx.map fun (pubkey, index) => ⟨fromSlot + index, pubkey⟩)

theorem numbered_leaderSlots (fromSlot : Nat) (schedule : List Pubkey) :
    (schedule.zipIdx.map fun (pubkey, index) => (⟨fromSlot + index, pubkey⟩ : LeaderData)).map
      (·.leaderSlot) = List.range' fromSlot schedule.length := by
  have hslots : ((·.leaderSlot) ∘ fun (pubkey, index) => (⟨fromSlot + index, pubkey⟩ : LeaderData)) =
      (fromSlot + ·) ∘ (Prod.snd : Pubkey × Nat → Nat) := rfl
  rw [List.map_map, hslots, ← List.map_map, List.zipIdx_map_snd, List.map_add_range', Nat.add_zero]

theorem getSlotLeaders_lt_toSlot {fromSlot toSlot : Nat} {leaders : List LeaderData}
    (h : getSlotLeaders epochSchedule leaderScheduleData fromSlot toSlot = .ok leaders) :
    ∀ d ∈ leaders, d.leaderSlot < toSlot := by
  simp only [getSlotLeaders] at h
  split_ifs at h with hgt hfrom hto
  split at h
  · cases h
  · rename_i schedule hschedule
    cases h
    intro d hd
    have hslot : d.leaderSlot ∈ List.range' fromSlot schedule.length := by
      rw [← numbered_leaderSlots]
      exact List.mem_map_of_mem hd
    have hlen := CalculatedSchedule.getSlotLeaders_length_le _ _ hschedule
    rw [List.mem_range'_1] at hslot
    omega

example : getSlotLeaders (fun slot => (slot / 32, slot % 32))
    ⟨some ⟨List.replicate 32 ⟨7⟩, 0⟩, none⟩ 0 2 = .ok [⟨0, ⟨7⟩⟩, ⟨1, ⟨7⟩⟩] := by
  decide

end GrpcLeaderGetter

section Window

variable (leaderOf : Nat → Pubkey)

/-- The leaders of the slots from `first` up to `last`, exclusive, by `leaderOf`. -/
def leadersIn (first last : Nat) : List LeaderData :=
  (List.range' first (last - first)).map fun slot => ⟨slot, leaderOf slot⟩

variable {leaderOf}

theorem leadersIn_of_le {first last : Nat} (h : last ≤ first) : leadersIn leaderOf first last = [] := by
  simp [leadersIn, Nat.sub_eq_zero_of_le h]

theorem leadersIn_of_lt {first last : Nat} (h : first < last) :
    leadersIn leaderOf first last = ⟨first, leaderOf first⟩ :: leadersIn leaderOf (first + 1) last := by
  have hsucc : last - first = (last - (first + 1)) + 1 := by omega
  simp [leadersIn, hsucc, List.range'_succ]

theorem leadersIn_append {first mid last : Nat} (h₁ : first ≤ mid) (h₂ : mid ≤ last) :
    leadersIn leaderOf first mid ++ leadersIn leaderOf mid last = leadersIn leaderOf first last := by
  have hrange := @List.range'_append_1 first (mid - first) (last - mid)
  rw [Nat.add_sub_cancel' h₁, show mid - first + (last - mid) = last - first by omega] at hrange
  simp only [leadersIn, ← List.map_append, hrange]

theorem getLast?_leadersIn {first last : Nat} (h : first < last) :
    (leadersIn leaderOf first last).getLast? = some ⟨last - 1, leaderOf (last - 1)⟩ := by
  have hlast : first + (last - first) - 1 = last - 1 := by omega
  simp [leadersIn, List.getLast?_range', Nat.sub_ne_zero_of_lt h, hlast]

theorem filter_leadersIn (fromSlot toSlot first last : Nat) :
    (leadersIn leaderOf first last).filter (fun x => x.leaderSlot ≥ fromSlot ∧ x.leaderSlot ≤ toSlot) =
      leadersIn leaderOf (max first fromSlot) (min last (toSlot + 1)) := by
  induction h : last - first generalizing first with
  | zero => rw [leadersIn_of_le (by omega), leadersIn_of_le (by omega)]; rfl
  | succ n ih =>
    rw [leadersIn_of_lt (by omega), List.filter_cons, ih (first + 1) (by omega)]
    by_cases hbelow : first < fromSlot
    · -- below the window: the window starts at `from` either way
      have hnot : ¬(first ≥ fromSlot ∧ first ≤ toSlot) := by omega
      rw [if_neg (by simpa using hnot), show max (first + 1) fromSlot = max first fromSlot by omega]
    · by_cases habove : first ≤ toSlot
      · have hin : first ≥ fromSlot ∧ first ≤ toSlot := ⟨by omega, habove⟩
        rw [if_pos (decide_eq_true hin), show max (first + 1) fromSlot = first + 1 by omega,
          show max first fromSlot = first by omega, ← leadersIn_of_lt (by omega)]
      · -- past the window: nothing is left of it
        have hnot : ¬(first ≥ fromSlot ∧ first ≤ toSlot) := by omega
        rw [if_neg (by simpa using hnot), leadersIn_of_le (by omega), leadersIn_of_le (by omega)]

end Window

structure JsonRpcLeaderGetter where
  /-- The `VecDeque` of cached leaders, oldest first. -/
  leaderSchedule : List LeaderData
  leadersToCacheCount : Nat
  oldSlotLeaderCacheSize : Nat

namespace JsonRpcLeaderGetter

def new (leadersToCacheCount oldSlotLeaderCacheSize : Nat) : JsonRpcLeaderGetter :=
  ⟨[], leadersToCacheCount, oldSlotLeaderCacheSize⟩

/-- The loop `while front.map_or(slot, leader_slot) < slot - old_slot_leader_cache_size`. -/
def removeOldLeaders (oldestSlotKept : Nat) : List LeaderData → List LeaderData
  | leader :: queue =>
    if leader.leaderSlot < oldestSlotKept then removeOldLeaders oldestSlotKept queue
    else leader :: queue
  | [] => []

theorem mem_of_mem_removeOldLeaders {oldestSlotKept : Nat} {d : LeaderData} :
    ∀ {queue : List LeaderData}, d ∈ removeOldLeaders oldestSlotKept queue → d ∈ queue
  | [], hd => hd
  | leader :: queue, hd => by
    unfold removeOldLeaders at hd
    split_ifs at hd
    · exact List.mem_cons_of_mem _ (mem_of_mem_removeOldLeaders hd)
    · exact hd

theorem removeOldLeaders_leadersIn {leaderOf : Nat → Pubkey} (oldestSlotKept : Nat) (first last : Nat) :
    removeOldLeaders oldestSlotKept (leadersIn leaderOf first last) =
      leadersIn leaderOf (max first oldestSlotKept) last := by
  induction h : last - first generalizing first with
  | zero => rw [leadersIn_of_le (by omega), leadersIn_of_le (by omega)]; rfl
  | succ n ih =>
    rw [leadersIn_of_lt (by omega), removeOldLeaders]
    by_cases hold : first < oldestSlotKept
    · rw [if_pos hold, ih (first + 1) (by omega),
        show max (first + 1) oldestSlotKept = max first oldestSlotKept by omega]
    · rw [if_neg hold, ← leadersIn_of_lt (by omega), show max first oldestSlotKept = first by omega]

/-- The condition on the cached leaders under which `get_slot_leaders` rebuilds the schedule:
none is cached, the first is after `from`, or the last is before `to`. -/
def needsRebuild (schedule : List LeaderData) (fromSlot toSlot : Nat) : Bool :=
  schedule.isEmpty || schedule.head?.any (·.leaderSlot > fromSlot) ||
    schedule.getLast?.any (·.leaderSlot < toSlot)

/-- The loop over `first_slot_to_fetch..last_slot_needed` pushing each slot with the leader at its
offset; indexing past the leaders returned panics, after the slots before it were pushed. -/
def pushLeaders (leaderQueue : List LeaderData) (firstSlotToFetch lastSlotNeeded : Nat)
    (leaders : List Pubkey) : Except String Unit × List LeaderData :=
  let slots := List.range' firstSlotToFetch (lastSlotNeeded - firstSlotToFetch)
  (if leaders.length < slots.length then .error "index out of bounds" else .ok (),
    leaderQueue ++ slots.zipWith LeaderData.mk leaders)

section Rpc

-- `get_slot_leaders(start_slot, limit)` of the RPC client: the leaders of `limit` slots from
-- `start_slot`, or an error
variable (rpcGetSlotLeaders : Nat → Nat → Except String (List Pubkey))

/-- `update_leader_schedule`: drops old leaders and fetches the missing ones up to
`slot + leaders_to_cache_count`, exclusive. The queue is changed in place, so the dropped leaders
stay dropped when the fetch fails; the error carries its context as anyhow's alternate form
prints it. -/
def updateLeaderSchedule (self : JsonRpcLeaderGetter) (slot : Nat) :
    Except String Unit × JsonRpcLeaderGetter :=
  let leaderQueue := removeOldLeaders (slot - self.oldSlotLeaderCacheSize) self.leaderSchedule
  let lastSlotNeeded := slot + self.leadersToCacheCount
  let firstSlotToFetch := (leaderQueue.getLast?.map (·.leaderSlot + 1)).getD slot
  if lastSlotNeeded ≥ firstSlotToFetch then
    match rpcGetSlotLeaders firstSlotToFetch (lastSlotNeeded - firstSlotToFetch) with
    | .error e =>
      (.error ("failed to get slot leaders: " ++ e), { self with leaderSchedule := leaderQueue })
    | .ok leaders =>
      let r := pushLeaders leaderQueue firstSlotToFetch lastSlotNeeded leaders
      (r.1, { self with leaderSchedule := r.2 })
  else (.ok (), { self with leaderSchedule := leaderQueue })

def getSlotLeaders (self : JsonRpcLeaderGetter) (fromSlot toSlot : Nat) :
    Except String (List LeaderData) × JsonRpcLeaderGetter :=
  if toSlot ≤ fromSlot ∨ toSlot - fromSlot > self.leadersToCacheCount then
    (.error "invalid arguments for get_slot_leaders", self)
  else
    let r := if needsRebuild self.leaderSchedule fromSlot toSlot then
      -- rebuilding the leader schedule
      updateLeaderSchedule rpcGetSlotLeaders self fromSlot
    else (.ok (), self)
    match r.1 with
    | .error e => (.error e, r.2)
    | .ok () =>
      (.ok (r.2.leaderSchedule.filter fun x => x.leaderSlot ≥ fromSlot ∧ x.leaderSlot ≤ toSlot), r.2)

theorem updateLeaderSchedule_snd (self : JsonRpcLeaderGetter) (slot : Nat) :
    (updateLeaderSchedule rpcGetSlotLeaders self slot).2 =
      { self with leaderSchedule := (updateLeaderSchedule rpcGetSlotLeaders self slot).2.leaderSchedule } := by
  simp only [updateLeaderSchedule]
  split_ifs
  · split <;> rfl
  · rfl

@[simp] theorem updateLeaderSchedule_leadersToCacheCount (self : JsonRpcLeaderGetter) (slot : Nat) :
    (updateLeaderSchedule rpcGetSlotLeaders self slot).2.leadersToCacheCount =
      self.leadersToCacheCount := by
  rw [updateLeaderSchedule_snd]

@[simp] theorem updateLeaderSchedule_oldSlotLeaderCacheSize (self : JsonRpcLeaderGetter)
    (slot : Nat) :
    (updateLeaderSchedule rpcGetSlotLeaders self slot).2.oldSlotLeaderCacheSize =
      self.oldSlotLeaderCacheSize := by
  rw [updateLeaderSchedule_snd]

theorem getSlotLeaders_snd (self : JsonRpcLeaderGetter) (fromSlot toSlot : Nat) :
    (getSlotLeaders rpcGetSlotLeaders self fromSlot toSlot).2 =
      if ¬(toSlot ≤ fromSlot ∨ toSlot - fromSlot > self.leadersToCacheCount) ∧
          needsRebuild self.leaderSchedule fromSlot toSlot = true then
        (updateLeaderSchedule rpcGetSlotLeaders self fromSlot).2
      else self := by
  by_cases hinvalid : toSlot ≤ fromSlot ∨ toSlot - fromSlot > self.leadersToCacheCount
  · simp [getSlotLeaders, hinvalid]
  · by_cases hrebuild : needsRebuild self.leaderSchedule fromSlot toSlot = true
    · simp only [getSlotLeaders, hinvalid, hrebuild, if_true, if_false, not_false_eq_true, and_self]
      split <;> rfl
    · simp only [getSlotLeaders, hinvalid, hrebuild, if_false]
      rfl

@[simp] theorem getSlotLeaders_leadersToCacheCount (self : JsonRpcLeaderGetter)
    (fromSlot toSlot : Nat) :
    (getSlotLeaders rpcGetSlotLeaders self fromSlot toSlot).2.leadersToCacheCount =
      self.leadersToCacheCount := by
  rw [getSlotLeaders_snd]
  split_ifs <;> simp

@[simp] theorem getSlotLeaders_oldSlotLeaderCacheSize (self : JsonRpcLeaderGetter)
    (fromSlot toSlot : Nat) :
    (getSlotLeaders rpcGetSlotLeaders self fromSlot toSlot).2.oldSlotLeaderCacheSize =
      self.oldSlotLeaderCacheSize := by
  rw [getSlotLeaders_snd]
  split_ifs <;> simp

theorem getSlotLeaders_ok {self : JsonRpcLeaderGetter} {fromSlot toSlot : Nat}
    {leaders : List LeaderData}
    (h : (getSlotLeaders rpcGetSlotLeaders self fromSlot toSlot).1 = .ok leaders) :
    ¬(toSlot ≤ fromSlot ∨ toSlot - fromSlot > self.leadersToCacheCount) ∧
      (needsRebuild self.leaderSchedule fromSlot toSlot = true →
        (updateLeaderSchedule rpcGetSlotLeaders self fromSlot).1 = .ok ()) ∧
      leaders = (getSlotLeaders rpcGetSlotLeaders self fromSlot toSlot).2.leaderSchedule.filter
        fun x => x.leaderSlot ≥ fromSlot ∧ x.leaderSlot ≤ toSlot := by
  by_cases hinvalid : toSlot ≤ fromSlot ∨ toSlot - fromSlot > self.leadersToCacheCount
  · simp [getSlotLeaders, hinvalid] at h
  · rw [getSlotLeaders_snd]
    simp only [getSlotLeaders, if_neg hinvalid] at h
    split at h
    · cases h
    · rename_i hok
      cases h
      by_cases hrebuild : needsRebuild self.leaderSchedule fromSlot toSlot = true
      · rw [if_pos hrebuild] at hok
        exact ⟨hinvalid, fun _ => hok, by simp [hinvalid, hrebuild]⟩
      · exact ⟨hinvalid, fun h' => absurd h' hrebuild, by simp [hinvalid, hrebuild]⟩

theorem updateLeaderSchedule_lt (self : JsonRpcLeaderGetter) (slot : Nat)
    (h : ∀ d ∈ self.leaderSchedule, d.leaderSlot < slot + self.leadersToCacheCount) :
    ∀ d ∈ (updateLeaderSchedule rpcGetSlotLeaders self slot).2.leaderSchedule,
      d.leaderSlot < slot + self.leadersToCacheCount := by
  have hkept : ∀ d ∈ removeOldLeaders (slot - self.oldSlotLeaderCacheSize) self.leaderSchedule,
      d.leaderSlot < slot + self.leadersToCacheCount :=
    fun d hd => h d (mem_of_mem_removeOldLeaders hd)
  simp only [updateLeaderSchedule]
  split_ifs
  · split
    · exact hkept
    · intro d hd
      simp only [pushLeaders, List.mem_append] at hd
      rcases hd with hd | hd
      · exact hkept d hd
      · -- a pushed leader is for a slot of `first_slot_to_fetch..last_slot_needed`
        rw [← List.map_uncurry_zip_eq_zipWith] at hd
        obtain ⟨⟨leaderSlot, pubkey⟩, hmem, rfl⟩ := List.mem_map.mp hd
        have hslot := List.mem_range'_1.mp (List.of_mem_zip hmem).1
        show leaderSlot < slot + self.leadersToCacheCount
        omega
  · exact hkept

theorem getSlotLeaders_lt (self : JsonRpcLeaderGetter) (fromSlot toSlot : Nat)
    (h : ∀ d ∈ self.leaderSchedule, d.leaderSlot < fromSlot + self.leadersToCacheCount) :
    ∀ d ∈ (getSlotLeaders rpcGetSlotLeaders self fromSlot toSlot).2.leaderSchedule,
      d.leaderSlot < fromSlot + self.leadersToCacheCount := by
  rw [getSlotLeaders_snd]
  split_ifs
  · exact updateLeaderSchedule_lt rpcGetSlotLeaders self fromSlot h
  · exact h

variable (leaderOf : Nat → Pubkey)

/-- The RPC returns the true leaders of the slots asked for, whenever it returns leaders. -/
def TrueLeaders : Prop :=
  ∀ startSlot limit leaders, rpcGetSlotLeaders startSlot limit = .ok leaders →
    leaders = (List.range' startSlot limit).map leaderOf

variable {rpcGetSlotLeaders leaderOf}

theorem pushLeaders_trueLeaders (leaderQueue : List LeaderData) (firstSlotToFetch lastSlotNeeded : Nat) :
    pushLeaders leaderQueue firstSlotToFetch lastSlotNeeded
        ((List.range' firstSlotToFetch (lastSlotNeeded - firstSlotToFetch)).map leaderOf) =
      (.ok (), leaderQueue ++ leadersIn leaderOf firstSlotToFetch lastSlotNeeded) := by
  simp [pushLeaders, leadersIn, List.zipWith_map_right, List.zipWith_self]

theorem firstSlotToFetch_leadersIn (slot first last : Nat) :
    ((leadersIn leaderOf first last).getLast?.map (·.leaderSlot + 1)).getD slot =
      if last ≤ first then slot else last := by
  by_cases h : last ≤ first
  · simp [leadersIn_of_le h, h]
  · simp only [getLast?_leadersIn (Nat.lt_of_not_le h), h, if_false, Option.map_some,
      Option.getD_some]
    omega

theorem needsRebuild_leadersIn (first last fromSlot toSlot : Nat) :
    needsRebuild (leadersIn leaderOf first last) fromSlot toSlot = false ↔
      first < last ∧ first ≤ fromSlot ∧ toSlot < last := by
  by_cases h : first < last
  · rw [needsRebuild, getLast?_leadersIn h, leadersIn_of_lt h]
    simp only [List.isEmpty_cons, List.head?_cons, Option.any_some, Bool.false_or,
      Bool.or_eq_false_iff, decide_eq_false_iff_not]
    omega
  · simp [needsRebuild, leadersIn_of_le (Nat.le_of_not_lt h), h]

theorem updateLeaderSchedule_leadersIn (hrpc : TrueLeaders rpcGetSlotLeaders leaderOf)
    {self : JsonRpcLeaderGetter} {first last : Nat}
    (hq : self.leaderSchedule = leadersIn leaderOf first last) (slot : Nat) :
    ∃ first' last', (updateLeaderSchedule rpcGetSlotLeaders self slot).2.leaderSchedule =
        leadersIn leaderOf first' last' ∧
      ((updateLeaderSchedule rpcGetSlotLeaders self slot).1 = .ok () →
        (first ≤ slot ∨ last ≤ first → first' ≤ slot) ∧ slot + self.leadersToCacheCount ≤ last') := by
  have hqueue : removeOldLeaders (slot - self.oldSlotLeaderCacheSize) self.leaderSchedule =
      leadersIn leaderOf (max first (slot - self.oldSlotLeaderCacheSize)) last := by
    rw [hq, removeOldLeaders_leadersIn]
  have hkept : first ≤ slot → max first (slot - self.oldSlotLeaderCacheSize) ≤ slot := by omega
  have hfirst : first ≤ max first (slot - self.oldSlotLeaderCacheSize) := le_max_left _ _
  generalize max first (slot - self.oldSlotLeaderCacheSize) = kept at hqueue hkept hfirst
  simp only [updateLeaderSchedule]
  rw [hqueue, firstSlotToFetch_leadersIn]
  by_cases hempty : last ≤ kept
  · -- every cached leader was old: the leaders are fetched from `slot`
    rw [if_pos hempty, if_pos (Nat.le_add_right _ _)]
    cases hr : rpcGetSlotLeaders slot (slot + self.leadersToCacheCount - slot) with
    | error e => exact ⟨kept, last, rfl, fun h => by cases h⟩
    | ok leaders =>
      rw [hrpc _ _ _ hr]
      simp only [pushLeaders_trueLeaders, leadersIn_of_le hempty, List.nil_append]
      exact ⟨slot, _, rfl, fun _ => ⟨fun _ => le_rfl, le_rfl⟩⟩
  · -- the leaders after the last one cached are fetched
    rw [if_neg hempty]
    split_ifs with hfetch
    · cases hr : rpcGetSlotLeaders last (slot + self.leadersToCacheCount - last) with
      | error e => exact ⟨kept, last, rfl, fun h => by cases h⟩
      | ok leaders =>
        rw [hrpc _ _ _ hr]
        simp only [pushLeaders_trueLeaders, leadersIn_append (Nat.le_of_not_le hempty) hfetch]
        exact ⟨kept, _, rfl, fun _ => ⟨fun h => by omega, le_rfl⟩⟩
    · exact ⟨kept, last, rfl, fun _ => ⟨fun h => by omega, by omega⟩⟩

theorem getSlotLeaders_leadersIn (hrpc : TrueLeaders rpcGetSlotLeaders leaderOf)
    {self : JsonRpcLeaderGetter} {first last : Nat}
    (hq : self.leaderSchedule = leadersIn leaderOf first last) (fromSlot toSlot : Nat) :
    ∃ first' last', (getSlotLeaders rpcGetSlotLeaders self fromSlot toSlot).2.leaderSchedule =
      leadersIn leaderOf first' last' := by
  rw [getSlotLeaders_snd]
  split_ifs
  · obtain ⟨first', last', hq', -⟩ := updateLeaderSchedule_leadersIn hrpc hq fromSlot
    exact ⟨first', last', hq'⟩
  · exact ⟨first, last, hq⟩

/-- From a cache of consecutive true leaders, a request returns the true leaders of consecutive
slots between `from` and `to`, inclusive. -/
theorem getSlotLeaders_window (hrpc : TrueLeaders rpcGetSlotLeaders leaderOf)
    {self : JsonRpcLeaderGetter} {first last : Nat}
    (hq : self.leaderSchedule = leadersIn leaderOf first last) {fromSlot toSlot : Nat}
    {leaders : List LeaderData}
    (h : (getSlotLeaders rpcGetSlotLeaders self fromSlot toSlot).1 = .ok leaders) :
    ∃ first' last', fromSlot ≤ first' ∧ last' ≤ toSlot + 1 ∧ leaders = leadersIn leaderOf first' last' := by
  obtain ⟨first', last', hq'⟩ := getSlotLeaders_leadersIn hrpc hq fromSlot toSlot
  have hleaders := (getSlotLeaders_ok rpcGetSlotLeaders h).2.2
  rw [hq', filter_leadersIn] at hleaders
  exact ⟨_, _, le_max_right _ _, min_le_right _ _, hleaders⟩

variable (rpcGetSlotLeaders) in
/-- One request, as a step of the getter's cache. -/
def request (self : JsonRpcLeaderGetter) (slots : Nat × Nat) : JsonRpcLeaderGetter :=
  (getSlotLeaders rpcGetSlotLeaders self slots.1 slots.2).2

variable (rpcGetSlotLeaders) in
/-- The getters that `new` becomes through some sequence of requests. -/
def Reachable (leadersToCacheCount oldSlotLeaderCacheSize : Nat) (self : JsonRpcLeaderGetter) :
    Prop :=
  StepSystem.Reachable (request rpcGetSlotLeaders) (new leadersToCacheCount oldSlotLeaderCacheSize)
    self

theorem Reachable.cached (hrpc : TrueLeaders rpcGetSlotLeaders leaderOf)
    {leadersToCacheCount oldSlotLeaderCacheSize : Nat} {self : JsonRpcLeaderGetter}
    (h : Reachable rpcGetSlotLeaders leadersToCacheCount oldSlotLeaderCacheSize self) :
    (∃ first last, self.leaderSchedule = leadersIn leaderOf first last) ∧
      self.leadersToCacheCount = leadersToCacheCount := by
  refine StepSystem.Reachable.invariant
    (fun g => (∃ first last, g.leaderSchedule = leadersIn leaderOf first last) ∧
      g.leadersToCacheCount = leadersToCacheCount) ?_ ?_ h
  · exact ⟨⟨0, 0, (leadersIn_of_le le_rfl).symm⟩, rfl⟩
  · rintro g ⟨fromSlot, toSlot⟩ ⟨⟨first, last, hq⟩, hcount⟩
    exact ⟨getSlotLeaders_leadersIn hrpc hq fromSlot toSlot, by simp [request, hcount]⟩

/-- Every list of leaders that a reachable getter returns is the true leaders of consecutive
slots between `from` and `to`, inclusive. -/
theorem Reachable.getSlotLeaders_window (hrpc : TrueLeaders rpcGetSlotLeaders leaderOf)
    {leadersToCacheCount oldSlotLeaderCacheSize : Nat} {self : JsonRpcLeaderGetter}
    (h : Reachable rpcGetSlotLeaders leadersToCacheCount oldSlotLeaderCacheSize self)
    {fromSlot toSlot : Nat} {leaders : List LeaderData}
    (hleaders : (getSlotLeaders rpcGetSlotLeaders self fromSlot toSlot).1 = .ok leaders) :
    ∃ first last, fromSlot ≤ first ∧ last ≤ toSlot + 1 ∧ leaders = leadersIn leaderOf first last := by
  obtain ⟨⟨first, last, hq⟩, -⟩ := h.cached hrpc
  exact JsonRpcLeaderGetter.getSlotLeaders_window hrpc hq hleaders

end Rpc

end JsonRpcLeaderGetter

/-- Neither getter returns a leader for slot `to`: `GrpcLeaderGetter` never does, and
`JsonRpcLeaderGetter` does not from its empty cache when `to - from` is `leaders_to_cache_count`. -/
theorem slot_leaders_miss_to_slot (epochSchedule : Nat → Nat × Nat)
    (leaderScheduleData : CalculatedSchedule)
    (rpcGetSlotLeaders : Nat → Nat → Except String (List Pubkey))
    (leadersToCacheCount oldSlotLeaderCacheSize fromSlot toSlot : Nat) :
    (∀ leaders, GrpcLeaderGetter.getSlotLeaders epochSchedule leaderScheduleData fromSlot toSlot =
        .ok leaders → ∀ d ∈ leaders, d.leaderSlot ≠ toSlot) ∧
    (∀ leaders, (JsonRpcLeaderGetter.getSlotLeaders rpcGetSlotLeaders
        (JsonRpcLeaderGetter.new leadersToCacheCount oldSlotLeaderCacheSize) fromSlot
          (fromSlot + leadersToCacheCount)).1 = .ok leaders →
      ∀ d ∈ leaders, d.leaderSlot ≠ fromSlot + leadersToCacheCount) := by
  refine ⟨fun leaders h d hd =>
    Nat.ne_of_lt (GrpcLeaderGetter.getSlotLeaders_lt_toSlot epochSchedule leaderScheduleData h d hd), ?_⟩
  intro leaders h d hd
  -- the leaders returned are cached, and the cache never reaches `from + leaders_to_cache_count`
  have hcached := JsonRpcLeaderGetter.getSlotLeaders_lt rpcGetSlotLeaders
    (JsonRpcLeaderGetter.new leadersToCacheCount oldSlotLeaderCacheSize) fromSlot
    (fromSlot + leadersToCacheCount) (by simp [JsonRpcLeaderGetter.new])
  have hleaders := (JsonRpcLeaderGetter.getSlotLeaders_ok rpcGetSlotLeaders h).2.2
  rw [hleaders] at hd
  exact Nat.ne_of_lt (hcached d (List.mem_of_mem_filter hd))

example : (JsonRpcLeaderGetter.getSlotLeaders (fun startSlot limit => .ok
      ((List.range' startSlot limit).map fun _ => ⟨7⟩)) (JsonRpcLeaderGetter.new 2 0) 0 2).1 =
    .ok [⟨0, ⟨7⟩⟩, ⟨1, ⟨7⟩⟩] := by
  decide

end LiteRpc
