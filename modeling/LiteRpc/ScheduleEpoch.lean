import LiteRpc.AccountData
import LiteRpc.Lib.Run

/-!
The epoch change of the stake and vote loop (`stake_vote/src/epoch.rs`). `ScheduleEpochData`
watches the confirmed slots and the stake history sysvar. Once the confirmed slot reaches the last
slot of the current epoch it records the next epoch, and once a stake history has also arrived it
moves to that epoch and emits `LeaderScheduleEvent::Init`, which starts the computation of a leader
schedule from the stakes at the new epoch.

`EpochCache` answers from Solana's `EpochSchedule`: the epoch of a slot, the number of slots of an
epoch and its last slot. They are the fields of `EpochCache` here, with the laws an epoch schedule
keeps as the Prop structure `EpochCache.Sane`: the last slots of the epochs increase, and a slot
belongs to the epoch whose range holds it. The stake history is a type parameter `H`, read by
nothing here. Slots are `Nat` (a `u64` that no slot here comes near wrapping).
-/

namespace LiteRpc

/-- What `EpochCache` answers: `get_epoch_at_slot(slot).epoch`, `get_slots_in_epoch` and
`get_last_slot_in_epoch`. -/
structure EpochCache where
  epochAtSlot : Nat → Nat
  slotsInEpoch : Nat → Nat
  lastSlotInEpoch : Nat → Nat

/-- An epoch schedule: the epochs are consecutive ranges of slots, the epoch `e` ending at
`lastSlotInEpoch e`. -/
structure EpochCache.Sane (cache : EpochCache) : Prop where
  lastSlotInEpoch_lt : ∀ e, cache.lastSlotInEpoch e < cache.lastSlotInEpoch (e + 1)
  epochAtSlot_eq_iff : ∀ slot e, cache.epochAtSlot slot = e ↔
    (e = 0 ∨ cache.lastSlotInEpoch (e - 1) < slot) ∧ slot ≤ cache.lastSlotInEpoch e

/-- `EpochCache::new_for_tests`: 1000 slots per epoch, without warmup, where `EpochSchedule` puts
slot `s` in epoch `s / 1000` and ends epoch `e` at slot `1000 e + 999`. -/
def EpochCache.newForTests : EpochCache :=
  ⟨fun slot => slot / 1000, fun _ => 1000, fun epoch => 1000 * epoch + 999⟩

theorem EpochCache.newForTests_sane : EpochCache.newForTests.Sane where
  lastSlotInEpoch_lt e := by
    show 1000 * e + 999 < 1000 * (e + 1) + 999
    omega
  epochAtSlot_eq_iff slot e := by
    show slot / 1000 = e ↔ (e = 0 ∨ 1000 * (e - 1) + 999 < slot) ∧ slot ≤ 1000 * e + 999
    omega

theorem EpochCache.Sane.epochAtSlot_lastSlotInEpoch_succ {cache : EpochCache} (h : cache.Sane)
    (e : Nat) : cache.epochAtSlot (cache.lastSlotInEpoch e + 1) = e + 1 := by
  rw [h.epochAtSlot_eq_iff]
  have hlt := h.lastSlotInEpoch_lt e
  exact ⟨.inr (by simp), hlt⟩

/-- `LeaderScheduleEvent::Init(new_epoch, slots_in_epoch, new_rate_activation_epoch,
stake_history)`, the only event `ScheduleEpochData` emits. -/
structure InitEvent (H : Type) where
  newEpoch : Nat
  slotsInEpoch : Nat
  newRateActivationEpoch : Option Nat
  stakeHistory : H

/-- `ScheduleEpochData`. -/
structure ScheduleEpochData (H : Type) where
  currentEpoch : Nat
  slotsInEpoch : Nat
  lastSlotInEpoch : Nat
  currentConfirmedSlot : Nat
  newRateActivationEpoch : Option Nat
  newStakeHistory : Option H
  /-- the next epoch and its last slot, once the current epoch's last slot is confirmed -/
  nextEpochChange : Option (Nat × Nat)

namespace ScheduleEpochData

variable {H : Type} (cache : EpochCache)

/-- `ScheduleEpochData::new`. -/
def new (currentEpoch slotsInEpoch lastSlotInEpoch currentConfirmedSlot : Nat)
    (newRateActivationEpoch : Option Nat) : ScheduleEpochData H :=
  ⟨currentEpoch, slotsInEpoch, lastSlotInEpoch, currentConfirmedSlot, newRateActivationEpoch, none,
    none⟩

/-- `verify_epoch_change`: with both a stake history and a next epoch, move to that epoch and
emit its `Init`, taking both. -/
def verifyEpochChange (self : ScheduleEpochData H) : Option (InitEvent H) × ScheduleEpochData H :=
  match self.newStakeHistory, self.nextEpochChange with
  | some stakeHistory, some (nextEpoch, lastSlotInEpoch) =>
    let self := { self with
      currentEpoch := nextEpoch, lastSlotInEpoch, nextEpochChange := none, newStakeHistory := none }
    (some ⟨self.currentEpoch, self.slotsInEpoch, self.newRateActivationEpoch, stakeHistory⟩, self)
  | _, _ => (none, self)

/-- `manage_change_epoch`: from the last slot of the epoch on, record the next epoch. -/
def manageChangeEpoch (self : ScheduleEpochData H) : Option (InitEvent H) × ScheduleEpochData H :=
  if self.currentConfirmedSlot ≥ self.lastSlotInEpoch then
    let nextEpoch := cache.epochAtSlot (self.lastSlotInEpoch + 1)
    let lastSlotInEpoch := cache.lastSlotInEpoch nextEpoch
    verifyEpochChange { self with nextEpochChange := some (nextEpoch, lastSlotInEpoch) }
  else (none, self)

/-- `process_new_confirmed_slot`: a slot above the current confirmed one becomes the current one. -/
def processNewConfirmedSlot (self : ScheduleEpochData H) (newSlot : Nat) :
    Option (InitEvent H) × ScheduleEpochData H :=
  if self.currentConfirmedSlot < newSlot then
    manageChangeEpoch cache { self with currentConfirmedSlot := newSlot }
  else (none, self)

/-- `set_epoch_stake_history`. -/
def setEpochStakeHistory (self : ScheduleEpochData H) (history : H) :
    Option (InitEvent H) × ScheduleEpochData H :=
  verifyEpochChange { self with newStakeHistory := some history }

end ScheduleEpochData

/-- `bootstrap_schedule_epoch_data`: the epoch of the latest confirmed slot, from the data cache. -/
def bootstrapScheduleEpochData {H : Type} (cache : EpochCache) (newRateActivationEpoch : Option Nat)
    (confirmedSlot : Nat) : ScheduleEpochData H :=
  let bootstrapEpoch := cache.epochAtSlot confirmedSlot
  ScheduleEpochData.new bootstrapEpoch (cache.slotsInEpoch bootstrapEpoch)
    (cache.lastSlotInEpoch bootstrapEpoch) confirmedSlot newRateActivationEpoch

/-- The notifications of the loop that reach `ScheduleEpochData`: a slot notification, with the
slot of the latest confirmed block, and a stake history account that reads. -/
inductive EpochEvent (H : Type) where
  | confirmedSlot (slot : Nat)
  | stakeHistory (history : H)

namespace EpochEvent

variable {H : Type}

def slot? : EpochEvent H → Option Nat
  | confirmedSlot slot => some slot
  | stakeHistory _ => none

def stakeHistory? : EpochEvent H → Option H
  | confirmedSlot _ => none
  | stakeHistory history => some history

end EpochEvent

namespace ScheduleEpochData

variable {H : Type} (cache : EpochCache)

/-- One notification and the `Init` events it makes. -/
def step (self : ScheduleEpochData H) : EpochEvent H → List (InitEvent H) × ScheduleEpochData H
  | .confirmedSlot slot =>
    let r := self.processNewConfirmedSlot cache slot
    (r.1.toList, r.2)
  | .stakeHistory history =>
    let r := self.setEpochStakeHistory history
    (r.1.toList, r.2)

/-- The stake history a notification leaves waiting, before the epoch change takes it. -/
def pendingAfter (self : ScheduleEpochData H) : EpochEvent H → Option H
  | .confirmedSlot _ => self.newStakeHistory
  | .stakeHistory history => some history

/-- The state agrees with the cache: the last slot is the current epoch's, and a recorded epoch
change goes to the next epoch and was recorded once that last slot was confirmed. -/
structure Consistent (s : ScheduleEpochData H) : Prop where
  lastSlotInEpoch_eq : s.lastSlotInEpoch = cache.lastSlotInEpoch s.currentEpoch
  nextEpochChange_eq : ∀ c ∈ s.nextEpochChange,
    c = (s.currentEpoch + 1, cache.lastSlotInEpoch (s.currentEpoch + 1)) ∧
      s.lastSlotInEpoch ≤ s.currentConfirmedSlot

/-- Between two calls a stake history and an epoch change never wait together:
`verify_epoch_change` takes them as soon as both are there. -/
structure Inv (s : ScheduleEpochData H) : Prop extends Consistent cache s where
  waiting : s.newStakeHistory = none ∨ s.nextEpochChange = none

/-- What a call can do, seen from the state `s` it started in with the stake history `pending`
stored: nothing, leaving `pending` waiting in the same epoch, or the change to the next epoch,
announced by that epoch's `Init` with the stake history `pending`, after the last slot of the
current epoch has been confirmed. -/
def Outcome (s : ScheduleEpochData H) (pending : Option H) (out : List (InitEvent H))
    (t : ScheduleEpochData H) : Prop :=
  (out = [] ∧ t.currentEpoch = s.currentEpoch ∧ t.newStakeHistory = pending) ∨
    ∃ history, pending = some history ∧
      out = [⟨s.currentEpoch + 1, s.slotsInEpoch, s.newRateActivationEpoch, history⟩] ∧
      t.currentEpoch = s.currentEpoch + 1 ∧ t.newStakeHistory = none ∧
      s.lastSlotInEpoch ≤ t.currentConfirmedSlot

theorem Outcome.none {s : ScheduleEpochData H} : Outcome s s.newStakeHistory [] s :=
  .inl ⟨rfl, rfl, rfl⟩

section Frame

variable (s : ScheduleEpochData H)

@[simp] theorem verifyEpochChange_slotsInEpoch :
    (verifyEpochChange s).2.slotsInEpoch = s.slotsInEpoch := by
  unfold verifyEpochChange; split <;> rfl

@[simp] theorem verifyEpochChange_newRateActivationEpoch :
    (verifyEpochChange s).2.newRateActivationEpoch = s.newRateActivationEpoch := by
  unfold verifyEpochChange; split <;> rfl

@[simp] theorem verifyEpochChange_currentConfirmedSlot :
    (verifyEpochChange s).2.currentConfirmedSlot = s.currentConfirmedSlot := by
  unfold verifyEpochChange; split <;> rfl

@[simp] theorem step_slotsInEpoch (ev : EpochEvent H) :
    (s.step cache ev).2.slotsInEpoch = s.slotsInEpoch := by
  cases ev with
  | confirmedSlot slot =>
    simp only [step, processNewConfirmedSlot, manageChangeEpoch]
    split_ifs <;> simp
  | stakeHistory history => simp [step, setEpochStakeHistory]

@[simp] theorem step_newRateActivationEpoch (ev : EpochEvent H) :
    (s.step cache ev).2.newRateActivationEpoch = s.newRateActivationEpoch := by
  cases ev with
  | confirmedSlot slot =>
    simp only [step, processNewConfirmedSlot, manageChangeEpoch]
    split_ifs <;> simp
  | stakeHistory history => simp [step, setEpochStakeHistory]

theorem step_currentConfirmedSlot (ev : EpochEvent H) :
    (s.step cache ev).2.currentConfirmedSlot = ev.slot?.toList.foldl max s.currentConfirmedSlot := by
  cases ev with
  | confirmedSlot slot =>
    simp only [step, processNewConfirmedSlot, manageChangeEpoch, EpochEvent.slot?]
    split_ifs <;> simp <;> omega
  | stakeHistory history => simp [step, setEpochStakeHistory, EpochEvent.slot?]

end Frame

variable {cache} {s : ScheduleEpochData H}

theorem Consistent.verifyEpochChange_outcome (hc : Consistent cache s) :
    Outcome s s.newStakeHistory (verifyEpochChange s).1.toList (verifyEpochChange s).2 := by
  unfold verifyEpochChange
  split
  · rename_i history nextEpoch lastSlot hh hn
    obtain ⟨hnext, hreached⟩ := hc.nextEpochChange_eq _ hn
    simp only [Prod.mk.injEq] at hnext
    exact .inr ⟨history, hh, by simp [hnext.1], hnext.1, rfl, hreached⟩
  · exact Outcome.none

theorem Consistent.verifyEpochChange_inv (hc : Consistent cache s) :
    Inv cache (verifyEpochChange s).2 := by
  unfold verifyEpochChange
  split
  · rename_i history nextEpoch lastSlot hh hn
    obtain ⟨hnext, -⟩ := hc.nextEpochChange_eq _ hn
    simp only [Prod.mk.injEq] at hnext
    dsimp only
    exact ⟨⟨by rw [hnext.1, hnext.2], by simp⟩, .inl rfl⟩
  · rename_i hboth
    refine ⟨hc, ?_⟩
    cases hh : s.newStakeHistory with
    | none => exact .inl rfl
    | some history =>
      cases hn : s.nextEpochChange with
      | none => exact .inr rfl
      | some c => exact absurd hn (hboth history c.1 c.2 hh)

theorem Consistent.storeStakeHistory (hc : Consistent cache s) (history : H) :
    Consistent cache { s with newStakeHistory := some history } :=
  ⟨hc.lastSlotInEpoch_eq, hc.nextEpochChange_eq⟩

theorem Inv.recordEpochChange (hcache : cache.Sane) (hs : Inv cache s)
    (hge : s.currentConfirmedSlot ≥ s.lastSlotInEpoch) :
    Consistent cache { s with nextEpochChange := some (cache.epochAtSlot (s.lastSlotInEpoch + 1),
      cache.lastSlotInEpoch (cache.epochAtSlot (s.lastSlotInEpoch + 1))) } := by
  have hnext : cache.epochAtSlot (s.lastSlotInEpoch + 1) = s.currentEpoch + 1 := by
    rw [hs.lastSlotInEpoch_eq]
    exact hcache.epochAtSlot_lastSlotInEpoch_succ _
  refine ⟨hs.lastSlotInEpoch_eq, ?_⟩
  rintro c hc
  simp only [Option.mem_def, Option.some.injEq] at hc
  exact ⟨by rw [← hc, hnext], hge⟩

theorem Inv.raiseConfirmedSlot (hs : Inv cache s) {newSlot : Nat}
    (hlt : s.currentConfirmedSlot < newSlot) :
    Inv cache { s with currentConfirmedSlot := newSlot } := by
  refine ⟨⟨hs.lastSlotInEpoch_eq, fun c hc => ?_⟩, hs.waiting⟩
  obtain ⟨hnext, hreached⟩ := hs.nextEpochChange_eq c hc
  exact ⟨hnext, by dsimp only; omega⟩

theorem Inv.manageChangeEpoch_inv (hcache : cache.Sane) (hs : Inv cache s) :
    Inv cache (s.manageChangeEpoch cache).2 := by
  unfold manageChangeEpoch
  split_ifs with hge
  · exact (hs.recordEpochChange hcache hge).verifyEpochChange_inv
  · exact hs

theorem Inv.manageChangeEpoch_outcome (hcache : cache.Sane) (hs : Inv cache s) :
    Outcome s s.newStakeHistory (s.manageChangeEpoch cache).1.toList
      (s.manageChangeEpoch cache).2 := by
  unfold manageChangeEpoch
  split_ifs with hge
  · exact (hs.recordEpochChange hcache hge).verifyEpochChange_outcome
  · exact Outcome.none

theorem Inv.step (hcache : cache.Sane) (hs : Inv cache s) (ev : EpochEvent H) :
    Inv cache (s.step cache ev).2 := by
  cases ev with
  | confirmedSlot slot =>
    simp only [ScheduleEpochData.step, processNewConfirmedSlot]
    split_ifs with hlt
    · exact (hs.raiseConfirmedSlot hlt).manageChangeEpoch_inv hcache
    · exact hs
  | stakeHistory history =>
    exact (hs.storeStakeHistory history).verifyEpochChange_inv

theorem Inv.step_outcome (hcache : cache.Sane) (hs : Inv cache s) (ev : EpochEvent H) :
    Outcome s (s.pendingAfter ev) (s.step cache ev).1 (s.step cache ev).2 := by
  cases ev with
  | confirmedSlot slot =>
    simp only [ScheduleEpochData.step, processNewConfirmedSlot, pendingAfter]
    split_ifs with hlt
    · exact (hs.raiseConfirmedSlot hlt).manageChangeEpoch_outcome hcache
    · exact Outcome.none
  | stakeHistory history =>
    exact (hs.storeStakeHistory history).verifyEpochChange_outcome

theorem sublist_pendingAfter {taken : List H} {done : List (EpochEvent H)}
    (h : List.Sublist (taken ++ s.newStakeHistory.toList)
      (done.filterMap EpochEvent.stakeHistory?))
    (ev : EpochEvent H) :
    List.Sublist (taken ++ (s.pendingAfter ev).toList)
      ((done ++ [ev]).filterMap EpochEvent.stakeHistory?) := by
  cases ev with
  | confirmedSlot slot =>
    simpa [pendingAfter, EpochEvent.stakeHistory?, List.filterMap_cons] using h
  | stakeHistory history =>
    simp only [pendingAfter, EpochEvent.stakeHistory?, List.filterMap_append, List.filterMap_cons,
      List.filterMap_nil, Option.toList_some]
    exact ((List.sublist_append_left taken _).trans h).append_right [history]

section Run

variable (cache) (s₀ : ScheduleEpochData H)

/-- What a run from `s₀` has done when it reaches `s`, having emitted `out` for the notifications
`done`: the epochs after `s₀`'s, one by one, each with the slot count and activation epoch of `s₀`,
with stake histories taken in order from distinct notifications, each once the last slot of the
epoch it closes was confirmed. -/
structure RunInv (s : ScheduleEpochData H) (out : List (InitEvent H))
    (done : List (EpochEvent H)) : Prop where
  inv : Inv cache s
  currentEpoch_eq : s.currentEpoch = s₀.currentEpoch + out.length
  slotsInEpoch_eq : s.slotsInEpoch = s₀.slotsInEpoch
  newRateActivationEpoch_eq : s.newRateActivationEpoch = s₀.newRateActivationEpoch
  currentConfirmedSlot_eq :
    s.currentConfirmedSlot = (done.filterMap EpochEvent.slot?).foldl max s₀.currentConfirmedSlot
  newEpochs : out.map InitEvent.newEpoch = List.range' (s₀.currentEpoch + 1) out.length
  params : ∀ i ∈ out,
    i.slotsInEpoch = s₀.slotsInEpoch ∧ i.newRateActivationEpoch = s₀.newRateActivationEpoch
  stakeHistories : List.Sublist (out.map InitEvent.stakeHistory ++ s.newStakeHistory.toList)
    (done.filterMap EpochEvent.stakeHistory?)
  reached : ∀ k < out.length, cache.lastSlotInEpoch (s₀.currentEpoch + k) ≤ s.currentConfirmedSlot

variable {cache s₀}

theorem RunInv.start (hs₀ : Inv cache s₀) (hnone : s₀.newStakeHistory = none) :
    RunInv cache s₀ s₀ [] [] :=
  ⟨hs₀, rfl, rfl, rfl, rfl, rfl, by simp, by simp [hnone], by simp⟩

theorem RunInv.step (hcache : cache.Sane) {out : List (InitEvent H)} {done : List (EpochEvent H)}
    (h : RunInv cache s₀ s out done) (ev : EpochEvent H) :
    RunInv cache s₀ (s.step cache ev).2 (out ++ (s.step cache ev).1) (done ++ [ev]) := by
  have hinv := h.inv.step hcache ev
  have hslots : (s.step cache ev).2.slotsInEpoch = s₀.slotsInEpoch := by
    rw [step_slotsInEpoch, h.slotsInEpoch_eq]
  have hrate : (s.step cache ev).2.newRateActivationEpoch = s₀.newRateActivationEpoch := by
    rw [step_newRateActivationEpoch, h.newRateActivationEpoch_eq]
  have hconf : (s.step cache ev).2.currentConfirmedSlot =
      ((done ++ [ev]).filterMap EpochEvent.slot?).foldl max s₀.currentConfirmedSlot := by
    rw [step_currentConfirmedSlot, List.filterMap_append, List.foldl_append,
      ← h.currentConfirmedSlot_eq]
    cases ev <;> rfl
  have hrise : s.currentConfirmedSlot ≤ (s.step cache ev).2.currentConfirmedSlot := by
    rw [step_currentConfirmedSlot]
    cases ev.slot? <;> simp
  have hhist := sublist_pendingAfter h.stakeHistories ev
  rcases h.inv.step_outcome hcache ev with
    ⟨hout, hepoch, hpending⟩ | ⟨history, hpending, hout, hepoch, hnone, hreached⟩
  · -- nothing emitted: only the confirmed slot and the waiting stake history moved
    rw [hout, List.append_nil]
    refine ⟨hinv, by rw [hepoch, h.currentEpoch_eq], hslots, hrate, hconf, h.newEpochs, h.params,
      by rwa [hpending], fun k hk => (h.reached k hk).trans hrise⟩
  · -- the change to the epoch after the current one, `s₀.currentEpoch + out.length`
    have hlen : (out ++ (s.step cache ev).1).length = out.length + 1 := by simp [hout]
    refine ⟨hinv, ?_, hslots, hrate, hconf, ?_, ?_, ?_, ?_⟩
    · rw [hlen, hepoch, h.currentEpoch_eq]; omega
    · rw [hlen, List.range'_concat, List.map_append, h.newEpochs, hout, h.currentEpoch_eq]
      simp only [List.map_cons, List.map_nil]
      congr 2
      omega
    · intro i hi
      rw [hout, List.mem_append, List.mem_singleton] at hi
      rcases hi with hi | rfl
      · exact h.params i hi
      · exact ⟨h.slotsInEpoch_eq, h.newRateActivationEpoch_eq⟩
    · simpa [hout, hnone, hpending] using hhist
    · intro k hk
      rw [hlen] at hk
      rcases Nat.lt_succ_iff_lt_or_eq.mp hk with hk | rfl
      · exact (h.reached k hk).trans hrise
      · rw [← h.currentEpoch_eq, ← h.inv.lastSlotInEpoch_eq]
        exact hreached

end Run

end ScheduleEpochData

theorem bootstrapScheduleEpochData_inv {H : Type} (cache : EpochCache)
    (newRateActivationEpoch : Option Nat) (confirmedSlot : Nat) :
    ScheduleEpochData.Inv cache
      (bootstrapScheduleEpochData (H := H) cache newRateActivationEpoch confirmedSlot) :=
  ⟨⟨rfl, by simp [bootstrapScheduleEpochData, ScheduleEpochData.new]⟩, .inl rfl⟩

theorem bootstrapScheduleEpochData_runInv {H : Type} {cache : EpochCache} (hcache : cache.Sane)
    (newRateActivationEpoch : Option Nat) (confirmedSlot : Nat) (events : List (EpochEvent H)) :
    let start := bootstrapScheduleEpochData (H := H) cache newRateActivationEpoch confirmedSlot
    ScheduleEpochData.RunInv cache start
      (StepSystem.runOutputs (ScheduleEpochData.step cache) start events).2
      (StepSystem.runOutputs (ScheduleEpochData.step cache) start events).1 events := by
  intro start
  have hrun := @StepSystem.runOutputs_history (ScheduleEpochData H) (EpochEvent H) (InitEvent H)
    (ScheduleEpochData.step cache) (fun _ => True) (fun _ _ _ => trivial)
    (fun s out done => ScheduleEpochData.RunInv cache start s out done)
    (fun _ _ _ ev h _ => h.step hcache ev) start [] []
    (.start (bootstrapScheduleEpochData_inv cache newRateActivationEpoch confirmedSlot) rfl)
    events trivial
  simpa only [List.nil_append] using hrun

/-- Whatever the interleaving of confirmed slots and stake history notifications, the `Init` events
the epoch change emits from the bootstrapped data announce the epochs after the bootstrap epoch one
by one, none skipped and none twice; each carries the slot count of the bootstrap epoch and the
bootstrap activation epoch; their stake histories come, in order, from distinct stake history
notifications; and the `Init` of the epoch after `e` is emitted only once a confirmed slot reached
the last slot of `e`. -/
theorem scheduleEpoch_inits_consecutive {H : Type} {cache : EpochCache} (hcache : cache.Sane)
    (newRateActivationEpoch : Option Nat) (confirmedSlot : Nat) (events : List (EpochEvent H)) :
    let inits := (StepSystem.runOutputs (ScheduleEpochData.step cache)
      (bootstrapScheduleEpochData cache newRateActivationEpoch confirmedSlot) events).1
    inits.map InitEvent.newEpoch =
        List.range' (cache.epochAtSlot confirmedSlot + 1) inits.length ∧
      (∀ i ∈ inits, i.slotsInEpoch = cache.slotsInEpoch (cache.epochAtSlot confirmedSlot) ∧
        i.newRateActivationEpoch = newRateActivationEpoch) ∧
      List.Sublist (inits.map InitEvent.stakeHistory) (events.filterMap EpochEvent.stakeHistory?) ∧
      ∀ k < inits.length, cache.lastSlotInEpoch (cache.epochAtSlot confirmedSlot + k) ≤
        (events.filterMap EpochEvent.slot?).foldl max confirmedSlot := by
  intro inits
  have h := bootstrapScheduleEpochData_runInv hcache newRateActivationEpoch confirmedSlot events
  exact ⟨h.newEpochs, h.params, (List.sublist_append_left _ _).trans h.stakeHistories,
    fun k hk => (h.reached k hk).trans h.currentConfirmedSlot_eq.le⟩

/-- A run over the test cache: the last slot of epoch 0 is confirmed before the stake history
arrives, and a slot past the last of epoch 1 is notified twice before the next one. -/
def epochEventsForTests : List (EpochEvent Nat) :=
  [.confirmedSlot 999, .stakeHistory 7, .confirmedSlot 1999, .confirmedSlot 2500, .stakeHistory 8]

example : (StepSystem.runOutputs (ScheduleEpochData.step EpochCache.newForTests)
    (bootstrapScheduleEpochData EpochCache.newForTests none 500) epochEventsForTests).1.map
      (fun i => (i.newEpoch, i.stakeHistory)) = [(1, 7), (2, 8)] := by
  rfl

theorem scheduleEpoch_inits_consecutive_newForTests :
    EpochCache.newForTests.Sane ∧
      let inits := (StepSystem.runOutputs (ScheduleEpochData.step EpochCache.newForTests)
        (bootstrapScheduleEpochData EpochCache.newForTests none 500) epochEventsForTests).1
      inits.map InitEvent.newEpoch =
          List.range' (EpochCache.newForTests.epochAtSlot 500 + 1) inits.length ∧
        (∀ i ∈ inits, i.slotsInEpoch =
            EpochCache.newForTests.slotsInEpoch (EpochCache.newForTests.epochAtSlot 500) ∧
          i.newRateActivationEpoch = none) ∧
        List.Sublist (inits.map InitEvent.stakeHistory)
          (epochEventsForTests.filterMap EpochEvent.stakeHistory?) ∧
        ∀ k < inits.length,
          EpochCache.newForTests.lastSlotInEpoch (EpochCache.newForTests.epochAtSlot 500 + k) ≤
            (epochEventsForTests.filterMap EpochEvent.slot?).foldl max 500 :=
  ⟨EpochCache.newForTests_sane,
    scheduleEpoch_inits_consecutive EpochCache.newForTests_sane none 500 epochEventsForTests⟩

/-- At the end of any run from the bootstrapped data, the epoch is the bootstrap epoch advanced
once per `Init` emitted, the last slot is that epoch's, the confirmed slot is the highest notified,
and a stake history never waits while an epoch change is recorded. -/
theorem scheduleEpoch_state_follows_inits {H : Type} {cache : EpochCache} (hcache : cache.Sane)
    (newRateActivationEpoch : Option Nat) (confirmedSlot : Nat) (events : List (EpochEvent H)) :
    let r := StepSystem.runOutputs (ScheduleEpochData.step cache)
      (bootstrapScheduleEpochData cache newRateActivationEpoch confirmedSlot) events
    r.2.currentEpoch = cache.epochAtSlot confirmedSlot + r.1.length ∧
      r.2.lastSlotInEpoch = cache.lastSlotInEpoch r.2.currentEpoch ∧
      r.2.currentConfirmedSlot = (events.filterMap EpochEvent.slot?).foldl max confirmedSlot ∧
      (r.2.newStakeHistory = none ∨ r.2.nextEpochChange = none) := by
  intro r
  have h := bootstrapScheduleEpochData_runInv hcache newRateActivationEpoch confirmedSlot events
  exact ⟨h.currentEpoch_eq, h.inv.lastSlotInEpoch_eq, h.currentConfirmedSlot_eq, h.inv.waiting⟩

theorem scheduleEpoch_state_follows_inits_newForTests :
    EpochCache.newForTests.Sane ∧
      let r := StepSystem.runOutputs (ScheduleEpochData.step EpochCache.newForTests)
        (bootstrapScheduleEpochData EpochCache.newForTests none 500) epochEventsForTests
      r.2.currentEpoch = EpochCache.newForTests.epochAtSlot 500 + r.1.length ∧
        r.2.lastSlotInEpoch = EpochCache.newForTests.lastSlotInEpoch r.2.currentEpoch ∧
        r.2.currentConfirmedSlot = (epochEventsForTests.filterMap EpochEvent.slot?).foldl max 500 ∧
        (r.2.newStakeHistory = none ∨ r.2.nextEpochChange = none) :=
  ⟨EpochCache.newForTests_sane,
    scheduleEpoch_state_follows_inits EpochCache.newForTests_sane none 500 epochEventsForTests⟩

end LiteRpc
