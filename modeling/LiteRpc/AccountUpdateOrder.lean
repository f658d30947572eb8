import LiteRpc.AccountStoreRuns

/-!
An account update racing the slot notifications of its slot. A geyser update of slot `s` and the
confirmed and finalized notifications of `s` arrive on different streams, so
`update_account(d, Processed)` may come before both `process_slot_data` calls, between them, or
after both. `confirmed_slots_map` remembers confirmed slots so that an update arriving after the
confirmation is applied as confirmed; the finalization removes the slot from it.
-/

namespace LiteRpc

namespace InmemoryAccountStore

open AccountDataByCommitment

/-- The update before the confirmation and the finalization of its slot. -/
def updateBeforeSlot (s : InmemoryAccountStore) (d : AccountData) : InmemoryAccountStore :=
  StepSystem.run step s [.updateAccount d .processed, .processSlotData d.updatedSlot .confirmed,
    .processSlotData d.updatedSlot .finalized]

/-- The update between the confirmation and the finalization of its slot. -/
def updateBetweenSlot (s : InmemoryAccountStore) (d : AccountData) : InmemoryAccountStore :=
  StepSystem.run step s [.processSlotData d.updatedSlot .confirmed, .updateAccount d .processed,
    .processSlotData d.updatedSlot .finalized]

/-- The update after the confirmation and the finalization of its slot. -/
def updateAfterSlot (s : InmemoryAccountStore) (d : AccountData) : InmemoryAccountStore :=
  StepSystem.run step s [.processSlotData d.updatedSlot .confirmed,
    .processSlotData d.updatedSlot .finalized, .updateAccount d .processed]

theorem lookup_updateBeforeSlot {s : InmemoryAccountStore} {d : AccountData}
    (hnew : s.confirmedSlotsMap d.updatedSlot = false) :
    (s.updateBeforeSlot d).accountStore.lookup d.pubkey =
      some (((match s.accountStore.lookup d.pubkey with
        | some acc => (acc.update d .processed).2
        | none => .new d .processed).promoteSlotCommitment d.updatedSlot .confirmed).2.promoteSlotCommitment
          d.updatedSlot .finalized).2 := by
  have hc : s.effectiveCommitment d.updatedSlot .processed = .processed := by
    simp [effectiveCommitment, hnew]
  simp only [updateBeforeSlot, StepSystem.run_cons, StepSystem.run_nil, step, processSlotData_lookup,
    updateAccount_lookup, hc, Option.map_map]
  cases s.accountStore.lookup d.pubkey <;> rfl

theorem lookup_updateBetweenSlot (s : InmemoryAccountStore) (d : AccountData) :
    (s.updateBetweenSlot d).accountStore.lookup d.pubkey =
      some ((match s.accountStore.lookup d.pubkey with
        | some acc => ((acc.promoteSlotCommitment d.updatedSlot .confirmed).2.update d .confirmed).2
        | none => .new d .confirmed).promoteSlotCommitment d.updatedSlot .finalized).2 := by
  have hc : (s.processSlotData d.updatedSlot .confirmed).2.effectiveCommitment d.updatedSlot
      .processed = .confirmed := by
    simp [effectiveCommitment, processSlotData_confirmedSlotsMap]
  simp only [updateBetweenSlot, StepSystem.run_cons, StepSystem.run_nil, step, processSlotData_lookup,
    updateAccount_lookup, hc]
  cases s.accountStore.lookup d.pubkey <;> rfl

theorem lookup_updateAfterSlot (s : InmemoryAccountStore) (d : AccountData) :
    (s.updateAfterSlot d).accountStore.lookup d.pubkey =
      some (match s.accountStore.lookup d.pubkey with
        | some acc => (((acc.promoteSlotCommitment d.updatedSlot .confirmed).2.promoteSlotCommitment
            d.updatedSlot .finalized).2.update d .processed).2
        | none => .new d .processed) := by
  have hc : ((s.processSlotData d.updatedSlot .confirmed).2.processSlotData d.updatedSlot
      .finalized).2.effectiveCommitment d.updatedSlot .processed = .processed := by
    simp [effectiveCommitment, processSlotData_confirmedSlotsMap]
  simp only [updateAfterSlot, StepSystem.run_cons, StepSystem.run_nil, step, processSlotData_lookup,
    updateAccount_lookup, hc, Option.map_map]
  cases s.accountStore.lookup d.pubkey <;> rfl

/-- For a slot not yet confirmed (the confirmed block-info stream is strictly increasing, so each
slot is confirmed once), a processed update before the two notifications of its slot or between
them gives the same views at every commitment, and the same processed view as an update after
both. An update after both is not promoted: the finalization removed its slot from
`confirmed_slots_map`. -/
theorem update_order_until_finalized {s : InmemoryAccountStore} (hs : s.Reachable)
    (d : AccountData) (hslot : 0 < d.updatedSlot) (hnew : s.confirmedSlotsMap d.updatedSlot = false) :
    (∀ c, (s.updateBeforeSlot d).getAccount d.pubkey c = (s.updateBetweenSlot d).getAccount d.pubkey c) ∧
      (s.updateAfterSlot d).getAccount d.pubkey .processed =
        (s.updateBeforeSlot d).getAccount d.pubkey .processed := by
  have hinv := hs.inv
  constructor
  · intro c
    rw [getAccount_eq_view, getAccount_eq_view, view, view, lookup_updateBeforeSlot hnew,
      lookup_updateBetweenSlot]
    cases hl : s.accountStore.lookup d.pubkey with
    | none => simp only [promoteSlotCommitment_new hslot]
    | some acc => simp only [update_promote_eq_promote_update (hinv _ acc hl).1 hslot]
  · rw [getAccount_eq_view, getAccount_eq_view, view, view, lookup_updateAfterSlot,
      lookup_updateBeforeSlot hnew]
    cases hl : s.accountStore.lookup d.pubkey with
    | none =>
      obtain ⟨q, hq, -⟩ := (wf_new d .processed).getAccountData_processed
      simp [getAccountData, hq]
    | some acc =>
      have hw := (hinv _ acc hl).1
      have hl' := lastKeyValue_update_after_finalized
        (hw.promoteSlotCommitment d.updatedSlot .confirmed) d .finalized
      simp only [Option.bind_some, getAccountData, promoteSlotCommitment_lastKeyValue] at hl' ⊢
      rw [hl', lastKeyValue_update_after_finalized hw d .confirmed]
      obtain ⟨q, hq, -⟩ := (hw.update (hinv _ acc hl).2.symm .processed).getAccountData_processed
      simp [hq]

theorem update_order_until_finalized_first_slot :
    storeConfirmedAtFive.Reachable ∧
    storeConfirmedAtFive.view ⟨1⟩ .confirmed = some ⟨⟨1⟩, ⟨0, [], ⟨10⟩, false, 0⟩, 5⟩ ∧
    0 < (⟨⟨1⟩, ⟨0, [], ⟨11⟩, false, 0⟩, 7⟩ : AccountData).updatedSlot ∧
    storeConfirmedAtFive.confirmedSlotsMap 7 = false ∧
      ((∀ c, (storeConfirmedAtFive.updateBeforeSlot ⟨⟨1⟩, ⟨0, [], ⟨11⟩, false, 0⟩, 7⟩).getAccount
            ⟨1⟩ c =
          (storeConfirmedAtFive.updateBetweenSlot ⟨⟨1⟩, ⟨0, [], ⟨11⟩, false, 0⟩, 7⟩).getAccount
            ⟨1⟩ c) ∧
        (storeConfirmedAtFive.updateAfterSlot ⟨⟨1⟩, ⟨0, [], ⟨11⟩, false, 0⟩, 7⟩).getAccount
            ⟨1⟩ .processed =
          (storeConfirmedAtFive.updateBeforeSlot ⟨⟨1⟩, ⟨0, [], ⟨11⟩, false, 0⟩, 7⟩).getAccount
            ⟨1⟩ .processed) :=
  ⟨reachable_storeConfirmedAtFive, by decide, by decide, by decide,
    update_order_until_finalized reachable_storeConfirmedAtFive ⟨⟨1⟩, ⟨0, [], ⟨11⟩, false, 0⟩, 7⟩
      (by decide) (by decide)⟩

/-- An update that arrives after the finalization of its slot is never promoted. -/
theorem late_update_not_promoted :
    let d : AccountData := ⟨⟨1⟩, ⟨0, [], ⟨10⟩, false, 0⟩, 1⟩
    (new.updateBeforeSlot d).getAccount d.pubkey .confirmed = .ok (some d) ∧
      (new.updateAfterSlot d).getAccount d.pubkey .confirmed = .ok none := by
  decide

end InmemoryAccountStore

end LiteRpc
