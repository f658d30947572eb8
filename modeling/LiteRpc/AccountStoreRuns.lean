import LiteRpc.InmemoryAccountStore

/-!
Runs of `InmemoryAccountStore`: the states reachable from `InmemoryAccountStore::new()` by any
sequence of `update_account`, `initilize_or_update_account` and `process_slot_data` calls, the
invariant they keep, and what a client reading `get_account` sees along a run.
-/

namespace LiteRpc

namespace InmemoryAccountStore

open AccountDataByCommitment

/-- The calls of `AccountStorageInterface` that change the store. -/
inductive Operation where
  | updateAccount (accountData : AccountData) (commitment : Commitment)
  | initilizeOrUpdateAccount (accountData : AccountData)
  | processSlotData (slot : Slot) (commitment : Commitment)

def step (self : InmemoryAccountStore) : Operation → InmemoryAccountStore
  | .updateAccount accountData commitment => (self.updateAccount accountData commitment).2
  | .initilizeOrUpdateAccount accountData => self.initilizeOrUpdateAccount accountData
  | .processSlotData slot commitment => (self.processSlotData slot commitment).2

/-- The states reachable from an empty store. -/
def Reachable (s : InmemoryAccountStore) : Prop := StepSystem.Reachable step new s

theorem reachable_new : new.Reachable := StepSystem.Reachable.refl new

theorem Reachable.next {s : InmemoryAccountStore} (h : s.Reachable) (op : Operation) :
    (s.step op).Reachable :=
  StepSystem.Reachable.next h op

/-- Every stored account is well formed and stored under its own pubkey. -/
def Inv (s : InmemoryAccountStore) : Prop :=
  ∀ k acc, s.accountStore.lookup k = some acc → acc.Wf ∧ acc.pubkey = k

/-- The view a `get_account` call returns. -/
def view (s : InmemoryAccountStore) (pubkey : Pubkey) (commitment : Commitment) :
    Option AccountData :=
  (s.accountStore.lookup pubkey).bind (·.getAccountData commitment)

theorem getAccount_eq_view (s : InmemoryAccountStore) (pubkey : Pubkey) (commitment : Commitment) :
    s.getAccount pubkey commitment = .ok (s.view pubkey commitment) := by
  unfold getAccount view
  split <;> simp_all

theorem inv_new : Inv new := by
  intro k acc h
  simp [new] at h

theorem Inv.updateAccount {s : InmemoryAccountStore} (h : Inv s) (accountData : AccountData)
    (commitment : Commitment) : Inv (s.updateAccount accountData commitment).2 := by
  intro k acc hk
  rw [updateAccount_lookup] at hk
  split_ifs at hk with hkd
  · cases hk
    split
    · rename_i acc₀ hl
      obtain ⟨hw, hp⟩ := h _ acc₀ hl
      exact ⟨hw.update hp.symm _, by simp [hp, hkd]⟩
    · exact ⟨wf_new _ _, hkd.symm⟩
  · exact h k acc hk

theorem Inv.initilizeOrUpdateAccount {s : InmemoryAccountStore} (h : Inv s)
    (accountData : AccountData) : Inv (s.initilizeOrUpdateAccount accountData) := by
  intro k acc hk
  rw [initilizeOrUpdateAccount_lookup] at hk
  split_ifs at hk with hkd
  · cases hk
    split
    · rename_i acc₀ hl
      obtain ⟨hw, hp⟩ := h _ acc₀ hl
      exact ⟨hw.update hp.symm _, by simp [hp, hkd]⟩
    · exact ⟨wf_initialise _, hkd.symm⟩
  · exact h k acc hk

theorem Inv.processSlotData {s : InmemoryAccountStore} (h : Inv s) (slot : Slot)
    (commitment : Commitment) : Inv (s.processSlotData slot commitment).2 := by
  intro k acc hk
  rw [processSlotData_lookup] at hk
  obtain ⟨acc₀, hl, rfl⟩ := Option.map_eq_some_iff.mp hk
  obtain ⟨hw, hp⟩ := h k acc₀ hl
  exact ⟨hw.promoteSlotCommitment slot commitment, by simp [hp]⟩

theorem Inv.of_step {s : InmemoryAccountStore} (h : Inv s) : ∀ op, Inv (s.step op)
  | .updateAccount accountData commitment => h.updateAccount accountData commitment
  | .initilizeOrUpdateAccount accountData => h.initilizeOrUpdateAccount accountData
  | .processSlotData slot commitment => h.processSlotData slot commitment

theorem Reachable.inv {s : InmemoryAccountStore} (h : s.Reachable) : Inv s :=
  StepSystem.Reachable.invariant Inv inv_new (fun _ op hs => hs.of_step op) h

theorem viewLe_bind {o o' : Option AccountDataByCommitment} (commitment : Commitment)
    (h : ∀ acc, o = some acc → ∃ acc', o' = some acc' ∧
      ViewLe (acc.getAccountData commitment) (acc'.getAccountData commitment)) :
    ViewLe (o.bind (·.getAccountData commitment)) (o'.bind (·.getAccountData commitment)) := by
  cases o with
  | none => intro a ha; simp at ha
  | some acc =>
    obtain ⟨acc', rfl, hle⟩ := h acc rfl
    exact hle

theorem Inv.viewLe_step {s : InmemoryAccountStore} (h : Inv s) (op : Operation) (pubkey : Pubkey)
    (commitment : Commitment) : ViewLe (s.view pubkey commitment) ((s.step op).view pubkey commitment) := by
  apply viewLe_bind commitment
  intro acc hl
  obtain ⟨hw, hp⟩ := h pubkey acc hl
  cases op with
  | updateAccount accountData c =>
    simp only [step, updateAccount_lookup]
    split_ifs with hk
    · subst hk
      rw [hl]
      exact ⟨_, rfl, hw.viewLe_update hp.symm _ commitment⟩
    · exact ⟨acc, hl, ViewLe.refl _⟩
  | initilizeOrUpdateAccount accountData =>
    simp only [step, initilizeOrUpdateAccount_lookup]
    split_ifs with hk
    · subst hk
      rw [hl]
      exact ⟨_, rfl, hw.viewLe_update hp.symm _ commitment⟩
    · exact ⟨acc, hl, ViewLe.refl _⟩
  | processSlotData slot c =>
    simp only [step, processSlotData_lookup, hl, Option.map_some]
    exact ⟨_, rfl, hw.viewLe_promoteSlotCommitment slot c commitment⟩

/-- From every reachable state, no operation moves the view of any account at any commitment
back in time: a present view stays present, at a slot not below the one before. -/
theorem getAccount_never_goes_back {s : InmemoryAccountStore} (hs : s.Reachable)
    (op : Operation) (pubkey : Pubkey) (commitment : Commitment) {a : AccountData}
    (ha : s.getAccount pubkey commitment = .ok (some a)) :
    ∃ a', (s.step op).getAccount pubkey commitment = .ok (some a') ∧
      a.updatedSlot ≤ a'.updatedSlot := by
  rw [getAccount_eq_view] at ha ⊢
  obtain ⟨a', ha', hle⟩ := hs.inv.viewLe_step op pubkey commitment a (Option.mem_def.mpr (Except.ok.inj ha))
  exact ⟨a', by rw [Option.mem_def.mp ha'], hle⟩

theorem getAccount_never_goes_back_after_initialise :
    let d : AccountData := ⟨⟨1⟩, ⟨0, [], ⟨10⟩, false, 0⟩, 4⟩
    let s := new.step (.initilizeOrUpdateAccount d)
    s.Reachable ∧ s.getAccount ⟨1⟩ .finalized = .ok (some d) ∧
      ∃ a', (s.step (.processSlotData 7 .finalized)).getAccount ⟨1⟩ .finalized = .ok (some a') ∧
        d.updatedSlot ≤ a'.updatedSlot :=
  ⟨reachable_new.next _, by decide,
    getAccount_never_goes_back (reachable_new.next _) _ _ _ (by decide)⟩

/-- A store that holds account `1` at slot 5, processed and then confirmed. -/
def storeConfirmedAtFive : InmemoryAccountStore :=
  (new.step (.updateAccount ⟨⟨1⟩, ⟨0, [], ⟨10⟩, false, 0⟩, 5⟩ .processed)).step
    (.processSlotData 5 .confirmed)

theorem reachable_storeConfirmedAtFive : storeConfirmedAtFive.Reachable :=
  (reachable_new.next _).next _

example : storeConfirmedAtFive.view ⟨1⟩ .confirmed = some ⟨⟨1⟩, ⟨0, [], ⟨10⟩, false, 0⟩, 5⟩ ∧
    storeConfirmedAtFive.view ⟨1⟩ .finalized = none := by
  decide

/-! ### The owner index and the ordering of views

A finalized update that changes the owner removes the account from its old owner's index, even
when a newer processed view still has that owner; and a finalized slot notification promotes the
processed data of that slot to the finalized view without looking at the confirmed view. -/

theorem owner_index_drops_processed_owner :
    let a : Pubkey := ⟨10⟩
    let d₀ : AccountData := ⟨⟨1⟩, ⟨0, [], a, false, 0⟩, 0⟩
    let d₅ : AccountData := ⟨⟨1⟩, ⟨0, [], a, false, 0⟩, 5⟩
    let d₃ : AccountData := ⟨⟨1⟩, ⟨0, [], ⟨11⟩, false, 0⟩, 3⟩
    let s := StepSystem.run step new
      [.initilizeOrUpdateAccount d₀, .updateAccount d₅ .processed, .updateAccount d₃ .finalized]
    s.getAccount ⟨1⟩ .processed = .ok (some d₅) ∧ s.accountsByOwner a = some [] ∧
      ∀ bytesMatch, s.getProgramAccounts bytesMatch a none .processed = some [] := by
  refine ⟨by decide, by decide, fun bytesMatch => ?_⟩
  rfl

theorem finalized_view_above_confirmed :
    let d₀ : AccountData := ⟨⟨1⟩, ⟨0, [], ⟨10⟩, false, 0⟩, 0⟩
    let d₅ : AccountData := ⟨⟨1⟩, ⟨0, [], ⟨10⟩, false, 0⟩, 5⟩
    let s := StepSystem.run step new
      [.initilizeOrUpdateAccount d₀, .updateAccount d₅ .processed, .processSlotData 5 .finalized]
    s.getAccount ⟨1⟩ .finalized = .ok (some d₅) ∧ s.getAccount ⟨1⟩ .confirmed = .ok (some d₀) := by
  decide

end InmemoryAccountStore

end LiteRpc
