import Mathlib.Data.List.AList
import LiteRpc.AccountDataByCommitment
import LiteRpc.Lib.Run

/-!
`InmemoryAccountStore` of `inmemory_account_store.rs`: the accounts by pubkey, the set of
confirmed slots, and the index of accounts by owner, with the operations of
`AccountStorageInterface` as the store implements them.

The `DashMap` of accounts is an association list (its iteration order is unspecified in the
source and fixed here), the `DashSet` of confirmed slots a predicate, and the owner index a map
from owners to the `HashSet` of their accounts as a duplicate-free list.
-/

namespace LiteRpc

structure InmemoryAccountStore where
  accountStore : AList fun _ : Pubkey => AccountDataByCommitment
  confirmedSlotsMap : Slot → Bool
  accountsByOwner : Pubkey → Option (List Pubkey)

namespace InmemoryAccountStore

open AccountDataByCommitment

def new : InmemoryAccountStore := ⟨∅, fun _ => false, fun _ => none⟩

def addAccountOwner (self : InmemoryAccountStore) (account owner : Pubkey) :
    InmemoryAccountStore :=
  let set := match self.accountsByOwner owner with
    | some set => set.insert account
    | none => [account]
  { self with accountsByOwner := Function.update self.accountsByOwner owner (some set) }

/-- On a change of owner by a processed or confirmed update the account stays indexed under both
owners; a finalized update removes it from the old owner. The source asserts
`prev_account_data.pubkey == new_account_data.pubkey` here; every call site meets it in a
well-formed store (`Inv`). -/
def updateOwner (self : InmemoryAccountStore) (prevAccountData newAccountData : AccountData)
    (commitment : Commitment) : InmemoryAccountStore :=
  if prevAccountData.account.owner ≠ newAccountData.account.owner then
    let self := if commitment = .finalized then
        let owner := prevAccountData.account.owner
        match self.accountsByOwner owner with
        | some set =>
          let set := set.erase prevAccountData.pubkey
          { self with accountsByOwner := Function.update self.accountsByOwner owner (some set) }
        | none => self
      else self
    self.addAccountOwner newAccountData.pubkey newAccountData.account.owner
  else self

/-- The commitment `update_account` applies: a processed update of an already confirmed slot is
applied as confirmed. -/
def effectiveCommitment (self : InmemoryAccountStore) (slot : Slot) (commitment : Commitment) :
    Commitment :=
  if commitment = .processed then
    (if self.confirmedSlotsMap slot then .confirmed else .processed)
  else commitment

/-- `update_account`: returns whether the account was updated. -/
def updateAccount (self : InmemoryAccountStore) (accountData : AccountData)
    (commitment : Commitment) : Bool × InmemoryAccountStore :=
  -- check if the slot is already confirmed
  let commitment := self.effectiveCommitment accountData.updatedSlot commitment
  match self.accountStore.lookup accountData.pubkey with
  | some acc =>
    let prevAccount := acc.getAccountData commitment
    let r := acc.update accountData commitment
    let self := { self with accountStore := self.accountStore.insert accountData.pubkey r.2 }
    -- if the account has been updated
    if r.1 then
      match prevAccount with
      | some prevAccount => (true, self.updateOwner prevAccount accountData commitment)
      | none => (true, self)
    else (false, self)
  | none =>
    let self := self.addAccountOwner accountData.pubkey accountData.account.owner
    (true, { self with
      accountStore := self.accountStore.insert accountData.pubkey (.new accountData commitment) })

def initilizeOrUpdateAccount (self : InmemoryAccountStore) (accountData : AccountData) :
    InmemoryAccountStore :=
  match self.accountStore.lookup accountData.pubkey with
  -- the account has already been filled by an event
  | some _ => (self.updateAccount accountData .finalized).2
  | none =>
    let self := self.addAccountOwner accountData.pubkey accountData.account.owner
    { self with accountStore := self.accountStore.insert accountData.pubkey (.initialise accountData) }

def getAccount (self : InmemoryAccountStore) (accountPk : Pubkey) (commitment : Commitment) :
    Except AccountLoadingError (Option AccountData) :=
  match self.accountStore.lookup accountPk with
  | some accountByCommitment => .ok (accountByCommitment.getAccountData commitment)
  | none => .ok none

/-- `get_program_accounts`; `bytesMatch` is `Memcmp::bytes_match` of the RPC client library. -/
def getProgramAccounts (bytesMatch : RpcMemcmp → List UInt8 → Bool) (self : InmemoryAccountStore)
    (programPubkey : Pubkey) (accountFilters : Option (List RpcFilterType))
    (commitment : Commitment) : Option (List AccountData) :=
  match self.accountsByOwner programPubkey with
  | some programAccounts =>
    some (programAccounts.filterMap fun programAccount =>
      match self.getAccount programAccount commitment with
      | .ok (some accountData) =>
        -- recheck program owner and filters
        if accountData.account.owner = programPubkey then
          match accountFilters with
          | some filters =>
            if filters.all (accountData.allows bytesMatch) then some accountData else none
          | none => some accountData
        else none
      | _ => none)
  | none => none

/-- The accounts after promoting every stored account at `slot`. -/
def promoteAll (self : InmemoryAccountStore) (slot : Slot) (commitment : Commitment) :
    AList fun _ : Pubkey => AccountDataByCommitment :=
  ⟨self.accountStore.entries.map
      (Sigma.map id fun _ acc => (acc.promoteSlotCommitment slot commitment).2),
    List.NodupKeys.map₂ _ _ self.accountStore.nodupKeys⟩

/-- The owner index after a promotion that replaced `prev` by `accountData`. -/
def updatePromotedOwner (commitment : Commitment) (self : InmemoryAccountStore) :
    AccountData × Option AccountData → InmemoryAccountStore
  | (accountData, some prevAccountData) =>
    if prevAccountData.account.owner ≠ accountData.account.owner then
      self.updateOwner prevAccountData accountData commitment
    else self
  | (_, none) => self

/-- The promoted data, unless it equals the view it replaced. -/
def updatedAccount : AccountData × Option AccountData → Option AccountData
  | (accountData, some prevAccountData) =>
    if prevAccountData ≠ accountData then some accountData else none
  | (accountData, none) => some accountData

/-- `process_slot_data`: records a confirmed or finalized slot, promotes every account at it, and
returns the promoted accounts whose view changed. -/
def processSlotData (self : InmemoryAccountStore) (slot : Slot) (commitment : Commitment) :
    List AccountData × InmemoryAccountStore :=
  match commitment with
  -- processed should not use process_slot_data
  | .processed => ([], self)
  | .confirmed | .finalized =>
    -- insert confirmed slots, remove finalized slots from the confirmed map
    let confirmed := decide (commitment = Commitment.confirmed)
    let self := { self with confirmedSlotsMap := Function.update self.confirmedSlotsMap slot confirmed }
    let updatedAccounts := self.accountStore.entries.filterMap fun acc =>
      (acc.2.promoteSlotCommitment slot commitment).1
    let self := { self with accountStore := self.promoteAll slot commitment }
    -- update owners
    let self := updatedAccounts.foldl (updatePromotedOwner commitment) self
    (updatedAccounts.filterMap updatedAccount, self)

section Frame

variable (self : InmemoryAccountStore)

@[simp] theorem addAccountOwner_accountStore (account owner : Pubkey) :
    (self.addAccountOwner account owner).accountStore = self.accountStore := rfl

@[simp] theorem addAccountOwner_confirmedSlotsMap (account owner : Pubkey) :
    (self.addAccountOwner account owner).confirmedSlotsMap = self.confirmedSlotsMap := rfl

@[simp] theorem updateOwner_accountStore (prev data : AccountData) (commitment : Commitment) :
    (self.updateOwner prev data commitment).accountStore = self.accountStore := by
  unfold updateOwner
  split_ifs
  · simp only [addAccountOwner_accountStore]
    split <;> rfl
  · simp only [addAccountOwner_accountStore]
  · rfl

@[simp] theorem updateOwner_confirmedSlotsMap (prev data : AccountData) (commitment : Commitment) :
    (self.updateOwner prev data commitment).confirmedSlotsMap = self.confirmedSlotsMap := by
  unfold updateOwner
  split_ifs
  · simp only [addAccountOwner_confirmedSlotsMap]
    split <;> rfl
  · simp only [addAccountOwner_confirmedSlotsMap]
  · rfl

theorem foldl_updatePromotedOwner_frame (commitment : Commitment)
    (l : List (AccountData × Option AccountData)) :
    (l.foldl (updatePromotedOwner commitment) self).accountStore = self.accountStore ∧
      (l.foldl (updatePromotedOwner commitment) self).confirmedSlotsMap = self.confirmedSlotsMap := by
  induction l generalizing self with
  | nil => exact ⟨rfl, rfl⟩
  | cons p l ih =>
    obtain ⟨h₁, h₂⟩ := ih (updatePromotedOwner commitment self p)
    rw [List.foldl_cons, h₁, h₂]
    rcases p with ⟨d, _ | prev⟩
    · exact ⟨rfl, rfl⟩
    · simp only [updatePromotedOwner]
      split_ifs <;> simp

end Frame

theorem lookup_promoteAll (self : InmemoryAccountStore) (slot : Slot) (commitment : Commitment)
    (k : Pubkey) : (self.promoteAll slot commitment).lookup k =
      (self.accountStore.lookup k).map fun acc => (acc.promoteSlotCommitment slot commitment).2 :=
  List.dlookup_map₂ k

theorem updateAccount_accountStore (self : InmemoryAccountStore) (accountData : AccountData)
    (commitment : Commitment) :
    (self.updateAccount accountData commitment).2.accountStore =
      self.accountStore.insert accountData.pubkey
        (match self.accountStore.lookup accountData.pubkey with
          | some acc =>
            (acc.update accountData (self.effectiveCommitment accountData.updatedSlot commitment)).2
          | none => .new accountData (self.effectiveCommitment accountData.updatedSlot commitment)) := by
  unfold updateAccount
  split
  · simp only
    split_ifs
    · split <;> simp_all
    · simp_all
  · simp_all

theorem updateAccount_lookup (self : InmemoryAccountStore) (accountData : AccountData)
    (commitment : Commitment) (k : Pubkey) :
    (self.updateAccount accountData commitment).2.accountStore.lookup k =
      if k = accountData.pubkey then
        some (match self.accountStore.lookup accountData.pubkey with
          | some acc =>
            (acc.update accountData (self.effectiveCommitment accountData.updatedSlot commitment)).2
          | none => .new accountData (self.effectiveCommitment accountData.updatedSlot commitment))
      else self.accountStore.lookup k := by
  rw [updateAccount_accountStore]
  split_ifs with hk
  · rw [hk, AList.lookup_insert]
  · exact AList.lookup_insert_ne hk

@[simp] theorem updateAccount_confirmedSlotsMap (self : InmemoryAccountStore)
    (accountData : AccountData) (commitment : Commitment) :
    (self.updateAccount accountData commitment).2.confirmedSlotsMap = self.confirmedSlotsMap := by
  unfold updateAccount
  split
  · simp only
    split_ifs
    · split <;> simp
    · rfl
  · rfl

theorem updateAccount_fst (self : InmemoryAccountStore) (accountData : AccountData)
    (commitment : Commitment) :
    (self.updateAccount accountData commitment).1 =
      match self.accountStore.lookup accountData.pubkey with
      | some acc => (acc.update accountData (self.effectiveCommitment accountData.updatedSlot commitment)).1
      | none => true := by
  unfold updateAccount
  split
  · simp only
    split_ifs with h
    · split <;> simp [h]
    · simp_all
  · rfl

theorem initilizeOrUpdateAccount_lookup (self : InmemoryAccountStore) (accountData : AccountData)
    (k : Pubkey) : (self.initilizeOrUpdateAccount accountData).accountStore.lookup k =
      if k = accountData.pubkey then
        some (match self.accountStore.lookup accountData.pubkey with
          | some acc => (acc.update accountData .finalized).2
          | none => .initialise accountData)
      else self.accountStore.lookup k := by
  unfold initilizeOrUpdateAccount
  split
  · rw [updateAccount_lookup]
    simp_all [effectiveCommitment]
  · split_ifs with hk
    · rw [hk, AList.lookup_insert]
    · exact AList.lookup_insert_ne hk

theorem processSlotData_lookup (self : InmemoryAccountStore) (slot : Slot)
    (commitment : Commitment) (k : Pubkey) :
    (self.processSlotData slot commitment).2.accountStore.lookup k =
      (self.accountStore.lookup k).map fun acc => (acc.promoteSlotCommitment slot commitment).2 := by
  cases commitment with
  | processed => simp [processSlotData]
  | confirmed | finalized =>
    simp only [processSlotData, (foldl_updatePromotedOwner_frame _ _ _).1, lookup_promoteAll]

theorem processSlotData_fst (self : InmemoryAccountStore) (slot : Slot) {commitment : Commitment}
    (h : commitment ≠ .processed) :
    (self.processSlotData slot commitment).1 = self.accountStore.entries.filterMap fun acc =>
      (acc.2.promoteSlotCommitment slot commitment).1.bind updatedAccount := by
  cases commitment with
  | processed => exact absurd rfl h
  | confirmed | finalized => simp only [processSlotData, List.filterMap_filterMap]

theorem updatedAccount_eq_viewChange (accountData : AccountData) (prev : Option AccountData) :
    updatedAccount (accountData, prev) = viewChange prev (some accountData) := by
  cases prev with
  | none => simp [updatedAccount, viewChange]
  | some prev => by_cases h : prev = accountData <;> simp [updatedAccount, viewChange, h]

theorem updatedAccount_eq_some {p : AccountData × Option AccountData} {a : AccountData}
    (h : updatedAccount p = some a) : a = p.1 := by
  obtain ⟨accountData, prev⟩ := p
  rw [updatedAccount_eq_viewChange, viewChange] at h
  split_ifs at h
  exact (Option.some.inj h).symm

theorem updatedAccount_promoteSlotCommitment (acc : AccountDataByCommitment) (slot : Slot)
    (commitment : Commitment) :
    (acc.promoteSlotCommitment slot commitment).1.bind updatedAccount =
      viewChange (acc.getAccountData commitment)
        ((acc.promoteSlotCommitment slot commitment).2.getAccountData commitment) := by
  unfold AccountDataByCommitment.promoteSlotCommitment
  cases acc.processedAccounts.get slot with
  | none => split_ifs <;> cases commitment <;> simp_all [getAccountData]
  | some a =>
    cases commitment with
    | processed => simp
    | confirmed | finalized =>
      simp only [getAccountData]
      split_ifs <;> simp [updatedAccount_eq_viewChange]

theorem processSlotData_confirmedSlotsMap (self : InmemoryAccountStore) (slot : Slot)
    {commitment : Commitment} (h : commitment ≠ .processed) :
    (self.processSlotData slot commitment).2.confirmedSlotsMap =
      Function.update self.confirmedSlotsMap slot (decide (commitment = .confirmed)) := by
  cases commitment with
  | processed => exact absurd rfl h
  | confirmed | finalized =>
    simp only [processSlotData, (foldl_updatePromotedOwner_frame _ _ _).2]

end InmemoryAccountStore

end LiteRpc
