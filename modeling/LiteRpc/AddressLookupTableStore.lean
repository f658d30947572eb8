import LiteRpc.AccountData

/-!
`AddressLookupTableStore` of `address-lookup-tables`: the stored tables by address, the check by
which `reload_if_necessary` picks the tables to load again, and the lookup of
`get_accounts_in_address_lookup_table` behind `resolve_addresses_from_lookup_table`. Both compare
the indexes of a lookup with the table's length, the check after casting the length to `u8`, which
wraps at 256, and the lookup as `usize`.

Loading a table (`load_alts_list`, `save_account`) fetches and decodes accounts over RPC and is
left out; the check decides which tables it is given.
-/

namespace LiteRpc

/-- `MessageAddressTableLookup`. -/
structure MessageAddressTableLookup where
  accountKey : Pubkey
  writableIndexes : List UInt8
  readonlyIndexes : List UInt8
deriving DecidableEq, Repr

structure AddressLookupTableStore where
  map : Pubkey → Option (List Pubkey)

namespace AddressLookupTableStore

/-- The `filter_map` closure of `reload_if_necessary`: the table's address when it is not stored,
or when an index is at least its length `as u8`. -/
def reloadKey (self : AddressLookupTableStore) (alt : MessageAddressTableLookup) : Option Pubkey :=
  match self.map alt.accountKey with
  | some altData =>
    let size : UInt8 := altData.length.toUInt8
    if alt.readonlyIndexes.any (· ≥ size) || alt.writableIndexes.any (· ≥ size) then
      some alt.accountKey
    else none
  | none => some alt.accountKey

/-- The tables `reload_if_necessary` hands to `load_alts_list`. -/
def accountsToLoad (self : AddressLookupTableStore) (altMessages : List MessageAddressTableLookup) :
    List Pubkey :=
  altMessages.filterMap self.reloadKey

/-- `get_accounts_in_address_lookup_table`. The indexing behind the check is in bounds. -/
def getAccountsInAddressLookupTable (self : AddressLookupTableStore) (alt : Pubkey)
    (accounts : List UInt8) : Option (List Pubkey) :=
  match self.map alt with
  | some altAccount =>
    if accounts.any fun index => index.toNat ≥ altAccount.length then none
    else some (accounts.filterMap fun index => altAccount[index.toNat]?)
  | none => none

/-- `get_accounts`: a table that is missing or too short resolves to no accounts. -/
def getAccounts (self : AddressLookupTableStore) (alt : Pubkey) (accounts : List UInt8) :
    List Pubkey :=
  (self.getAccountsInAddressLookupTable alt accounts).getD []

/-- `resolve_addresses_from_lookup_table`: the writable accounts, then the readonly ones. -/
def resolveAddressesFromLookupTable (self : AddressLookupTableStore)
    (messageAddressTableLookup : MessageAddressTableLookup) : List Pubkey × List Pubkey :=
  (self.getAccounts messageAddressTableLookup.accountKey messageAddressTableLookup.writableIndexes,
    self.getAccounts messageAddressTableLookup.accountKey messageAddressTableLookup.readonlyIndexes)

variable (self : AddressLookupTableStore) {alt : MessageAddressTableLookup} {altData : List Pubkey}

theorem reloadKey_eq_some_iff (hstored : self.map alt.accountKey = some altData) :
    self.reloadKey alt = some alt.accountKey ↔
      ∃ index ∈ alt.readonlyIndexes ++ alt.writableIndexes, altData.length % 256 ≤ index.toNat := by
  -- `index ≥ len as u8` compares the index with the length modulo 256
  have hcheck : (alt.readonlyIndexes.any (· ≥ altData.length.toUInt8) ||
      alt.writableIndexes.any (· ≥ altData.length.toUInt8)) = true ↔
      ∃ index ∈ alt.readonlyIndexes ++ alt.writableIndexes, altData.length % 256 ≤ index.toNat := by
    simp [List.any_eq_true, UInt8.le_iff_toNat_le, or_and_right, exists_or]
  simp only [reloadKey, hstored]
  split_ifs with h
  · simpa using hcheck.mp h
  · simpa [hcheck] using h

theorem mem_accountsToLoad_singleton :
    alt.accountKey ∈ self.accountsToLoad [alt] ↔ self.reloadKey alt = some alt.accountKey := by
  simp only [accountsToLoad, List.filterMap_cons, List.filterMap_nil]
  rcases h : self.reloadKey alt with _ | key
  · simp
  · have hkey : key = alt.accountKey := by
      simp only [reloadKey] at h
      split at h <;> (try split_ifs at h) <;> simp_all
    simp [hkey]

theorem getAccountsInAddressLookupTable_eq_none_iff {key : Pubkey}
    (hstored : self.map key = some altData) (accounts : List UInt8) :
    self.getAccountsInAddressLookupTable key accounts = none ↔
      ∃ index ∈ accounts, altData.length ≤ index.toNat := by
  simp [getAccountsInAddressLookupTable, hstored, List.any_eq_true]

theorem getAccountsInAddressLookupTable_of_forall_lt {key : Pubkey}
    (hstored : self.map key = some altData) {accounts : List UInt8}
    (h : ∀ index ∈ accounts, index.toNat < altData.length) :
    self.getAccountsInAddressLookupTable key accounts =
      some (accounts.filterMap fun index => altData[index.toNat]?) := by
  have hnone : (accounts.any fun index => decide (index.toNat ≥ altData.length)) = false := by
    simpa [List.any_eq_false] using h
  simp only [getAccountsInAddressLookupTable, hstored, hnone, Bool.false_eq_true, if_false]

/-- On a table shorter than 256 addresses the check schedules a reload exactly when a lookup
fails. -/
theorem reloadKey_eq_some_iff_of_length_lt (hstored : self.map alt.accountKey = some altData)
    (hlength : altData.length < 256) :
    self.reloadKey alt = some alt.accountKey ↔
      self.getAccountsInAddressLookupTable alt.accountKey alt.writableIndexes = none ∨
        self.getAccountsInAddressLookupTable alt.accountKey alt.readonlyIndexes = none := by
  rw [reloadKey_eq_some_iff self hstored, Nat.mod_eq_of_lt hlength,
    getAccountsInAddressLookupTable_eq_none_iff self hstored,
    getAccountsInAddressLookupTable_eq_none_iff self hstored]
  simp only [List.mem_append, or_and_right, exists_or, or_comm]

end AddressLookupTableStore

/-- For a stored table and a lookup on it, `reload_if_necessary` schedules the table when an index is
at least the table's length modulo 256, while the lookups fail when an index is at least the length
itself. The two agree on tables shorter than 256 addresses; on a table of 256 addresses the check
schedules a reload for every lookup with an index, all of which resolve. -/
theorem reload_check_wraps_table_length (self : AddressLookupTableStore)
    (alt : MessageAddressTableLookup) {altData : List Pubkey}
    (hstored : self.map alt.accountKey = some altData) :
    (alt.accountKey ∈ self.accountsToLoad [alt] ↔
        ∃ index ∈ alt.readonlyIndexes ++ alt.writableIndexes, altData.length % 256 ≤ index.toNat) ∧
      (self.getAccountsInAddressLookupTable alt.accountKey alt.writableIndexes = none ∨
          self.getAccountsInAddressLookupTable alt.accountKey alt.readonlyIndexes = none ↔
        ∃ index ∈ alt.readonlyIndexes ++ alt.writableIndexes, altData.length ≤ index.toNat) := by
  refine ⟨(self.mem_accountsToLoad_singleton).trans (self.reloadKey_eq_some_iff hstored), ?_⟩
  rw [self.getAccountsInAddressLookupTable_eq_none_iff hstored,
    self.getAccountsInAddressLookupTable_eq_none_iff hstored]
  simp only [List.mem_append, or_and_right, exists_or, or_comm]

/-- A full table of 256 addresses and a lookup of its first address: scheduled for reloading,
though it resolves. -/
theorem reload_check_wraps_on_full_table :
    let table : List Pubkey := (List.range 256).map Pubkey.mk
    let alt : MessageAddressTableLookup := ⟨⟨1⟩, [0], []⟩
    let self : AddressLookupTableStore := ⟨fun key => if key = ⟨1⟩ then some table else none⟩
    alt.accountKey ∈ self.accountsToLoad [alt] ∧
      self.getAccountsInAddressLookupTable alt.accountKey alt.writableIndexes = some [⟨0⟩] ∧
      self.getAccountsInAddressLookupTable alt.accountKey alt.readonlyIndexes = some [] := by
  intro table alt self
  have hstored : self.map alt.accountKey = some table := rfl
  have h := reload_check_wraps_table_length self alt hstored
  have hfirst : self.getAccountsInAddressLookupTable alt.accountKey alt.writableIndexes =
      some [⟨0⟩] :=
    (self.getAccountsInAddressLookupTable_of_forall_lt hstored (by simp [alt, table])).trans
      (by simp [alt, table])
  exact ⟨h.1.mpr ⟨0, by simp [alt], by simp [table]⟩, hfirst,
    self.getAccountsInAddressLookupTable_of_forall_lt hstored (by simp [alt])⟩

end LiteRpc
