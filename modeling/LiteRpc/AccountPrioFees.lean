import Mathlib.Logic.Function.Basic
import LiteRpc.Lib.BTreeMap
import LiteRpc.Lib.Run
import LiteRpc.ProducedBlock
import LiteRpc.PrioritizationFeeData

/-!
`AccountPrioStore`: the prioritization fees that lite-rpc keeps per account. `update` aggregates
the fee data of a block's non-vote transactions per account they write-lock and per account they
lock at all, stores it by slot, prunes old slots and returns the block's statistics per account;
`get_latest_stats` reads back the statistics of an account's latest slot.

The `DashMap`s are functions from keys to optional values: `update` only reads and writes them
key by key. `AddressLookupTableInterface` is `addressLookupTablesImpl`, the writable and readable
accounts the resolver adds for a transaction's lookup tables; the reload it schedules belongs to
the lookup table store. Slots are natural numbers, as `Slot` is elsewhere.

Both loops that store the block's data write into `account_by_prio_fees_writeonly`, so
`account_by_prio_fees_all` is never written.
-/

namespace LiteRpc

structure AccountPrio where
  statsBySlot : BTreeMap Nat BlockPrioData

structure AccountPrioFeesStats where
  writeStats : PrioFeesStats
  allStats : PrioFeesStats
deriving DecidableEq, Repr

structure AccountPrioFeesUpdateMessage where
  slot : Nat
  accountsData : Pubkey → Option AccountPrioFeesStats

structure AccountPrioStore where
  accountByPrioFeesAll : Pubkey → Option AccountPrio
  accountByPrioFeesWriteonly : Pubkey → Option AccountPrio
  numberOfSlotsToSave : Nat
  lastSlot : Nat
  addressLookupTablesImpl : Option (TransactionInfo → List Pubkey × List Pubkey)

namespace AccountPrioStore

def new (numberOfSlotsToSave : Nat)
    (addressLookupTablesImpl : Option (TransactionInfo → List Pubkey × List Pubkey)) :
    AccountPrioStore :=
  ⟨fun _ => none, fun _ => none, numberOfSlotsToSave, 0, addressLookupTablesImpl⟩

/-- `Option<u64>::cmp`, by which the transactions are sorted: `None` first. -/
def feesLe : Option Nat → Option Nat → Bool
  | none, _ => true
  | some _, none => false
  | some a, some b => a ≤ b

/-- `get_mut(key)` and `push(value)`, or `insert(key, vec![value])` for a new key. -/
def pushValue (m : Pubkey → List PrioFeesData) (key : Pubkey) (value : PrioFeesData) :
    Pubkey → List PrioFeesData :=
  Function.update m key (m key ++ [value])

/-- One transaction of the block loop: its fee data is pushed for each account it write-locks
into both maps, and for each account it read-locks into the read-write map. -/
def addTransaction (addressLookupTablesImpl : Option (TransactionInfo → List Pubkey × List Pubkey))
    (maps : (Pubkey → List PrioFeesData) × (Pubkey → List PrioFeesData))
    (transaction : TransactionInfo) :
    (Pubkey → List PrioFeesData) × (Pubkey → List PrioFeesData) :=
  let value : PrioFeesData :=
    ⟨transaction.prioritizationFees.getD 0, transaction.cuConsumed.getD 0⟩
  let alts := (addressLookupTablesImpl.map fun altFetcher => altFetcher transaction).getD ([], [])
  let writableAccounts := transaction.writableAccounts ++ alts.1
  let readableAccounts := transaction.readableAccounts ++ alts.2
  let maps := writableAccounts.foldl (fun maps writeLock =>
    (pushValue maps.1 writeLock value, pushValue maps.2 writeLock value)) maps
  (maps.1, readableAccounts.foldl (fun m readlock => pushValue m readlock value) maps.2)

/-- The fee data of the block's non-vote transactions, sorted by ascending priority, per account
they write-lock and per account they lock. -/
def accountsByPrioritization
    (addressLookupTablesImpl : Option (TransactionInfo → List Pubkey × List Pubkey))
    (producedBlock : ProducedBlock) : (Pubkey → List PrioFeesData) × (Pubkey → List PrioFeesData) :=
  let transactions := (producedBlock.transactions.filter fun x => !x.isVote).mergeSort
    fun a b => feesLe a.prioritizationFees b.prioritizationFees
  transactions.foldl (addTransaction addressLookupTablesImpl) (fun _ => [], fun _ => [])

/-- The closure `convert_to_block_prio_data`. -/
def convertToBlockPrioData (data : List PrioFeesData) : BlockPrioData :=
  let txCount := data.length
  let cuConsumed := (data.map (·.cuConsumed)).sum
  ⟨data, txCount, txCount, cuConsumed, cuConsumed⟩

/-- The map of lists collected into a map of block data: its keys are the accounts with data. -/
def toBlockPrioData (m : Pubkey → List PrioFeesData) : Pubkey → Option BlockPrioData :=
  fun account => if m account = [] then none else some (convertToBlockPrioData (m account))

/-- The loop storing each account's block data at `slot` in a `DashMap`, creating the entry of
a new account. -/
def insertStats (dashMap : Pubkey → Option AccountPrio) (slot : Nat)
    (blockData : Pubkey → Option BlockPrioData) : Pubkey → Option AccountPrio :=
  fun account =>
    match blockData account with
    | some data =>
      some ⟨(((dashMap account).map (·.statsBySlot)).getD BTreeMap.empty).insert slot data⟩
    | none => dashMap account

/-- `cleanup_functor`: drops the slots up to `min_slot_to_retain`. -/
def cleanupFunctor (minSlotToRetain : Nat) (iter : AccountPrio) : AccountPrio :=
  ⟨iter.statsBySlot.popFirstUpTo minSlotToRetain⟩

/-- `retain`: cleans every entry up and keeps those with data left. -/
def retain (minSlotToRetain : Nat) (dashMap : Pubkey → Option AccountPrio) :
    Pubkey → Option AccountPrio :=
  fun account => (dashMap account).bind fun ap =>
    let ap := cleanupFunctor minSlotToRetain ap
    if ap.statsBySlot.entries.isEmpty then none else some ap

def update (self : AccountPrioStore) (producedBlock : ProducedBlock) :
    AccountPrioFeesUpdateMessage × AccountPrioStore :=
  let maps := accountsByPrioritization self.addressLookupTablesImpl producedBlock
  let slot := producedBlock.slot
  let accountsByPrioritizationWrite := toBlockPrioData maps.1
  let accountsByPrioritizationReadWrite := toBlockPrioData maps.2
  -- both loops insert into `account_by_prio_fees_writeonly`
  let writeonly := insertStats (insertStats self.accountByPrioFeesWriteonly slot
    accountsByPrioritizationWrite) slot accountsByPrioritizationReadWrite
  -- cleanup old data
  let minSlotToRetain := producedBlock.slot - self.numberOfSlotsToSave
  let accountData : Pubkey → Option AccountPrioFeesStats := fun account =>
    (accountsByPrioritizationReadWrite account).map fun blockPriofee =>
      ⟨((accountsByPrioritizationWrite account).map (·.calculateStats)).getD PrioFeesStats.default,
        blockPriofee.calculateStats⟩
  (⟨producedBlock.slot, accountData⟩,
    { self with
      accountByPrioFeesAll := retain minSlotToRetain self.accountByPrioFeesAll
      accountByPrioFeesWriteonly := retain minSlotToRetain writeonly
      lastSlot := slot })

/-- The data of an account's latest slot in a `DashMap`, or the default data. -/
def latestOf (dashMap : Pubkey → Option AccountPrio) (account : Pubkey) : BlockPrioData :=
  ((dashMap account).map fun x =>
    (x.statsBySlot.lastKeyValue.map (·.2)).getD BlockPrioData.default).getD BlockPrioData.default

def getLatestStats (self : AccountPrioStore) (account : Pubkey) : Nat × AccountPrioFeesStats :=
  let all := latestOf self.accountByPrioFeesAll account
  let writeOnly := latestOf self.accountByPrioFeesWriteonly account
  (self.lastSlot, ⟨writeOnly.calculateStats, all.calculateStats⟩)

def getNLastStats (self : AccountPrioStore) (account : Pubkey) (nb : Nat) :
    Nat × AccountPrioFeesStats :=
  let functor := fun (accountPrio : AccountPrio) =>
    (accountPrio.statsBySlot.entries.reverse.take nb).foldl (fun agg rhs => agg.add rhs.2)
      BlockPrioData.default
  let all := ((self.accountByPrioFeesAll account).map functor).getD BlockPrioData.default
  let writeOnly := ((self.accountByPrioFeesWriteonly account).map functor).getD BlockPrioData.default
  (self.lastSlot, ⟨writeOnly.calculateStats, all.calculateStats⟩)

section Update

variable (self : AccountPrioStore) (producedBlock : ProducedBlock)

@[simp] theorem update_lastSlot : (self.update producedBlock).2.lastSlot = producedBlock.slot := rfl

@[simp] theorem update_numberOfSlotsToSave :
    (self.update producedBlock).2.numberOfSlotsToSave = self.numberOfSlotsToSave := rfl

theorem update_accountByPrioFeesAll :
    (self.update producedBlock).2.accountByPrioFeesAll =
      retain (producedBlock.slot - self.numberOfSlotsToSave) self.accountByPrioFeesAll := rfl

theorem update_accountByPrioFeesWriteonly :
    (self.update producedBlock).2.accountByPrioFeesWriteonly =
      retain (producedBlock.slot - self.numberOfSlotsToSave)
        (insertStats (insertStats self.accountByPrioFeesWriteonly producedBlock.slot
          (toBlockPrioData (accountsByPrioritization self.addressLookupTablesImpl producedBlock).1))
          producedBlock.slot
          (toBlockPrioData (accountsByPrioritization self.addressLookupTablesImpl producedBlock).2)) :=
  rfl

theorem update_accountsData (account : Pubkey) :
    (self.update producedBlock).1.accountsData account =
      (toBlockPrioData (accountsByPrioritization self.addressLookupTablesImpl producedBlock).2
        account).map fun blockPriofee =>
        ⟨((toBlockPrioData (accountsByPrioritization self.addressLookupTablesImpl producedBlock).1
          account).map (·.calculateStats)).getD PrioFeesStats.default, blockPriofee.calculateStats⟩ :=
  rfl

end Update

theorem toBlockPrioData_eq_some {m : Pubkey → List PrioFeesData} {account : Pubkey}
    {data : BlockPrioData} (h : toBlockPrioData m account = some data) :
    m account ≠ [] ∧ data = convertToBlockPrioData (m account) := by
  unfold toBlockPrioData at h
  split_ifs at h with hnil
  exact ⟨hnil, (Option.some.inj h).symm⟩

theorem toBlockPrioData_calculateStats_ne {m : Pubkey → List PrioFeesData} {account : Pubkey}
    {data : BlockPrioData} (h : toBlockPrioData m account = some data) :
    data.calculateStats ≠ BlockPrioData.default.calculateStats := by
  obtain ⟨hne, rfl⟩ := toBlockPrioData_eq_some h
  refine BlockPrioData.calculateStats_ne_of_nbTotalTx_ne ?_
  simp only [BlockPrioData.default, convertToBlockPrioData]
  exact (List.length_pos_of_ne_nil hne).ne'

@[simp] theorem retain_none (minSlotToRetain : Nat) :
    retain minSlotToRetain (fun _ => none) = fun _ => none := rfl

theorem retain_eq_some {minSlotToRetain : Nat} {dashMap : Pubkey → Option AccountPrio}
    {account : Pubkey} {ap : AccountPrio} (h : retain minSlotToRetain dashMap account = some ap) :
    ∃ ap₀, dashMap account = some ap₀ ∧ ap = cleanupFunctor minSlotToRetain ap₀ := by
  unfold retain at h
  cases hd : dashMap account with
  | none => simp [hd] at h
  | some ap₀ =>
    simp only [hd, Option.bind_some] at h
    split_ifs at h
    exact ⟨ap₀, rfl, (Option.some.inj h).symm⟩

theorem retain_of_lastKeyValue {minSlotToRetain : Nat} {dashMap : Pubkey → Option AccountPrio}
    {account : Pubkey} {ap₀ : AccountPrio} {q : Nat × BlockPrioData}
    (hd : dashMap account = some ap₀) (hq : ap₀.statsBySlot.lastKeyValue = some q)
    (hkeep : minSlotToRetain < q.1) :
    ∃ ap, retain minSlotToRetain dashMap account = some ap ∧ ap.statsBySlot.lastKeyValue = some q := by
  have hlast := BTreeMap.lastKeyValue_popFirstUpTo hq hkeep
  have hne : (ap₀.statsBySlot.popFirstUpTo minSlotToRetain).entries ≠ [] :=
    List.ne_nil_of_mem (BTreeMap.lastKeyValue_mem hlast)
  refine ⟨cleanupFunctor minSlotToRetain ap₀, ?_, hlast⟩
  simp [retain, hd, cleanupFunctor, hne]

theorem mem_insertStats {dashMap : Pubkey → Option AccountPrio} {slot : Nat}
    {blockData : Pubkey → Option BlockPrioData} {account : Pubkey} {ap : AccountPrio}
    (h : insertStats dashMap slot blockData account = some ap) {e : Nat × BlockPrioData}
    (he : e ∈ ap.statsBySlot.entries) :
    (∃ ap₀, dashMap account = some ap₀ ∧ e ∈ ap₀.statsBySlot.entries) ∨ e.1 = slot := by
  unfold insertStats at h
  split at h
  · cases h
    rcases BTreeMap.mem_insert he with rfl | hold
    · exact .inr rfl
    · cases hd : dashMap account with
      | none => simp [hd, BTreeMap.empty] at hold
      | some ap₀ =>
        rw [hd] at hold
        exact .inl ⟨ap₀, rfl, hold⟩
  · exact .inl ⟨ap, h, he⟩

theorem insertStats_slots {P : Nat → Prop} {dashMap : Pubkey → Option AccountPrio} {slot : Nat}
    {blockData : Pubkey → Option BlockPrioData} (hslot : P slot)
    (h : ∀ account ap, dashMap account = some ap → ∀ e ∈ ap.statsBySlot.entries, P e.1) :
    ∀ account ap, insertStats dashMap slot blockData account = some ap →
      ∀ e ∈ ap.statsBySlot.entries, P e.1 := by
  intro account ap hap e he
  rcases mem_insertStats hap he with ⟨ap₀, hap₀, he₀⟩ | heq
  · exact h account ap₀ hap₀ e he₀
  · exact heq ▸ hslot

theorem insertStats_of_some {dashMap : Pubkey → Option AccountPrio} {slot : Nat}
    {blockData : Pubkey → Option BlockPrioData} {account : Pubkey} {data : BlockPrioData}
    (h : blockData account = some data) :
    insertStats dashMap slot blockData account =
      some ⟨(((dashMap account).map (·.statsBySlot)).getD BTreeMap.empty).insert slot data⟩ := by
  simp [insertStats, h]

theorem latestOf_none {dashMap : Pubkey → Option AccountPrio} {account : Pubkey}
    (h : dashMap account = none) : latestOf dashMap account = BlockPrioData.default := by
  simp [latestOf, h]

theorem latestOf_of_lastKeyValue {dashMap : Pubkey → Option AccountPrio} {account : Pubkey}
    {ap : AccountPrio} {q : Nat × BlockPrioData} (hd : dashMap account = some ap)
    (hq : ap.statsBySlot.lastKeyValue = some q) : latestOf dashMap account = q.2 := by
  simp [latestOf, hd, hq]

/-- A store that has never written `account_by_prio_fees_all` and keeps for each account only
slots that satisfy `P`. -/
structure SlotsSatisfy (P : Nat → Prop) (store : AccountPrioStore) : Prop where
  all_none : ∀ account, store.accountByPrioFeesAll account = none
  writeonly_slots : ∀ account ap, store.accountByPrioFeesWriteonly account = some ap →
    ∀ e ∈ ap.statsBySlot.entries, P e.1

theorem slotsSatisfy_new (P : Nat → Prop) (numberOfSlotsToSave : Nat)
    (addressLookupTablesImpl : Option (TransactionInfo → List Pubkey × List Pubkey)) :
    SlotsSatisfy P (new numberOfSlotsToSave addressLookupTablesImpl) where
  all_none _ := rfl
  writeonly_slots _ _ h := by cases h

theorem SlotsSatisfy.update {P : Nat → Prop} {self : AccountPrioStore} (h : SlotsSatisfy P self)
    (producedBlock : ProducedBlock) (hslot : P producedBlock.slot) :
    SlotsSatisfy P (self.update producedBlock).2 where
  all_none account := by
    rw [update_accountByPrioFeesAll, funext h.all_none, retain_none]
  writeonly_slots account ap hap e he := by
    rw [update_accountByPrioFeesWriteonly] at hap
    obtain ⟨ap₀, hap₀, rfl⟩ := retain_eq_some hap
    -- the block's slot is inserted twice, once for each map of the prioritization
    exact insertStats_slots hslot (insertStats_slots hslot h.writeonly_slots) account ap₀ hap₀ e
      (BTreeMap.mem_popFirstUpTo he)

theorem SlotsSatisfy.run {P : Nat → Prop} {self : AccountPrioStore} (h : SlotsSatisfy P self)
    (blocks : List ProducedBlock) (hslots : ∀ b ∈ blocks, P b.slot) :
    SlotsSatisfy P (StepSystem.run (fun s b => (s.update b).2) self blocks) := by
  induction blocks generalizing self with
  | nil => exact h
  | cons b blocks ih =>
    rw [StepSystem.run_cons]
    exact ih (h.update b (hslots b (List.mem_cons_self ..)))
      (fun b' hb' => hslots b' (List.mem_cons_of_mem _ hb'))

theorem run_numberOfSlotsToSave (self : AccountPrioStore) (blocks : List ProducedBlock) :
    (StepSystem.run (fun s b => (s.update b).2) self blocks).numberOfSlotsToSave =
      self.numberOfSlotsToSave := by
  induction blocks generalizing self with
  | nil => rfl
  | cons b blocks ih => rw [StepSystem.run_cons, ih, update_numberOfSlotsToSave]

theorem getLatestStats_update (producedBlock : ProducedBlock) {self : AccountPrioStore}
    (h : SlotsSatisfy (· < producedBlock.slot) self)
    (hsave : 0 < self.numberOfSlotsToSave) (hslot : 0 < producedBlock.slot) {account : Pubkey}
    {data : BlockPrioData}
    (hdata : toBlockPrioData (accountsByPrioritization self.addressLookupTablesImpl producedBlock).2
      account = some data) :
    (self.update producedBlock).2.getLatestStats account =
      (producedBlock.slot, ⟨data.calculateStats, BlockPrioData.default.calculateStats⟩) := by
  set maps := accountsByPrioritization self.addressLookupTablesImpl producedBlock
  set written := insertStats self.accountByPrioFeesWriteonly producedBlock.slot
    (toBlockPrioData maps.1)
  set old := ((written account).map (·.statsBySlot)).getD BTreeMap.empty
  have hold : ∀ e ∈ old.entries, e.1 ≤ producedBlock.slot := by
    intro e he
    cases hw : written account with
    | none => simp [old, hw, BTreeMap.empty] at he
    | some ap₁ =>
      exact insertStats_slots (P := (· ≤ producedBlock.slot)) le_rfl
        (fun account ap hap e he => (h.writeonly_slots account ap hap e he).le) account ap₁ hw e
        (by simpa [old, hw] using he)
  have hinsert : insertStats written producedBlock.slot (toBlockPrioData maps.2) account =
      some ⟨old.insert producedBlock.slot data⟩ := insertStats_of_some hdata
  have hlast := BTreeMap.lastKeyValue_insert_of_le data hold
  have hkeep : producedBlock.slot - self.numberOfSlotsToSave < producedBlock.slot :=
    Nat.sub_lt hslot hsave
  obtain ⟨ap, hap, hlast'⟩ := retain_of_lastKeyValue hinsert hlast hkeep
  have hwriteonly : latestOf (self.update producedBlock).2.accountByPrioFeesWriteonly account = data := by
    rw [update_accountByPrioFeesWriteonly]
    exact latestOf_of_lastKeyValue hap hlast'
  have hall : latestOf (self.update producedBlock).2.accountByPrioFeesAll account =
      BlockPrioData.default := by
    rw [update_accountByPrioFeesAll, funext h.all_none, retain_none]
    exact latestOf_none rfl
  simp only [getLatestStats, hwriteonly, hall, update_lastSlot]

/-- For the accounts of the message of an update with a slot above every slot the store keeps,
`get_latest_stats` gives the message's all statistics as the write statistics and the
statistics of no data as the all statistics; these never agree with the message, whose all
statistics count at least one transaction. -/
theorem latest_stats_after_update (numberOfSlotsToSave : Nat)
    (addressLookupTablesImpl : Option (TransactionInfo → List Pubkey × List Pubkey))
    (blocks : List ProducedBlock) (producedBlock : ProducedBlock) (hsave : 0 < numberOfSlotsToSave)
    (hslot : 0 < producedBlock.slot) (hslots : ∀ b ∈ blocks, b.slot < producedBlock.slot)
    {account : Pubkey} {stats : AccountPrioFeesStats}
    (hmsg : ((StepSystem.run (fun s b => (s.update b).2)
      (new numberOfSlotsToSave addressLookupTablesImpl) blocks).update producedBlock).1.accountsData
        account = some stats) :
    ((StepSystem.run (fun s b => (s.update b).2) (new numberOfSlotsToSave addressLookupTablesImpl)
        blocks).update producedBlock).2.getLatestStats account =
      (producedBlock.slot, ⟨stats.allStats, BlockPrioData.default.calculateStats⟩) ∧
    ((StepSystem.run (fun s b => (s.update b).2) (new numberOfSlotsToSave addressLookupTablesImpl)
        blocks).update producedBlock).2.getLatestStats account ≠ (producedBlock.slot, stats) := by
  set store := StepSystem.run (fun s b => (s.update b).2)
    (new numberOfSlotsToSave addressLookupTablesImpl) blocks
  have hstore : SlotsSatisfy (· < producedBlock.slot) store :=
    (slotsSatisfy_new _ numberOfSlotsToSave addressLookupTablesImpl).run blocks hslots
  have hsave' : 0 < store.numberOfSlotsToSave := by
    rw [run_numberOfSlotsToSave]
    exact hsave
  rw [update_accountsData] at hmsg
  obtain ⟨data, hdata, rfl⟩ := Option.map_eq_some_iff.mp hmsg
  have hlatest := getLatestStats_update producedBlock hstore hsave' hslot hdata
  refine ⟨hlatest, ?_⟩
  rw [hlatest]
  intro heq
  exact toBlockPrioData_calculateStats_ne hdata (congrArg (fun r => r.2.allStats) heq).symm

/-- A block of slot 1 with one non-vote transaction that write-locks account `1`, with a fee of 5
and 100 compute units. -/
def oneTransactionBlock : ProducedBlock :=
  ⟨[⟨⟨1⟩, false, none, some 5, some 100, ⟨0⟩, [⟨1⟩], []⟩], ⟨0⟩, 1, 1, .processed⟩

theorem latest_stats_after_update_one_transaction :
    ((StepSystem.run (fun s b => (s.update b).2) (new 10 none) []).update
        oneTransactionBlock).1.accountsData ⟨1⟩ =
      some ⟨(convertToBlockPrioData [⟨5, 100⟩]).calculateStats,
        (convertToBlockPrioData [⟨5, 100⟩]).calculateStats⟩ ∧
    (((StepSystem.run (fun s b => (s.update b).2) (new 10 none) []).update
        oneTransactionBlock).2.getLatestStats ⟨1⟩ =
      (1, ⟨(convertToBlockPrioData [⟨5, 100⟩]).calculateStats,
        BlockPrioData.default.calculateStats⟩) ∧
    ((StepSystem.run (fun s b => (s.update b).2) (new 10 none) []).update
        oneTransactionBlock).2.getLatestStats ⟨1⟩ ≠
      (1, ⟨(convertToBlockPrioData [⟨5, 100⟩]).calculateStats,
        (convertToBlockPrioData [⟨5, 100⟩]).calculateStats⟩)) := by
  have hmsg : ((StepSystem.run (fun s b => (s.update b).2) (new 10 none) []).update
      oneTransactionBlock).1.accountsData ⟨1⟩ =
        some ⟨(convertToBlockPrioData [⟨5, 100⟩]).calculateStats,
          (convertToBlockPrioData [⟨5, 100⟩]).calculateStats⟩ := by
    simp [update_accountsData, accountsByPrioritization, oneTransactionBlock, addTransaction,
      pushValue, toBlockPrioData, new]
  exact ⟨hmsg, latest_stats_after_update 10 none [] oneTransactionBlock (by decide) (by decide)
    (by simp) hmsg⟩

end AccountPrioStore

end LiteRpc
