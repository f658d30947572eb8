import LiteRpc.AccountData
import LiteRpc.Lib.BTreeMap

/-!
`AccountDataByCommitment` of `inmemory_account_store.rs`: the processed, confirmed and finalized
views of one account, how a geyser update changes them (`update`) and how a slot notification
promotes them (`promote_slot_commitment`).
-/

namespace LiteRpc

@[ext]
structure AccountDataByCommitment where
  pubkey : Pubkey
  -- should have maximum 32 entries, all processed slots which are not yet finalized
  processedAccounts : BTreeMap Slot AccountData
  confirmedAccount : Option AccountData
  finalizedAccount : Option AccountData

namespace AccountDataByCommitment

def getAccountData (self : AccountDataByCommitment) : Commitment → Option AccountData
  | .processed => (self.processedAccounts.lastKeyValue.map (·.2)).or self.confirmedAccount
  | .confirmed => self.confirmedAccount
  | .finalized => self.finalizedAccount

/-- Should be used when the account is created by a geyser notification. -/
def new (data : AccountData) (commitment : Commitment) : AccountDataByCommitment where
  pubkey := data.pubkey
  processedAccounts := BTreeMap.empty.insert data.updatedSlot data
  confirmedAccount :=
    if commitment = .confirmed ∨ commitment = .finalized then some data else none
  finalizedAccount := if commitment = .finalized then some data else none

/-- `initialize` in the source (a keyword here): called with finalized account data while the
store is warmed up. -/
def initialise (data : AccountData) : AccountDataByCommitment where
  pubkey := data.pubkey
  processedAccounts := BTreeMap.empty.insert data.updatedSlot data
  confirmedAccount := some data
  finalizedAccount := some data

/-- `view.map(|x| x.updated_slot < slot).unwrap_or(true)`: the view is absent or older. -/
def olderThan (view : Option AccountData) (slot : Slot) : Bool :=
  (view.map fun x => decide (x.updatedSlot < slot)).getD true

/-- `view.map(|acc| acc.updated_slot).unwrap_or_default()`: an absent view counts as slot 0. -/
def viewSlot (view : Option AccountData) : Slot :=
  (view.map (·.updatedSlot)).getD 0

def update (self : AccountDataByCommitment) (data : AccountData) (commitment : Commitment) :
    Bool × AccountDataByCommitment :=
  let updateConfirmed := olderThan self.confirmedAccount data.updatedSlot
  let updateFinalized := olderThan self.finalizedAccount data.updatedSlot
  -- processed not present for the slot
  let processedUpdated := (self.processedAccounts.get data.updatedSlot).isNone
  let self := if processedUpdated then
      { self with processedAccounts := self.processedAccounts.insert data.updatedSlot data }
    else self
  match commitment with
  | .confirmed =>
    if updateConfirmed then (true, { self with confirmedAccount := some data })
    else (processedUpdated, self)
  | .finalized =>
    let self := if updateConfirmed then { self with confirmedAccount := some data } else self
    if updateFinalized then (true, { self with finalizedAccount := some data })
    else (processedUpdated || updateConfirmed, self)
  | .processed => (processedUpdated, self)

/-- The loop `while len() > 1 && first_key <= slot { pop_first() }` on the processed entries. -/
def popProcessedUpTo (slot : Slot) : List (Slot × AccountData) → List (Slot × AccountData)
  | e :: f :: rest => if e.1 ≤ slot then popProcessedUpTo slot (f :: rest) else e :: f :: rest
  | l => l

theorem popProcessedUpTo_suffix (slot : Slot) (l : List (Slot × AccountData)) :
    popProcessedUpTo slot l <:+ l := by
  fun_induction popProcessedUpTo slot l with
  | case1 e f rest hle ih => exact ih.trans (List.suffix_cons e _)
  | case2 e f rest hle => exact List.suffix_refl _
  | case3 l => exact List.suffix_refl _

def removeProcessedUpTo (slot : Slot) (m : BTreeMap Slot AccountData) :
    BTreeMap Slot AccountData :=
  ⟨popProcessedUpTo slot m.entries, m.sorted.sublist (popProcessedUpTo_suffix slot _).sublist⟩

/-- Promotes the processed data of `slot` to the confirmed or the finalized view, and returns the
promoted data with the view it replaced. -/
def promoteSlotCommitment (self : AccountDataByCommitment) (slot : Slot)
    (commitment : Commitment) : Option (AccountData × Option AccountData) × AccountDataByCommitment :=
  match self.processedAccounts.get slot with
  | some accountData =>
    match commitment with
    | .processed => (none, self)
    | .confirmed =>
      if viewSlot self.confirmedAccount < slot then
        (some (accountData, self.confirmedAccount), { self with confirmedAccount := some accountData })
      else (none, self)
    | .finalized =>
      -- slot finalized: remove data from processed
      let self := { self with processedAccounts := removeProcessedUpTo slot self.processedAccounts }
      if viewSlot self.finalizedAccount < slot then
        (some (accountData, self.finalizedAccount), { self with finalizedAccount := some accountData })
      else (none, self)
  | none =>
    if commitment = .finalized then
      (none, { self with processedAccounts := removeProcessedUpTo slot self.processedAccounts })
    else (none, self)

theorem olderThan_iff (view : Option AccountData) (slot : Slot) :
    olderThan view slot = true ↔ ∀ a ∈ view, a.updatedSlot < slot := by
  cases view <;> simp [olderThan]

@[simp] theorem viewSlot_some (a : AccountData) : viewSlot (some a) = a.updatedSlot := rfl

theorem viewSlot_of_mem {view : Option AccountData} {a : AccountData} (ha : a ∈ view) :
    viewSlot view = a.updatedSlot := by
  rw [Option.mem_def.mp ha, viewSlot_some]

theorem popProcessedUpTo_getLast? (slot : Slot) (l : List (Slot × AccountData)) :
    (popProcessedUpTo slot l).getLast? = l.getLast? := by
  fun_induction popProcessedUpTo slot l with
  | case1 e f rest hle ih => rw [ih, List.getLast?_cons_cons]
  | case2 e f rest hle => rfl
  | case3 l => rfl

theorem mem_removeProcessedUpTo {slot : Slot} {m : BTreeMap Slot AccountData}
    {p : Slot × AccountData} (hp : p ∈ (removeProcessedUpTo slot m).entries) : p ∈ m.entries :=
  (popProcessedUpTo_suffix slot m.entries).subset hp

theorem lastKeyValue_removeProcessedUpTo (slot : Slot) (m : BTreeMap Slot AccountData) :
    (removeProcessedUpTo slot m).lastKeyValue = m.lastKeyValue :=
  popProcessedUpTo_getLast? slot m.entries

section Update

variable (self : AccountDataByCommitment) (data : AccountData) (commitment : Commitment)

@[simp] theorem update_pubkey : (self.update data commitment).2.pubkey = self.pubkey := by
  cases commitment <;> simp only [update] <;> split_ifs <;> rfl

theorem update_processedAccounts : (self.update data commitment).2.processedAccounts =
    if self.processedAccounts.get data.updatedSlot = none then
      self.processedAccounts.insert data.updatedSlot data
    else self.processedAccounts := by
  cases commitment <;> simp only [update, Option.isNone_iff_eq_none] <;> split_ifs <;> rfl

theorem update_confirmedAccount : (self.update data commitment).2.confirmedAccount =
    if commitment ≠ .processed ∧ olderThan self.confirmedAccount data.updatedSlot then some data
    else self.confirmedAccount := by
  cases commitment <;> simp only [update] <;> (try split_ifs) <;> simp_all

theorem update_finalizedAccount : (self.update data commitment).2.finalizedAccount =
    if commitment = .finalized ∧ olderThan self.finalizedAccount data.updatedSlot then some data
    else self.finalizedAccount := by
  cases commitment <;> simp only [update] <;> (try split_ifs) <;> simp_all

theorem update_fst : (self.update data commitment).1 =
    ((self.processedAccounts.get data.updatedSlot).isNone ||
      (commitment ≠ .processed && olderThan self.confirmedAccount data.updatedSlot) ||
      (commitment = .finalized && olderThan self.finalizedAccount data.updatedSlot)) := by
  cases commitment <;> simp only [update] <;> (try split_ifs) <;> simp_all

@[simp] theorem update_processed_confirmedAccount :
    (self.update data .processed).2.confirmedAccount = self.confirmedAccount := by
  simp [update_confirmedAccount]

@[simp] theorem update_finalizedAccount_of_ne (h : commitment ≠ .finalized) :
    (self.update data commitment).2.finalizedAccount = self.finalizedAccount := by
  simp [update_finalizedAccount, h]

end Update

section Promote

variable (self : AccountDataByCommitment) (slot : Slot) (commitment : Commitment)

@[simp] theorem promoteSlotCommitment_pubkey :
    (self.promoteSlotCommitment slot commitment).2.pubkey = self.pubkey := by
  unfold promoteSlotCommitment
  cases self.processedAccounts.get slot <;> cases commitment <;> simp <;> split_ifs <;> rfl

theorem promoteSlotCommitment_processedAccounts :
    (self.promoteSlotCommitment slot commitment).2.processedAccounts =
      if commitment = .finalized then removeProcessedUpTo slot self.processedAccounts
      else self.processedAccounts := by
  unfold promoteSlotCommitment
  cases self.processedAccounts.get slot <;> cases commitment <;> simp <;> split_ifs <;> simp_all

theorem promoteSlotCommitment_confirmedAccount :
    (self.promoteSlotCommitment slot commitment).2.confirmedAccount =
      match self.processedAccounts.get slot with
      | some accountData =>
        if commitment = .confirmed ∧ viewSlot self.confirmedAccount < slot then some accountData
        else self.confirmedAccount
      | none => self.confirmedAccount := by
  unfold promoteSlotCommitment
  cases self.processedAccounts.get slot <;> cases commitment <;> simp <;> split_ifs <;> simp_all

theorem promoteSlotCommitment_finalizedAccount :
    (self.promoteSlotCommitment slot commitment).2.finalizedAccount =
      match self.processedAccounts.get slot with
      | some accountData =>
        if commitment = .finalized ∧ viewSlot self.finalizedAccount < slot then some accountData
        else self.finalizedAccount
      | none => self.finalizedAccount := by
  unfold promoteSlotCommitment
  cases self.processedAccounts.get slot <;> cases commitment <;> simp <;> split_ifs <;> simp_all

@[simp] theorem promoteSlotCommitment_finalized_confirmedAccount :
    (self.promoteSlotCommitment slot .finalized).2.confirmedAccount = self.confirmedAccount := by
  rw [promoteSlotCommitment_confirmedAccount]
  split <;> simp

@[simp] theorem promoteSlotCommitment_confirmed_finalizedAccount :
    (self.promoteSlotCommitment slot .confirmed).2.finalizedAccount = self.finalizedAccount := by
  rw [promoteSlotCommitment_finalizedAccount]
  split <;> simp

/-- A promotion at processed commitment changes nothing. -/
@[simp] theorem promoteSlotCommitment_processed :
    (self.promoteSlotCommitment slot .processed).2 = self := by
  unfold promoteSlotCommitment
  cases self.processedAccounts.get slot <;> rfl

@[simp] theorem promoteSlotCommitment_confirmed_processedAccounts :
    (self.promoteSlotCommitment slot .confirmed).2.processedAccounts = self.processedAccounts := by
  simp [promoteSlotCommitment_processedAccounts]

end Promote

/-- What every stored account satisfies: a non-empty processed map whose entries are keyed by
their own slot and belong to the account, views of the same account, and a confirmed view no newer
than the newest processed slot. -/
structure Wf (acc : AccountDataByCommitment) : Prop where
  processed_ne_nil : acc.processedAccounts.entries ≠ []
  slot_eq : ∀ p ∈ acc.processedAccounts.entries, p.2.updatedSlot = p.1
  pubkey_eq : ∀ p ∈ acc.processedAccounts.entries, p.2.pubkey = acc.pubkey
  confirmed_pubkey : ∀ a ∈ acc.confirmedAccount, a.pubkey = acc.pubkey
  finalized_pubkey : ∀ a ∈ acc.finalizedAccount, a.pubkey = acc.pubkey
  confirmed_le : ∀ a ∈ acc.confirmedAccount, ∀ q,
    acc.processedAccounts.lastKeyValue = some q → a.updatedSlot ≤ q.1

theorem wf_singleton (data : AccountData) (conf fin : Option AccountData)
    (hc : ∀ a ∈ conf, a = data) (hf : ∀ a ∈ fin, a = data) :
    Wf ⟨data.pubkey, BTreeMap.empty.insert data.updatedSlot data, conf, fin⟩ := by
  have hmem : ∀ p ∈ (BTreeMap.empty.insert data.updatedSlot data).entries,
      p = (data.updatedSlot, data) := by
    intro p hp
    simpa using BTreeMap.mem_insert hp
  refine ⟨BTreeMap.insert_entries_ne_nil _ _ _, ?_, ?_, ?_, ?_, ?_⟩
  · intro p hp
    rw [hmem p hp]
  · intro p hp
    rw [hmem p hp]
  · intro a ha
    rw [hc a ha]
  · intro a ha
    rw [hf a ha]
  · intro a ha q hq
    rw [hc a ha]
    exact BTreeMap.le_lastKeyValue_insert hq

theorem wf_new (data : AccountData) (commitment : Commitment) : Wf (new data commitment) := by
  apply wf_singleton <;> intro a ha <;> split_ifs at ha <;> simp_all

theorem wf_initialise (data : AccountData) : Wf (initialise data) :=
  wf_singleton data _ _ (by simp) (by simp)

theorem Wf.update_processed {self : AccountDataByCommitment} (h : Wf self) {data : AccountData}
    (hd : data.pubkey = self.pubkey) (commitment : Commitment) :
    ∀ p ∈ (self.update data commitment).2.processedAccounts.entries,
      p.2.updatedSlot = p.1 ∧ p.2.pubkey = self.pubkey := by
  intro p hp
  rw [update_processedAccounts] at hp
  split_ifs at hp
  · rcases BTreeMap.mem_insert hp with rfl | hp
    · exact ⟨rfl, hd⟩
    · exact ⟨h.slot_eq p hp, h.pubkey_eq p hp⟩
  · exact ⟨h.slot_eq p hp, h.pubkey_eq p hp⟩

theorem update_lastKeyValue {self : AccountDataByCommitment} (h : Wf self) (data : AccountData)
    (commitment : Commitment) : ∃ q', (self.update data commitment).2.processedAccounts.lastKeyValue
      = some q' ∧ data.updatedSlot ≤ q'.1 ∧
      ∀ q, self.processedAccounts.lastKeyValue = some q → q.1 ≤ q'.1 := by
  rw [update_processedAccounts]
  split_ifs with hg
  · obtain ⟨q', hq'⟩ := BTreeMap.exists_lastKeyValue_insert self.processedAccounts data.updatedSlot data
    exact ⟨q', hq', BTreeMap.le_lastKeyValue_insert hq',
      fun q hq => BTreeMap.lastKeyValue_le_insert hq hq'⟩
  · obtain ⟨w, hw⟩ := Option.ne_none_iff_exists'.mp hg
    obtain ⟨q', hq'⟩ := BTreeMap.lastKeyValue_isSome h.processed_ne_nil
    refine ⟨q', hq', ?_, fun q hq => by simp_all⟩
    exact BTreeMap.le_of_lastKeyValue hq' (BTreeMap.get_eq_some_iff.mp hw)

theorem mem_update_confirmedAccount {self : AccountDataByCommitment} {data : AccountData}
    {commitment : Commitment} {a : AccountData}
    (ha : a ∈ (self.update data commitment).2.confirmedAccount) :
    a ∈ self.confirmedAccount ∨ a = data := by
  rw [update_confirmedAccount] at ha
  split_ifs at ha
  · exact .inr (Option.mem_some_iff.mp ha).symm
  · exact .inl ha

theorem mem_update_finalizedAccount {self : AccountDataByCommitment} {data : AccountData}
    {commitment : Commitment} {a : AccountData}
    (ha : a ∈ (self.update data commitment).2.finalizedAccount) :
    a ∈ self.finalizedAccount ∨ a = data := by
  rw [update_finalizedAccount] at ha
  split_ifs at ha
  · exact .inr (Option.mem_some_iff.mp ha).symm
  · exact .inl ha

theorem Wf.update {self : AccountDataByCommitment} (h : Wf self) {data : AccountData}
    (hd : data.pubkey = self.pubkey) (commitment : Commitment) :
    Wf (self.update data commitment).2 := by
  have hp := h.update_processed hd commitment
  obtain ⟨q', hq', hdq, hle⟩ := update_lastKeyValue h data commitment
  refine ⟨List.ne_nil_of_mem (BTreeMap.lastKeyValue_mem hq'), fun p hm => (hp p hm).1, ?_, ?_, ?_, ?_⟩
  · intro p hm
    rw [update_pubkey]
    exact (hp p hm).2
  · intro a ha
    rw [update_pubkey]
    rcases mem_update_confirmedAccount ha with ha | rfl
    · exact h.confirmed_pubkey a ha
    · exact hd
  · intro a ha
    rw [update_pubkey]
    rcases mem_update_finalizedAccount ha with ha | rfl
    · exact h.finalized_pubkey a ha
    · exact hd
  · intro a ha q hq
    rw [hq'] at hq
    cases hq
    rcases mem_update_confirmedAccount ha with ha | rfl
    · obtain ⟨q₀, hq₀⟩ := BTreeMap.lastKeyValue_isSome h.processed_ne_nil
      exact (h.confirmed_le a ha q₀ hq₀).trans (hle q₀ hq₀)
    · exact hdq

theorem Wf.get_processed {self : AccountDataByCommitment} (h : Wf self) {slot : Slot}
    {a : AccountData} (hg : self.processedAccounts.get slot = some a) :
    a.updatedSlot = slot ∧ a.pubkey = self.pubkey :=
  ⟨h.slot_eq _ (BTreeMap.get_eq_some_iff.mp hg), h.pubkey_eq _ (BTreeMap.get_eq_some_iff.mp hg)⟩

theorem promoteSlotCommitment_processed_mem {self : AccountDataByCommitment} {slot : Slot}
    {commitment : Commitment} {p : Slot × AccountData}
    (hp : p ∈ (self.promoteSlotCommitment slot commitment).2.processedAccounts.entries) :
    p ∈ self.processedAccounts.entries := by
  rw [promoteSlotCommitment_processedAccounts] at hp
  split_ifs at hp
  · exact mem_removeProcessedUpTo hp
  · exact hp

@[simp] theorem promoteSlotCommitment_lastKeyValue (self : AccountDataByCommitment) (slot : Slot)
    (commitment : Commitment) :
    (self.promoteSlotCommitment slot commitment).2.processedAccounts.lastKeyValue =
      self.processedAccounts.lastKeyValue := by
  rw [promoteSlotCommitment_processedAccounts]
  split_ifs
  · exact lastKeyValue_removeProcessedUpTo slot _
  · rfl

theorem mem_promoteSlotCommitment_confirmedAccount {self : AccountDataByCommitment} {slot : Slot}
    {commitment : Commitment} {a : AccountData}
    (ha : a ∈ (self.promoteSlotCommitment slot commitment).2.confirmedAccount) :
    a ∈ self.confirmedAccount ∨ self.processedAccounts.get slot = some a := by
  rw [promoteSlotCommitment_confirmedAccount] at ha
  split at ha
  · split_ifs at ha
    · cases ha
      exact .inr ‹_›
    · exact .inl ha
  · exact .inl ha

theorem mem_promoteSlotCommitment_finalizedAccount {self : AccountDataByCommitment} {slot : Slot}
    {commitment : Commitment} {a : AccountData}
    (ha : a ∈ (self.promoteSlotCommitment slot commitment).2.finalizedAccount) :
    a ∈ self.finalizedAccount ∨ self.processedAccounts.get slot = some a := by
  rw [promoteSlotCommitment_finalizedAccount] at ha
  split at ha
  · split_ifs at ha
    · cases ha
      exact .inr ‹_›
    · exact .inl ha
  · exact .inl ha

theorem Wf.promoteSlotCommitment {self : AccountDataByCommitment} (h : Wf self) (slot : Slot)
    (commitment : Commitment) : Wf (self.promoteSlotCommitment slot commitment).2 := by
  obtain ⟨q, hq⟩ := BTreeMap.lastKeyValue_isSome h.processed_ne_nil
  have hq' := (promoteSlotCommitment_lastKeyValue self slot commitment).trans hq
  refine ⟨List.ne_nil_of_mem (BTreeMap.lastKeyValue_mem hq'),
    fun p hp => h.slot_eq p (promoteSlotCommitment_processed_mem hp), ?_, ?_, ?_, ?_⟩
  · intro p hp
    rw [promoteSlotCommitment_pubkey]
    exact h.pubkey_eq p (promoteSlotCommitment_processed_mem hp)
  · intro a ha
    rw [promoteSlotCommitment_pubkey]
    rcases mem_promoteSlotCommitment_confirmedAccount ha with ha | hg
    · exact h.confirmed_pubkey a ha
    · exact (h.get_processed hg).2
  · intro a ha
    rw [promoteSlotCommitment_pubkey]
    rcases mem_promoteSlotCommitment_finalizedAccount ha with ha | hg
    · exact h.finalized_pubkey a ha
    · exact (h.get_processed hg).2
  · intro a ha q₁ hq₁
    rw [hq'] at hq₁
    cases hq₁
    rcases mem_promoteSlotCommitment_confirmedAccount ha with ha | hg
    · exact h.confirmed_le a ha q hq
    · rw [(h.get_processed hg).1]
      exact BTreeMap.le_of_lastKeyValue hq (BTreeMap.get_eq_some_iff.mp hg)

/-- The view `v'` is at least as new as `v`: present wherever `v` is, at a slot not below. -/
def ViewLe (v v' : Option AccountData) : Prop :=
  ∀ a ∈ v, ∃ a' ∈ v', a.updatedSlot ≤ a'.updatedSlot

theorem ViewLe.refl (v : Option AccountData) : ViewLe v v :=
  fun a ha => ⟨a, ha, le_rfl⟩

theorem ViewLe.trans {v₁ v₂ v₃ : Option AccountData} (h₁ : ViewLe v₁ v₂) (h₂ : ViewLe v₂ v₃) :
    ViewLe v₁ v₃ := by
  intro a ha
  obtain ⟨b, hb, hab⟩ := h₁ a ha
  obtain ⟨c, hc, hbc⟩ := h₂ b hb
  exact ⟨c, hc, hab.trans hbc⟩

theorem viewLe_some {v : Option AccountData} {d : AccountData}
    (h : ∀ a ∈ v, a.updatedSlot ≤ d.updatedSlot) : ViewLe v (some d) :=
  fun a ha => ⟨d, rfl, h a ha⟩

theorem viewLe_of_viewSlot_lt {v : Option AccountData} {d : AccountData} {slot : Slot}
    (hd : d.updatedSlot = slot) (hv : viewSlot v < slot) : ViewLe v (some d) :=
  viewLe_some fun a ha => by
    rw [hd, ← viewSlot_of_mem ha]
    exact le_of_lt hv

theorem Wf.getAccountData_processed {self : AccountDataByCommitment} (h : Wf self) :
    ∃ q, self.processedAccounts.lastKeyValue = some q ∧
      self.getAccountData .processed = some q.2 ∧ q.2.updatedSlot = q.1 := by
  obtain ⟨q, hq⟩ := BTreeMap.lastKeyValue_isSome h.processed_ne_nil
  exact ⟨q, hq, by simp [getAccountData, hq], h.slot_eq q (BTreeMap.lastKeyValue_mem hq)⟩

theorem Wf.viewLe_update {self : AccountDataByCommitment} (h : Wf self) {data : AccountData}
    (hd : data.pubkey = self.pubkey) (commitment c : Commitment) :
    ViewLe (self.getAccountData c) ((self.update data commitment).2.getAccountData c) := by
  cases c with
  | processed =>
    obtain ⟨q, hq, hv, hs⟩ := h.getAccountData_processed
    obtain ⟨q', hq', -, hle⟩ := update_lastKeyValue h data commitment
    obtain ⟨q'', hq'', hv', hs'⟩ := (h.update hd commitment).getAccountData_processed
    rw [hq'] at hq''
    cases hq''
    rw [hv, hv']
    refine viewLe_some fun a ha => ?_
    cases ha
    rw [hs, hs']
    exact hle q hq
  | confirmed =>
    simp only [getAccountData, update_confirmedAccount]
    split_ifs with hc
    · exact viewLe_some fun a ha => le_of_lt ((olderThan_iff _ _).mp hc.2 a ha)
    · exact ViewLe.refl _
  | finalized =>
    simp only [getAccountData, update_finalizedAccount]
    split_ifs with hc
    · exact viewLe_some fun a ha => le_of_lt ((olderThan_iff _ _).mp hc.2 a ha)
    · exact ViewLe.refl _

theorem Wf.viewLe_promoteSlotCommitment {self : AccountDataByCommitment} (h : Wf self)
    (slot : Slot) (commitment c : Commitment) : ViewLe (self.getAccountData c)
      ((self.promoteSlotCommitment slot commitment).2.getAccountData c) := by
  cases c with
  | processed =>
    obtain ⟨q, hq, hv, -⟩ := h.getAccountData_processed
    obtain ⟨q', hq', hv', -⟩ := (h.promoteSlotCommitment slot commitment).getAccountData_processed
    rw [promoteSlotCommitment_lastKeyValue, hq] at hq'
    cases hq'
    rw [hv, hv']
    exact ViewLe.refl _
  | confirmed =>
    simp only [getAccountData, promoteSlotCommitment_confirmedAccount]
    split
    · rename_i x hg
      split_ifs with hc
      · exact viewLe_of_viewSlot_lt (h.get_processed hg).1 hc.2
      · exact ViewLe.refl _
    · exact ViewLe.refl _
  | finalized =>
    simp only [getAccountData, promoteSlotCommitment_finalizedAccount]
    split
    · rename_i x hg
      split_ifs with hc
      · exact viewLe_of_viewSlot_lt (h.get_processed hg).1 hc.2
      · exact ViewLe.refl _
    · exact ViewLe.refl _

theorem olderThan_eq_decide (view : Option AccountData) {slot : Slot} (hs : 0 < slot) :
    olderThan view slot = decide (viewSlot view < slot) := by
  cases view with
  | none => simp [olderThan, viewSlot, hs]
  | some a => rfl

theorem confirmedAccount_update_promote {acc : AccountDataByCommitment} (h : Wf acc)
    {d : AccountData} (hs : 0 < d.updatedSlot) :
    ((acc.update d .processed).2.promoteSlotCommitment d.updatedSlot .confirmed).2.confirmedAccount =
      ((acc.promoteSlotCommitment d.updatedSlot .confirmed).2.update d .confirmed).2.confirmedAccount := by
  rw [promoteSlotCommitment_confirmedAccount, update_processed_confirmedAccount,
    update_confirmedAccount, promoteSlotCommitment_confirmedAccount, update_processedAccounts]
  cases hg : acc.processedAccounts.get d.updatedSlot with
  | none =>
    simp only [if_true, BTreeMap.get_insert, olderThan_eq_decide _ hs]
    simp
  | some e =>
    have he := (h.get_processed hg).1
    simp only [reduceCtorEq, if_false, hg]
    by_cases hv : viewSlot acc.confirmedAccount < d.updatedSlot
    · simp [hv, olderThan, he]
    · simp [hv, olderThan_eq_decide _ hs]

theorem update_promote_eq_promote_update {acc : AccountDataByCommitment} (h : Wf acc)
    {d : AccountData} (hs : 0 < d.updatedSlot) :
    (((acc.update d .processed).2.promoteSlotCommitment d.updatedSlot .confirmed).2.promoteSlotCommitment
        d.updatedSlot .finalized).2 =
      (((acc.promoteSlotCommitment d.updatedSlot .confirmed).2.update d .confirmed).2.promoteSlotCommitment
        d.updatedSlot .finalized).2 := by
  have hp : ((acc.update d .processed).2.promoteSlotCommitment d.updatedSlot .confirmed).2.processedAccounts =
      ((acc.promoteSlotCommitment d.updatedSlot .confirmed).2.update d .confirmed).2.processedAccounts := by
    simp [update_processedAccounts]
  have hf : ((acc.update d .processed).2.promoteSlotCommitment d.updatedSlot .confirmed).2.finalizedAccount =
      ((acc.promoteSlotCommitment d.updatedSlot .confirmed).2.update d .confirmed).2.finalizedAccount := by
    simp
  ext1
  · simp
  · rw [promoteSlotCommitment_processedAccounts _ _ .finalized,
      promoteSlotCommitment_processedAccounts _ _ .finalized, hp]
  · rw [promoteSlotCommitment_finalized_confirmedAccount, promoteSlotCommitment_finalized_confirmedAccount]
    exact confirmedAccount_update_promote h hs
  · rw [promoteSlotCommitment_finalizedAccount _ _ .finalized,
      promoteSlotCommitment_finalizedAccount _ _ .finalized, hp, hf]

theorem promoteSlotCommitment_new {d : AccountData} (hs : 0 < d.updatedSlot) :
    ((new d .processed).promoteSlotCommitment d.updatedSlot .confirmed).2 = new d .confirmed := by
  ext1
  · simp [new]
  · simp [new]
  · simp [promoteSlotCommitment_confirmedAccount, new, BTreeMap.get_insert, viewSlot, hs]
  · simp [new]

theorem lastKeyValue_update_processed {acc : AccountDataByCommitment} {q : Slot × AccountData}
    (hq : acc.processedAccounts.lastKeyValue = some q) (d : AccountData) :
    (acc.update d .processed).2.processedAccounts.lastKeyValue =
      if acc.processedAccounts.get d.updatedSlot = none ∧ q.1 ≤ d.updatedSlot then some (d.updatedSlot, d)
      else some q := by
  rw [update_processedAccounts]
  by_cases hg : acc.processedAccounts.get d.updatedSlot = none
  · rw [if_pos hg, BTreeMap.lastKeyValue_insert hq]
    simp [hg]
  · simp [hg, hq]

theorem promoteSlotCommitment_get_of_none {self : AccountDataByCommitment} {slot k : Slot}
    {commitment : Commitment} (hn : self.processedAccounts.get k = none) :
    (self.promoteSlotCommitment slot commitment).2.processedAccounts.get k = none := by
  cases hg : (self.promoteSlotCommitment slot commitment).2.processedAccounts.get k with
  | none => rfl
  | some e =>
    have hmem := promoteSlotCommitment_processed_mem (BTreeMap.get_eq_some_iff.mp hg)
    simp [BTreeMap.get_eq_some_iff.mpr hmem] at hn

theorem lastKeyValue_update_after_finalized {acc : AccountDataByCommitment} (h : Wf acc)
    (d : AccountData) (commitment : Commitment) :
    ((acc.promoteSlotCommitment d.updatedSlot commitment).2.update d .processed).2.processedAccounts.lastKeyValue =
      (acc.update d .processed).2.processedAccounts.lastKeyValue := by
  obtain ⟨q, hq⟩ := BTreeMap.lastKeyValue_isSome h.processed_ne_nil
  have hq' : (acc.promoteSlotCommitment d.updatedSlot commitment).2.processedAccounts.lastKeyValue =
      some q := by rw [promoteSlotCommitment_lastKeyValue, hq]
  rw [lastKeyValue_update_processed hq', lastKeyValue_update_processed hq]
  have hiff : ((acc.promoteSlotCommitment d.updatedSlot commitment).2.processedAccounts.get
      d.updatedSlot = none ∧ q.1 ≤ d.updatedSlot) ↔
      (acc.processedAccounts.get d.updatedSlot = none ∧ q.1 ≤ d.updatedSlot) := by
    constructor
    · rintro ⟨hn, hle⟩
      refine ⟨?_, hle⟩
      cases hg : acc.processedAccounts.get d.updatedSlot with
      | none => rfl
      | some e =>
        have heq : q.1 = d.updatedSlot :=
          le_antisymm hle (BTreeMap.le_of_lastKeyValue hq (BTreeMap.get_eq_some_iff.mp hg))
        have hlast := BTreeMap.get_eq_some_iff.mpr (BTreeMap.lastKeyValue_mem hq')
        rw [heq] at hlast
        simp [hlast] at hn
    · rintro ⟨hn, hle⟩
      exact ⟨promoteSlotCommitment_get_of_none hn, hle⟩
  simp only [hiff]

/-- The new value of a view that changed, and nothing when it stayed the same. -/
def viewChange (before after : Option AccountData) : Option AccountData :=
  if before = after then none else after

@[simp] theorem viewChange_self (v : Option AccountData) : viewChange v v = none := if_pos rfl

theorem update_eq_self_of_fst_eq_false {self : AccountDataByCommitment} {data : AccountData}
    {commitment : Commitment} (h : (self.update data commitment).1 = false) :
    (self.update data commitment).2 = self := by
  rw [update_fst] at h
  simp only [Bool.or_eq_false_iff, Option.isNone_eq_false_iff, Bool.and_eq_false_iff,
    decide_eq_false_iff_not, not_not] at h
  obtain ⟨⟨hp, hc⟩, hf⟩ := h
  have hg : self.processedAccounts.get data.updatedSlot ≠ none := Option.isSome_iff_ne_none.mp hp
  ext1
  · exact update_pubkey self data commitment
  · rw [update_processedAccounts, if_neg hg]
  · rw [update_confirmedAccount]
    split_ifs with hc'
    · rcases hc with hc | hc <;> simp_all
    · rfl
  · rw [update_finalizedAccount]
    split_ifs with hf'
    · rcases hf with hf | hf <;> simp_all
    · rfl

theorem Wf.getAccountData_update_of_ne {self : AccountDataByCommitment} (h : Wf self)
    {data : AccountData} {commitment c : Commitment}
    (hne : (self.update data commitment).2.getAccountData c ≠ self.getAccountData c) :
    (self.update data commitment).2.getAccountData c = some data := by
  cases c with
  | processed =>
    obtain ⟨q, hq⟩ := BTreeMap.lastKeyValue_isSome h.processed_ne_nil
    have hlast : (self.update data commitment).2.processedAccounts.lastKeyValue = some q ∨
        (self.update data commitment).2.processedAccounts.lastKeyValue =
          some (data.updatedSlot, data) := by
      rw [update_processedAccounts]
      split_ifs
      · rw [BTreeMap.lastKeyValue_insert hq]
        split_ifs <;> simp
      · exact Or.inl hq
    simp only [getAccountData, hq] at hne ⊢
    rcases hlast with hl | hl <;> simp [hl] at hne ⊢
  | confirmed =>
    simp only [getAccountData, update_confirmedAccount] at hne ⊢
    split_ifs at hne ⊢
    · rfl
    · exact absurd rfl hne
  | finalized =>
    simp only [getAccountData, update_finalizedAccount] at hne ⊢
    split_ifs at hne ⊢
    · rfl
    · exact absurd rfl hne

theorem getAccountData_new_of_ne_none {data : AccountData} {commitment c : Commitment}
    (h : (new data commitment).getAccountData c ≠ none) :
    (new data commitment).getAccountData c = some data := by
  cases c <;> simp only [getAccountData, new] at h ⊢
  · simp [BTreeMap.lastKeyValue, BTreeMap.insertEntry]
  all_goals split_ifs at h ⊢ <;> simp_all

theorem promoteSlotCommitment_fst_get {self : AccountDataByCommitment} {slot : Slot}
    {commitment : Commitment} {p : AccountData × Option AccountData}
    (hp : (self.promoteSlotCommitment slot commitment).1 = some p) :
    self.processedAccounts.get slot = some p.1 := by
  unfold promoteSlotCommitment at hp
  cases hg : self.processedAccounts.get slot with
  | none =>
    rw [hg] at hp
    split_ifs at hp
  | some a =>
    rw [hg] at hp
    cases commitment <;> simp only at hp <;> (try split_ifs at hp) <;> simp at hp
    all_goals rw [← hp]

theorem Wf.getAccountData_promoteSlotCommitment_of_ne {self : AccountDataByCommitment} (h : Wf self)
    (slot : Slot) {commitment c : Commitment} (hc : c ≠ commitment) :
    (self.promoteSlotCommitment slot commitment).2.getAccountData c = self.getAccountData c := by
  cases c with
  | processed =>
    obtain ⟨q, hq⟩ := BTreeMap.lastKeyValue_isSome h.processed_ne_nil
    simp [getAccountData, hq]
  | confirmed =>
    cases commitment with
    | processed => rw [promoteSlotCommitment_processed]
    | confirmed => exact absurd rfl hc
    | finalized => simp [getAccountData]
  | finalized =>
    cases commitment with
    | processed => rw [promoteSlotCommitment_processed]
    | confirmed => simp [getAccountData]
    | finalized => exact absurd rfl hc

end AccountDataByCommitment

end LiteRpc
