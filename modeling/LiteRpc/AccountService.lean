import LiteRpc.AccountStoreRuns
import LiteRpc.Lib.NodupKeys

/-!
`AccountService::process_account_stream`: the account-update loop forwards a geyser account
notification to the subscriptions when the store took it, and the block loop promotes the
accounts at every confirmed or finalized slot and announces the promoted ones. The two loops are
separate tasks over one store, so any interleaving of their iterations is a list of
`StreamEvent`s.
-/

namespace LiteRpc

open AccountDataByCommitment

namespace InmemoryAccountStore

theorem view_processSlotData (s : InmemoryAccountStore) (slot : Slot) (commitment c : Commitment)
    (k : Pubkey) : (s.processSlotData slot commitment).2.view k c =
      (s.accountStore.lookup k).bind fun acc =>
        (acc.promoteSlotCommitment slot commitment).2.getAccountData c := by
  simp only [view, processSlotData_lookup, Option.bind_map]
  rfl

theorem Inv.view_processSlotData_of_ne {s : InmemoryAccountStore} (h : Inv s) (slot : Slot)
    {commitment c : Commitment} (hc : c ≠ commitment) (k : Pubkey) :
    (s.processSlotData slot commitment).2.view k c = s.view k c := by
  rw [view_processSlotData]
  cases hl : s.accountStore.lookup k with
  | none => simp [view, hl]
  | some acc =>
    simp [view, hl, (h k acc hl).1.getAccountData_promoteSlotCommitment_of_ne slot hc]

theorem Inv.processSlotData_fst_filter {s : InmemoryAccountStore} (h : Inv s) (slot : Slot)
    {commitment : Commitment} (hc : commitment ≠ .processed) (k : Pubkey) :
    (s.processSlotData slot commitment).1.filter (fun data => data.pubkey = k) =
      (viewChange (s.view k commitment)
        ((s.processSlotData slot commitment).2.view k commitment)).toList := by
  rw [processSlotData_fst s slot hc,
    List.filter_filterMap_of_nodupKeys AccountData.pubkey _ k s.accountStore.nodupKeys]
  · have hlk : s.accountStore.entries.dlookup k = s.accountStore.lookup k := rfl
    rw [hlk, view_processSlotData]
    cases hl : s.accountStore.lookup k with
    | none => simp [view, hl]
    | some acc => simp [view, hl, updatedAccount_promoteSlotCommitment]
  · -- every returned account is stored under its own pubkey
    intro x hx g hg
    obtain ⟨p, hp, hu⟩ := Option.bind_eq_some_iff.mp hg
    have hl : s.accountStore.lookup x.1 = some x.2 := AList.mem_lookup_iff.mpr hx
    obtain ⟨hw, hk⟩ := h x.1 x.2 hl
    rw [updatedAccount_eq_some hu, (hw.get_processed (promoteSlotCommitment_fst_get hp)).2, hk]

theorem Inv.view_updateAccount_of_ne {s : InmemoryAccountStore} (h : Inv s)
    (accountData : AccountData) (commitment : Commitment) (k : Pubkey) (c : Commitment)
    (hne : (s.updateAccount accountData commitment).2.view k c ≠ s.view k c) :
    (s.updateAccount accountData commitment).1 = true ∧ k = accountData.pubkey ∧
      (s.updateAccount accountData commitment).2.view k c = some accountData := by
  unfold view at hne ⊢
  rw [updateAccount_lookup] at hne ⊢
  by_cases hk : k = accountData.pubkey
  · subst hk
    rw [if_pos rfl] at hne ⊢
    rw [updateAccount_fst]
    cases hl : s.accountStore.lookup accountData.pubkey with
    | none =>
      simp only [hl, Option.bind_some, Option.bind_none] at hne ⊢
      exact ⟨trivial, trivial, getAccountData_new_of_ne_none hne⟩
    | some acc =>
      simp only [hl, Option.bind_some] at hne ⊢
      obtain ⟨hw, -⟩ := h _ acc hl
      refine ⟨?_, trivial, hw.getAccountData_update_of_ne hne⟩
      by_contra hf
      rw [Bool.not_eq_true] at hf
      rw [update_eq_self_of_fst_eq_false hf] at hne
      exact hne rfl
  · rw [if_neg hk] at hne
    exact absurd rfl hne

end InmemoryAccountStore

namespace AccountService

open InmemoryAccountStore

/-- A message received by one of the two loops: an account notification, or the slot and the
commitment of a block info. -/
inductive StreamEvent where
  | accountNotification (accountNotification : AccountNotificationMessage)
  | blockInfo (slot : Slot) (commitment : Commitment)

/-- One iteration of the account-update loop: the messages sent on `account_notification_sender`
and the store. -/
def processAccountNotification (accountStore : InmemoryAccountStore)
    (accountNotification : AccountNotificationMessage) :
    List AccountNotificationMessage × InmemoryAccountStore :=
  let r := accountStore.updateAccount accountNotification.data accountNotification.commitment
  (if r.1 then [accountNotification] else [], r.2)

/-- One iteration of the block loop. -/
def processBlockInfo (accountStore : InmemoryAccountStore) (slot : Slot) (commitment : Commitment) :
    List AccountNotificationMessage × InmemoryAccountStore :=
  -- processed commitment is not processed in this loop
  if commitment = .processed then ([], accountStore)
  else
    let r := accountStore.processSlotData slot commitment
    (r.1.map fun data => ⟨data, commitment⟩, r.2)

def processStreamEvent (accountStore : InmemoryAccountStore) :
    StreamEvent → List AccountNotificationMessage × InmemoryAccountStore
  | .accountNotification accountNotification =>
    processAccountNotification accountStore accountNotification
  | .blockInfo slot commitment => processBlockInfo accountStore slot commitment

/-- The store call an event makes. -/
def StreamEvent.operation : StreamEvent → Operation
  | .accountNotification notification => .updateAccount notification.data notification.commitment
  | .blockInfo slot commitment => .processSlotData slot commitment

theorem processBlockInfo_snd (s : InmemoryAccountStore) (slot : Slot) (commitment : Commitment) :
    (processBlockInfo s slot commitment).2 = (s.processSlotData slot commitment).2 := by
  unfold processBlockInfo
  split_ifs with h
  · subst h
    rfl
  · rfl

theorem processStreamEvent_snd (s : InmemoryAccountStore) (e : StreamEvent) :
    (processStreamEvent s e).2 = s.step e.operation := by
  cases e with
  | accountNotification notification => rfl
  | blockInfo slot commitment => exact processBlockInfo_snd s slot commitment

/-- The data of the messages for account `k` at commitment `c`, in the order they are sent. -/
def announced (msgs : List AccountNotificationMessage) (k : Pubkey) (c : Commitment) :
    List AccountData :=
  (msgs.filter fun m => m.data.pubkey = k ∧ m.commitment = c).map (·.data)

theorem mem_announced {msgs : List AccountNotificationMessage} {k : Pubkey} {c : Commitment}
    {a : AccountData} :
    a ∈ announced msgs k c ↔ ∃ m ∈ msgs, m.data.pubkey = k ∧ m.commitment = c ∧ m.data = a := by
  simp [announced, and_assoc]

theorem announced_processBlockInfo {s : InmemoryAccountStore} (h : Inv s) (slot : Slot)
    (commitment : Commitment) (k : Pubkey) (c : Commitment) :
    announced (processBlockInfo s slot commitment).1 k c =
      (viewChange (s.view k c) ((processBlockInfo s slot commitment).2.view k c)).toList := by
  unfold processBlockInfo
  split_ifs with hp
  · simp [announced]
  · by_cases hc : c = commitment
    · subst hc
      rw [← h.processSlotData_fst_filter slot hp k]
      simp [announced, List.filter_map, Function.comp_def]
    · rw [h.view_processSlotData_of_ne slot hc k]
      simp [announced, Ne.symm hc]

theorem processAccountNotification_announces {s : InmemoryAccountStore} (h : Inv s)
    (accountNotification : AccountNotificationMessage) (k : Pubkey) (c : Commitment)
    (hne : s.view k c ≠ (processAccountNotification s accountNotification).2.view k c) :
    ∃ m ∈ (processAccountNotification s accountNotification).1, m.data.pubkey = k ∧
      (processAccountNotification s accountNotification).2.view k c = some m.data := by
  obtain ⟨hr, rfl, hv⟩ := h.view_updateAccount_of_ne accountNotification.data
    accountNotification.commitment k c (Ne.symm hne)
  exact ⟨accountNotification, by simp [processAccountNotification, hr], rfl, hv⟩

theorem processBlockInfo_announces {s : InmemoryAccountStore} (h : Inv s) (slot : Slot)
    (commitment : Commitment) (k : Pubkey) (c : Commitment)
    (hne : s.view k c ≠ (processBlockInfo s slot commitment).2.view k c) :
    ∃ m ∈ (processBlockInfo s slot commitment).1, m.data.pubkey = k ∧
      (processBlockInfo s slot commitment).2.view k c = some m.data := by
  have ha := announced_processBlockInfo h slot commitment k c
  rw [viewChange, if_neg hne] at ha
  obtain ⟨a, hv⟩ : ∃ a, (processBlockInfo s slot commitment).2.view k c = some a := by
    cases hv : (processBlockInfo s slot commitment).2.view k c with
    | some a => exact ⟨a, rfl⟩
    | none =>
      have hle := h.viewLe_step (.processSlotData slot commitment) k c
      rw [step, ← processBlockInfo_snd, hv] at hle
      cases hb : s.view k c with
      | none => exact absurd (hb.trans hv.symm) hne
      | some b => simpa using hle b (by simp [hb])
  have hmem : a ∈ announced (processBlockInfo s slot commitment).1 k c := by simp [ha, hv]
  obtain ⟨m, hm, hk, -, rfl⟩ := mem_announced.mp hmem
  exact ⟨m, hm, hk, hv⟩

theorem processStreamEvent_announces {s : InmemoryAccountStore} (h : Inv s) (e : StreamEvent)
    (k : Pubkey) (c : Commitment) (hne : s.view k c ≠ (processStreamEvent s e).2.view k c) :
    ∃ m ∈ (processStreamEvent s e).1, m.data.pubkey = k ∧
      (processStreamEvent s e).2.view k c = some m.data := by
  cases e with
  | accountNotification accountNotification =>
    exact processAccountNotification_announces h accountNotification k c hne
  | blockInfo slot commitment => exact processBlockInfo_announces h slot commitment k c hne

/-- From every reachable store, the block loop sends, for every account and commitment, exactly
the new view when it changed it; and every iteration of either loop that changes a view of an
account sends a message for that account whose data is the new view. -/
theorem notifications_follow_views {s : InmemoryAccountStore} (hs : s.Reachable) (k : Pubkey)
    (c : Commitment) :
    (∀ slot commitment, announced (processBlockInfo s slot commitment).1 k c =
      (viewChange (s.view k c) ((processBlockInfo s slot commitment).2.view k c)).toList) ∧
    ∀ e, s.view k c ≠ (processStreamEvent s e).2.view k c →
      ∃ m ∈ (processStreamEvent s e).1, m.data.pubkey = k ∧
        (processStreamEvent s e).2.view k c = some m.data := by
  have h := hs.inv
  exact ⟨fun slot commitment => announced_processBlockInfo h slot commitment k c,
    fun e hne => processStreamEvent_announces h e k c hne⟩

theorem notifications_follow_views_from_new :
    InmemoryAccountStore.storeConfirmedAtFive.Reachable ∧
    InmemoryAccountStore.storeConfirmedAtFive.view ⟨1⟩ .confirmed =
      some ⟨⟨1⟩, ⟨0, [], ⟨10⟩, false, 0⟩, 5⟩ ∧
    (∀ slot commitment,
      announced (processBlockInfo InmemoryAccountStore.storeConfirmedAtFive slot commitment).1
        ⟨1⟩ .confirmed =
      (viewChange (InmemoryAccountStore.storeConfirmedAtFive.view ⟨1⟩ .confirmed)
        ((processBlockInfo InmemoryAccountStore.storeConfirmedAtFive slot commitment).2.view
          ⟨1⟩ .confirmed)).toList) ∧
    ∀ e, InmemoryAccountStore.storeConfirmedAtFive.view ⟨1⟩ .confirmed ≠
        (processStreamEvent InmemoryAccountStore.storeConfirmedAtFive e).2.view ⟨1⟩ .confirmed →
      ∃ m ∈ (processStreamEvent InmemoryAccountStore.storeConfirmedAtFive e).1,
        m.data.pubkey = ⟨1⟩ ∧
        (processStreamEvent InmemoryAccountStore.storeConfirmedAtFive e).2.view ⟨1⟩ .confirmed =
          some m.data :=
  ⟨reachable_storeConfirmedAtFive, by decide,
    notifications_follow_views reachable_storeConfirmedAtFive ⟨1⟩ .confirmed⟩

/-- The account loop forwards an older processed update although the processed view stays at the
newer slot, and forwards a finalized update at finalized only although it also sets the
confirmed view. -/
theorem account_notifications_not_view_changes :
    let d₃ : AccountData := ⟨⟨1⟩, ⟨0, [], ⟨10⟩, false, 0⟩, 3⟩
    let d₅ : AccountData := ⟨⟨1⟩, ⟨0, [], ⟨10⟩, false, 0⟩, 5⟩
    let s := (processAccountNotification InmemoryAccountStore.new ⟨d₅, .processed⟩).2
    (processAccountNotification s ⟨d₃, .processed⟩).1 = [⟨d₃, .processed⟩] ∧
      (processAccountNotification s ⟨d₃, .processed⟩).2.view ⟨1⟩ .processed = some d₅ ∧
      (processAccountNotification InmemoryAccountStore.new ⟨d₅, .finalized⟩).1 =
        [⟨d₅, .finalized⟩] ∧
      InmemoryAccountStore.new.view ⟨1⟩ .confirmed = none ∧
      (processAccountNotification InmemoryAccountStore.new ⟨d₅, .finalized⟩).2.view ⟨1⟩ .confirmed =
        some d₅ := by
  decide

end AccountService

end LiteRpc
