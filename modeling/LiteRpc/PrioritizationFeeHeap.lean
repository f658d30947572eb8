import Mathlib.Data.Finset.Card
import LiteRpc.Lib.BTreeMap
import LiteRpc.Lib.NodupKeys
import LiteRpc.Lib.Run
import LiteRpc.TxStore

/-!
`PrioritizationFeesHeap` of `prioritization_fee_heap.rs`: the transactions waiting for a QUIC
connection, kept by prioritization fee in a `BTreeMap` of `VecDeque`s, with the `HashSet` of their
signatures and a capacity `max_number_of_transactions`. The `Mutex` makes each method one atomic
step on `PrioFeeHeapData`.

A panic is an `Except` error with the message Rust prints: `unwrap` on `None` and the explicit
`panic!` of `insert`.
-/

namespace LiteRpc

structure PrioFeeHeapData where
  map : BTreeMap Nat (List SentTransactionInfo)
  signatures : Finset Signature

structure PrioritizationFeesHeap where
  map : PrioFeeHeapData
  maxNumberOfTransactions : Nat

namespace PrioritizationFeesHeap

def new (maxNumberOfTransactions : Nat) : PrioritizationFeesHeap :=
  ⟨⟨BTreeMap.empty, ∅⟩, maxNumberOfTransactions⟩

/-- The message of `Option::unwrap` on `None`. -/
def unwrapNone : String := "called `Option::unwrap()` on a `None` value"

/-- `entry.get_mut().pop_front().unwrap()` on the entry of `key`, then `entry.remove()` when its
deque is left empty. -/
def popFront (map : BTreeMap Nat (List SentTransactionInfo)) (key : Nat) :
    List SentTransactionInfo → Except String (SentTransactionInfo × BTreeMap Nat (List SentTransactionInfo))
  | [] => .error unwrapNone
  | element :: rest => .ok (element, if rest.isEmpty then map.remove key else map.insert key rest)

def pop (self : PrioritizationFeesHeap) :
    Except String (Option SentTransactionInfo × PrioritizationFeesHeap) :=
  match self.map.map.lastKeyValue with
  | some (key, entry) => do
    let (element, map) ← popFront self.map.map key entry
    pure (some element, { self with map := ⟨map, self.map.signatures.erase element.signature⟩ })
  | none => .ok (none, self)

/-- `first_entry().unwrap().key()`. -/
def firstKey (map : BTreeMap Nat (List SentTransactionInfo)) : Except String Nat :=
  match map.firstKeyValue with
  | some (key, _) => .ok key
  | none => .error unwrapNone

/-- The `match` on `get_mut`: the transaction goes to the back of the deque of its fee, a new
one if there is none. -/
def pushTx (map : BTreeMap Nat (List SentTransactionInfo)) (tx : SentTransactionInfo) :
    BTreeMap Nat (List SentTransactionInfo) :=
  match map.get tx.prioritizationFee with
  | some value => map.insert tx.prioritizationFee (value ++ [tx])
  | none => map.insert tx.prioritizationFee [tx]

/-- `insert` past its two early returns: the signature and the transaction are stored, and over
capacity the front of the deque of the lowest fee is dropped. -/
def pushAndEvict (self : PrioritizationFeesHeap) (tx : SentTransactionInfo) :
    Except String PrioritizationFeesHeap :=
  let signatures := insert tx.signature self.map.signatures
  let map := pushTx self.map.map tx
  if signatures.card > self.maxNumberOfTransactions then
    match map.firstKeyValue with
    | some (key, entry) => do
      let (txInfo, map) ← popFront map key entry
      pure { self with map := ⟨map, signatures.erase txInfo.signature⟩ }
    | none => .error "Should not happen"
  else .ok { self with map := ⟨map, signatures⟩ }

def insert (self : PrioritizationFeesHeap) (tx : SentTransactionInfo) :
    Except String PrioritizationFeesHeap :=
  if tx.signature ∈ self.map.signatures then
    -- signature already in the list
    .ok self
  else if self.map.signatures.card ≥ self.maxNumberOfTransactions then do
    -- check if prioritization is more than prioritization in the map
    let key ← firstKey self.map.map
    if tx.prioritizationFee ≤ key then pure self else pushAndEvict self tx
  else pushAndEvict self tx

def removeExpiredTransactions (self : PrioritizationFeesHeap) (currentBlockheight : Nat) :
    Nat × PrioritizationFeesHeap :=
  let retain (x : SentTransactionInfo) : Bool := x.lastValidBlockHeight > currentBlockheight
  -- the pass of `iter_mut`: every deque keeps the transactions still valid, the signatures of the
  -- others are collected, and so are the keys of the deques left empty
  let map := self.map.map.mapValues (·.filter retain)
  let signaturesToRemove := self.map.map.entries.flatMap fun e =>
    (e.2.filter fun x => !retain x).map (·.signature)
  let cellsToRemove := (map.entries.filter (·.2.isEmpty)).map (·.1)
  let map := cellsToRemove.foldl BTreeMap.remove map
  let signatures := signaturesToRemove.foldl Finset.erase self.map.signatures
  (signaturesToRemove.length, { self with map := ⟨map, signatures⟩ })

def size (self : PrioritizationFeesHeap) : Nat := self.map.signatures.card

def clear (self : PrioritizationFeesHeap) : Nat × PrioritizationFeesHeap :=
  (self.map.signatures.card, { self with map := ⟨BTreeMap.empty, ∅⟩ })

/-- The transactions held: the deques in the order of their fees, each from front to back. -/
def contents (map : BTreeMap Nat (List SentTransactionInfo)) : List SentTransactionInfo :=
  map.entries.flatMap (·.2)

section Contents

variable {map : BTreeMap Nat (List SentTransactionInfo)}

@[simp] theorem contents_empty : contents (BTreeMap.empty : BTreeMap Nat (List SentTransactionInfo)) = [] :=
  rfl

theorem mem_contents {tx : SentTransactionInfo} :
    tx ∈ contents map ↔ ∃ e ∈ map.entries, tx ∈ e.2 := by
  simp [contents]

theorem contents_perm_of_get {k : Nat} {entry : List SentTransactionInfo}
    (h : map.get k = some entry) : (contents map).Perm (entry ++ contents (map.remove k)) := by
  simpa [contents] using (BTreeMap.entries_perm_of_get h).flatMap_right (·.2)

theorem contents_insert (k : Nat) (v : List SentTransactionInfo) :
    (contents (map.insert k v)).Perm (v ++ contents (map.remove k)) := by
  simpa [contents] using (BTreeMap.entries_insert_perm map k v).flatMap_right (·.2)

theorem contents_pushTx (tx : SentTransactionInfo) :
    (contents (pushTx map tx)).Perm (contents map ++ [tx]) := by
  unfold pushTx
  split
  · rename_i value hvalue
    refine (contents_insert _ _).trans ?_
    have hold := contents_perm_of_get hvalue
    have hback : (value ++ ([tx] ++ contents (map.remove tx.prioritizationFee))).Perm
        (value ++ (contents (map.remove tx.prioritizationFee) ++ [tx])) :=
      List.perm_append_comm.append_left value
    rw [List.append_assoc]
    refine hback.trans ?_
    rw [← List.append_assoc]
    exact hold.symm.append_right [tx]
  · rename_i hnone
    refine (contents_insert _ _).trans ?_
    rw [contents, BTreeMap.remove_entries_of_get_none hnone]
    exact List.perm_append_comm

theorem contents_popFront {key : Nat} {entry : List SentTransactionInfo}
    (h : map.get key = some entry) {element : SentTransactionInfo}
    {map' : BTreeMap Nat (List SentTransactionInfo)}
    (hp : popFront map key entry = .ok (element, map')) :
    (contents map).Perm (element :: contents map') := by
  cases entry with
  | nil => cases hp
  | cons first rest =>
    simp only [popFront, Except.ok.injEq, Prod.mk.injEq] at hp
    obtain ⟨rfl, rfl⟩ := hp
    refine (contents_perm_of_get h).trans ?_
    split_ifs with hrest
    · simp [List.isEmpty_iff.mp hrest]
    · exact ((contents_insert key rest).symm.cons first)

theorem pushTx_eq (tx : SentTransactionInfo) :
    pushTx map tx = map.insert tx.prioritizationFee ((map.get tx.prioritizationFee).getD [] ++ [tx]) := by
  unfold pushTx
  split <;> simp_all

theorem firstKeyValue_pushTx_of_lt {q : Nat × List SentTransactionInfo}
    (hq : map.firstKeyValue = some q) {tx : SentTransactionInfo} (hfee : q.1 < tx.prioritizationFee) :
    (pushTx map tx).firstKeyValue = some q := by
  rw [pushTx_eq]
  exact BTreeMap.firstKeyValue_insert_of_lt hq hfee _

end Contents

/-- The deques of the map: none is empty, each holds transactions of its key's fee, and no
signature occurs twice among them. -/
structure MapWf (map : BTreeMap Nat (List SentTransactionInfo)) : Prop where
  entry_ne_nil : ∀ e ∈ map.entries, e.2 ≠ []
  entry_fee : ∀ e ∈ map.entries, ∀ tx ∈ e.2, tx.prioritizationFee = e.1
  nodup : ((contents map).map (·.signature)).Nodup

/-- The representation invariant: well-formed deques, the signatures of exactly the transactions
held, and no more of them than the capacity. -/
structure Wf (heap : PrioritizationFeesHeap) : Prop where
  map_wf : MapWf heap.map.map
  signatures_eq : heap.map.signatures = ((contents heap.map.map).map (·.signature)).toFinset
  card_le : heap.map.signatures.card ≤ heap.maxNumberOfTransactions

section MapWf

variable {map : BTreeMap Nat (List SentTransactionInfo)}

theorem mapWf_empty : MapWf (BTreeMap.empty : BTreeMap Nat (List SentTransactionInfo)) where
  entry_ne_nil _ h := by cases h
  entry_fee _ h := by cases h
  nodup := List.nodup_nil

theorem MapWf.fee_of_get (h : MapWf map) {k : Nat} {entry : List SentTransactionInfo}
    (hget : map.get k = some entry) : ∀ tx ∈ entry, tx.prioritizationFee = k :=
  h.entry_fee (k, entry) (BTreeMap.get_eq_some_iff.mp hget)

theorem MapWf.pushTx (h : MapWf map) {tx : SentTransactionInfo}
    (hnew : tx.signature ∉ (contents map).map (·.signature)) : MapWf (pushTx map tx) where
  entry_ne_nil e he := by
    rw [pushTx_eq] at he
    rcases BTreeMap.mem_insert he with rfl | he
    · simp
    · exact h.entry_ne_nil e he
  entry_fee e he := by
    rw [pushTx_eq] at he
    rcases BTreeMap.mem_insert he with rfl | he
    · -- the deque of the fee, with the transaction at its back
      intro tx' htx'
      rcases List.mem_append.mp htx' with htx' | htx'
      · cases hget : map.get tx.prioritizationFee with
        | none => simp [hget] at htx'
        | some entry =>
          rw [hget, Option.getD_some] at htx'
          exact h.fee_of_get hget tx' htx'
      · rw [List.mem_singleton.mp htx']
    · exact h.entry_fee e he
  nodup := by
    rw [((contents_pushTx tx).map _).nodup_iff, List.map_append]
    exact List.nodup_append.mpr ⟨h.nodup, List.nodup_singleton _,
      fun a ha b hb hab => hnew (by
        simp only [List.map_cons, List.map_nil, List.mem_singleton] at hb
        rw [← hb, ← hab]
        exact ha)⟩

theorem MapWf.popFront (h : MapWf map) {key : Nat} {entry : List SentTransactionInfo}
    (hget : map.get key = some entry) {element : SentTransactionInfo}
    {map' : BTreeMap Nat (List SentTransactionInfo)}
    (hp : popFront map key entry = .ok (element, map')) : MapWf map' := by
  have hperm := contents_popFront hget hp
  cases entry with
  | nil => cases hp
  | cons first rest =>
    simp only [PrioritizationFeesHeap.popFront, Except.ok.injEq, Prod.mk.injEq] at hp
    obtain ⟨-, hmap⟩ := hp
    have hnodup : ((contents map').map (·.signature)).Nodup :=
      (List.nodup_cons.mp ((hperm.map _).nodup_iff.mp h.nodup)).2
    subst hmap
    split_ifs with hrest
    · exact ⟨fun e he => h.entry_ne_nil e (BTreeMap.mem_remove.mp he).1,
        fun e he => h.entry_fee e (BTreeMap.mem_remove.mp he).1, by simpa [hrest] using hnodup⟩
    · refine ⟨?_, ?_, by simpa [hrest] using hnodup⟩
      · intro e he
        rcases BTreeMap.mem_insert he with rfl | he
        · simpa using hrest
        · exact h.entry_ne_nil e he
      · intro e he
        rcases BTreeMap.mem_insert he with rfl | he
        · exact fun tx htx => h.fee_of_get hget tx (List.mem_cons_of_mem _ htx)
        · exact h.entry_fee e he

theorem signatures_pushTx (tx : SentTransactionInfo) :
    ((contents (pushTx map tx)).map (·.signature)).toFinset =
      Insert.insert tx.signature ((contents map).map (·.signature)).toFinset := by
  rw [List.toFinset_eq_of_perm _ _ ((contents_pushTx tx).map _), List.map_append,
    List.toFinset_append, Finset.insert_eq, Finset.union_comm]
  rfl

theorem MapWf.signatures_popFront (h : MapWf map) {key : Nat} {entry : List SentTransactionInfo}
    (hget : map.get key = some entry) {element : SentTransactionInfo}
    {map' : BTreeMap Nat (List SentTransactionInfo)}
    (hp : PrioritizationFeesHeap.popFront map key entry = .ok (element, map')) :
    ((contents map').map (·.signature)).toFinset =
      ((contents map).map (·.signature)).toFinset.erase element.signature := by
  have hperm := (contents_popFront hget hp).map (·.signature)
  have hnodup := hperm.nodup_iff.mp h.nodup
  rw [List.toFinset_eq_of_perm _ _ hperm, List.map_cons, List.toFinset_cons, Finset.erase_insert]
  exact fun hmem => (List.nodup_cons.mp hnodup).1 (List.mem_toFinset.mp hmem)

theorem MapWf.firstKey_le (h : MapWf map) {key : Nat} {entry : List SentTransactionInfo}
    (hq : map.firstKeyValue = some (key, entry)) : ∀ tx ∈ contents map, key ≤ tx.prioritizationFee := by
  intro tx htx
  obtain ⟨e, he, htx⟩ := mem_contents.mp htx
  rw [h.entry_fee e he tx htx]
  exact BTreeMap.firstKeyValue_le hq he

theorem MapWf.get_fee (h : MapWf map) {tx : SentTransactionInfo} (htx : tx ∈ contents map) :
    ∃ entry, map.get tx.prioritizationFee = some entry ∧ tx ∈ entry := by
  obtain ⟨e, he, htx⟩ := mem_contents.mp htx
  rw [h.entry_fee e he tx htx]
  exact ⟨e.2, BTreeMap.get_eq_some_iff.mpr he, htx⟩

theorem MapWf.le_lastKey (h : MapWf map) {key : Nat} {entry : List SentTransactionInfo}
    (hq : map.lastKeyValue = some (key, entry)) : ∀ tx ∈ contents map, tx.prioritizationFee ≤ key := by
  intro tx htx
  obtain ⟨e, he, htx⟩ := mem_contents.mp htx
  rw [h.entry_fee e he tx htx]
  exact BTreeMap.le_of_lastKeyValue hq he

end MapWf

section Wf

variable {self : PrioritizationFeesHeap}

theorem wf_new (maxNumberOfTransactions : Nat) : Wf (new maxNumberOfTransactions) where
  map_wf := mapWf_empty
  signatures_eq := rfl
  card_le := Nat.zero_le _

theorem Wf.card_eq (h : Wf self) : self.map.signatures.card = (contents self.map.map).length := by
  rw [h.signatures_eq, List.toFinset_card_of_nodup h.map_wf.nodup, List.length_map]

theorem Wf.mem_signatures (h : Wf self) {signature : Signature} :
    signature ∈ self.map.signatures ↔ ∃ tx ∈ contents self.map.map, tx.signature = signature := by
  rw [h.signatures_eq]
  simp

theorem Wf.not_mem_contents (h : Wf self) {signature : Signature}
    (hsig : signature ∉ self.map.signatures) :
    signature ∉ (contents self.map.map).map (·.signature) := by
  rw [h.signatures_eq] at hsig
  exact fun hmem => hsig (List.mem_toFinset.mpr hmem)

theorem Wf.exists_firstKeyValue (h : Wf self) (hpos : 0 < self.map.signatures.card) :
    ∃ key tx rest, self.map.map.firstKeyValue = some (key, tx :: rest) := by
  have hne : self.map.map.entries ≠ [] := by
    intro hnil
    rw [h.card_eq, contents, hnil] at hpos
    simp at hpos
  obtain ⟨⟨key, entry⟩, hq⟩ := BTreeMap.firstKeyValue_isSome hne
  obtain ⟨tx, rest, rfl⟩ := List.exists_cons_of_ne_nil
    (h.map_wf.entry_ne_nil _ (BTreeMap.firstKeyValue_mem hq))
  exact ⟨key, tx, rest, hq⟩

theorem pop_of_lastKeyValue {key : Nat} {tx : SentTransactionInfo} {rest : List SentTransactionInfo}
    (hq : self.map.map.lastKeyValue = some (key, tx :: rest)) :
    self.pop = .ok (some tx, { self with map :=
      ⟨if rest.isEmpty then self.map.map.remove key else self.map.map.insert key rest,
        self.map.signatures.erase tx.signature⟩ }) := by
  simp only [pop, hq, popFront]
  rfl

theorem pop_of_lastKeyValue_none (hq : self.map.map.lastKeyValue = none) :
    self.pop = .ok (none, self) := by
  simp only [pop, hq]

theorem Wf.pop_cases (h : Wf self) :
    (self.map.map.lastKeyValue = none ∧ self.pop = .ok (none, self)) ∨
      ∃ key tx rest, self.map.map.lastKeyValue = some (key, tx :: rest) ∧
        self.pop = .ok (some tx, { self with map :=
          ⟨if rest.isEmpty then self.map.map.remove key else self.map.map.insert key rest,
            self.map.signatures.erase tx.signature⟩ }) := by
  cases hq : self.map.map.lastKeyValue with
  | none => exact .inl ⟨rfl, pop_of_lastKeyValue_none hq⟩
  | some q =>
    obtain ⟨key, entry⟩ := q
    obtain ⟨tx, rest, rfl⟩ := List.exists_cons_of_ne_nil
      (h.map_wf.entry_ne_nil _ (BTreeMap.lastKeyValue_mem hq))
    exact .inr ⟨key, tx, rest, rfl, pop_of_lastKeyValue hq⟩

/-- The four outcomes of `insert` on a well-formed heap of positive capacity. -/
inductive InsertStep (self : PrioritizationFeesHeap) (tx : SentTransactionInfo) :
    PrioritizationFeesHeap → Prop
  /-- The signature is held already. -/
  | duplicate (hsig : tx.signature ∈ self.map.signatures) : InsertStep self tx self
  /-- The heap is full and its lowest fee is not below the newcomer's. -/
  | rejected (hsig : tx.signature ∉ self.map.signatures)
      (hfull : self.maxNumberOfTransactions ≤ self.map.signatures.card) {key : Nat}
      {entry : List SentTransactionInfo} (hq : self.map.map.firstKeyValue = some (key, entry))
      (hfee : tx.prioritizationFee ≤ key) : InsertStep self tx self
  /-- There is room: the transaction is stored. -/
  | pushed (hsig : tx.signature ∉ self.map.signatures)
      (hroom : self.map.signatures.card < self.maxNumberOfTransactions) :
      InsertStep self tx
        { self with map := ⟨pushTx self.map.map tx, Insert.insert tx.signature self.map.signatures⟩ }
  /-- The heap is full and the newcomer pays more than the lowest fee: it is stored and the
  front of the deque of the lowest fee is dropped. -/
  | evicted (hsig : tx.signature ∉ self.map.signatures)
      (hfull : self.maxNumberOfTransactions ≤ self.map.signatures.card) {key : Nat}
      {evictee : SentTransactionInfo} {rest : List SentTransactionInfo}
      (hq : self.map.map.firstKeyValue = some (key, evictee :: rest))
      (hfee : key < tx.prioritizationFee) :
      InsertStep self tx
        { self with map :=
          ⟨if rest.isEmpty then (pushTx self.map.map tx).remove key
            else (pushTx self.map.map tx).insert key rest,
            (Insert.insert tx.signature self.map.signatures).erase evictee.signature⟩ }

theorem Wf.insert_step (h : Wf self) (hm : 0 < self.maxNumberOfTransactions)
    (tx : SentTransactionInfo) : ∃ s', self.insert tx = .ok s' ∧ InsertStep self tx s' := by
  by_cases hsig : tx.signature ∈ self.map.signatures
  · exact ⟨self, by simp [insert, hsig], .duplicate hsig⟩
  have hcard := h.card_le
  have hinsert := Finset.card_insert_of_notMem hsig
  by_cases hfull : self.maxNumberOfTransactions ≤ self.map.signatures.card
  · -- a full heap of positive capacity has a lowest deque, and it is not empty
    obtain ⟨key, evictee, rest, hq⟩ := h.exists_firstKeyValue (by omega)
    by_cases hfee : tx.prioritizationFee ≤ key
    · exact ⟨self, by simp [insert, hsig, hfull, firstKey, hq, hfee, bind, Except.bind, pure,
      Except.pure], .rejected hsig hfull hq hfee⟩
    · refine ⟨_, ?_, .evicted hsig hfull hq (by omega)⟩
      have hq' := firstKeyValue_pushTx_of_lt hq (show key < tx.prioritizationFee by omega)
      have hover : self.maxNumberOfTransactions < self.map.signatures.card + 1 := by omega
      simp [insert, hsig, hfull, firstKey, hq, hfee, pushAndEvict, hover, hq', popFront, bind,
        Except.bind, pure, Except.pure]
  · have hunder : ¬self.maxNumberOfTransactions < self.map.signatures.card + 1 := by omega
    exact ⟨_, by simp [insert, hsig, hfull, pushAndEvict, hunder], .pushed hsig (by omega)⟩

theorem Wf.popFront (h : Wf self) {key : Nat} {entry : List SentTransactionInfo}
    (hget : self.map.map.get key = some entry) {element : SentTransactionInfo}
    {map' : BTreeMap Nat (List SentTransactionInfo)}
    (hp : PrioritizationFeesHeap.popFront self.map.map key entry = .ok (element, map')) :
    Wf { self with map := ⟨map', self.map.signatures.erase element.signature⟩ } where
  map_wf := h.map_wf.popFront hget hp
  signatures_eq := by
    dsimp only
    rw [h.map_wf.signatures_popFront hget hp, h.signatures_eq]
  card_le := Finset.card_erase_le.trans h.card_le

theorem InsertStep.maxNumberOfTransactions {tx : SentTransactionInfo} {s' : PrioritizationFeesHeap}
    (hs : InsertStep self tx s') : s'.maxNumberOfTransactions = self.maxNumberOfTransactions := by
  cases hs <;> rfl

theorem get_pushTx_of_firstKeyValue {tx : SentTransactionInfo} {key : Nat}
    {entry : List SentTransactionInfo} (hq : self.map.map.firstKeyValue = some (key, entry))
    (hfee : key < tx.prioritizationFee) : (pushTx self.map.map tx).get key = some entry :=
  BTreeMap.get_eq_some_iff.mpr (BTreeMap.firstKeyValue_mem (firstKeyValue_pushTx_of_lt hq hfee))

theorem InsertStep.mem_contents {tx : SentTransactionInfo} {s' : PrioritizationFeesHeap}
    (hs : InsertStep self tx s') {t : SentTransactionInfo} (ht : t ∈ contents s'.map.map) :
    t ∈ contents self.map.map ∨ t = tx := by
  have hpush : t ∈ contents (pushTx self.map.map tx) → t ∈ contents self.map.map ∨ t = tx :=
    fun hpushed => by simpa using (contents_pushTx tx).mem_iff.mp hpushed
  cases hs with
  | duplicate => exact .inl ht
  | rejected => exact .inl ht
  | pushed => exact hpush ht
  | evicted hsig hfull hq hfee =>
    exact hpush ((contents_popFront (get_pushTx_of_firstKeyValue hq hfee) rfl).mem_iff.mpr
      (List.mem_cons_of_mem _ ht))

theorem InsertStep.subperm {tx : SentTransactionInfo} {s' : PrioritizationFeesHeap}
    (hs : InsertStep self tx s') : (contents s'.map.map).Subperm (tx :: contents self.map.map) := by
  have hpush : (contents (pushTx self.map.map tx)).Subperm (tx :: contents self.map.map) :=
    ((contents_pushTx tx).trans (List.perm_append_singleton tx _)).subperm
  cases hs with
  | duplicate => exact List.subperm_cons_self
  | rejected => exact List.subperm_cons_self
  | pushed => exact hpush
  | evicted hsig hfull hq hfee =>
    have hpop := contents_popFront (get_pushTx_of_firstKeyValue hq hfee) rfl
    exact (List.subperm_cons_self.trans hpop.symm.subperm).trans hpush

theorem InsertStep.card_signatures (h : Wf self) {tx : SentTransactionInfo}
    {s' : PrioritizationFeesHeap} (hs : InsertStep self tx s') :
    s'.map.signatures.card = if tx.signature ∈ self.map.signatures then self.map.signatures.card
      else min (self.map.signatures.card + 1) self.maxNumberOfTransactions := by
  have hcard := h.card_le
  cases hs with
  | duplicate hsig => rw [if_pos hsig]
  | rejected hsig hfull => rw [if_neg hsig]; omega
  | pushed hsig hroom =>
    rw [if_neg hsig]
    dsimp only
    rw [Finset.card_insert_of_notMem hsig]
    omega
  | @evicted hsig hfull key evictee rest hq hfee =>
    have hmem : evictee.signature ∈ Insert.insert tx.signature self.map.signatures := by
      rw [h.signatures_eq, ← signatures_pushTx]
      exact List.mem_toFinset.mpr (List.mem_map_of_mem (PrioritizationFeesHeap.mem_contents.mpr
        ⟨_, BTreeMap.get_eq_some_iff.mp (get_pushTx_of_firstKeyValue hq hfee), List.mem_cons_self⟩))
    rw [if_neg hsig]
    dsimp only
    rw [Finset.card_erase_of_mem hmem, Finset.card_insert_of_notMem hsig]
    omega

theorem InsertStep.wf (h : Wf self) {tx : SentTransactionInfo} {s' : PrioritizationFeesHeap}
    (hs : InsertStep self tx s') : Wf s' := by
  have hcard : s'.map.signatures.card ≤ s'.maxNumberOfTransactions := by
    rw [hs.card_signatures h, hs.maxNumberOfTransactions]
    split_ifs
    · exact h.card_le
    · exact min_le_right _ _
  cases hs with
  | duplicate => exact h
  | rejected => exact h
  | pushed hsig hroom =>
    refine ⟨h.map_wf.pushTx (h.not_mem_contents hsig), ?_, hcard⟩
    dsimp only
    rw [signatures_pushTx, ← h.signatures_eq]
  | @evicted hsig hfull key evictee rest hq hfee =>
    have hwf := h.map_wf.pushTx (h.not_mem_contents hsig)
    have hget := get_pushTx_of_firstKeyValue hq hfee
    have hp : PrioritizationFeesHeap.popFront (pushTx self.map.map tx) key (evictee :: rest) =
        .ok (evictee, _) := rfl
    refine ⟨hwf.popFront hget hp, ?_, hcard⟩
    dsimp only
    rw [hwf.signatures_popFront hget hp, signatures_pushTx, ← h.signatures_eq]

end Wf

/-- Every deque holds its transactions in the order they were inserted. -/
def Ordered (map : BTreeMap Nat (List SentTransactionInfo)) (inserted : List SentTransactionInfo) :
    Prop :=
  ∀ e ∈ map.entries, e.2.Sublist inserted

section Ordered

variable {map : BTreeMap Nat (List SentTransactionInfo)} {inserted : List SentTransactionInfo}

theorem ordered_empty (inserted : List SentTransactionInfo) :
    Ordered (BTreeMap.empty : BTreeMap Nat (List SentTransactionInfo)) inserted :=
  fun _ h => by cases h

theorem Ordered.mono (h : Ordered map inserted) {inserted' : List SentTransactionInfo}
    (hsub : inserted.Sublist inserted') : Ordered map inserted' :=
  fun e he => (h e he).trans hsub

theorem Ordered.pushTx (h : Ordered map inserted) (tx : SentTransactionInfo) :
    Ordered (pushTx map tx) (inserted ++ [tx]) := by
  intro e he
  rw [pushTx_eq] at he
  rcases BTreeMap.mem_insert he with rfl | he
  · refine List.Sublist.append ?_ (List.Sublist.refl _)
    cases hget : map.get tx.prioritizationFee with
    | none => simp
    | some entry => exact h _ (BTreeMap.get_eq_some_iff.mp hget)
  · exact (h e he).trans (List.sublist_append_left _ _)

theorem Ordered.popFront (h : Ordered map inserted) {key : Nat} {entry : List SentTransactionInfo}
    (hget : map.get key = some entry) {element : SentTransactionInfo}
    {map' : BTreeMap Nat (List SentTransactionInfo)}
    (hp : PrioritizationFeesHeap.popFront map key entry = .ok (element, map')) :
    Ordered map' inserted := by
  cases entry with
  | nil => cases hp
  | cons first rest =>
    simp only [PrioritizationFeesHeap.popFront, Except.ok.injEq, Prod.mk.injEq] at hp
    obtain ⟨-, rfl⟩ := hp
    intro e he
    split_ifs at he
    · exact h e (BTreeMap.mem_remove.mp he).1
    · rcases BTreeMap.mem_insert he with rfl | he
      · exact (List.sublist_cons_self first rest).trans (h _ (BTreeMap.get_eq_some_iff.mp hget))
      · exact h e he

theorem InsertStep.ordered {self : PrioritizationFeesHeap} {tx : SentTransactionInfo}
    {s' : PrioritizationFeesHeap} (hs : InsertStep self tx s') (h : Ordered self.map.map inserted) :
    Ordered s'.map.map (inserted ++ [tx]) := by
  cases hs with
  | duplicate => exact h.mono (List.sublist_append_left _ _)
  | rejected => exact h.mono (List.sublist_append_left _ _)
  | pushed => exact h.pushTx tx
  | evicted hsig hfull hq hfee =>
    exact (h.pushTx tx).popFront (get_pushTx_of_firstKeyValue hq hfee) rfl

end Ordered

/-- What `pop` is for: nothing from an empty heap, which it leaves as it is; otherwise a
transaction of the greatest fee held, inserted before every other of that fee, taken out with
nothing else. -/
def PopSpec (self : PrioritizationFeesHeap) (inserted : List SentTransactionInfo) :
    Option SentTransactionInfo × PrioritizationFeesHeap → Prop
  | (none, s') => contents self.map.map = [] ∧ s' = self
  | (some tx, s') => (contents self.map.map).Perm (tx :: contents s'.map.map) ∧
      (∀ t ∈ contents self.map.map, t.prioritizationFee ≤ tx.prioritizationFee) ∧
      ∀ t ∈ contents s'.map.map, t.prioritizationFee = tx.prioritizationFee →
        [tx, t].Sublist inserted

section Pop

variable {self : PrioritizationFeesHeap} {inserted : List SentTransactionInfo}

theorem mem_rest_of_popFront {map : BTreeMap Nat (List SentTransactionInfo)} (h : MapWf map)
    {key : Nat} {first : SentTransactionInfo} {rest : List SentTransactionInfo}
    (hget : map.get key = some (first :: rest)) {map' : BTreeMap Nat (List SentTransactionInfo)}
    (hp : PrioritizationFeesHeap.popFront map key (first :: rest) = .ok (first, map'))
    {t : SentTransactionInfo} (ht : t ∈ contents map') (hfee : t.prioritizationFee = key) :
    t ∈ rest := by
  obtain ⟨entry, hget', ht'⟩ := (h.popFront hget hp).get_fee ht
  simp only [PrioritizationFeesHeap.popFront, Except.ok.injEq, Prod.mk.injEq, true_and] at hp
  subst hp
  rw [hfee] at hget'
  split_ifs at hget'
  · simp [BTreeMap.get_remove] at hget'
  · rw [BTreeMap.get_insert, if_pos rfl, Option.some.injEq] at hget'
    rwa [hget']

theorem Wf.pop_spec (h : Wf self) (ho : Ordered self.map.map inserted) :
    ∃ r, self.pop = .ok r ∧ PopSpec self inserted r ∧ Wf r.2 ∧ Ordered r.2.map.map inserted := by
  rcases h.pop_cases with ⟨hq, hpop⟩ | ⟨key, tx, rest, hq, hpop⟩
  · -- no greatest fee: no deque at all
    have hnil : self.map.map.entries = [] := List.getLast?_eq_none_iff.mp hq
    exact ⟨_, hpop, ⟨by rw [contents, hnil]; rfl, rfl⟩, h, ho⟩
  · have hmem := BTreeMap.lastKeyValue_mem hq
    have hget := BTreeMap.get_eq_some_iff.mpr hmem
    have hp : PrioritizationFeesHeap.popFront self.map.map key (tx :: rest) = .ok (tx, _) := rfl
    have htx : tx.prioritizationFee = key := h.map_wf.fee_of_get hget tx List.mem_cons_self
    refine ⟨_, hpop, ⟨contents_popFront hget hp, ?_, ?_⟩, h.popFront hget hp, ho.popFront hget hp⟩
    · rw [htx]
      exact h.map_wf.le_lastKey hq
    · intro t ht hfee
      have hrest := mem_rest_of_popFront h.map_wf hget hp ht (hfee.trans htx)
      exact (List.Sublist.cons_cons tx (List.singleton_sublist.mpr hrest)).trans (ho _ hmem)

theorem Wf.pop_step (h : Wf self) : ∃ r, self.pop = .ok r ∧ Wf r.2 ∧
    r.2.maxNumberOfTransactions = self.maxNumberOfTransactions ∧
    (contents self.map.map).Perm (r.1.toList ++ contents r.2.map.map) ∧
    (r.1 = none → contents r.2.map.map = []) := by
  rcases h.pop_cases with ⟨hq, hpop⟩ | ⟨key, tx, rest, hq, hpop⟩
  · have hnil : self.map.map.entries = [] := List.getLast?_eq_none_iff.mp hq
    exact ⟨_, hpop, h, rfl, List.Perm.refl _, fun _ => by rw [contents, hnil]; rfl⟩
  · have hget := BTreeMap.get_eq_some_iff.mpr (BTreeMap.lastKeyValue_mem hq)
    have hp : PrioritizationFeesHeap.popFront self.map.map key (tx :: rest) = .ok (tx, _) := rfl
    exact ⟨_, hpop, h.popFront hget hp, rfl, contents_popFront hget hp, fun hnone => by cases hnone⟩

end Pop

theorem flatMap_filter_ne_nil (l : List (Nat × List SentTransactionInfo)) :
    (l.filter fun e => !e.2.isEmpty).flatMap (·.2) = l.flatMap (·.2) := by
  induction l with
  | nil => rfl
  | cons e l ih =>
    obtain ⟨k, v⟩ := e
    cases v <;> simp [ih]

section RemoveExpired

variable (self : PrioritizationFeesHeap) (currentBlockheight : Nat)

theorem entries_removeExpiredTransactions :
    (self.removeExpiredTransactions currentBlockheight).2.map.map.entries =
      (self.map.map.entries.map fun e =>
        (e.1, e.2.filter fun x => x.lastValidBlockHeight > currentBlockheight)).filter
        fun e => !e.2.isEmpty := by
  simp only [removeExpiredTransactions]
  rw [BTreeMap.entries_foldl_remove_keys_filter, BTreeMap.entries_mapValues]

theorem contents_removeExpiredTransactions :
    contents (self.removeExpiredTransactions currentBlockheight).2.map.map =
      (contents self.map.map).filter fun x => x.lastValidBlockHeight > currentBlockheight := by
  rw [contents, entries_removeExpiredTransactions, flatMap_filter_ne_nil, List.flatMap_map,
    contents, List.filter_flatMap]

theorem flatMap_expired_signatures (retain : SentTransactionInfo → Bool) :
    (self.map.map.entries.flatMap fun e => (e.2.filter fun x => !retain x).map (·.signature)) =
      ((contents self.map.map).filter fun x => !retain x).map (·.signature) := by
  rw [contents, List.filter_flatMap, List.map_flatMap]

theorem removeExpiredTransactions_fst :
    (self.removeExpiredTransactions currentBlockheight).1 =
      ((contents self.map.map).filter fun x => x.lastValidBlockHeight ≤ currentBlockheight).length := by
  simp only [removeExpiredTransactions]
  rw [flatMap_expired_signatures, List.length_map]
  congr 1
  refine List.filter_congr fun x _ => ?_
  simp only [← decide_not, gt_iff_lt, Nat.not_lt]

variable {self}

theorem Wf.removeExpiredTransactions (h : Wf self) :
    Wf (self.removeExpiredTransactions currentBlockheight).2 := by
  have hnodup : ((contents (self.removeExpiredTransactions currentBlockheight).2.map.map).map
      (·.signature)).Nodup := by
    rw [contents_removeExpiredTransactions]
    exact h.map_wf.nodup.sublist (List.filter_sublist.map _)
  have hsigs : (self.removeExpiredTransactions currentBlockheight).2.map.signatures =
      self.map.signatures \ _ := List.foldl_erase_eq_sdiff _ _
  refine ⟨⟨?_, ?_, hnodup⟩, ?_, ?_⟩
  · intro e he
    rw [entries_removeExpiredTransactions, List.mem_filter] at he
    simpa using he.2
  · intro e he tx htx
    rw [entries_removeExpiredTransactions, List.mem_filter, List.mem_map] at he
    obtain ⟨⟨e₀, he₀, rfl⟩, -⟩ := he
    exact h.map_wf.entry_fee e₀ he₀ tx (List.mem_filter.mp htx).1
  · -- the expired signatures occur once, so the erasures leave the valid ones
    rw [hsigs, flatMap_expired_signatures, h.signatures_eq,
      List.toFinset_map_sdiff_filter h.map_wf.nodup, contents_removeExpiredTransactions]
  · rw [hsigs]
    exact (Finset.card_le_card Finset.sdiff_subset).trans h.card_le

theorem Ordered.removeExpiredTransactions {inserted : List SentTransactionInfo}
    (h : Ordered self.map.map inserted) :
    Ordered (self.removeExpiredTransactions currentBlockheight).2.map.map inserted := by
  intro e he
  rw [entries_removeExpiredTransactions, List.mem_filter, List.mem_map] at he
  obtain ⟨⟨e₀, he₀, rfl⟩, -⟩ := he
  exact List.filter_sublist.trans (h e₀ he₀)

end RemoveExpired

theorem wf_clear (self : PrioritizationFeesHeap) : Wf self.clear.2 where
  map_wf := mapWf_empty
  signatures_eq := rfl
  card_le := by simp [PrioritizationFeesHeap.clear]

theorem pop_maxNumberOfTransactions {self : PrioritizationFeesHeap}
    {r : Option SentTransactionInfo × PrioritizationFeesHeap} (hpop : self.pop = .ok r) :
    r.2.maxNumberOfTransactions = self.maxNumberOfTransactions := by
  simp only [pop] at hpop
  split at hpop
  · rename_i key entry _
    cases entry with
    | nil => cases hpop
    | cons tx rest =>
      simp only [popFront, bind, Except.bind, pure, Except.pure, Except.ok.injEq] at hpop
      rw [← hpop]
  · rw [← Except.ok.inj hpop]

/-- The calls made on the heap. -/
inductive HeapOp where
  | insert (tx : SentTransactionInfo)
  | pop
  | removeExpiredTransactions (currentBlockheight : Nat)
  | clear

/-- One call, and the heap it leaves; a panic is the error. -/
def step (self : PrioritizationFeesHeap) : HeapOp → Except String PrioritizationFeesHeap
  | .insert tx => self.insert tx
  | .pop => do
    let (_, heap) ← self.pop
    pure heap
  | .removeExpiredTransactions currentBlockheight =>
    .ok (self.removeExpiredTransactions currentBlockheight).2
  | .clear => .ok self.clear.2

/-- The transactions passed to `insert`, in the order of the calls. -/
def insertedTxs (ops : List HeapOp) : List SentTransactionInfo :=
  ops.filterMap fun
    | .insert tx => some tx
    | _ => none

/-- The invariant of the runs from `new m`: well formed, of capacity `m`, and each deque in the
order of the insertions made so far. -/
structure RunInv (m : Nat) (heap : PrioritizationFeesHeap) (done : List HeapOp) : Prop where
  wf : Wf heap
  capacity : heap.maxNumberOfTransactions = m
  ordered : Ordered heap.map.map (insertedTxs done)

theorem runInv_new (m : Nat) : RunInv m (new m) [] :=
  ⟨wf_new m, rfl, ordered_empty _⟩

theorem RunInv.step {m : Nat} (hm : 1 ≤ m) {self : PrioritizationFeesHeap} {done : List HeapOp}
    (h : RunInv m self done) (op : HeapOp) :
    ∃ s', PrioritizationFeesHeap.step self op = .ok s' ∧ RunInv m s' (done ++ [op]) := by
  cases op with
  | insert tx =>
    obtain ⟨s', hins, hs⟩ := h.wf.insert_step (by rw [h.capacity]; omega) tx
    exact ⟨s', hins, hs.wf h.wf, by rw [hs.maxNumberOfTransactions, h.capacity],
      by simpa [insertedTxs] using hs.ordered h.ordered⟩
  | pop =>
    obtain ⟨r, hpop, -, hwf, hord⟩ := h.wf.pop_spec h.ordered
    refine ⟨r.2, by simp [PrioritizationFeesHeap.step, hpop, bind, Except.bind, pure, Except.pure],
      hwf, ?_, by simpa [insertedTxs] using hord⟩
    rw [pop_maxNumberOfTransactions hpop, h.capacity]
  | removeExpiredTransactions currentBlockheight =>
    exact ⟨_, rfl, h.wf.removeExpiredTransactions currentBlockheight, h.capacity,
      by simpa [insertedTxs] using h.ordered.removeExpiredTransactions currentBlockheight⟩
  | clear => exact ⟨_, rfl, wf_clear self, h.capacity, ordered_empty _⟩

/-- What a heap reached by a run guarantees to its callers, for the transactions inserted so
far. -/
structure Guarantees (heap : PrioritizationFeesHeap) (inserted : List SentTransactionInfo) : Prop where
  wf : Wf heap
  insert_ok : ∀ tx, ∃ heap', heap.insert tx = .ok heap'
  pop_ok : ∃ r, heap.pop = .ok r ∧ PopSpec heap inserted r
  removeExpiredTransactions_spec : ∀ currentBlockheight,
    (heap.removeExpiredTransactions currentBlockheight).1 =
        ((contents heap.map.map).filter fun x => x.lastValidBlockHeight ≤ currentBlockheight).length ∧
      contents (heap.removeExpiredTransactions currentBlockheight).2.map.map =
        (contents heap.map.map).filter fun x => x.lastValidBlockHeight > currentBlockheight

theorem RunInv.guarantees {m : Nat} (hm : 1 ≤ m) {self : PrioritizationFeesHeap}
    {done : List HeapOp} (h : RunInv m self done) : Guarantees self (insertedTxs done) where
  wf := h.wf
  insert_ok tx := by
    obtain ⟨s', hins, -⟩ := h.wf.insert_step (by rw [h.capacity]; omega) tx
    exact ⟨s', hins⟩
  pop_ok := by
    obtain ⟨r, hpop, hspec, -⟩ := h.wf.pop_spec h.ordered
    exact ⟨r, hpop, hspec⟩
  removeExpiredTransactions_spec currentBlockheight :=
    ⟨removeExpiredTransactions_fst self currentBlockheight,
      contents_removeExpiredTransactions self currentBlockheight⟩

/-- Any run of `insert`, `pop`, `remove_expired_transactions` and `clear` from a new heap of
positive capacity runs without a panic and reaches a heap of that capacity with its guarantees. -/
theorem run_guarantees (m : Nat) (hm : 1 ≤ m) (ops : List HeapOp) :
    ∃ s, ops.foldlM PrioritizationFeesHeap.step (new m) = .ok s ∧ s.maxNumberOfTransactions = m ∧
      Guarantees s (insertedTxs ops) := by
  obtain ⟨s, hrun, hs⟩ := StepSystem.foldlM_ok_of_invariant PrioritizationFeesHeap.step (RunInv m)
    (fun _ _ op h => h.step hm op) (runInv_new m) ops
  rw [List.nil_append] at hs
  exact ⟨s, hrun, hs.capacity, hs.guarantees hm⟩

theorem run_guarantees_two_inserts_pop :
    1 ≤ 2 ∧ ∃ s, [HeapOp.insert ⟨⟨1⟩, 0, [], 10, 5⟩, .insert ⟨⟨2⟩, 0, [], 10, 7⟩, .pop].foldlM
      PrioritizationFeesHeap.step (new 2) = .ok s ∧ s.maxNumberOfTransactions = 2 ∧
      contents s.map.map = [⟨⟨1⟩, 0, [], 10, 5⟩] ∧
      Guarantees s (insertedTxs [.insert ⟨⟨1⟩, 0, [], 10, 5⟩, .insert ⟨⟨2⟩, 0, [], 10, 7⟩, .pop]) := by
  obtain ⟨s, hrun, hcap, hs⟩ := run_guarantees 2 (by decide)
    [.insert ⟨⟨1⟩, 0, [], 10, 5⟩, .insert ⟨⟨2⟩, 0, [], 10, 7⟩, .pop]
  have hcontents : ([HeapOp.insert ⟨⟨1⟩, 0, [], 10, 5⟩, .insert ⟨⟨2⟩, 0, [], 10, 7⟩, .pop].foldlM
      PrioritizationFeesHeap.step (new 2)).map (fun s => contents s.map.map) =
      .ok [⟨⟨1⟩, 0, [], 10, 5⟩] := by
    decide
  rw [hrun] at hcontents
  exact ⟨by decide, s, hrun, hcap, Except.ok.inj hcontents, hs⟩

end PrioritizationFeesHeap

end LiteRpc
