import LiteRpc.PrioritizationFeeHeap

/-!
Which transactions a `PrioritizationFeesHeap` keeps when it is fed by `insert` alone. Until it is
full it stores every new signature; from then on a newcomer enters only by paying more than the
lowest fee held, and the one dropped for it pays that lowest fee, so the lowest fee held never
goes down. The heap knows a transaction by its signature: the argument needs the transactions
inserted under one signature to carry one fee.
-/

namespace LiteRpc

namespace PrioritizationFeesHeap

theorem toFinset_signatures_append (done : List SentTransactionInfo) (tx : SentTransactionInfo) :
    ((done ++ [tx]).map (·.signature)).toFinset =
      Insert.insert tx.signature (done.map (·.signature)).toFinset := by
  rw [List.map_append, List.toFinset_append, Finset.insert_eq, Finset.union_comm]
  rfl

/-- The invariant of runs of `insert` from `new m`: well formed, of capacity `m`, holding only
transactions inserted, as many as the capacity allows of the signatures inserted, and each
inserted transaction whose signature is gone paying no more than any held. -/
structure KeepsTop (m : Nat) (heap : PrioritizationFeesHeap) (done : List SentTransactionInfo) :
    Prop where
  wf : Wf heap
  capacity : heap.maxNumberOfTransactions = m
  held : ∀ t ∈ contents heap.map.map, t ∈ done
  card_eq : heap.map.signatures.card = min m (done.map (·.signature)).toFinset.card
  dropped : ∀ x ∈ done, x.signature ∉ heap.map.signatures →
    ∀ t ∈ contents heap.map.map, x.prioritizationFee ≤ t.prioritizationFee

section KeepsTop

variable {m : Nat} {self : PrioritizationFeesHeap} {done : List SentTransactionInfo}

theorem keepsTop_new (m : Nat) : KeepsTop m (new m) [] where
  wf := wf_new m
  capacity := rfl
  held := by simp [new]
  card_eq := by simp [new]
  dropped := by simp

theorem KeepsTop.signatures_subset (h : KeepsTop m self done) :
    self.map.signatures ⊆ (done.map (·.signature)).toFinset := by
  intro signature hsig
  obtain ⟨t, ht, rfl⟩ := h.wf.mem_signatures.mp hsig
  exact List.mem_toFinset.mpr (List.mem_map_of_mem (h.held t ht))

theorem KeepsTop.signatures_eq_of_lt (h : KeepsTop m self done) (hlt : self.map.signatures.card < m) :
    self.map.signatures = (done.map (·.signature)).toFinset := by
  have hcard := h.card_eq
  apply Finset.eq_of_subset_of_card_le h.signatures_subset
  omega

theorem KeepsTop.card_step (h : KeepsTop m self done) {tx : SentTransactionInfo}
    {s' : PrioritizationFeesHeap} (hs : InsertStep self tx s') :
    s'.map.signatures.card = min m ((done ++ [tx]).map (·.signature)).toFinset.card := by
  have hcard := h.card_eq
  have hle := h.wf.card_le
  rw [hs.card_signatures h.wf, toFinset_signatures_append, h.capacity]
  rw [h.capacity] at hle
  split_ifs with hsig
  · rw [Finset.insert_eq_of_mem (h.signatures_subset hsig), hcard]
  · by_cases hfull : m ≤ self.map.signatures.card
    · -- full: the count stays at the capacity
      have hgrow := Finset.card_le_card (Finset.subset_insert tx.signature
        (done.map (·.signature)).toFinset)
      omega
    · -- not full: every inserted signature is held, so the newcomer's is new
      have heq := h.signatures_eq_of_lt (by omega)
      rw [← heq, Finset.card_insert_of_notMem hsig]
      omega

theorem KeepsTop.dropped_step (h : KeepsTop m self done) {tx : SentTransactionInfo}
    {s' : PrioritizationFeesHeap} (hs : InsertStep self tx s')
    (hsame : ∀ x ∈ done ++ [tx], ∀ y ∈ done ++ [tx], x.signature = y.signature →
      x.prioritizationFee = y.prioritizationFee) :
    ∀ x ∈ done ++ [tx], x.signature ∉ s'.map.signatures →
      ∀ t ∈ contents s'.map.map, x.prioritizationFee ≤ t.prioritizationFee := by
  intro x hx hgone t ht
  have ht' := hs.mem_contents ht
  cases hs with
  | duplicate hsig =>
    rcases List.mem_append.mp hx with hx | hx
    · exact h.dropped x hx hgone t ht
    · rw [List.mem_singleton.mp hx] at hgone
      exact absurd hsig hgone
  | rejected hsig hfull hq hfee =>
    rcases List.mem_append.mp hx with hx | hx
    · exact h.dropped x hx hgone t ht
    · rw [List.mem_singleton.mp hx]
      exact hfee.trans (h.wf.map_wf.firstKey_le hq t ht)
  | pushed hsig hroom =>
    have heq := h.signatures_eq_of_lt (by rw [← h.capacity]; exact hroom)
    exfalso
    apply hgone
    rcases List.mem_append.mp hx with hx | hx
    · rw [heq]
      exact Finset.mem_insert_of_mem (List.mem_toFinset.mpr (List.mem_map_of_mem hx))
    · rw [List.mem_singleton.mp hx]
      exact Finset.mem_insert_self _ _
  | @evicted hsig hfull key evictee rest hq hfee =>
    have hmem : evictee ∈ contents self.map.map :=
      mem_contents.mpr ⟨_, BTreeMap.firstKeyValue_mem hq, List.mem_cons_self⟩
    have hkey : evictee.prioritizationFee = key :=
      h.wf.map_wf.entry_fee _ (BTreeMap.firstKeyValue_mem hq) evictee List.mem_cons_self
    have hlow : x.prioritizationFee ≤ key := by
      rw [Finset.mem_erase, not_and_or, not_not] at hgone
      rcases hgone with hsig' | hnot
      · rw [← hkey]
        exact (hsame x hx evictee (List.mem_append_left _ (h.held _ hmem)) hsig').le
      · have hx' : x ∈ done := by
          rcases List.mem_append.mp hx with hx | hx
          · exact hx
          · rw [List.mem_singleton.mp hx] at hnot
            exact absurd (Finset.mem_insert_self _ _) hnot
        rw [← hkey]
        exact h.dropped x hx' (fun hin => hnot (Finset.mem_insert_of_mem hin)) evictee hmem
    rcases ht' with ht' | rfl
    · exact hlow.trans (h.wf.map_wf.firstKey_le hq t ht')
    · omega

theorem KeepsTop.insert (hm : 1 ≤ m) (h : KeepsTop m self done) (tx : SentTransactionInfo)
    (hsame : ∀ x ∈ done ++ [tx], ∀ y ∈ done ++ [tx], x.signature = y.signature →
      x.prioritizationFee = y.prioritizationFee) :
    ∃ s', self.insert tx = .ok s' ∧ KeepsTop m s' (done ++ [tx]) := by
  obtain ⟨s', hins, hs⟩ := h.wf.insert_step (by rw [h.capacity]; omega) tx
  refine ⟨s', hins, hs.wf h.wf, by rw [hs.maxNumberOfTransactions, h.capacity], ?_,
    h.card_step hs, h.dropped_step hs hsame⟩
  intro t ht
  rcases hs.mem_contents ht with ht | rfl
  · exact List.mem_append_left _ (h.held t ht)
  · exact List.mem_append_right _ (List.mem_singleton_self _)

end KeepsTop

/-- Fed by `insert` alone, a heap of positive capacity keeps the top of the fees: it holds as many
transactions as the capacity allows of the signatures inserted, and every inserted transaction
whose signature it no longer holds pays no more than any it holds, provided the transactions
inserted under one signature carry one fee. -/
theorem inserts_keep_top_fees (m : Nat) (hm : 1 ≤ m) (txs : List SentTransactionInfo)
    (hsame : ∀ tx ∈ txs, ∀ tx' ∈ txs, tx.signature = tx'.signature →
      tx.prioritizationFee = tx'.prioritizationFee) :
    ∃ s, txs.foldlM PrioritizationFeesHeap.insert (new m) = .ok s ∧
      (contents s.map.map).length = min m (txs.map (·.signature)).toFinset.card ∧
      ∀ tx ∈ txs, tx.signature ∉ s.map.signatures →
        ∀ t ∈ contents s.map.map, tx.prioritizationFee ≤ t.prioritizationFee := by
  have hstep : ∀ s done tx, tx ∈ txs → (KeepsTop m s done ∧ ∀ x ∈ done, x ∈ txs) →
      ∃ s', s.insert tx = .ok s' ∧ (KeepsTop m s' (done ++ [tx]) ∧ ∀ x ∈ done ++ [tx], x ∈ txs) := by
    rintro s done tx htx ⟨h, hdone⟩
    have hsub : ∀ x ∈ done ++ [tx], x ∈ txs := by
      intro x hx
      rcases List.mem_append.mp hx with hx | hx
      · exact hdone x hx
      · rwa [List.mem_singleton.mp hx]
    obtain ⟨s', hins, hs'⟩ := h.insert hm tx fun x hx y hy => hsame x (hsub x hx) y (hsub y hy)
    exact ⟨s', hins, hs', hsub⟩
  obtain ⟨s, hrun, hs, -⟩ := StepSystem.foldlM_ok_of_invariant_on PrioritizationFeesHeap.insert
    (· ∈ txs) (fun s done => KeepsTop m s done ∧ ∀ x ∈ done, x ∈ txs) hstep
    ⟨keepsTop_new m, by simp⟩ fun _ htx => htx
  rw [List.nil_append] at hs
  exact ⟨s, hrun, by rw [← hs.wf.card_eq, hs.card_eq], hs.dropped⟩

theorem inserts_keep_top_fees_of_two :
    let txs : List SentTransactionInfo := [⟨⟨1⟩, 0, [], 10, 5⟩, ⟨⟨2⟩, 0, [], 10, 10⟩]
    1 ≤ 1 ∧ (∀ tx ∈ txs, ∀ tx' ∈ txs, tx.signature = tx'.signature →
      tx.prioritizationFee = tx'.prioritizationFee) ∧
    ∃ s, txs.foldlM PrioritizationFeesHeap.insert (new 1) = .ok s ∧
      (contents s.map.map).length = min 1 (txs.map (·.signature)).toFinset.card ∧
      ∀ tx ∈ txs, tx.signature ∉ s.map.signatures →
        ∀ t ∈ contents s.map.map, tx.prioritizationFee ≤ t.prioritizationFee :=
  ⟨le_refl 1, by decide, inserts_keep_top_fees 1 (le_refl 1) _ (by decide)⟩

/-- Two transactions under one signature with different fees: the dearer one is a duplicate of
the cheaper one held, which a third then evicts, and the third pays less than the dearer one. -/
theorem reused_signature_outbids_held :
    let a : SentTransactionInfo := ⟨⟨1⟩, 0, [], 10, 5⟩
    let a' : SentTransactionInfo := ⟨⟨1⟩, 0, [], 10, 100⟩
    let b : SentTransactionInfo := ⟨⟨2⟩, 0, [], 10, 10⟩
    ∃ s, [a, a', b].foldlM PrioritizationFeesHeap.insert (new 1) = .ok s ∧
      a'.signature ∉ s.map.signatures ∧ b ∈ contents s.map.map ∧
      b.prioritizationFee < a'.prioritizationFee := by
  refine ⟨_, rfl, ?_, ?_, ?_⟩
  · decide
  · decide
  · decide

end PrioritizationFeesHeap

end LiteRpc
