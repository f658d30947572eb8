import Mathlib.Algebra.BigOperators.Group.List.Basic
import Mathlib.Algebra.Order.BigOperators.Group.List
import Mathlib.Algebra.Order.Group.Nat
import Mathlib.Data.List.GetD
import LiteRpc.PrioritizationFeeData

/-!
What `calculate_supp_percentiles` computes. Over the data points sorted by priority, the fee at
percentile `p` by transaction is that of the point at index `len * p / 100`, capped at the last
one; by compute units it is that of the first point at which the compute units summed from the
start reach `p` percent of their total. The loop of `dist_fee_by_cu` keeps its index and its sum
from one percentile to the next: it finds that first point because the targets only grow, and it
never reads past the last point because the sum of all points reaches every target.
-/

namespace LiteRpc

/-- The compute units of the first `k` data points. -/
def cuPrefix (s : List PrioFeesData) (k : Nat) : Nat := ((s.take k).map (·.cuConsumed)).sum

/-- The first index at which the compute units summed up to it reach `target`; the number of data
points when none does. -/
def reachIndex (s : List PrioFeesData) (target : Nat) : Nat :=
  (List.range s.length).findIdx fun j => decide (target ≤ cuPrefix s (j + 1))

/-- Whether each loop of `feesByCu` ends by its condition, with `agg` at its target: a loop whose
condition still held after the last data point would read `prio_fees_in_block[len]`. -/
def feesByCuInBounds (cuSum : Nat) : List Nat → Nat → Nat → List PrioFeesData → Bool
  | [], _, _, _ => true
  | percentile :: percentiles, index, agg, rest =>
    let r := advance (cuSum * percentile / 100) index agg rest
    decide (cuSum * percentile / 100 ≤ r.2.1) && feesByCuInBounds cuSum percentiles r.1 r.2.1 r.2.2

@[simp] theorem cuPrefix_zero (s : List PrioFeesData) : cuPrefix s 0 = 0 := by
  simp [cuPrefix]

theorem cuPrefix_cons_succ (data : PrioFeesData) (s : List PrioFeesData) (k : Nat) :
    cuPrefix (data :: s) (k + 1) = data.cuConsumed + cuPrefix s k := by
  simp [cuPrefix]

theorem cuPrefix_add (s : List PrioFeesData) (i k : Nat) :
    cuPrefix s (i + k) = cuPrefix s i + cuPrefix (s.drop i) k := by
  simp [cuPrefix, List.take_add]

theorem cuPrefix_add_sum_drop (s : List PrioFeesData) (k : Nat) :
    cuPrefix s k + ((s.drop k).map (·.cuConsumed)).sum = (s.map (·.cuConsumed)).sum := by
  rw [cuPrefix, ← List.sum_append, ← List.map_append, List.take_append_drop]

theorem cuPrefix_one {s : List PrioFeesData} (hs : s ≠ []) :
    cuPrefix s 1 = (s.getD 0 default).cuConsumed := by
  obtain ⟨data, rest, rfl⟩ := List.exists_cons_of_ne_nil hs
  simp [cuPrefix]

theorem getD_eq_getElem {s : List PrioFeesData} {i : Nat} (hi : i < s.length) :
    s.getD i default = s[i] :=
  (List.getElem_eq_getD default).symm

theorem target_le_cuSum (cuSum : Nat) {p : Nat} (hp : p ≤ 100) : cuSum * p / 100 ≤ cuSum := by
  apply Nat.div_le_of_le_mul
  rw [Nat.mul_comm 100]
  exact Nat.mul_le_mul_left cuSum hp

theorem advance_spec (target index agg : Nat) (rest : List PrioFeesData)
    (h : target ≤ agg + (rest.map (·.cuConsumed)).sum) :
    ∃ k ≤ rest.length, advance target index agg rest = (index + k, agg + cuPrefix rest k, rest.drop k) ∧
      target ≤ agg + cuPrefix rest k ∧ ∀ k' < k, agg + cuPrefix rest k' < target := by
  induction rest generalizing index agg with
  | nil =>
    refine ⟨0, Nat.le_refl 0, by simp [advance], by simpa using h, ?_⟩
    intro k' hk'
    omega
  | cons data rest ih =>
    by_cases hlt : agg < target
    · -- the loop takes `data` and goes on with the rest
      have hrest : target ≤ agg + data.cuConsumed + (rest.map (·.cuConsumed)).sum := by
        simp only [List.map_cons, List.sum_cons] at h
        omega
      obtain ⟨k, hk, hadv, hreach, hleast⟩ := ih (index + 1) (agg + data.cuConsumed) hrest
      refine ⟨k + 1, by simp [hk], ?_, ?_, ?_⟩
      · rw [advance, if_pos hlt, hadv, cuPrefix_cons_succ, List.drop_succ_cons]
        simp only [Prod.mk.injEq, and_true]
        constructor <;> omega
      · rw [cuPrefix_cons_succ]
        omega
      · intro k' hk'
        cases k' with
        | zero => simpa using hlt
        | succ k' =>
          have hk'' := hleast k' (by omega)
          rw [cuPrefix_cons_succ]
          omega
    · -- the loop stops before `data`
      refine ⟨0, Nat.zero_le _, by simp [advance, hlt], by simp; omega, ?_⟩
      intro k' hk'
      omega

section Reach

variable {s : List PrioFeesData}

theorem reachIndex_spec (hs : s ≠ []) {target : Nat}
    (ht : target ≤ (s.map (·.cuConsumed)).sum) :
    reachIndex s target < s.length ∧ target ≤ cuPrefix s (reachIndex s target + 1) ∧
      ∀ j < reachIndex s target, cuPrefix s (j + 1) < target := by
  have hpos := List.length_pos_iff.mpr hs
  have hex : ∃ j ∈ List.range s.length, decide (target ≤ cuPrefix s (j + 1)) = true := by
    refine ⟨s.length - 1, List.mem_range.mpr (by omega), ?_⟩
    have hlast : cuPrefix s (s.length - 1 + 1) = (s.map (·.cuConsumed)).sum := by
      rw [Nat.sub_add_cancel hpos, cuPrefix, List.take_length]
    simpa [hlast] using ht
  have hlt := List.findIdx_lt_length_of_exists hex
  refine ⟨by simpa [reachIndex] using hlt, ?_, ?_⟩
  · have hget := List.findIdx_getElem (w := hlt)
    simpa [reachIndex] using hget
  · intro j hj
    have hnot := List.not_of_lt_findIdx hj
    simpa using hnot

theorem reachIndex_eq {target j : Nat} (hj : j < s.length)
    (hreach : target ≤ cuPrefix s (j + 1)) (hleast : ∀ j' < j, cuPrefix s (j' + 1) < target) :
    reachIndex s target = j := by
  unfold reachIndex
  rw [List.findIdx_eq (by simpa using hj)]
  refine ⟨by simpa using hreach, fun j' hj' => ?_⟩
  simpa using hleast j' hj'

theorem reachIndex_zero (hs : s ≠ []) : reachIndex s 0 = 0 := by
  apply reachIndex_eq (List.length_pos_iff.mpr hs) (Nat.zero_le _)
  intro j' hj'
  omega

theorem reachIndex_mono (hs : s ≠ []) {t t' : Nat} (htt : t ≤ t')
    (ht' : t' ≤ (s.map (·.cuConsumed)).sum) : reachIndex s t ≤ reachIndex s t' := by
  have hbefore := (reachIndex_spec hs (Nat.le_trans htt ht')).2.2
  have hreach := (reachIndex_spec hs ht').2.1
  apply Nat.le_of_not_lt
  intro hlt
  have hshort := hbefore _ hlt
  omega

theorem advance_reachIndex (hs : s ≠ []) {t t' : Nat} (htt : t ≤ t')
    (ht' : t' ≤ (s.map (·.cuConsumed)).sum) :
    advance t' (reachIndex s t) (cuPrefix s (reachIndex s t + 1)) (s.drop (reachIndex s t + 1)) =
      (reachIndex s t', cuPrefix s (reachIndex s t' + 1), s.drop (reachIndex s t' + 1)) := by
  obtain ⟨hlt, -, hbefore⟩ := reachIndex_spec hs (Nat.le_trans htt ht')
  generalize reachIndex s t = i at hlt hbefore ⊢
  have htotal : t' ≤ cuPrefix s (i + 1) + ((s.drop (i + 1)).map (·.cuConsumed)).sum := by
    rw [cuPrefix_add_sum_drop]
    exact ht'
  obtain ⟨k, hk, hadv, hreach, hleast⟩ := advance_spec t' i _ _ htotal
  have hj : reachIndex s t' = i + k := by
    apply reachIndex_eq
    · simp only [List.length_drop] at hk
      omega
    · rw [show i + k + 1 = i + 1 + k by omega, cuPrefix_add]
      exact hreach
    · intro j' hj'
      by_cases hji : j' < i
      · exact Nat.lt_of_lt_of_le (hbefore j' hji) htt
      · have hshort := hleast (j' - i) (by omega)
        rwa [show j' + 1 = i + 1 + (j' - i) by omega, cuPrefix_add]
  rw [hadv, hj, show i + k + 1 = i + 1 + k by omega, cuPrefix_add s (i + 1) k, List.drop_drop]

theorem feesByCu_reach (hs : s ≠ []) {cuSum : Nat} (hsum : (s.map (·.cuConsumed)).sum = cuSum)
    (percentiles : List Nat) (hsorted : percentiles.Pairwise (· ≤ ·))
    (hle : ∀ p ∈ percentiles, p ≤ 100) {t : Nat} (ht : ∀ p ∈ percentiles, t ≤ cuSum * p / 100) :
    feesByCu s cuSum percentiles (reachIndex s t) (cuPrefix s (reachIndex s t + 1))
        (s.drop (reachIndex s t + 1)) =
        percentiles.map (fun p => ⟨p, (s.getD (reachIndex s (cuSum * p / 100)) default).priority⟩) ∧
      feesByCuInBounds cuSum percentiles (reachIndex s t) (cuPrefix s (reachIndex s t + 1))
        (s.drop (reachIndex s t + 1)) = true := by
  induction percentiles generalizing t with
  | nil => simp [feesByCu, feesByCuInBounds]
  | cons p percentiles ih =>
    obtain ⟨hfirst, hsorted⟩ := List.pairwise_cons.mp hsorted
    have htarget : cuSum * p / 100 ≤ (s.map (·.cuConsumed)).sum := by
      rw [hsum]
      exact target_le_cuSum cuSum (hle p List.mem_cons_self)
    have hadv := advance_reachIndex hs (ht p List.mem_cons_self) htarget
    have hstop := (reachIndex_spec hs htarget).2.1
    have hrest := ih (t := cuSum * p / 100) hsorted (fun q hq => hle q (List.mem_cons_of_mem p hq))
      fun q hq => Nat.div_le_div_right (Nat.mul_le_mul_left cuSum (hfirst q hq))
    simp only [feesByCu, feesByCuInBounds, hadv, hrest, List.map_cons, hstop, decide_true,
      Bool.true_and, and_self]

end Reach

theorem getElem?_percentileSteps {i : Nat} (hi : i < 21) : percentileSteps[i]? = some (5 * i) := by
  simp [percentileSteps, hi, Nat.mul_comm]

theorem percentileSteps_pairwise : percentileSteps.Pairwise (· ≤ ·) := by
  unfold percentileSteps
  rw [List.pairwise_map]
  exact List.pairwise_lt_range.imp fun hlt => by omega

theorem le_of_mem_percentileSteps {p : Nat} (hp : p ∈ percentileSteps) : p ≤ 100 := by
  simp only [percentileSteps, List.mem_map, List.mem_range] at hp
  obtain ⟨i, hi, rfl⟩ := hp
  omega

section Sorted

variable {s : List PrioFeesData}

theorem priority_le_of_le (hsorted : s.Pairwise fun a b => a.priority ≤ b.priority) {a b : Nat}
    (hab : a ≤ b) (hb : b < s.length) :
    (s.getD a default).priority ≤ (s.getD b default).priority := by
  rw [getD_eq_getElem (by omega), getD_eq_getElem hb]
  rcases Nat.lt_or_eq_of_le hab with hlt | heq
  · exact List.pairwise_iff_getElem.mp hsorted a b (by omega) hb hlt
  · simp [heq]

theorem byTx_spec (hs : s ≠ []) (hsorted : s.Pairwise fun a b => a.priority ≤ b.priority) :
    ((percentileSteps.map (feeByIndex s)).map (·.fees)).length = 21 ∧
      (∀ i < 21, ((percentileSteps.map (feeByIndex s)).map (·.fees))[i]? =
        some (s.getD (min (s.length * (5 * i) / 100) (s.length - 1)) default).priority) ∧
      ((percentileSteps.map (feeByIndex s)).map (·.fees)).Pairwise (· ≤ ·) := by
  have hpos := List.length_pos_iff.mpr hs
  refine ⟨by simp [percentileSteps], fun i hi => by simp [getElem?_percentileSteps hi, feeByIndex], ?_⟩
  rw [List.map_map, List.pairwise_map]
  refine percentileSteps_pairwise.imp fun {p q} hpq => ?_
  apply priority_le_of_le hsorted _ (by omega)
  have hindex : s.length * p / 100 ≤ s.length * q / 100 :=
    Nat.div_le_div_right (Nat.mul_le_mul_left _ hpq)
  omega

theorem byCu_spec (hs : s ≠ []) (hsorted : s.Pairwise fun a b => a.priority ≤ b.priority) :
    feesByCu s (s.map (·.cuConsumed)).sum percentileSteps 0 (s.getD 0 default).cuConsumed s.tail =
        percentileSteps.map (fun p => ⟨p, (s.getD (reachIndex s
          ((s.map (·.cuConsumed)).sum * p / 100)) default).priority⟩) ∧
      feesByCuInBounds (s.map (·.cuConsumed)).sum percentileSteps 0 (s.getD 0 default).cuConsumed
        s.tail = true ∧
      (percentileSteps.map fun p => (s.getD (reachIndex s
        ((s.map (·.cuConsumed)).sum * p / 100)) default).priority).Pairwise (· ≤ ·) := by
  obtain ⟨hfees, hbounds⟩ := feesByCu_reach hs rfl percentileSteps percentileSteps_pairwise
    (fun p hp => le_of_mem_percentileSteps hp) fun p _ => Nat.zero_le _
  rw [reachIndex_zero hs, Nat.zero_add, cuPrefix_one hs, List.drop_one] at hfees hbounds
  refine ⟨hfees, hbounds, ?_⟩
  rw [List.pairwise_map]
  refine percentileSteps_pairwise.imp_of_mem fun {p q} hp hq hpq => ?_
  have hq' := target_le_cuSum (s.map (·.cuConsumed)).sum (le_of_mem_percentileSteps hq)
  apply priority_le_of_le hsorted _ (reachIndex_spec hs hq').1
  exact reachIndex_mono hs (Nat.div_le_div_right (Nat.mul_le_mul_left _ hpq)) hq'

end Sorted

theorem sortedFees_ne_nil (l : List PrioFeesData) :
    (if l.isEmpty then [default] else l.mergeSort fun a b => a.priority ≤ b.priority) ≠ [] := by
  cases hl : l.isEmpty
  case false =>
    have hne : l ≠ [] := fun h => by simp [h] at hl
    simp only [Bool.false_eq_true, if_false]
    intro hnil
    have hperm := List.mergeSort_perm l fun a b => decide (a.priority ≤ b.priority)
    rw [hnil] at hperm
    exact hne hperm.symm.eq_nil
  case true => simp

theorem sortedFees_pairwise (l : List PrioFeesData) :
    (if l.isEmpty then [default] else l.mergeSort fun a b => a.priority ≤ b.priority).Pairwise
      fun a b => a.priority ≤ b.priority := by
  cases hl : l.isEmpty
  case false =>
    simpa using @List.pairwise_mergeSort _ (fun a b => decide (a.priority ≤ b.priority))
      (fun a b c hab hbc => by simp only [decide_eq_true_eq] at *; omega)
      (fun a b => by simp only [Bool.or_eq_true, decide_eq_true_eq]; omega) l
  case true => simp

/-- `calculate_supp_percentiles` against its definition, over the data points sorted by priority
(or the default one alone): 21 fees each way; by transaction the priority at index
`len * 5 i / 100`, capped at the last; by compute units the priority at the least index where the
compute units summed reach `5 i` percent of their total; both non-decreasing; and every loop of the
walk by compute units ends by its condition, never reading past the last data point. -/
theorem supp_percentiles_match_definition (l : List PrioFeesData) :
    let s := if l.isEmpty then [default] else l.mergeSort fun a b => a.priority ≤ b.priority
    let cuSum := (s.map (·.cuConsumed)).sum
    let r := calculateSuppPercentiles l
    r.byTx.length = 21 ∧ r.byCu.length = 21 ∧
      (∀ i < 21, ∃ d, s[min (s.length * (5 * i) / 100) (s.length - 1)]? = some d ∧
        r.byTx[i]? = some d.priority) ∧
      (∀ i < 21, ∃ j d, s[j]? = some d ∧ r.byCu[i]? = some d.priority ∧
        cuSum * (5 * i) / 100 ≤ cuPrefix s (j + 1) ∧
        ∀ j' < j, cuPrefix s (j' + 1) < cuSum * (5 * i) / 100) ∧
      r.byTx.Pairwise (· ≤ ·) ∧ r.byCu.Pairwise (· ≤ ·) ∧
      feesByCuInBounds cuSum percentileSteps 0 (s.getD 0 default).cuConsumed s.tail = true := by
  intro s cuSum r
  have hs : s ≠ [] := sortedFees_ne_nil l
  have hsorted : s.Pairwise fun a b => a.priority ≤ b.priority := sortedFees_pairwise l
  have hpos := List.length_pos_iff.mpr hs
  obtain ⟨htxLength, htx, htxSorted⟩ := byTx_spec hs hsorted
  obtain ⟨hcu, hbounds, hcuSorted⟩ := byCu_spec hs hsorted
  have hbyTx : r.byTx = (percentileSteps.map (feeByIndex s)).map (·.fees) := rfl
  have hbyCu : r.byCu = percentileSteps.map fun p =>
      (s.getD (reachIndex s (cuSum * p / 100)) default).priority := by
    simp only [r, calculateSuppPercentiles]
    rw [hcu, List.map_map]
    rfl
  refine ⟨htxLength, by simp [hbyCu, percentileSteps], fun i hi => ?_, fun i hi => ?_, htxSorted,
    hbyCu ▸ hcuSorted, hbounds⟩
  · -- the index read by transaction is in bounds
    have hlt : min (s.length * (5 * i) / 100) (s.length - 1) < s.length := by omega
    exact ⟨_, List.getElem?_eq_getElem hlt, by rw [hbyTx, htx i hi, getD_eq_getElem hlt]⟩
  · -- the index read by compute units is the least one reaching the target
    have htarget := target_le_cuSum cuSum (show 5 * i ≤ 100 by omega)
    obtain ⟨hlt, hreach, hleast⟩ := reachIndex_spec hs htarget
    refine ⟨_, _, List.getElem?_eq_getElem hlt, ?_, hreach, hleast⟩
    simp [hbyCu, getElem?_percentileSteps hi, List.getElem?_eq_getElem hlt]

theorem sum_sortedFees (l : List PrioFeesData) :
    ((if l.isEmpty then [default] else l.mergeSort fun a b => a.priority ≤ b.priority).map
      (·.cuConsumed)).sum = (l.map (·.cuConsumed)).sum := by
  cases hl : l.isEmpty
  case false =>
    simp only [Bool.false_eq_true, if_false]
    exact ((List.mergeSort_perm l _).map _).sum_eq
  case true =>
    rw [List.isEmpty_iff.mp hl]
    rfl

theorem calculateSuppPercentiles_no_wrap (l : List PrioFeesData)
    (hfit : (l.map (·.cuConsumed)).sum * 100 < 2 ^ 64) :
    let s := if l.isEmpty then [default] else l.mergeSort fun a b => a.priority ≤ b.priority
    (∀ p ∈ percentileSteps, (s.map (·.cuConsumed)).sum * p < 2 ^ 64) ∧
      ∀ k, cuPrefix s k < 2 ^ 64 := by
  intro s
  have hsum : (s.map (·.cuConsumed)).sum = (l.map (·.cuConsumed)).sum := sum_sortedFees l
  refine ⟨fun p hp => ?_, fun k => ?_⟩
  · have hle := Nat.mul_le_mul_left (s.map (·.cuConsumed)).sum (le_of_mem_percentileSteps hp)
    omega
  · -- a prefix sum is at most the whole sum
    have hprefix := cuPrefix_add_sum_drop s k
    omega

/-! ### The fees do not depend on the order of the data points

Sorting by priority alone keeps data points of equal priority in their input order, which moves the
prefix sums inside a group of equal priorities. The walk by compute units still stops in the same
group: at the least priority whose data points, with all those below it, reach the target, which is
a property of the data points as a multiset. -/

/-- The compute units of the data points of priority at most `q`. -/
def cuUpTo (s : List PrioFeesData) (q : Nat) : Nat :=
  ((s.filter fun d => d.priority ≤ q).map (·.cuConsumed)).sum

/-- `q` is the least priority of a data point at which the data points at or below it reach
`target`. -/
structure IsCuPercentilePriority (s : List PrioFeesData) (target q : Nat) : Prop where
  mem : q ∈ s.map (·.priority)
  reach : target ≤ cuUpTo s q
  least : ∀ q' ∈ s.map (·.priority), q' < q → cuUpTo s q' < target

theorem cuUpTo_append (a b : List PrioFeesData) (q : Nat) :
    cuUpTo (a ++ b) q = cuUpTo a q + cuUpTo b q := by
  simp [cuUpTo, List.filter_append]

theorem cuUpTo_take_add_drop (s : List PrioFeesData) (k q : Nat) :
    cuUpTo (s.take k) q + cuUpTo (s.drop k) q = cuUpTo s q := by
  rw [← cuUpTo_append, List.take_append_drop]

theorem cuUpTo_perm {s t : List PrioFeesData} (h : s.Perm t) (q : Nat) :
    cuUpTo s q = cuUpTo t q :=
  ((h.filter _).map _).sum_eq

theorem cuUpTo_of_forall_le {s : List PrioFeesData} {q : Nat} (h : ∀ d ∈ s, d.priority ≤ q) :
    cuUpTo s q = (s.map (·.cuConsumed)).sum := by
  rw [cuUpTo, List.filter_eq_self.mpr fun d hd => decide_eq_true (h d hd)]

theorem cuUpTo_of_forall_lt {s : List PrioFeesData} {q : Nat} (h : ∀ d ∈ s, q < d.priority) :
    cuUpTo s q = 0 := by
  rw [cuUpTo, List.filter_eq_nil_iff.mpr fun d hd => by simpa using h d hd]
  rfl

theorem cuUpTo_le_sum (s : List PrioFeesData) (q : Nat) :
    cuUpTo s q ≤ (s.map (·.cuConsumed)).sum :=
  (List.filter_sublist.map _).sum_le_sum fun _ _ => Nat.zero_le _

theorem IsCuPercentilePriority.of_perm {s t : List PrioFeesData} (hperm : s.Perm t)
    {target q : Nat} (h : IsCuPercentilePriority s target q) : IsCuPercentilePriority t target q where
  mem := (hperm.map _).mem_iff.mp h.mem
  reach := cuUpTo_perm hperm q ▸ h.reach
  least q' hq' hlt := cuUpTo_perm hperm q' ▸ h.least q' ((hperm.map _).mem_iff.mpr hq') hlt

theorem IsCuPercentilePriority.unique {s : List PrioFeesData} {target q₁ q₂ : Nat}
    (h₁ : IsCuPercentilePriority s target q₁) (h₂ : IsCuPercentilePriority s target q₂) :
    q₁ = q₂ := by
  rcases Nat.lt_trichotomy q₁ q₂ with hlt | heq | hgt
  · exact absurd h₁.reach (Nat.not_le.mpr (h₂.least q₁ h₁.mem hlt))
  · exact heq
  · exact absurd h₂.reach (Nat.not_le.mpr (h₁.least q₂ h₂.mem hgt))

section SortedGroups

variable {s : List PrioFeesData}

theorem priority_le_of_mem_take (hsorted : s.Pairwise fun a b => a.priority ≤ b.priority) {j : Nat}
    (hj : j < s.length) {d : PrioFeesData} (hd : d ∈ s.take (j + 1)) :
    d.priority ≤ s[j].priority := by
  obtain ⟨i, hi, rfl⟩ := List.getElem_of_mem hd
  have hij : i ≤ j := by
    rw [List.length_take] at hi
    omega
  have hle := priority_le_of_le hsorted hij hj
  rwa [getD_eq_getElem (Nat.lt_of_le_of_lt hij hj), getD_eq_getElem hj, ← List.getElem_take] at hle

theorem priority_le_of_mem_drop (hsorted : s.Pairwise fun a b => a.priority ≤ b.priority) {j : Nat}
    (hj : j < s.length) {d : PrioFeesData} (hd : d ∈ s.drop j) :
    s[j].priority ≤ d.priority := by
  obtain ⟨i, hi, rfl⟩ := List.getElem_of_mem hd
  have hji : j + i < s.length := by
    rw [List.length_drop] at hi
    omega
  have hle := priority_le_of_le hsorted (Nat.le_add_right j i) hji
  rwa [getD_eq_getElem hj, getD_eq_getElem hji, ← List.getElem_drop] at hle

theorem isCuPercentilePriority_reachIndex (hs : s ≠ [])
    (hsorted : s.Pairwise fun a b => a.priority ≤ b.priority) {target : Nat}
    (htarget : target ≤ (s.map (·.cuConsumed)).sum) :
    IsCuPercentilePriority s target (s.getD (reachIndex s target) default).priority := by
  obtain ⟨hlt, hreach, hleast⟩ := reachIndex_spec hs htarget
  rw [getD_eq_getElem hlt]
  refine ⟨List.mem_map_of_mem (List.getElem_mem hlt), ?_, ?_⟩
  · -- the data points up to the index are all at or below its priority
    have hupTo := cuUpTo_take_add_drop s (reachIndex s target + 1) s[reachIndex s target].priority
    rw [cuUpTo_of_forall_le fun d hd => priority_le_of_mem_take hsorted hlt hd] at hupTo
    exact Nat.le_trans hreach (hupTo ▸ Nat.le_add_right _ _)
  · -- a lower priority leaves out the index and every data point after it
    intro q hq hlow
    obtain ⟨d, hd, rfl⟩ := List.mem_map.mp hq
    have hzero : cuUpTo (s.drop (reachIndex s target)) d.priority = 0 :=
      cuUpTo_of_forall_lt fun e he =>
        Nat.lt_of_lt_of_le hlow (priority_le_of_mem_drop hsorted hlt he)
    obtain ⟨j, hj⟩ : ∃ j, reachIndex s target = j + 1 := by
      refine Nat.exists_eq_succ_of_ne_zero fun h0 => ?_
      have hdrop : d ∈ s.drop (reachIndex s target) := by
        rw [h0, List.drop_zero]
        exact hd
      exact absurd (priority_le_of_mem_drop hsorted hlt hdrop) (Nat.not_le.mpr hlow)
    have hupTo := cuUpTo_take_add_drop s (reachIndex s target) d.priority
    rw [hzero, Nat.add_zero, hj] at hupTo
    calc cuUpTo s d.priority = cuUpTo (s.take (j + 1)) d.priority := hupTo.symm
      _ ≤ cuPrefix s (j + 1) := cuUpTo_le_sum _ _
      _ < target := hleast j (by omega)

end SortedGroups

theorem sortedFees_perm {l₁ l₂ : List PrioFeesData} (h : l₁.Perm l₂) :
    (if l₁.isEmpty then [default] else l₁.mergeSort fun a b => a.priority ≤ b.priority).Perm
      (if l₂.isEmpty then [default] else l₂.mergeSort fun a b => a.priority ≤ b.priority) := by
  have hempty : l₁.isEmpty = l₂.isEmpty := by
    rw [Bool.eq_iff_iff, List.isEmpty_iff, List.isEmpty_iff]
    constructor
    · rintro rfl
      exact h.nil_eq.symm
    · rintro rfl
      exact h.eq_nil
  rw [← hempty]
  cases l₁.isEmpty
  case true => exact List.Perm.refl _
  case false =>
    simp only [Bool.false_eq_true, if_false]
    exact (List.mergeSort_perm _ _).trans (h.trans (List.mergeSort_perm _ _).symm)

theorem map_priority_eq_of_perm {s t : List PrioFeesData}
    (hs : s.Pairwise fun a b => a.priority ≤ b.priority)
    (ht : t.Pairwise fun a b => a.priority ≤ b.priority) (h : s.Perm t) :
    s.map (·.priority) = t.map (·.priority) :=
  (h.map _).eq_of_pairwise (fun _ _ _ _ hab hba => Nat.le_antisymm hab hba)
    (List.pairwise_map.mpr hs) (List.pairwise_map.mpr ht)

theorem feeByIndex_eq_of_map_priority_eq {s t : List PrioFeesData}
    (h : s.map (·.priority) = t.map (·.priority)) : feeByIndex s = feeByIndex t := by
  funext p
  have hlength : s.length = t.length := by
    simpa using congrArg List.length h
  have hget : ∀ i, (s.getD i default).priority = (t.getD i default).priority := fun i => by
    have hs := List.getD_map s default (n := i) fun d : PrioFeesData => d.priority
    have ht := List.getD_map t default (n := i) fun d : PrioFeesData => d.priority
    rw [h] at hs
    exact hs.symm.trans ht
  simp only [feeByIndex, hlength, hget]

theorem calculateSuppPercentiles_perm {l₁ l₂ : List PrioFeesData} (h : l₁.Perm l₂) :
    calculateSuppPercentiles l₁ = calculateSuppPercentiles l₂ := by
  have hperm := sortedFees_perm h
  have hsorted₁ := sortedFees_pairwise l₁
  have hsorted₂ := sortedFees_pairwise l₂
  have hpriority := map_priority_eq_of_perm hsorted₁ hsorted₂ hperm
  have hsum := (hperm.map (·.cuConsumed)).sum_eq
  have hcu₁ := (byCu_spec (sortedFees_ne_nil l₁) hsorted₁).1
  have hcu₂ := (byCu_spec (sortedFees_ne_nil l₂) hsorted₂).1
  simp only [calculateSuppPercentiles, hcu₁, hcu₂, feeByIndex_eq_of_map_priority_eq hpriority,
    List.map_map, Function.comp_def, Percentiles.mk.injEq, true_and, and_true]
  -- at each percentile both walks stop at the least priority reaching the same target
  refine List.map_congr_left fun p hp => ?_
  have htarget := target_le_cuSum ((List.map (·.cuConsumed)
    (if l₁.isEmpty then [default] else l₁.mergeSort fun a b => a.priority ≤ b.priority)).sum)
    (le_of_mem_percentileSteps hp)
  have h₁ := (isCuPercentilePriority_reachIndex (sortedFees_ne_nil l₁) hsorted₁ htarget).of_perm
    hperm
  rw [hsum] at h₁ htarget ⊢
  exact h₁.unique (isCuPercentilePriority_reachIndex (sortedFees_ne_nil l₂) hsorted₂ htarget)

namespace BlockPrioData

theorem foldl_add (blocks : List BlockPrioData) (acc : BlockPrioData) :
    blocks.foldl add acc =
      ⟨acc.transactionData ++ blocks.flatMap (·.transactionData),
        acc.nbNonVoteTx + (blocks.map (·.nbNonVoteTx)).sum,
        acc.nbTotalTx + (blocks.map (·.nbTotalTx)).sum,
        acc.nonVoteCuConsumed + (blocks.map (·.nonVoteCuConsumed)).sum,
        acc.totalCuConsumed + (blocks.map (·.totalCuConsumed)).sum⟩ := by
  induction blocks generalizing acc with
  | nil => simp
  | cons block blocks ih =>
    rw [List.foldl_cons, ih]
    simp [add, Nat.add_assoc]

theorem calculateStats_foldl_add_perm {blocks₁ blocks₂ : List BlockPrioData}
    (h : blocks₁.Perm blocks₂) (acc : BlockPrioData) :
    (blocks₁.foldl add acc).calculateStats = (blocks₂.foldl add acc).calculateStats := by
  have hdata : (acc.transactionData ++ blocks₁.flatMap (·.transactionData)).Perm
      (acc.transactionData ++ blocks₂.flatMap (·.transactionData)) :=
    (h.flatMap_right _).append_left _
  have hsum : ∀ f : BlockPrioData → Nat, (blocks₁.map f).sum = (blocks₂.map f).sum :=
    fun f => (h.map f).sum_eq
  rw [foldl_add, foldl_add]
  simp only [calculateStats, calculateSuppPercentiles_perm hdata, hsum]

end BlockPrioData

/-- The fee percentiles of a list of data points depend only on its multiset, and so the
statistics of an aggregate of blocks do not depend on the order the blocks are folded in. -/
theorem supp_percentiles_order_independent :
    (∀ l₁ l₂ : List PrioFeesData, l₁.Perm l₂ →
        calculateSuppPercentiles l₁ = calculateSuppPercentiles l₂) ∧
      ∀ blocks₁ blocks₂ : List BlockPrioData, blocks₁.Perm blocks₂ →
        (blocks₁.foldl BlockPrioData.add BlockPrioData.default).calculateStats =
          (blocks₂.foldl BlockPrioData.add BlockPrioData.default).calculateStats :=
  ⟨fun _ _ h => calculateSuppPercentiles_perm h,
    fun _ _ h => BlockPrioData.calculateStats_foldl_add_perm h _⟩

/-- Two data points of priority 5 in either order, one with all the compute units of the group:
the prefix sums differ, the fees do not. -/
theorem supp_percentiles_order_independent_on_tied_fees :
    let l₁ : List PrioFeesData := [⟨5, 10⟩, ⟨5, 0⟩, ⟨7, 10⟩]
    let l₂ : List PrioFeesData := [⟨5, 0⟩, ⟨5, 10⟩, ⟨7, 10⟩]
    l₁.Perm l₂ ∧ cuPrefix l₁ 1 ≠ cuPrefix l₂ 1 ∧
      calculateSuppPercentiles l₁ = calculateSuppPercentiles l₂ := by
  intro l₁ l₂
  have hperm : l₁.Perm l₂ := by decide
  exact ⟨hperm, by decide, supp_percentiles_order_independent.1 l₁ l₂ hperm⟩

end LiteRpc
