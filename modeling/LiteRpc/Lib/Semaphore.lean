import Mathlib.Order.Lattice
import Mathlib.Algebra.GroupWithZero.Nat
import Mathlib.Data.List.Perm.Subperm

/-!
A family of counting semaphores, numbered from 0: the free permits of each, and the permits held,
each by the number of the semaphore it was taken from. Every semaphore of the family starts with
`cap` permits. Taking a free permit, giving one back, and passing a held permit from one holder to
another keep the free and the held permits of each semaphore adding up to `cap`, so that no
semaphore ever has more than `cap` holders at once.
Nothing here is specific to one program.
-/

namespace Semaphores

/-- At each semaphore the free permits and the held ones add up to `cap`, and every permit held
is one of the family's. -/
structure Conserves (cap : ℕ) (available held : List ℕ) : Prop where
  add_count : ∀ i (hi : i < available.length), available[i] + held.count i = cap
  lt_length : ∀ i ∈ held, i < available.length

theorem conserves_replicate (cap n : ℕ) : Conserves cap (List.replicate n cap) [] where
  add_count i hi := by simp
  lt_length i hi := by simp at hi

variable {cap : ℕ} {available held held' : List ℕ}

theorem Conserves.perm (h : Conserves cap available held) (hp : held'.Perm held) :
    Conserves cap available held' where
  add_count i hi := by rw [hp.count_eq]; exact h.add_count i hi
  lt_length i hi := h.lt_length i (hp.mem_iff.mp hi)

theorem Conserves.acquire (h : Conserves cap available held) {i : ℕ} (hi : i < available.length)
    (hfree : 0 < available[i]) (hp : held'.Perm (i :: held)) :
    Conserves cap (available.modify i (· - 1)) held' where
  add_count j hj := by
    rw [List.length_modify] at hj
    have hadd := h.add_count j hj
    rw [List.getElem_modify, hp.count_eq, List.count_cons]
    by_cases hij : i = j
    · subst hij
      simp only [if_true, beq_self_eq_true]
      omega
    · have hne : (i == j) = false := beq_false_of_ne hij
      simp only [hij, if_false, hne, Bool.false_eq_true]
      omega
  lt_length j hj := by
    rw [List.length_modify]
    rcases List.mem_cons.mp (hp.mem_iff.mp hj) with rfl | hj
    · exact hi
    · exact h.lt_length j hj

theorem Conserves.release (h : Conserves cap available held) {i : ℕ} (hp : held.Perm (i :: held')) :
    Conserves cap (available.modify i (· + 1)) held' where
  add_count j hj := by
    rw [List.length_modify] at hj
    have hadd := h.add_count j hj
    rw [List.getElem_modify]
    rw [hp.count_eq, List.count_cons] at hadd
    by_cases hij : i = j
    · subst hij
      simp only [if_true, beq_self_eq_true] at hadd ⊢
      omega
    · have hne : (i == j) = false := beq_false_of_ne hij
      simp only [hij, if_false, hne, Bool.false_eq_true] at hadd ⊢
      omega
  lt_length j hj := by
    rw [List.length_modify]
    exact h.lt_length j (hp.mem_iff.mpr (List.mem_cons_of_mem i hj))

end Semaphores
