import Mathlib.Data.List.Infix
import Mathlib.Order.Lattice
import Mathlib.Algebra.GroupWithZero.Nat

/-!
The running maxima of a sequence of numbers above a threshold: the elements larger than the
threshold and than every element before them, in order. A task that forwards only the values above
the last one it forwarded forwards exactly these. Forwarding twice is forwarding once above the
larger threshold, the maxima of a prefix are a prefix of the maxima, and the largest of them is the
maximum of the sequence and the threshold.
Nothing here is specific to one program.
-/

namespace RunningMax

/-- The elements of a list larger than `a` and than every element before them. -/
def records : ℕ → List ℕ → List ℕ
  | _, [] => []
  | a, x :: xs => if a < x then x :: records x xs else records a xs

@[simp] theorem records_nil (a : ℕ) : records a [] = [] := rfl

theorem records_cons (a x : ℕ) (xs : List ℕ) :
    records a (x :: xs) = if a < x then x :: records x xs else records a xs := rfl

theorem records_append (a : ℕ) (l₁ l₂ : List ℕ) :
    records a (l₁ ++ l₂) = records a l₁ ++ records (l₁.foldl max a) l₂ := by
  induction l₁ generalizing a with
  | nil => simp
  | cons x xs ih =>
    rw [List.cons_append, records_cons, records_cons, List.foldl_cons]
    split_ifs with hx
    · rw [ih, max_eq_right hx.le, List.cons_append]
    · rw [ih, max_eq_left (not_lt.mp hx)]

theorem records_singleton (a x : ℕ) : records a [x] = if a < x then [x] else [] := by
  simp [records_cons]

theorem records_records (a b : ℕ) (l : List ℕ) : records a (records b l) = records (max a b) l := by
  induction l generalizing a b with
  | nil => rfl
  | cons x xs ih =>
    rw [records_cons b]
    split_ifs with hbx
    · rw [records_cons, records_cons, ih, max_self]
      by_cases hax : a < x
      · rw [if_pos hax, if_pos (max_lt hax hbx)]
      · -- `a` is at least `x`, so above `b` too
        have hab : max a b = a := max_eq_left (le_of_lt (lt_of_lt_of_le hbx (not_lt.mp hax)))
        rw [if_neg hax, if_neg (by rw [hab]; exact hax), ih, max_eq_left (not_lt.mp hax), hab]
    · rw [ih, records_cons]
      rw [if_neg (not_lt.mpr (le_trans (not_lt.mp hbx) (le_max_right a b)))]

theorem foldl_max_eq (a : ℕ) (l : List ℕ) : l.foldl max a = ((records a l).getLast?).getD a := by
  induction l generalizing a with
  | nil => rfl
  | cons x xs ih =>
    rw [List.foldl_cons, records_cons]
    split_ifs with hx
    · rw [max_eq_right hx.le, ih x]
      cases hrec : records x xs with
      | nil => rfl
      | cons y ys =>
        rw [List.getLast?_cons_cons]
        rfl
    · rw [max_eq_left (not_lt.mp hx), ih a]

theorem foldl_max_eq_of_records_eq {a : ℕ} {l l' : List ℕ} (h : records a l = records a l') :
    l.foldl max a = l'.foldl max a := by
  rw [foldl_max_eq, foldl_max_eq, h]

theorem records_isPrefix (a : ℕ) {l l' : List ℕ} (h : l <+: l') : records a l <+: records a l' := by
  obtain ⟨rest, rfl⟩ := h
  rw [records_append]
  exact List.prefix_append _ _

end RunningMax
