import Mathlib.Data.List.Basic

/-!
`slice::chunks(size)` on lists: the consecutive pieces of `size` elements of a list, the last one
possibly shorter, for a positive `size` (`chunks(0)` panics). The pieces put back together give the
list, and each is non-empty and at most `size` long. Nothing here is specific to one program.
-/

namespace Chunks

variable {α : Type}

/-- `slice::chunks(size)`. -/
def chunks (size : Nat) (hsize : 0 < size) : List α → List (List α)
  | [] => []
  | x :: xs => (x :: xs).take size :: chunks size hsize ((x :: xs).drop size)
termination_by l => l.length
decreasing_by
  simp only [List.length_drop, List.length_cons]
  omega

variable {size : Nat} {hsize : 0 < size}

@[simp] theorem chunks_nil : chunks size hsize ([] : List α) = [] := by
  rw [chunks]

theorem chunks_cons (x : α) (xs : List α) :
    chunks size hsize (x :: xs) = (x :: xs).take size :: chunks size hsize ((x :: xs).drop size) := by
  rw [chunks]

/-- The pieces, in their order, are the list. -/
@[simp] theorem flatten_chunks (l : List α) : (chunks size hsize l).flatten = l := by
  induction l using chunks.induct size hsize with
  | case1 => simp
  | case2 x xs ih =>
    rw [chunks_cons, List.flatten_cons, ih, List.take_append_drop]

theorem flatten_take_chunks_prefix (l : List α) (k : Nat) :
    List.IsPrefix ((chunks size hsize l).take k).flatten l := by
  refine ⟨((chunks size hsize l).drop k).flatten, ?_⟩
  rw [← List.flatten_append, List.take_append_drop, flatten_chunks]

theorem mem_chunks {l c : List α} (hc : c ∈ chunks size hsize l) :
    c ≠ [] ∧ c.length ≤ size := by
  induction l using chunks.induct size hsize with
  | case1 => simp at hc
  | case2 x xs ih =>
    rw [chunks_cons, List.mem_cons] at hc
    rcases hc with rfl | hc
    · refine ⟨?_, List.length_take_le _ _⟩
      cases size with
      | zero => omega
      | succ n => simp
    · exact ih hc

end Chunks
