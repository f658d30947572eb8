import Mathlib.Data.List.Infix

/-!
Runs of consecutive elements that pass a test: whether a list holds `n` of them in a row, and the
counter that counts the passing elements and is reset by every other one. That counter is the
length of the longest run the list ends with, so a list holds `n` in a row exactly when the counter
reaches `n` on one of its prefixes.
Nothing here is specific to one program.
-/

namespace Streak

variable {α : Type} (p : α → Bool)

/-- The passing elements counted, the count reset by each element that fails. -/
def streak (l : List α) : ℕ := l.foldl (fun k a => if p a then k + 1 else 0) 0

/-- `n` consecutive elements of `l` pass. -/
def HasRun (n : ℕ) (l : List α) : Prop := ∃ mid, mid <:+: l ∧ mid.length = n ∧ ∀ a ∈ mid, p a

variable {p}

@[simp] theorem streak_nil : streak p [] = 0 := rfl

theorem streak_concat (l : List α) (a : α) :
    streak p (l ++ [a]) = if p a then streak p l + 1 else 0 := by
  rw [streak, List.foldl_append]
  rfl

theorem length_le_streak {suf l : List α} (h : suf <:+ l) (hp : ∀ a ∈ suf, p a) :
    suf.length ≤ streak p l := by
  induction l using List.reverseRecOn generalizing suf with
  | nil => simp [List.suffix_nil.mp h]
  | append_singleton l a ih =>
    rcases List.suffix_concat_iff.mp h with rfl | ⟨t, rfl, ht⟩
    · simp
    · have hpa : p a := hp a (List.mem_append_right _ (List.mem_singleton_self a))
      have hle := ih ht fun b hb => hp b (List.mem_append_left _ hb)
      rw [streak_concat, if_pos hpa, List.length_append, List.length_singleton]
      omega

theorem exists_suffix_streak (l : List α) :
    ∃ suf, suf <:+ l ∧ suf.length = streak p l ∧ ∀ a ∈ suf, p a := by
  induction l using List.reverseRecOn with
  | nil => exact ⟨[], List.suffix_refl _, rfl, by simp⟩
  | append_singleton l a ih =>
    obtain ⟨suf, hsuf, hlen, hp⟩ := ih
    rw [streak_concat]
    split_ifs with hpa
    · refine ⟨suf ++ [a], List.suffix_concat_iff.mpr (.inr ⟨suf, rfl, hsuf⟩), by simp [hlen], ?_⟩
      intro b hb
      rcases List.mem_append.mp hb with hb | hb
      · exact hp b hb
      · rw [List.mem_singleton.mp hb]
        exact hpa
    · exact ⟨[], List.nil_suffix, rfl, by simp⟩

theorem hasRun_of_le_streak {n : ℕ} {l : List α} (h : n ≤ streak p l) : HasRun p n l := by
  obtain ⟨suf, hsuf, hlen, hp⟩ := exists_suffix_streak (p := p) l
  refine ⟨suf.drop (suf.length - n), ((List.drop_suffix _ _).trans hsuf).isInfix, ?_,
    fun a ha => hp a (List.mem_of_mem_drop ha)⟩
  rw [List.length_drop]
  omega

theorem not_hasRun_nil {n : ℕ} (hn : 0 < n) : ¬ HasRun p n [] := by
  rintro ⟨mid, hmid, hlen, -⟩
  rw [List.infix_nil.mp hmid, List.length_nil] at hlen
  omega

theorem HasRun.append {n : ℕ} {l : List α} (h : HasRun p n l) (l' : List α) :
    HasRun p n (l ++ l') := by
  obtain ⟨mid, hmid, hlen, hp⟩ := h
  exact ⟨mid, hmid.trans (List.prefix_append l l').isInfix, hlen, hp⟩

theorem hasRun_concat_iff {n : ℕ} {l : List α} {a : α} :
    HasRun p n (l ++ [a]) ↔ HasRun p n l ∨ n ≤ streak p (l ++ [a]) := by
  constructor
  · rintro ⟨mid, hmid, hlen, hp⟩
    rcases List.infix_concat_iff.mp hmid with hsuf | hinf
    · exact .inr (hlen ▸ length_le_streak hsuf hp)
    · exact .inl ⟨mid, hinf, hlen, hp⟩
  · rintro (h | h)
    · exact h.append [a]
    · exact hasRun_of_le_streak h

end Streak
