import Mathlib.Data.List.Sigma
import Mathlib.Data.Finset.Basic
import Mathlib.Data.Finset.Dedup

/-!
Lists with distinct keys. A pass over the entries that produces at most one result per entry,
each naming the key of its entry: the results for one key are the result of that key's entry.
Erasing from the set of keys the keys of the entries a filter drops leaves the keys of those it
keeps.
-/

namespace List

variable {α γ : Type*} {β : α → Type*} [DecidableEq α]

theorem filter_filterMap_of_nodupKeys (key : γ → α) (f : Sigma β → Option γ) (k : α) :
    ∀ {l : List (Sigma β)}, l.NodupKeys → (∀ x ∈ l, ∀ g, f x = some g → key g = x.1) →
      (l.filterMap f).filter (fun g => key g = k) = ((l.dlookup k).bind fun b => f ⟨k, b⟩).toList
  | [], _, _ => rfl
  | x :: t, hl, hf => by
    obtain ⟨hx, ht⟩ := List.nodupKeys_cons.mp hl
    have ih := filter_filterMap_of_nodupKeys key f k ht fun y hy => hf y (mem_cons_of_mem x hy)
    have hkey : ∀ g, f x = some g → key g = x.1 := hf x mem_cons_self
    by_cases hk : x.1 = k
    · obtain ⟨k', b⟩ := x
      subst hk
      rw [List.dlookup_eq_none.mpr hx] at ih
      rw [List.dlookup_cons_eq]
      cases hg : f ⟨k', b⟩ with
      | none => simp [hg, ih]
      | some g => simp [hg, ih, hkey g hg]
    · rw [List.dlookup_cons_ne t x (Ne.symm hk)]
      cases hg : f x with
      | none => simp [hg, ih]
      | some g => simp [hg, ih, hkey g hg, hk]

theorem foldl_erase_eq_sdiff [DecidableEq γ] (s : Finset γ) (l : List γ) :
    l.foldl Finset.erase s = s \ l.toFinset := by
  induction l generalizing s with
  | nil => simp
  | cons a l ih => simp [ih, Finset.sdiff_insert, Finset.erase_sdiff_comm]

theorem toFinset_map_sdiff_filter {δ : Type*} [DecidableEq γ] {key : δ → γ} {l : List δ}
    (hl : (l.map key).Nodup) (p : δ → Bool) :
    (l.map key).toFinset \ ((l.filter fun x => !p x).map key).toFinset =
      ((l.filter p).map key).toFinset := by
  ext g
  simp only [Finset.mem_sdiff, List.mem_toFinset, List.mem_map, List.mem_filter]
  constructor
  · rintro ⟨⟨x, hx, rfl⟩, hnot⟩
    refine ⟨x, ⟨hx, ?_⟩, rfl⟩
    by_contra hp
    exact hnot ⟨x, ⟨hx, by simpa using hp⟩, rfl⟩
  · rintro ⟨x, ⟨hx, hp⟩, rfl⟩
    refine ⟨⟨x, hx, rfl⟩, ?_⟩
    rintro ⟨y, ⟨hy, hpy⟩, hkey⟩
    have hxy : y = x := List.inj_on_of_nodup_map hl hy hx hkey
    subst hxy
    simp [hp] at hpy

end List
