import Mathlib.Data.List.Perm.Basic
import Mathlib.Data.List.Nodup
import Mathlib.Data.List.Sort
import Mathlib.Data.List.Pairwise

/-!
Grouping the values of a list of pairs by key, in the manner of itertools' `into_group_map`: a map
from each key to its values in the order they come. The map is an association list with distinct
keys. A map of groups is determined by its lookups, so two groupings of one list differ only in
the order of their entries, which a hash map does not fix.
Nothing here is specific to one program.
-/

namespace GroupMap

section Grouping

variable {κ ν : Type} [DecidableEq κ]

/-- `entry(key).or_insert_with(Vec::new).push(value)` on a map of groups. -/
def groupInsert (key : κ) (value : ν) : List (κ × List ν) → List (κ × List ν)
  | [] => [(key, [value])]
  | (k, values) :: rest =>
    if k = key then (k, values ++ [value]) :: rest else (k, values) :: groupInsert key value rest

/-- `into_group_map`. -/
def intoGroupMap (l : List (κ × ν)) : List (κ × List ν) :=
  l.foldl (fun groups p => groupInsert p.1 p.2 groups) []

/-- The values of one key, in order. -/
def valuesOf (l : List (κ × ν)) (k : κ) : List ν :=
  (l.filter fun p => p.1 = k).map Prod.snd

/-- A key's group when it has values. -/
def groupOf (values : List ν) : Option (List ν) :=
  if values = [] then none else some values

/-- A map of the groups of `l`: distinct keys, and for each key exactly its values, when it has
any. -/
structure IsGrouping (l : List (κ × ν)) (groups : List (κ × List ν)) : Prop where
  nodup : (groups.map Prod.fst).Nodup
  lookup_eq : ∀ k, groups.lookup k = groupOf (valuesOf l k)

theorem valuesOf_append_singleton (l : List (κ × ν)) (key k : κ) (value : ν) :
    valuesOf (l ++ [(key, value)]) k = if k = key then valuesOf l k ++ [value] else valuesOf l k := by
  by_cases h : k = key
  · subst h
    simp [valuesOf]
  · simp [valuesOf, h, Ne.symm h]

theorem lookup_cons_of_ne {β : Type} {k k' : κ} (h : k ≠ k') (b : β) (es : List (κ × β)) :
    ((k', b) :: es).lookup k = es.lookup k := by
  simp [List.lookup_cons, beq_eq_false_iff_ne.mpr h]

theorem mem_valuesOf {l : List (κ × ν)} {k : κ} {v : ν} : v ∈ valuesOf l k ↔ (k, v) ∈ l := by
  simp [valuesOf]

theorem mem_iff_lookup {g : List (κ × ν)} (hg : (g.map Prod.fst).Nodup) {e : κ × ν} :
    e ∈ g ↔ g.lookup e.1 = some e.2 := by
  induction g with
  | nil => simp
  | cons p rest ih =>
    rw [List.map_cons, List.nodup_cons] at hg
    obtain ⟨k, v⟩ := e
    obtain ⟨k', v'⟩ := p
    by_cases hk : k = k'
    · subst hk
      have hnot : (k, v) ∉ rest := fun h => hg.1 (List.mem_map.mpr ⟨_, h, rfl⟩)
      simp [List.lookup_cons_self, hnot, eq_comm]
    · have hne : (k, v) ≠ (k', v') := fun h => hk (Prod.mk.inj h).1
      simp [lookup_cons_of_ne hk, hne, ih hg.2]

theorem map_fst_groupInsert (key : κ) (value : ν) (g : List (κ × List ν)) :
    (groupInsert key value g).map Prod.fst =
      if key ∈ g.map Prod.fst then g.map Prod.fst else g.map Prod.fst ++ [key] := by
  induction g with
  | nil => simp [groupInsert]
  | cons p rest ih =>
    obtain ⟨k, values⟩ := p
    by_cases hk : k = key
    · simp [groupInsert, hk]
    · have hk' : key ≠ k := Ne.symm hk
      simp only [groupInsert, hk, if_false, List.map_cons, ih, List.mem_cons, hk', false_or]
      split_ifs <;> simp

theorem lookup_groupInsert (key : κ) (value : ν) (g : List (κ × List ν)) (k : κ) :
    (groupInsert key value g).lookup k =
      if k = key then some ((g.lookup key).getD [] ++ [value]) else g.lookup k := by
  induction g with
  | nil =>
    by_cases hk : k = key
    · subst hk
      simp [groupInsert, List.lookup_cons_self]
    · simp [groupInsert, lookup_cons_of_ne hk, hk]
  | cons p rest ih =>
    obtain ⟨k', values⟩ := p
    by_cases hk' : k' = key
    · subst hk'
      by_cases hk : k = k'
      · subst hk
        simp [groupInsert, List.lookup_cons_self]
      · simp [groupInsert, lookup_cons_of_ne hk, hk]
    · by_cases hk : k = k'
      · subst hk
        simp [groupInsert, List.lookup_cons_self, hk']
      · simp [groupInsert, lookup_cons_of_ne hk, lookup_cons_of_ne (Ne.symm hk'), hk', ih]

theorem isGrouping_nil : IsGrouping ([] : List (κ × ν)) [] :=
  ⟨List.nodup_nil, fun k => by simp [groupOf, valuesOf]⟩

theorem IsGrouping.groupInsert {l : List (κ × ν)} {g : List (κ × List ν)} (h : IsGrouping l g)
    (key : κ) (value : ν) : IsGrouping (l ++ [(key, value)]) (groupInsert key value g) := by
  have hgroup : (g.lookup key).getD [] = valuesOf l key := by
    rw [h.lookup_eq key, groupOf]
    split_ifs with hnil <;> simp [hnil]
  constructor
  · rw [map_fst_groupInsert]
    split_ifs with hmem
    · exact h.nodup
    · exact h.nodup.append (List.nodup_singleton key) (by simpa using hmem)
  · intro k
    rw [lookup_groupInsert, valuesOf_append_singleton]
    split_ifs with hk
    · subst hk
      simp [hgroup, groupOf]
    · exact h.lookup_eq k

theorem isGrouping_intoGroupMap (l : List (κ × ν)) : IsGrouping l (intoGroupMap l) := by
  suffices h : ∀ (pre : List (κ × ν)) (g : List (κ × List ν)), IsGrouping pre g →
      IsGrouping (pre ++ l) (l.foldl (fun groups p => groupInsert p.1 p.2 groups) g) by
    simpa [intoGroupMap] using h [] [] isGrouping_nil
  induction l with
  | nil => simp
  | cons p rest ih =>
    intro pre g hg
    simpa using ih (pre ++ [p]) _ (hg.groupInsert p.1 p.2)

namespace IsGrouping

variable {l : List (κ × ν)} {g : List (κ × List ν)}

theorem mem_iff (h : IsGrouping l g) {e : κ × List ν} :
    e ∈ g ↔ e.2 = valuesOf l e.1 ∧ e.2 ≠ [] := by
  rw [mem_iff_lookup h.nodup, h.lookup_eq, groupOf]
  split_ifs with hnil
  · simp only [false_iff, not_and, not_not]
    intro he
    rw [he, hnil]
  · simp only [Option.some.injEq]
    constructor
    · rintro he
      exact ⟨he.symm, he ▸ hnil⟩
    · rintro ⟨he, -⟩
      exact he.symm

theorem of_mem_iff (hnodup : (g.map Prod.fst).Nodup)
    (hmem : ∀ e, e ∈ g ↔ e.2 = valuesOf l e.1 ∧ e.2 ≠ []) : IsGrouping l g := by
  refine ⟨hnodup, fun k => Option.ext fun values => ?_⟩
  have hlookup : g.lookup k = some values ↔ (k, values) ∈ g := (mem_iff_lookup (e := (k, values)) hnodup).symm
  rw [hlookup, hmem, groupOf]
  split_ifs with hnil
  · simp only [iff_false, not_and, not_not]
    intro he
    rw [he, hnil]
  · simp only [Option.some.injEq]
    constructor
    · rintro ⟨he, -⟩
      exact he.symm
    · rintro he
      exact ⟨he.symm, he ▸ hnil⟩

theorem perm {g' : List (κ × List ν)} (h : IsGrouping l g) (h' : IsGrouping l g') : g.Perm g' := by
  rw [List.perm_ext_iff_of_nodup (List.Nodup.of_map _ h.nodup) (List.Nodup.of_map _ h'.nodup)]
  intro e
  rw [h.mem_iff, h'.mem_iff]

end IsGrouping

end Grouping

theorem eq_mergeSort_of_mem_iff {l l' : List ℕ} (hl : l.Pairwise (· < ·)) (hl' : l'.Nodup)
    (hmem : ∀ i, i ∈ l ↔ i ∈ l') : l = l'.mergeSort := by
  have hsort := List.mergeSort_perm l' (fun a b => decide (a ≤ b))
  have hperm : l.Perm l'.mergeSort :=
    (List.perm_ext_iff_of_nodup hl.nodup (hsort.nodup_iff.mpr hl')).mpr
      fun i => (hmem i).trans hsort.mem_iff.symm
  exact hperm.eq_of_pairwise (fun a b _ _ hab hba => le_antisymm hab hba) (hl.imp le_of_lt)
    (List.pairwise_mergeSort' (· ≤ ·) l')

/-- The index lists of `groups` split the indexes below `n` between them, none empty. -/
structure PartitionsRange {κ : Type} (groups : List (κ × List ℕ)) (n : ℕ) : Prop where
  perm : (groups.flatMap Prod.snd).Perm (List.range n)
  ne_nil : ∀ e ∈ groups, e.2 ≠ []

namespace PartitionsRange

variable {κ : Type} {groups : List (κ × List ℕ)} {n : ℕ}

theorem exists_mem_iff (h : PartitionsRange groups n) (i : ℕ) :
    (∃ e ∈ groups, i ∈ e.2) ↔ i < n := by
  rw [← List.mem_range, ← h.perm.mem_iff, List.mem_flatMap]

theorem nodup_flatMap (h : PartitionsRange groups n) : (groups.flatMap Prod.snd).Nodup :=
  h.perm.nodup_iff.mpr List.nodup_range

theorem nodup_of_mem (h : PartitionsRange groups n) {e : κ × List ℕ} (he : e ∈ groups) :
    e.2.Nodup :=
  (List.nodup_flatMap.mp h.nodup_flatMap).1 e he

theorem eq_of_mem (h : PartitionsRange groups n) {e e' : κ × List ℕ}
    (he : e ∈ groups) (he' : e' ∈ groups) {i : ℕ} (hi : i ∈ e.2) (hi' : i ∈ e'.2) : e = e' := by
  have hsymm : Std.Symm (Function.onFun List.Disjoint (Prod.snd : κ × List ℕ → List ℕ)) :=
    ⟨fun _ _ hd _ h₁ h₂ => hd h₂ h₁⟩
  by_contra hne
  have hdisjoint := (List.nodup_flatMap.mp h.nodup_flatMap).2
  exact hdisjoint.forall he he' hne hi hi'

end PartitionsRange

end GroupMap
