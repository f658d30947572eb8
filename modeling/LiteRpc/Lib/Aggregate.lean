import LiteRpc.Lib.GroupMap
import Mathlib.Algebra.BigOperators.Group.List.Basic
import Mathlib.Order.Lattice
import Mathlib.Algebra.GroupWithZero.Nat

/-!
Folding the values of a list of pairs into a map by key, in the manner of itertools'
`GroupingMap::aggregate`: each pair in turn takes its key's accumulator out of the map (none for a
key not seen yet), combines it with the value, and puts the result back, or leaves the key out when
the result is none. The keys stay distinct, and a key's accumulator is the fold of the operation
over that key's values. Two operations are used: the sum of a key's values, and the last value,
which is what collecting pairs into a hash map keeps.
Nothing here is specific to one program.
-/

namespace GroupMap

section Aggregate

variable {κ ν β : Type} [DecidableEq κ]

/-- One pair of `aggregate`: `remove` the key's accumulator, and `insert` what the operation makes
of it and the value. -/
def aggregateInsert (op : Option β → κ → ν → Option β) (m : List (κ × β)) (key : κ) (value : ν) :
    List (κ × β) :=
  m.filter (fun e => e.1 ≠ key) ++ ((op (m.lookup key) key value).map fun b => (key, b)).toList

/-- `into_grouping_map().aggregate(op)`. -/
def aggregate (op : Option β → κ → ν → Option β) (l : List (κ × ν)) : List (κ × β) :=
  l.foldl (fun m p => aggregateInsert op m p.1 p.2) []

theorem lookup_filter_ne (m : List (κ × β)) (key k : κ) :
    (m.filter fun e => e.1 ≠ key).lookup k = if k = key then none else m.lookup k := by
  induction m with
  | nil => simp
  | cons e rest ih =>
    obtain ⟨k', b⟩ := e
    by_cases hk' : k' = key
    · -- the entry of the key is dropped
      have hdrop : ((k', b) :: rest).filter (fun e => e.1 ≠ key) =
          rest.filter (fun e => e.1 ≠ key) := by
        simp [hk']
      rw [hdrop, ih]
      split_ifs with hk
      · rfl
      · rw [lookup_cons_of_ne fun h => hk (h.trans hk')]
    · have hkeep : ((k', b) :: rest).filter (fun e => e.1 ≠ key) =
          (k', b) :: rest.filter (fun e => e.1 ≠ key) := by
        simp [hk']
      rw [hkeep]
      by_cases hk : k = k'
      · subst hk
        simp [List.lookup_cons_self, hk']
      · rw [lookup_cons_of_ne hk, ih, lookup_cons_of_ne hk]

theorem lookup_filter_key (p : κ → Bool) (m : List (κ × β)) (k : κ) :
    (m.filter fun e => p e.1).lookup k = if p k then m.lookup k else none := by
  induction m with
  | nil => simp
  | cons e rest ih =>
    obtain ⟨k', b⟩ := e
    by_cases hk : k = k'
    · subst hk
      by_cases hp : p k <;> simp [hp, List.lookup_cons_self, ih]
    · by_cases hp : p k' <;> simp [hp, lookup_cons_of_ne hk, ih]

theorem filter_key_eq_lookup {m : List (κ × β)} (hm : (m.map Prod.fst).Nodup) (k : κ) :
    m.filter (fun e => e.1 = k) = (m.lookup k).toList.map fun b => (k, b) := by
  induction m with
  | nil => simp
  | cons e rest ih =>
    obtain ⟨k', b⟩ := e
    rw [List.map_cons, List.nodup_cons] at hm
    by_cases hk : k' = k
    · subst hk
      have hrest : rest.lookup k' = none := by
        refine List.lookup_eq_none_iff.mpr fun a ha => ?_
        have hne : a.1 ≠ k' := fun heq => hm.1 (List.mem_map.mpr ⟨a, ha, heq⟩)
        exact bne_iff_ne.mpr (Ne.symm hne)
      simp [List.lookup_cons_self, ih hm.2, hrest]
    · simp [hk, lookup_cons_of_ne (Ne.symm hk), ih hm.2]

theorem lookup_aggregateInsert (op : Option β → κ → ν → Option β) (m : List (κ × β)) (key : κ)
    (value : ν) (k : κ) :
    (aggregateInsert op m key value).lookup k =
      if k = key then op (m.lookup key) key value else m.lookup k := by
  unfold aggregateInsert
  rw [List.lookup_append, lookup_filter_ne]
  by_cases hk : k = key
  · subst hk
    cases op (m.lookup k) k value <;> simp [List.lookup_cons_self]
  · cases op (m.lookup key) key value <;> simp [hk, lookup_cons_of_ne hk]

theorem nodup_aggregateInsert (op : Option β → κ → ν → Option β) {m : List (κ × β)}
    (hm : (m.map Prod.fst).Nodup) (key : κ) (value : ν) :
    ((aggregateInsert op m key value).map Prod.fst).Nodup := by
  unfold aggregateInsert
  rw [List.map_append, List.nodup_append]
  refine ⟨(hm.sublist (List.filter_sublist.map _)), ?_, ?_⟩
  · cases op (m.lookup key) key value <;> simp
  · -- the key was filtered out before it is put back
    intro a ha b hb
    cases h : op (m.lookup key) key value <;> simp only [h, Option.map_none, Option.map_some,
      Option.toList_none, Option.toList_some, List.map_nil, List.map_cons, List.not_mem_nil,
      List.mem_singleton] at hb
    rw [hb]
    obtain ⟨e, he, rfl⟩ := List.mem_map.mp ha
    simpa using (List.mem_filter.mp he).2

theorem lookup_aggregate (op : Option β → κ → ν → Option β) (l : List (κ × ν)) (k : κ) :
    (aggregate op l).lookup k = (valuesOf l k).foldl (fun acc v => op acc k v) none := by
  suffices h : ∀ (pre : List (κ × ν)) (m : List (κ × β)),
      (∀ k, m.lookup k = (valuesOf pre k).foldl (fun acc v => op acc k v) none) →
      ∀ k, (l.foldl (fun m p => aggregateInsert op m p.1 p.2) m).lookup k =
        (valuesOf (pre ++ l) k).foldl (fun acc v => op acc k v) none by
    simpa [aggregate] using h [] [] (fun k => by simp [valuesOf]) k
  induction l with
  | nil => simp
  | cons p rest ih =>
    intro pre m hm
    have hstep := ih (pre ++ [p]) (aggregateInsert op m p.1 p.2) fun k => by
      rw [lookup_aggregateInsert, valuesOf_append_singleton]
      split_ifs with hk
      · subst hk
        rw [List.foldl_append, ← hm]
        rfl
      · exact hm k
    simpa using hstep

theorem nodup_aggregate (op : Option β → κ → ν → Option β) (l : List (κ × ν)) :
    ((aggregate op l).map Prod.fst).Nodup := by
  suffices h : ∀ m : List (κ × β), (m.map Prod.fst).Nodup →
      ((l.foldl (fun m p => aggregateInsert op m p.1 p.2) m).map Prod.fst).Nodup from
    h [] List.nodup_nil
  induction l with
  | nil => exact fun _ hm => hm
  | cons p rest ih => exact fun m hm => ih _ (nodup_aggregateInsert op hm p.1 p.2)

theorem mem_aggregate_iff (op : Option β → κ → ν → Option β) (l : List (κ × ν)) (e : κ × β) :
    e ∈ aggregate op l ↔ (valuesOf l e.1).foldl (fun acc v => op acc e.1 v) none = some e.2 := by
  rw [mem_iff_lookup (nodup_aggregate op l), lookup_aggregate]

end Aggregate

section Sum

variable {κ : Type}

/-- `Some(acc.unwrap_or_default() + value)`. -/
def addValue (acc : Option ℕ) (_ : κ) (value : ℕ) : Option ℕ := some (acc.getD 0 + value)

theorem foldl_addValue (k : κ) (vs : List ℕ) (acc : Option ℕ) :
    vs.foldl (fun acc v => addValue acc k v) acc =
      if vs = [] then acc else some (acc.getD 0 + vs.sum) := by
  induction vs generalizing acc with
  | nil => simp
  | cons v rest ih =>
    rw [List.foldl_cons, ih]
    by_cases hrest : rest = [] <;> simp [hrest, addValue, Nat.add_assoc]

theorem mem_aggregate_addValue_iff [DecidableEq κ] (l : List (κ × ℕ)) (e : κ × ℕ) :
    e ∈ aggregate addValue l ↔ valuesOf l e.1 ≠ [] ∧ e.2 = (valuesOf l e.1).sum := by
  rw [mem_aggregate_iff, foldl_addValue]
  split_ifs with hvs
  · simp [hvs]
  · simp [hvs, eq_comm]

theorem sum_filter_ne_zero (vs : List ℕ) : (vs.filter fun v => v ≠ 0).sum = vs.sum := by
  induction vs with
  | nil => rfl
  | cons v rest ih =>
    rw [List.filter_cons]
    split_ifs with hv
    · rw [List.sum_cons, List.sum_cons, ih]
    · simp only [ne_eq, decide_eq_true_eq, not_not] at hv
      rw [List.sum_cons, hv, ih, Nat.zero_add]

theorem filter_ne_zero_ne_nil_iff (vs : List ℕ) : (vs.filter fun v => v ≠ 0) ≠ [] ↔ vs.sum ≠ 0 := by
  induction vs with
  | nil => simp
  | cons v rest ih =>
    rw [List.filter_cons, List.sum_cons]
    split_ifs with hv
    · simp only [ne_eq, decide_eq_true_eq] at hv
      simp only [ne_eq, reduceCtorEq, not_false_eq_true, true_iff]
      omega
    · simp only [ne_eq, decide_eq_true_eq, not_not] at hv
      rw [ih, hv, Nat.zero_add]

theorem lookup_aggregate_addValue_getD [DecidableEq κ] (l : List (κ × ℕ)) (k : κ) :
    ((aggregate addValue l).lookup k).getD 0 = (valuesOf l k).sum := by
  rw [lookup_aggregate, foldl_addValue]
  split_ifs with hvs <;> simp [hvs]

end Sum

theorem valuesOf_map {α κ ν : Type} [DecidableEq κ] (g : α → κ) (f : α → ν) (l : List α) (k : κ) :
    valuesOf (l.map fun a => (g a, f a)) k = (l.filter fun a => g a = k).map f := by
  simp [valuesOf, List.filter_map, Function.comp_def]

section Collect

variable {κ ν : Type} [DecidableEq κ]

/-- `HashMap::insert`: the key keeps the value inserted last. -/
def keepLast (_ : Option ν) (_ : κ) (value : ν) : Option ν := some value

/-- `collect()` of pairs into a hash map. -/
def collect (l : List (κ × ν)) : List (κ × ν) := aggregate keepLast l

theorem lookup_collect (l : List (κ × ν)) (k : κ) : (collect l).lookup k = (valuesOf l k).getLast? := by
  rw [collect, lookup_aggregate]
  suffices h : ∀ (vs : List ν) (acc : Option ν),
      vs.foldl (fun acc v => keepLast acc k v) acc = vs.getLast?.or acc from
    (h _ none).trans (by simp)
  intro vs
  induction vs with
  | nil => simp
  | cons v rest ih =>
    intro acc
    rw [List.foldl_cons, ih]
    cases rest with
    | nil => simp [keepLast]
    | cons w rest => simp [List.getLast?_eq_some_getLast (List.cons_ne_nil w rest)]

theorem collect_eq_of_nodup {l : List (κ × ν)} (hl : (l.map Prod.fst).Nodup) : collect l = l := by
  suffices h : ∀ m : List (κ × ν), (m.map Prod.fst ++ l.map Prod.fst).Nodup →
      l.foldl (fun m p => aggregateInsert keepLast m p.1 p.2) m = m ++ l by
    simpa [collect, aggregate] using h [] (by simpa using hl)
  clear hl
  induction l with
  | nil => simp
  | cons p rest ih =>
    intro m hm
    have hp : p.1 ∉ m.map Prod.fst := by
      intro hmem
      exact (List.nodup_append.mp hm).2.2 _ hmem _ (List.mem_cons_self ..) rfl
    have hfilter : (m.filter fun e => e.1 ≠ p.1) = m := by
      rw [List.filter_eq_self]
      rintro ⟨k, v⟩ he
      have hk : k ≠ p.1 := fun heq => hp (List.mem_map.mpr ⟨(k, v), he, heq⟩)
      simpa using hk
    have hinsert : aggregateInsert keepLast m p.1 p.2 = m ++ [p] := by
      unfold aggregateInsert
      rw [hfilter]
      simp [keepLast]
    rw [List.foldl_cons, hinsert, ih (m ++ [p]) (by simpa using hm)]
    simp

end Collect

section Join

variable {α γ κ : Type} [DecidableEq κ]

theorem sum_filter_or (f : α → ℕ) (p q : α → Bool) (l : List α)
    (h : ∀ a ∈ l, ¬(p a ∧ q a)) :
    ((l.filter fun a => p a || q a).map f).sum =
      ((l.filter p).map f).sum + ((l.filter q).map f).sum := by
  induction l with
  | nil => simp
  | cons a rest ih =>
    have hrest := ih fun b hb => h b (List.mem_cons_of_mem a hb)
    have ha := h a List.mem_cons_self
    by_cases hp : p a <;> by_cases hq : q a <;> simp_all <;> omega

theorem sum_sums_by_key (key : γ → κ) (P : γ → Bool) (file : α → κ) (f : α → ℕ) (A : List α)
    {V : List γ} (hV : (V.map key).Nodup) :
    ((V.filter P).map fun v => ((A.filter fun a => file a = key v).map f).sum).sum =
      ((A.filter fun a => V.any fun v => key v = file a && P v).map f).sum := by
  induction V with
  | nil => simp
  | cons v rest ih =>
    rw [List.map_cons, List.nodup_cons] at hV
    have hdisjoint : ∀ a ∈ A, ¬((key v = file a && P v) ∧ rest.any fun w => key w = file a && P w) := by
      intro a _ ⟨hv, hw⟩
      simp only [Bool.and_eq_true, decide_eq_true_eq, List.any_eq_true] at hv hw
      obtain ⟨w, hw, hkey, -⟩ := hw
      exact hV.1 (hv.1 ▸ hkey ▸ List.mem_map_of_mem hw)
    have hsplit := sum_filter_or f (fun a => key v = file a && P v)
      (fun a => rest.any fun w => key w = file a && P w) A hdisjoint
    simp only [List.any_cons]
    rw [hsplit, ← ih hV.2]
    by_cases hP : P v
    · simp [hP, eq_comm]
    · simp [hP]

end Join

end GroupMap
