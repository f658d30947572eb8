import Mathlib.Order.Basic
import Mathlib.Data.List.Pairwise
import Mathlib.Data.Nat.Basic
import Mathlib.Data.List.Nodup
import Mathlib.Order.Lattice
import Mathlib.Algebra.GroupWithZero.Nat

/-!
An ordered map in the manner of Rust's `BTreeMap`: the entries are kept in strictly increasing
key order, so that the first and last entries are those of the least and greatest keys.
Nothing here is specific to one program.
-/

namespace BTreeMap

variable {κ β : Type} [LinearOrder κ]

/-- Inserts an entry into a key-sorted list, replacing the value of an equal key. -/
def insertEntry (k : κ) (v : β) : List (κ × β) → List (κ × β)
  | [] => [(k, v)]
  | e :: rest =>
    if k < e.1 then (k, v) :: e :: rest
    else if k = e.1 then (k, v) :: rest
    else e :: insertEntry k v rest

theorem mem_insertEntry {k : κ} {v : β} {l : List (κ × β)} {p : κ × β} :
    p ∈ insertEntry k v l → p = (k, v) ∨ p ∈ l := by
  induction l with
  | nil => simp [insertEntry]
  | cons e rest ih =>
    simp only [insertEntry]
    split_ifs <;> grind

theorem insertEntry_sorted {k : κ} {v : β} {l : List (κ × β)}
    (h : l.Pairwise (fun a b => a.1 < b.1)) :
    (insertEntry k v l).Pairwise (fun a b => a.1 < b.1) := by
  induction l with
  | nil => simp [insertEntry]
  | cons e rest ih =>
    rw [List.pairwise_cons] at h
    simp only [insertEntry]
    split_ifs with hlt heq
    · refine List.Pairwise.cons ?_ (List.Pairwise.cons h.1 h.2)
      intro q hq
      rcases List.mem_cons.mp hq with rfl | hq
      · exact hlt
      · exact lt_trans hlt (h.1 q hq)
    · refine List.Pairwise.cons ?_ h.2
      intro q hq
      exact heq ▸ h.1 q hq
    · refine List.Pairwise.cons ?_ (ih h.2)
      intro q hq
      rcases mem_insertEntry hq with rfl | hq
      · exact lt_of_le_of_ne (not_lt.mp hlt) (Ne.symm heq)
      · exact h.1 q hq

end BTreeMap

/-- A finite map whose entries are sorted by key, as a `BTreeMap` stores them. -/
structure BTreeMap (κ β : Type) [LinearOrder κ] where
  entries : List (κ × β)
  sorted : entries.Pairwise (fun a b => a.1 < b.1)

namespace BTreeMap

variable {κ β : Type} [LinearOrder κ]

def empty : BTreeMap κ β := ⟨[], List.Pairwise.nil⟩

def get (m : BTreeMap κ β) (k : κ) : Option β := m.entries.lookup k

def insert (m : BTreeMap κ β) (k : κ) (v : β) : BTreeMap κ β :=
  ⟨insertEntry k v m.entries, insertEntry_sorted m.sorted⟩

def len (m : BTreeMap κ β) : Nat := m.entries.length

def firstKeyValue (m : BTreeMap κ β) : Option (κ × β) := m.entries.head?

def lastKeyValue (m : BTreeMap κ β) : Option (κ × β) := m.entries.getLast?

def popFirst (m : BTreeMap κ β) : BTreeMap κ β := ⟨m.entries.tail, m.sorted.sublist (List.tail_sublist _)⟩

@[simp] theorem entries_insert (m : BTreeMap κ β) (k : κ) (v : β) :
    (m.insert k v).entries = insertEntry k v m.entries := rfl

@[simp] theorem entries_popFirst (m : BTreeMap κ β) : m.popFirst.entries = m.entries.tail := rfl

@[simp] theorem empty_entries : (empty : BTreeMap κ β).entries = [] := rfl

theorem get_eq_some_iff {m : BTreeMap κ β} {k : κ} {v : β} :
    m.get k = some v ↔ (k, v) ∈ m.entries := by
  obtain ⟨l, hl⟩ := m
  simp only [get]
  induction l with
  | nil => simp
  | cons e rest ih =>
    rw [List.pairwise_cons] at hl
    obtain ⟨k', v'⟩ := e
    by_cases hk : k = k'
    · subst hk
      have hnot : (k, v) ∉ rest := fun hm => lt_irrefl k (hl.1 (k, v) hm)
      simp [hnot, eq_comm]
    · have hne : (k == k') = false := by simpa using hk
      simp [List.lookup_cons, hne, ih hl.2, hk]

theorem mem_insert {m : BTreeMap κ β} {k : κ} {v : β} {p : κ × β}
    (h : p ∈ (m.insert k v).entries) : p = (k, v) ∨ p ∈ m.entries :=
  mem_insertEntry h

theorem mem_insert_self (m : BTreeMap κ β) (k : κ) (v : β) : (k, v) ∈ (m.insert k v).entries := by
  rw [← get_eq_some_iff]
  obtain ⟨l, hl⟩ := m
  simp only [get, entries_insert]
  induction l with
  | nil => simp [insertEntry]
  | cons e rest ih =>
    rw [List.pairwise_cons] at hl
    obtain ⟨k', v'⟩ := e
    simp only [insertEntry]
    split_ifs with hlt heq
    · simp
    · simp
    · have hne : (k == k') = false := by simpa using heq
      simp [List.lookup_cons, hne, ih hl.2]

theorem mem_insert_of_mem {m : BTreeMap κ β} {k : κ} {v : β} {p : κ × β}
    (hp : p ∈ m.entries) (hk : p.1 ≠ k) : p ∈ (m.insert k v).entries := by
  obtain ⟨l, hl⟩ := m
  simp only [entries_insert] at hp ⊢
  induction l with
  | nil => simp at hp
  | cons e rest ih =>
    rw [List.pairwise_cons] at hl
    simp only [insertEntry]
    rcases List.mem_cons.mp hp with rfl | hp
    · split_ifs with hlt heq
      · simp
      · exact absurd heq.symm hk
      · simp
    · split_ifs with hlt heq
      · simp [hp]
      · simp [hp]
      · exact List.mem_cons_of_mem _ (ih hl.2 hp)

theorem get_insert (m : BTreeMap κ β) (k k' : κ) (v : β) :
    (m.insert k v).get k' = if k' = k then some v else m.get k' := by
  split_ifs with h
  · subst h
    exact get_eq_some_iff.mpr (mem_insert_self m k' v)
  · cases hg : m.get k' with
    | none =>
      cases hg' : (m.insert k v).get k' with
      | none => rfl
      | some w =>
        rcases mem_insert (get_eq_some_iff.mp hg') with he | hm
        · exact absurd (Prod.mk.inj he).1 h
        · simp [get_eq_some_iff.mpr hm] at hg
    | some w => exact get_eq_some_iff.mpr (mem_insert_of_mem (get_eq_some_iff.mp hg) h)

theorem le_of_lastKeyValue {m : BTreeMap κ β} {p q : κ × β}
    (hq : m.lastKeyValue = some q) (hp : p ∈ m.entries) : p.1 ≤ q.1 := by
  obtain ⟨ys, hys⟩ := List.getLast?_eq_some_iff.mp hq
  have hs := m.sorted
  rw [hys] at hp hs
  rcases List.mem_append.mp hp with hp | hp
  · exact le_of_lt (List.pairwise_append.mp hs |>.2.2 p hp q (by simp))
  · simp at hp
    rw [hp]

theorem lastKeyValue_mem {m : BTreeMap κ β} {q : κ × β} (hq : m.lastKeyValue = some q) :
    q ∈ m.entries :=
  List.mem_of_getLast? hq

theorem lastKeyValue_isSome {m : BTreeMap κ β} (h : m.entries ≠ []) :
    ∃ q, m.lastKeyValue = some q := by
  simpa [lastKeyValue, Option.isSome_iff_exists] using List.getLast?_isSome.mpr h

theorem insert_entries_ne_nil (m : BTreeMap κ β) (k : κ) (v : β) :
    (m.insert k v).entries ≠ [] :=
  List.ne_nil_of_mem (mem_insert_self m k v)

end BTreeMap

namespace BTreeMap

variable {κ β : Type} [LinearOrder κ]

theorem exists_lastKeyValue_insert (m : BTreeMap κ β) (k : κ) (v : β) :
    ∃ q, (m.insert k v).lastKeyValue = some q :=
  lastKeyValue_isSome (insert_entries_ne_nil m k v)

theorem le_lastKeyValue_insert {m : BTreeMap κ β} {k : κ} {v : β} {q : κ × β}
    (hq : (m.insert k v).lastKeyValue = some q) : k ≤ q.1 :=
  le_of_lastKeyValue hq (mem_insert_self m k v)

theorem lastKeyValue_le_insert {m : BTreeMap κ β} {k : κ} {v : β} {q q' : κ × β}
    (hq : m.lastKeyValue = some q) (hq' : (m.insert k v).lastKeyValue = some q') : q.1 ≤ q'.1 := by
  by_cases hk : q.1 = k
  · exact hk ▸ le_lastKeyValue_insert hq'
  · exact le_of_lastKeyValue hq' (mem_insert_of_mem (lastKeyValue_mem hq) hk)

theorem eq_of_mem_of_key_eq {m : BTreeMap κ β} {p p' : κ × β} (hp : p ∈ m.entries)
    (hp' : p' ∈ m.entries) (hk : p.1 = p'.1) : p = p' := by
  have h₁ := get_eq_some_iff.mpr hp
  have h₂ := get_eq_some_iff.mpr hp'
  rw [hk, h₂] at h₁
  exact Prod.ext hk (Option.some.inj h₁).symm

theorem lastKeyValue_insert {m : BTreeMap κ β} {k : κ} {v : β} {q : κ × β}
    (hq : m.lastKeyValue = some q) :
    (m.insert k v).lastKeyValue = if q.1 ≤ k then some (k, v) else some q := by
  obtain ⟨q', hq'⟩ := exists_lastKeyValue_insert m k v
  have hkq' := le_lastKeyValue_insert hq'
  have hqq' := lastKeyValue_le_insert hq hq'
  have hmem := lastKeyValue_mem hq'
  rw [hq']
  split_ifs with hqk
  · rcases mem_insert hmem with rfl | hold
    · rfl
    · have hle := le_of_lastKeyValue hq hold
      have he : q'.1 = k := le_antisymm (hle.trans hqk) hkq'
      exact congrArg some (eq_of_mem_of_key_eq hmem (mem_insert_self m k v) he)
  · rcases mem_insert hmem with rfl | hold
    · exact absurd (hqq'.trans hkq') (by simpa using hqk)
    · have hle := le_of_lastKeyValue hq hold
      exact congrArg some (eq_of_mem_of_key_eq (m := m) hold (lastKeyValue_mem hq)
        (le_antisymm hle hqq'))

theorem lastKeyValue_insert_of_le {m : BTreeMap κ β} {k : κ} (v : β)
    (h : ∀ e ∈ m.entries, e.1 ≤ k) : (m.insert k v).lastKeyValue = some (k, v) := by
  cases hq : m.lastKeyValue with
  | none =>
    have hnil : m.entries = [] := List.getLast?_eq_none_iff.mp hq
    simp [lastKeyValue, hnil, insertEntry]
  | some q => rw [lastKeyValue_insert hq, if_pos (h q (lastKeyValue_mem hq))]

/-- The loop `while first_key_value() <= k { pop_first() }`: drops the entries of the keys up to
`k`. -/
def popFirstUpTo (m : BTreeMap κ β) (k : κ) : BTreeMap κ β :=
  ⟨m.entries.dropWhile (fun e => e.1 ≤ k), m.sorted.sublist (List.dropWhile_sublist _)⟩

theorem mem_popFirstUpTo {m : BTreeMap κ β} {k : κ} {e : κ × β}
    (he : e ∈ (m.popFirstUpTo k).entries) : e ∈ m.entries :=
  List.dropWhile_subset _ he

theorem lastKeyValue_popFirstUpTo {m : BTreeMap κ β} {k : κ} {q : κ × β}
    (hq : m.lastKeyValue = some q) (hk : k < q.1) : (m.popFirstUpTo k).lastKeyValue = some q := by
  obtain ⟨ys, hys⟩ := List.getLast?_eq_some_iff.mp hq
  have hkeep : ¬q.1 ≤ k := not_le.mpr hk
  simp only [popFirstUpTo, lastKeyValue, hys, List.dropWhile_append]
  split <;> simp [hkeep]

end BTreeMap


namespace BTreeMap

variable {κ β γ : Type} [LinearOrder κ]

/-- `BTreeMap::remove`: drops the entry of the key, if there is one. -/
def remove (m : BTreeMap κ β) (k : κ) : BTreeMap κ β :=
  ⟨m.entries.filter (fun e => e.1 ≠ k), m.sorted.sublist List.filter_sublist⟩

/-- The map with every value transformed in place, as a pass of `iter_mut` leaves it. -/
def mapValues (f : β → γ) (m : BTreeMap κ β) : BTreeMap κ γ :=
  ⟨m.entries.map (fun e => (e.1, f e.2)), List.pairwise_map.mpr m.sorted⟩

@[simp] theorem entries_mapValues (f : β → γ) (m : BTreeMap κ β) :
    (m.mapValues f).entries = m.entries.map (fun e => (e.1, f e.2)) := rfl

theorem mem_remove {m : BTreeMap κ β} {k : κ} {p : κ × β} :
    p ∈ (m.remove k).entries ↔ p ∈ m.entries ∧ p.1 ≠ k := by
  simp [remove]

theorem get_remove (m : BTreeMap κ β) (k k' : κ) :
    (m.remove k).get k' = if k' = k then none else m.get k' := by
  split_ifs with h
  · cases hg : (m.remove k).get k' with
    | none => rfl
    | some w => exact absurd h (mem_remove.mp (get_eq_some_iff.mp hg)).2
  · cases hg : m.get k' with
    | none =>
      cases hg' : (m.remove k).get k' with
      | none => rfl
      | some w => simp [get_eq_some_iff.mpr (mem_remove.mp (get_eq_some_iff.mp hg')).1] at hg
    | some w => exact get_eq_some_iff.mpr (mem_remove.mpr ⟨get_eq_some_iff.mp hg, h⟩)

theorem remove_entries_of_get_none {m : BTreeMap κ β} {k : κ} (h : m.get k = none) :
    (m.remove k).entries = m.entries := by
  apply List.filter_eq_self.mpr
  intro p hp
  have hk : p.1 ≠ k := by
    intro hpk
    have hg := get_eq_some_iff.mpr hp
    rw [hpk, h] at hg
    cases hg
  simpa using hk

theorem filter_ne_of_lt {l : List (κ × β)} {k : κ} (h : ∀ p ∈ l, k < p.1) :
    l.filter (fun e => e.1 ≠ k) = l :=
  List.filter_eq_self.mpr fun p hp => by simpa using (h p hp).ne'

theorem perm_cons_filter_of_mem {l : List (κ × β)} (hl : l.Pairwise (fun a b => a.1 < b.1))
    {k : κ} {v : β} (h : (k, v) ∈ l) : l.Perm ((k, v) :: l.filter (fun e => e.1 ≠ k)) := by
  induction l with
  | nil => simp at h
  | cons e rest ih =>
    rw [List.pairwise_cons] at hl
    rcases List.mem_cons.mp h with rfl | h
    · -- the entry of `k` comes first and every later key is above `k`
      rw [List.filter_cons_of_neg (by simp), filter_ne_of_lt hl.1]
    · have hek : e.1 ≠ k := (hl.1 _ h).ne
      rw [List.filter_cons_of_pos (by simpa using hek)]
      exact ((ih hl.2 h).cons e).trans (List.Perm.swap _ _ _)

theorem insertEntry_perm {l : List (κ × β)} (hl : l.Pairwise (fun a b => a.1 < b.1)) (k : κ)
    (v : β) : (insertEntry k v l).Perm ((k, v) :: l.filter (fun e => e.1 ≠ k)) := by
  induction l with
  | nil => simp [insertEntry]
  | cons e rest ih =>
    rw [List.pairwise_cons] at hl
    simp only [insertEntry]
    split_ifs with hlt heq
    · have hall : ∀ p ∈ e :: rest, k < p.1 := by
        intro p hp
        rcases List.mem_cons.mp hp with rfl | hp
        · exact hlt
        · exact lt_trans hlt (hl.1 p hp)
      rw [filter_ne_of_lt hall]
    · have hall : ∀ p ∈ rest, k < p.1 := fun p hp => heq ▸ hl.1 p hp
      rw [List.filter_cons_of_neg (by simpa using heq.symm), filter_ne_of_lt hall]
    · have hek : e.1 ≠ k := fun h => heq h.symm
      rw [List.filter_cons_of_pos (by simpa using hek)]
      exact ((ih hl.2).cons e).trans (List.Perm.swap _ _ _)

theorem entries_perm_of_get {m : BTreeMap κ β} {k : κ} {v : β} (h : m.get k = some v) :
    m.entries.Perm ((k, v) :: (m.remove k).entries) :=
  perm_cons_filter_of_mem m.sorted (get_eq_some_iff.mp h)

theorem entries_insert_perm (m : BTreeMap κ β) (k : κ) (v : β) :
    (m.insert k v).entries.Perm ((k, v) :: (m.remove k).entries) :=
  insertEntry_perm m.sorted k v

theorem firstKeyValue_mem {m : BTreeMap κ β} {q : κ × β} (hq : m.firstKeyValue = some q) :
    q ∈ m.entries :=
  List.mem_of_head? hq

theorem firstKeyValue_le {m : BTreeMap κ β} {p q : κ × β} (hq : m.firstKeyValue = some q)
    (hp : p ∈ m.entries) : q.1 ≤ p.1 := by
  obtain ⟨l, hl⟩ := m
  cases l with
  | nil => simp at hp
  | cons e rest =>
    simp only [firstKeyValue, List.head?_cons, Option.some.injEq] at hq
    subst hq
    rw [List.pairwise_cons] at hl
    rcases List.mem_cons.mp hp with rfl | hp
    · exact le_rfl
    · exact (hl.1 p hp).le

theorem firstKeyValue_insert_of_lt {m : BTreeMap κ β} {q : κ × β} (hq : m.firstKeyValue = some q)
    {k : κ} (hk : q.1 < k) (v : β) : (m.insert k v).firstKeyValue = some q := by
  obtain ⟨l, hl⟩ := m
  cases l with
  | nil => cases hq
  | cons e rest =>
    simp only [firstKeyValue, List.head?_cons, Option.some.injEq] at hq
    subst hq
    simp [firstKeyValue, insertEntry, not_lt.mpr hk.le, hk.ne']

theorem firstKeyValue_isSome {m : BTreeMap κ β} (h : m.entries ≠ []) :
    ∃ q, m.firstKeyValue = some q := by
  obtain ⟨l, hl⟩ := m
  cases l with
  | nil => exact absurd rfl h
  | cons e rest => exact ⟨e, rfl⟩

/-- `contains`: whether the map holds an entry of the key. -/
def containsKey (m : BTreeMap κ β) (k : κ) : Bool := (m.get k).isSome

theorem containsKey_eq_false {m : BTreeMap κ β} {k : κ} (h : m.containsKey k = false) (v : β) :
    (k, v) ∉ m.entries := by
  intro hmem
  simp [containsKey, get_eq_some_iff.mpr hmem] at h

theorem len_insert_of_containsKey_eq_false {m : BTreeMap κ β} {k : κ}
    (h : m.containsKey k = false) (v : β) : (m.insert k v).len = m.len + 1 := by
  have hnone : m.get k = none := by simpa [containsKey] using h
  have hperm := entries_insert_perm m k v
  rw [remove_entries_of_get_none hnone] at hperm
  rw [len, len, hperm.length_eq, List.length_cons]

@[simp] theorem len_popFirst (m : BTreeMap κ β) : m.popFirst.len = m.len - 1 := by
  simp [len]

theorem mem_of_mem_popFirst {m : BTreeMap κ β} {p : κ × β} (hp : p ∈ m.popFirst.entries) :
    p ∈ m.entries :=
  List.mem_of_mem_tail hp

theorem mem_popFirst_or_lt {m : BTreeMap κ β} {p : κ × β} (hp : p ∈ m.entries) :
    p ∈ m.popFirst.entries ∨ ∀ e ∈ m.popFirst.entries, p.1 < e.1 := by
  obtain ⟨l, hl⟩ := m
  cases l with
  | nil => simp at hp
  | cons first rest =>
    rw [List.pairwise_cons] at hl
    rcases List.mem_cons.mp hp with rfl | hp
    · exact .inr hl.1
    · exact .inl hp

theorem entries_foldl_remove (m : BTreeMap κ β) (ks : List κ) :
    (ks.foldl remove m).entries = m.entries.filter (fun e => e.1 ∉ ks) := by
  induction ks generalizing m with
  | nil => exact (List.filter_eq_self.mpr fun _ _ => rfl).symm
  | cons k ks ih =>
    rw [List.foldl_cons, ih, remove, List.filter_filter]
    refine List.filter_congr fun e _ => ?_
    simp [Bool.and_comm]

theorem key_mem_keys_filter {m : BTreeMap κ β} {e : κ × β} (he : e ∈ m.entries)
    (p : κ × β → Bool) : e.1 ∈ (m.entries.filter p).map (·.1) ↔ p e = true := by
  simp only [List.mem_map, List.mem_filter]
  constructor
  · rintro ⟨e', ⟨he', hp⟩, hkey⟩
    rwa [eq_of_mem_of_key_eq he' he hkey] at hp
  · exact fun hp => ⟨e, ⟨he, hp⟩, rfl⟩

theorem entries_foldl_remove_keys_filter (m : BTreeMap κ β) (p : κ × β → Bool) :
    (((m.entries.filter p).map (·.1)).foldl remove m).entries = m.entries.filter (fun e => !p e) := by
  rw [entries_foldl_remove]
  refine List.filter_congr fun e he => ?_
  simp [key_mem_keys_filter he p]

theorem map_fst_entries_eq_range {m : BTreeMap ℕ β} {n : ℕ} (h : ∀ k, (m.get k).isSome ↔ k < n) :
    m.entries.map Prod.fst = List.range n := by
  have hsorted : (m.entries.map Prod.fst).Pairwise (· < ·) := List.pairwise_map.mpr m.sorted
  have hmem : ∀ k, k ∈ m.entries.map Prod.fst ↔ k ∈ List.range n := by
    intro k
    rw [List.mem_range, ← h k, Option.isSome_iff_exists]
    simp [get_eq_some_iff]
  have hperm : (m.entries.map Prod.fst).Perm (List.range n) :=
    (List.perm_ext_iff_of_nodup hsorted.nodup List.nodup_range).mpr hmem
  exact hperm.eq_of_pairwise (fun a b _ _ hab hba => absurd (lt_trans hab hba) (lt_irrefl a))
    hsorted List.pairwise_lt_range

theorem getElem?_map_snd_entries {m : BTreeMap ℕ β} {n : ℕ} (h : ∀ k, (m.get k).isSome ↔ k < n)
    (k : ℕ) : (m.entries.map Prod.snd)[k]? = m.get k := by
  have hkeys := map_fst_entries_eq_range h
  have hlength : m.entries.length = n := by simpa using congrArg List.length hkeys
  by_cases hk : k < n
  · have hlt : k < m.entries.length := hlength ▸ hk
    have hkey : m.entries[k].1 = k := by
      simpa [hlt, hk] using congrArg (fun l => l[k]?) hkeys
    have hentry : m.entries[k] = (k, m.entries[k].2) := Prod.ext hkey rfl
    have hmem : (k, m.entries[k].2) ∈ m.entries := by
      rw [← hentry]
      exact List.getElem_mem hlt
    rw [get_eq_some_iff.mpr hmem]
    simp [hlt]
  · have hnone : m.get k = none := by
      rw [← Option.not_isSome_iff_eq_none, h k]
      exact hk
    rw [hnone]
    simp [hlength, Nat.le_of_not_lt hk]

end BTreeMap
