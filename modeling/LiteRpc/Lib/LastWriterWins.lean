import Mathlib.Logic.Function.Basic
import Mathlib.Order.Basic

/-!
Maps of timestamped values under last-writer-wins: a write replaces the value stored under its
key unless that value is newer, and a removal at a time drops the stored value unless it is newer.
Both rewrite the value at one key as a function of the value there, so two operations on one key
commute exactly when these functions do. There is no tombstone: the removal of an absent key
leaves nothing behind, and a write older than the removal still lands after it.
-/

namespace LastWriterWins

variable {κ α : Type} [DecidableEq κ]

/-- Rewrite the value at `k` as a function of the value there. -/
def atKey (k : κ) (f : Option α → Option α) (map : κ → Option α) : κ → Option α :=
  Function.update map k (f (map k))

@[simp] theorem atKey_self (k : κ) (f : Option α → Option α) (map : κ → Option α) :
    atKey k f map k = f (map k) :=
  Function.update_self k _ map

theorem atKey_atKey (k : κ) (f g : Option α → Option α) (map : κ → Option α) :
    atKey k g (atKey k f map) = atKey k (g ∘ f) map := by
  simp [atKey]

section Stamped

variable (stamp : α → ℕ)

/-- What a write of `v` leaves at its key: `v`, unless the stored value is newer. -/
def winner (v : α) : Option α → Option α
  | some stored => if stamp stored ≤ stamp v then some v else some stored
  | none => some v

/-- What a removal at time `t` leaves at its key: nothing, unless the stored value is newer. -/
def survivor (t : ℕ) : Option α → Option α
  | some stored => if stamp stored ≤ t then none else some stored
  | none => none

/-- Write `v` under its key: an occupied entry takes it unless its value is newer, a vacant one
takes it. -/
def write (key : α → κ) (map : κ → Option α) (v : α) : κ → Option α :=
  match map (key v) with
  | some stored => if stamp stored ≤ stamp v then Function.update map (key v) (some v) else map
  | none => Function.update map (key v) (some v)

/-- Remove the value under `k` unless it is newer than `t`; `absent` is the answer for a key with
no value, as `unwrap_or` gives it. -/
def erase (absent : Bool) (map : κ → Option α) (k : κ) (t : ℕ) : κ → Option α :=
  if ((map k).map fun stored => decide (stamp stored ≤ t)).getD absent then
    Function.update map k none
  else map

theorem write_eq_atKey (key : α → κ) (map : κ → Option α) (v : α) :
    write stamp key map v = atKey (key v) (winner stamp v) map := by
  unfold write atKey
  cases h : map (key v) with
  | none => rfl
  | some stored =>
    by_cases hle : stamp stored ≤ stamp v
    · simp [winner, hle]
    · simp [winner, hle, ← h]

theorem erase_eq_atKey (absent : Bool) (map : κ → Option α) (k : κ) (t : ℕ) :
    erase stamp absent map k t = atKey k (survivor stamp t) map := by
  unfold erase atKey
  cases h : map k with
  | none =>
    have hself : Function.update map k none = map := by
      rw [← h, Function.update_eq_self]
    cases absent <;> simp [survivor, hself]
  | some stored =>
    by_cases hle : stamp stored ≤ t
    · simp [survivor, hle]
    · have hself : Function.update map k (some stored) = map := by
        rw [← h, Function.update_eq_self]
      simp [survivor, hle, hself]

theorem winner_survivor_comm {v : α} {t : ℕ} (h : t < stamp v) (o : Option α) :
    winner stamp v (survivor stamp t o) = survivor stamp t (winner stamp v o) := by
  cases o with
  | none => simp [winner, survivor, Nat.not_le.mpr h]
  | some s =>
    by_cases hs : stamp s ≤ t
    · simp [winner, survivor, hs, Nat.le_trans hs (Nat.le_of_lt h), Nat.not_le.mpr h]
    · by_cases hv : stamp s ≤ stamp v <;> simp [winner, survivor, hs, hv, Nat.not_le.mpr h]

theorem survivor_winner_of_lt {v : α} {t : ℕ} (h : stamp v < t) {o : Option α}
    (ho : ∀ s, o = some s → stamp s ≤ t) :
    survivor stamp t (winner stamp v o) = none ∧ winner stamp v (survivor stamp t o) = some v := by
  cases o with
  | none => simp [winner, survivor, Nat.le_of_lt h]
  | some s =>
    have hs := ho s rfl
    by_cases hv : stamp s ≤ stamp v <;> simp [winner, survivor, hs, hv, Nat.le_of_lt h]

theorem survivor_winner_of_newer {v : α} {t : ℕ} (h : stamp v < t) {s : α} (hs : t < stamp s) :
    survivor stamp t (winner stamp v (some s)) = some s ∧
      winner stamp v (survivor stamp t (some s)) = some s := by
  have hsv : ¬stamp s ≤ stamp v := by omega
  simp [winner, survivor, hsv, Nat.not_le.mpr hs]

end Stamped

end LastWriterWins
