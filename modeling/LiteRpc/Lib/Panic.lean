import Mathlib.Data.List.Basic

/-!
The panics of the Rust standard library that modelled code can reach, as the errors of
`Except String`: a computation that may panic returns its value, or the message the panic prints.
A function whose own result is a `Result` returns `Except String (Except ε α)`, the panic outside
and the function's `Err` inside.
-/

namespace Rust

variable {α β ε : Type}

@[simp] theorem ok_bind (a : α) (f : α → Except ε β) : (Except.ok a >>= f) = f a := rfl

@[simp] theorem pure_eq_ok (a : α) : (pure a : Except ε α) = .ok a := rfl

@[simp] theorem error_bind (e : ε) (f : α → Except ε β) : (Except.error e >>= f) = .error e := rfl

theorem mapM_eq_ok_of_forall {f : α → Except ε β} {g : α → β} :
    ∀ {l : List α}, (∀ x ∈ l, f x = .ok (g x)) → l.mapM f = .ok (l.map g)
  | [], _ => rfl
  | x :: l, h => by
    have hrest := mapM_eq_ok_of_forall fun y hy => h y (List.mem_cons_of_mem x hy)
    simp [List.mapM_cons, h x List.mem_cons_self, hrest]

/-- The message of an index past the end of a slice. -/
def indexOutOfBounds (len index : Nat) : String :=
  "index out of bounds: the len is " ++ toString len ++ " but the index is " ++ toString index

/-- `xs[i]` on a slice or a `Vec`. -/
def index (xs : List α) (i : Nat) : Except String α :=
  match xs[i]? with
  | some x => .ok x
  | none => .error (indexOutOfBounds xs.length i)

theorem index_of_lt {xs : List α} {i : Nat} (h : i < xs.length) : index xs i = .ok xs[i] := by
  simp [index, h]

@[simp] theorem index_cons_zero (x : α) (xs : List α) : index (x :: xs) 0 = .ok x := rfl

theorem index_of_le {xs : List α} {i : Nat} (h : xs.length ≤ i) :
    index xs i = .error (indexOutOfBounds xs.length i) := by
  simp [index, List.getElem?_eq_none h]

/-- `OnceCell::set`: an empty cell takes the value; a full one hands it back. -/
def OnceCell.set (cell : Option α) (value : α) : Except α (Option α) :=
  match cell with
  | none => .ok (some value)
  | some _ => .error value

/-- `Result::expect`: the value, or a panic with the message and the error's `Debug` text. -/
def expect [ToString ε] (r : Except ε α) (msg : String) : Except String α :=
  match r with
  | .ok a => .ok a
  | .error e => .error (msg ++ ": " ++ toString e)

/-- `Result::unwrap`: the value, or a panic with the error's `Debug` text. -/
def unwrap [ToString ε] (r : Except ε α) : Except String α :=
  match r with
  | .ok a => .ok a
  | .error e => .error ("called `Result::unwrap()` on an `Err` value: " ++ toString e)

@[simp] theorem expect_set_none [ToString α] (value : α) (msg : String) :
    expect (OnceCell.set none value) msg = .ok (some value) := rfl

@[simp] theorem expect_set_some [ToString α] (old value : α) (msg : String) :
    expect (OnceCell.set (some old) value) msg = .error (msg ++ ": " ++ toString value) := rfl

end Rust
