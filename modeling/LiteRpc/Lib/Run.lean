import Mathlib.Logic.Relation
import Mathlib.Data.List.Chain

/-!
Runs of a deterministic step function over a sequence of actions, the states such runs reach,
and the two rules used on them: an invariant kept by every step holds in every reachable state,
and a relation that every step establishes from an invariant state holds along whole runs.
-/

namespace StepSystem

variable {σ α : Type} (step : σ → α → σ)

/-- The state after the actions, performed one after the other from `s`. -/
def run (s : σ) (actions : List α) : σ := actions.foldl step s

/-- One step of the system, by some action. -/
def Steps (s s' : σ) : Prop := ∃ a, step s a = s'

/-- The states reachable from `init` by some sequence of steps. -/
def Reachable (init s : σ) : Prop := Relation.ReflTransGen (Steps step) init s

variable {step}

@[simp] theorem run_nil (s : σ) : run step s [] = s := rfl

@[simp] theorem run_cons (s : σ) (a : α) (as : List α) :
    run step s (a :: as) = run step (step s a) as := rfl

theorem run_append (s : σ) (as bs : List α) :
    run step s (as ++ bs) = run step (run step s as) bs := List.foldl_append

theorem Reachable.refl (init : σ) : Reachable step init init := Relation.ReflTransGen.refl

theorem Reachable.next {init s : σ} (h : Reachable step init s) (a : α) :
    Reachable step init (step s a) :=
  Relation.ReflTransGen.tail h ⟨a, rfl⟩

section Invariant

variable (I : σ → Prop)

theorem Reachable.invariant {init s : σ} (h0 : I init) (hs : ∀ s a, I s → I (step s a))
    (h : Reachable step init s) : I s := by
  induction h with
  | refl => exact h0
  | tail _ hst ih =>
    obtain ⟨a, rfl⟩ := hst
    exact hs _ a ih

end Invariant

section Outputs

variable {ο β : Type} (emit : σ → α → List ο × σ)

/-- The outputs of the actions performed one after the other from `s`, in order, and the state
reached. -/
def runOutputs : σ → List α → List ο × σ
  | s, [] => ([], s)
  | s, a :: as =>
    let r := emit s a
    let r' := runOutputs r.2 as
    (r.1 ++ r'.1, r'.2)

variable {emit}

@[simp] theorem runOutputs_nil (s : σ) : runOutputs emit s [] = ([], s) := rfl

@[simp] theorem runOutputs_cons (s : σ) (a : α) (as : List α) :
    runOutputs emit s (a :: as) =
      ((emit s a).1 ++ (runOutputs emit (emit s a).2 as).1, (runOutputs emit (emit s a).2 as).2) :=
  rfl

theorem runOutputs_append (s : σ) (as bs : List α) :
    runOutputs emit s (as ++ bs) =
      ((runOutputs emit s as).1 ++ (runOutputs emit (runOutputs emit s as).2 bs).1,
        (runOutputs emit (runOutputs emit s as).2 bs).2) := by
  induction as generalizing s with
  | nil => simp
  | cons a as ih => simp [ih]

theorem runOutputs_invariant (I : σ → List ο → Prop)
    (hI : ∀ s out a, I s out → I (emit s a).2 (out ++ (emit s a).1)) {s : σ} (hs : I s [])
    (as : List α) : I (runOutputs emit s as).2 (runOutputs emit s as).1 := by
  suffices h : ∀ (s : σ) (out : List ο), I s out →
      I (runOutputs emit s as).2 (out ++ (runOutputs emit s as).1) by
    simpa using h s [] hs
  induction as with
  | nil => intro s out h; simpa using h
  | cons a as ih =>
    intro s out h
    simpa using ih _ _ (hI s out a h)

theorem runOutputs_history (P : List α → Prop) (hP : ∀ l l', P (l ++ l') → P l)
    (I : σ → List ο → List α → Prop)
    (hI : ∀ s out as a, I s out as → P (as ++ [a]) → I (emit s a).2 (out ++ (emit s a).1) (as ++ [a]))
    {s : σ} {out : List ο} {as : List α} (hs : I s out as) (rest : List α) (hrest : P (as ++ rest)) :
    I (runOutputs emit s rest).2 (out ++ (runOutputs emit s rest).1) (as ++ rest) := by
  induction rest generalizing s out as with
  | nil => simpa using hs
  | cons a rest ih =>
    have hrest' : P ((as ++ [a]) ++ rest) := by simpa using hrest
    have h₁ := hI s out as a hs (hP _ _ hrest')
    simpa using ih h₁ hrest'

end Outputs

end StepSystem

namespace StepSystem

section Fallible

variable {ε σ α : Type} (step : σ → α → Except ε σ)

theorem foldlM_ok_of_invariant_on (P : α → Prop) (I : σ → List α → Prop)
    (h : ∀ s done a, P a → I s done → ∃ s', step s a = .ok s' ∧ I s' (done ++ [a]))
    {s : σ} {done : List α} (hs : I s done) {as : List α} (has : ∀ a ∈ as, P a) :
    ∃ s', as.foldlM step s = .ok s' ∧ I s' (done ++ as) := by
  induction as generalizing s done with
  | nil => exact ⟨s, rfl, by simpa using hs⟩
  | cons a as ih =>
    obtain ⟨s₁, hstep, hs₁⟩ := h s done a (has a List.mem_cons_self) hs
    obtain ⟨s', hrun, hs'⟩ := ih hs₁ fun b hb => has b (List.mem_cons_of_mem a hb)
    refine ⟨s', ?_, by simpa using hs'⟩
    rw [List.foldlM_cons, hstep]
    exact hrun

theorem foldlM_ok_of_invariant (I : σ → List α → Prop)
    (h : ∀ s done a, I s done → ∃ s', step s a = .ok s' ∧ I s' (done ++ [a]))
    {s : σ} {done : List α} (hs : I s done) (as : List α) :
    ∃ s', as.foldlM step s = .ok s' ∧ I s' (done ++ as) :=
  foldlM_ok_of_invariant_on step (fun _ => True) I (fun s done a _ => h s done a) hs
    fun _ _ => trivial

end Fallible

end StepSystem
