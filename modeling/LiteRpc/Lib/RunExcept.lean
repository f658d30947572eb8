import LiteRpc.Lib.Run

/-!
Runs of a step that can fail and emits outputs: the outputs of the actions performed one after the
other and the state reached, or the first failure. An invariant of the state, the outputs so far
and the actions so far that every allowed step keeps, succeeding, holds at the end of a run of
allowed actions, which succeeds.
-/

namespace StepSystem

section OutputsExcept

variable {ε σ α ο : Type} (emit : σ → α → Except ε (List ο × σ))

/-- The outputs and the state after the actions from `s`, or the first failure. -/
def runOutputsE : σ → List α → Except ε (List ο × σ)
  | s, [] => .ok ([], s)
  | s, a :: as => do
    let r ← emit s a
    let r' ← runOutputsE r.2 as
    pure (r.1 ++ r'.1, r'.2)

variable {emit}

@[simp] theorem runOutputsE_nil (s : σ) : runOutputsE emit s [] = .ok ([], s) := rfl

theorem runOutputsE_cons_of_ok {s : σ} {a : α} {r : List ο × σ} (h : emit s a = .ok r)
    (as : List α) :
    runOutputsE emit s (a :: as) = (runOutputsE emit r.2 as).map fun r' => (r.1 ++ r'.1, r'.2) := by
  show (emit s a >>= fun r => runOutputsE emit r.2 as >>= fun r' => pure (r.1 ++ r'.1, r'.2)) = _
  rw [h]
  show (runOutputsE emit r.2 as >>= fun r' => pure (r.1 ++ r'.1, r'.2)) = _
  cases runOutputsE emit r.2 as <;> rfl

theorem runOutputsE_cons_of_error {s : σ} {a : α} {e : ε} (h : emit s a = .error e)
    (as : List α) : runOutputsE emit s (a :: as) = .error e := by
  show (emit s a >>= fun r => runOutputsE emit r.2 as >>= fun r' => pure (r.1 ++ r'.1, r'.2)) = _
  rw [h]
  rfl

theorem runOutputsE_of_invariant (P : α → Prop) (I : σ → List ο → List α → Prop)
    (h : ∀ s out done a, P a → I s out done →
      ∃ r, emit s a = .ok r ∧ I r.2 (out ++ r.1) (done ++ [a]))
    {s : σ} {out : List ο} {done : List α} (hs : I s out done) {as : List α}
    (has : ∀ a ∈ as, P a) :
    ∃ r, runOutputsE emit s as = .ok r ∧ I r.2 (out ++ r.1) (done ++ as) := by
  induction as generalizing s out done with
  | nil => exact ⟨([], s), rfl, by simpa using hs⟩
  | cons a as ih =>
    obtain ⟨r, hstep, hr⟩ := h s out done a (has a List.mem_cons_self) hs
    obtain ⟨r', hrun, hr'⟩ := ih hr fun b hb => has b (List.mem_cons_of_mem a hb)
    refine ⟨(r.1 ++ r'.1, r'.2), ?_, by simpa using hr'⟩
    rw [runOutputsE_cons_of_ok hstep, hrun]
    rfl

theorem runOutputsE_map_snd (step : σ → α → Except ε σ)
    (hstep : ∀ s a, Prod.snd <$> emit s a = step s a) (s : σ) (as : List α) :
    Prod.snd <$> runOutputsE emit s as = as.foldlM step s := by
  induction as generalizing s with
  | nil => rfl
  | cons a as ih =>
    rw [List.foldlM_cons, ← hstep s a]
    cases hemit : emit s a with
    | error e => rw [runOutputsE_cons_of_error hemit]; rfl
    | ok r =>
      rw [runOutputsE_cons_of_ok hemit]
      show _ = List.foldlM step r.2 as
      rw [← ih r.2]
      cases runOutputsE emit r.2 as <;> rfl

end OutputsExcept

end StepSystem
