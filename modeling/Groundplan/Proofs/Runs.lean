import Mathlib.Data.List.Basic

/-!
# Runs

Steps that are taken one after another from a state.

## Main definitions

* `stateAfter`: the state after a run
* `stepsOf`: the steps of a run, each with the state that it meets

## Main results

* `run_induction`: **what each step keeps, a run keeps**
-/

namespace Groundplan

variable {σ α : Type}

/-- The state after a run of steps, one after another. -/
def stateAfter (after : α → σ → σ) (s : σ) : List α → σ
  | [] => s
  | x :: xs => stateAfter after (after x s) xs

/-- The steps of a run, each with the state that it meets. -/
def stepsOf (after : α → σ → σ) (s : σ) : List α → List (σ × α)
  | [] => []
  | x :: xs => (s, x) :: stepsOf after (after x s) xs

/-- **What each step keeps, a run keeps**: a property of a state and of the steps that led to
it. -/
theorem run_induction {after : α → σ → σ} {P : σ → List (σ × α) → Prop}
    (hstep : ∀ s past x, P s past → P (after x s) (past ++ [(s, x)])) {s : σ}
    {past : List (σ × α)} (h : P s past) (xs : List α) :
    P (stateAfter after s xs) (past ++ stepsOf after s xs) := by
  induction xs generalizing s past with
  | nil =>
    rw [stepsOf, List.append_nil]
    exact h
  | cons x xs ih =>
    rw [stepsOf, List.append_cons]
    exact ih (hstep s past x h)

end Groundplan
