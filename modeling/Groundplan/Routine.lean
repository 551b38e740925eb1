/-!
# Routines

An operation that others may interleave with is a routine: a tree of atomic steps on a shared state,
each of which may fail, with the rest of the work depending on how it came out. Run alone, a routine
is a function of the state; beside others, it can be taken one step at a time.

## Main definitions

* `Routine`: finite trees of atomic steps
* `Routine.run`: runs a routine to its end
* `Routine.tick`: takes one step
* `Routine.attempt`, `Routine.ensuring`: going on after a failure, and whatever happens

## Main results

* `run_bind`, `run_attempt`, `run_ensuring`: running the combinations
* `run_tick`: taking a step does not change what a routine comes to
-/

namespace Groundplan

/-- A tree of atomic steps on states `σ`, which ends with a result or a failure. -/
inductive Routine (σ ε : Type) (α : Type) : Type 1 where
  /-- Nothing is left to do. -/
  | done (result : Except ε α) : Routine σ ε α
  /-- An atomic step, and what to do then. -/
  | step {β : Type} (act : σ → Except ε β × σ) (next : Except ε β → Routine σ ε α) :
      Routine σ ε α

namespace Routine

variable {σ ε α β : Type}

/-! ## Combinations -/

/-- Goes on with the outcome of a routine, whatever it is. -/
def andThen : Routine σ ε α → (Except ε α → Routine σ ε β) → Routine σ ε β
  | .done r, k => k r
  | .step act next, k => .step act fun r => (next r).andThen k

/-- Goes on with the result of a routine, unless it failed. -/
def bind (p : Routine σ ε α) (k : α → Routine σ ε β) : Routine σ ε β :=
  p.andThen fun r =>
    match r with
    | .ok a => k a
    | .error e => .done (.error e)

instance : Monad (Routine σ ε) where
  pure a := .done (.ok a)
  bind := bind

/-- A routine that fails. -/
def fail (e : ε) : Routine σ ε α :=
  .done (.error e)

/-- A routine of a single step. -/
def perform (act : σ → Except ε α × σ) : Routine σ ε α :=
  .step act .done

/-- A routine without steps. -/
def ofExcept (r : Except ε α) : Routine σ ε α :=
  .done r

/-- The outcome of a routine, a failure being one. -/
def attempt (p : Routine σ ε α) : Routine σ ε (Except ε α) :=
  p.andThen fun r => .done (.ok r)

/-- Does something at the end of a routine, whatever comes of it. -/
def ensuring (p : Routine σ ε α) (last : σ → σ) : Routine σ ε α :=
  p.andThen fun r => .step (fun s => (r, last s)) .done

/-! ## Running -/

/-- **Runs a routine to its end.** -/
def run : Routine σ ε α → σ → Except ε α × σ
  | .done r, s => (r, s)
  | .step act next, s => (next (act s).1).run (act s).2

/-- **Takes one step** of a routine that has any left. -/
def tick : Routine σ ε α → σ → Routine σ ε α × σ
  | .done r, s => (.done r, s)
  | .step act next, s => (next (act s).1, (act s).2)

/-- Whether nothing is left to do. -/
def isDone : Routine σ ε α → Bool
  | .done _ => true
  | .step .. => false

@[simp] theorem run_done (r : Except ε α) (s : σ) : (done r : Routine σ ε α).run s = (r, s) := rfl

@[simp] theorem run_perform (act : σ → Except ε α × σ) (s : σ) : (perform act).run s = act s := rfl

@[simp] theorem run_pure (a : α) (s : σ) : (pure a : Routine σ ε α).run s = (.ok a, s) := rfl

@[simp] theorem run_fail (e : ε) (s : σ) : (fail e : Routine σ ε α).run s = (.error e, s) := rfl

theorem run_andThen (p : Routine σ ε α) (k : Except ε α → Routine σ ε β) (s : σ) :
    (p.andThen k).run s = (k (p.run s).1).run (p.run s).2 := by
  induction p generalizing s with
  | done r => rfl
  | step act next ih => exact ih _ _

/-- Running one routine and then another. -/
theorem run_bind (p : Routine σ ε α) (k : α → Routine σ ε β) (s : σ) :
    (p >>= k).run s =
      match p.run s with
      | (.ok a, t) => (k a).run t
      | (.error e, t) => (.error e, t) := by
  show (p.bind k).run s = _
  rw [bind, run_andThen]
  rcases h : p.run s with ⟨r, t⟩
  cases r <;> rfl

/-- The outcome of an attempt. -/
@[simp] theorem run_attempt (p : Routine σ ε α) (s : σ) :
    p.attempt.run s = (.ok (p.run s).1, (p.run s).2) := by
  rw [attempt, run_andThen]; rfl

/-- What is done last is done whatever the outcome. -/
@[simp] theorem run_ensuring (p : Routine σ ε α) (last : σ → σ) (s : σ) :
    (p.ensuring last).run s = ((p.run s).1, last (p.run s).2) := by
  rw [ensuring, run_andThen]; rfl

/-- Taking a step does not change what a routine comes to. -/
theorem run_tick (p : Routine σ ε α) (s : σ) : (p.tick s).1.run (p.tick s).2 = p.run s := by
  cases p <;> rfl

end Routine

end Groundplan
