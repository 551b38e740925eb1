import Groundplan.Routine
import Mathlib.Data.List.Chain

/-!
# What the steps of a routine keep

A routine on its own passes through a list of states. To show what holds of each of its steps and of
its end, one goes through the routine once, from its first step on: what a part comes to is what the
next part starts from.

Between two steps of a routine others may take steps of their own. What is known of the state is
then only what others do not undo: a routine is good among others if each of its steps is, in
whatever state the others leave to it. Of such routines any number can go on side by side, and one
of them that is left alone does in a row what it may do in one step.

## Main definitions

* `Routine.trace`: the states that the steps of a routine lead to
* `Routine.Upholds`: every step keeps to a relation, and the end is as is said
* `Routine.Rules`: what others may do in the meantime, and what a step may do
* `Routine.Among`: every step keeps to the rules among others, and the end is as is said

## Main results

* `upholds_andThen`, `upholds_bind`, `upholds_ensuring`: the combinations, part by part
* `bind_bind`: sequences of sequences
* `upholds_iff`: what it means for the states on the way and for the run
* `among_andThen`, `among_bind`: the combinations among others, part by part
* `Among.later`, `Among.tick`: a step of another, and a step of the routine itself
* `Among.run`: a routine that is left alone
-/

namespace Groundplan.Routine

variable {σ ε α β : Type} {R R' : σ → σ → Prop}

/-- The states that the steps of a routine lead to, in turn. -/
def trace : Routine σ ε α → σ → List σ
  | .done _, _ => []
  | .step act next, s => (act s).2 :: (next (act s).1).trace (act s).2

/-- **Every step keeps to a relation, and the end is as is said.** -/
def Upholds (R : σ → σ → Prop) (Q : Except ε α → σ → Prop) : Routine σ ε α → σ → Prop
  | .done r, s => Q r s
  | .step act next, s => R s (act s).2 ∧ Upholds R Q (next (act s).1) (act s).2

theorem upholds_pure (Q : Except ε α → σ → Prop) (a : α) (s : σ) :
    (pure a : Routine σ ε α).Upholds R Q s ↔ Q (.ok a) s := .rfl

theorem upholds_perform (Q : Except ε α → σ → Prop) (act : σ → Except ε α × σ) (s : σ) :
    (perform act).Upholds R Q s ↔ R s (act s).2 ∧ Q (act s).1 (act s).2 := .rfl

/-- A weaker relation and a weaker end are upheld as well. -/
theorem Upholds.mono {Q Q' : Except ε α → σ → Prop} {p : Routine σ ε α} {s : σ}
    (h : p.Upholds R Q s) (hR : ∀ s t, R s t → R' s t) (hQ : ∀ r t, Q r t → Q' r t) :
    p.Upholds R' Q' s := by
  -- Induction on the tree; what is left after a step starts from the state that the step led to.
  induction p generalizing s with
  | done r => exact hQ r s h
  | step act next ih =>
    obtain ⟨hstep, hnext⟩ := h
    exact ⟨hR _ _ hstep, ih _ hnext⟩

/-- Ends that ask the same of every outcome. -/
theorem upholds_congr {Q Q' : Except ε α → σ → Prop} {p : Routine σ ε α} {s : σ}
    (h : ∀ r t, Q r t ↔ Q' r t) : p.Upholds R Q s ↔ p.Upholds R Q' s := by
  constructor
  · intro hp
    exact hp.mono (fun _ _ hR => hR) fun r t => (h r t).1
  · intro hp
    exact hp.mono (fun _ _ hR => hR) fun r t => (h r t).2

/-! ## Combinations -/

/-- What a routine comes to is what the routine behind it starts from. -/
theorem upholds_andThen (Q : Except ε β → σ → Prop) (p : Routine σ ε α)
    (k : Except ε α → Routine σ ε β) (s : σ) :
    (p.andThen k).Upholds R Q s ↔ p.Upholds R (fun r t => (k r).Upholds R Q t) s := by
  induction p generalizing s with
  | done r => rfl
  | step act next ih => exact and_congr_right fun _ => ih _ _

/-- A failure ends a sequence. -/
theorem upholds_bind (Q : Except ε β → σ → Prop) (p : Routine σ ε α) (k : α → Routine σ ε β)
    (s : σ) :
    (p >>= k).Upholds R Q s ↔
      p.Upholds R (fun r t =>
        match r with
        | .ok a => (k a).Upholds R Q t
        | .error e => Q (.error e) t) s := by
  show (p.bind k).Upholds R Q s ↔ _
  rw [bind, upholds_andThen]
  refine upholds_congr fun r t => ?_
  cases r with
  | error e => rfl
  | ok a => rfl

/-- What is done last is a step like the others. -/
theorem upholds_ensuring (Q : Except ε α → σ → Prop) (p : Routine σ ε α) (last : σ → σ) (s : σ) :
    (p.ensuring last).Upholds R Q s ↔
      p.Upholds R (fun r t => R t (last t) ∧ Q r (last t)) s := by
  rw [ensuring, upholds_andThen]
  rfl

/-! ## Sequences of sequences -/

theorem andThen_andThen {γ : Type} (p : Routine σ ε α) (k : Except ε α → Routine σ ε β)
    (l : Except ε β → Routine σ ε γ) :
    (p.andThen k).andThen l = p.andThen fun r => (k r).andThen l := by
  induction p with
  | done r => rfl
  | step act next ih => exact congrArg (Routine.step act) (funext fun r => ih r)

/-- It does not matter how a sequence is put together. -/
theorem bind_bind {γ : Type} (p : Routine σ ε α) (k : α → Routine σ ε β) (l : β → Routine σ ε γ) :
    p >>= k >>= l = p >>= fun a => k a >>= l := by
  show (p.bind k).bind l = p.bind fun a => (k a).bind l
  rw [bind, bind, andThen_andThen, bind]
  refine congrArg p.andThen (funext fun r => ?_)
  cases r <;> rfl

/-! ## The states on the way -/

/-- **A routine upholds a relation and an end** exactly if each state on its way relates to the one
before it, and the run ends so. -/
theorem upholds_iff (Q : Except ε α → σ → Prop) (p : Routine σ ε α) (s : σ) :
    p.Upholds R Q s ↔ List.IsChain R (s :: p.trace s) ∧ Q (p.run s).1 (p.run s).2 := by
  induction p generalizing s with
  | done r => simp [Upholds, trace, run]
  | step act next ih => rw [Upholds, trace, run, ih, List.isChain_cons_cons, and_assoc]

/-! ## Among others -/

variable {rely turn : σ → σ → Prop}

/-- **The rules among several routines**: what others may do in the meantime, and what a routine may
do in its turn. A turn is nothing that others could not rely on, and several turns are like one. -/
structure Rules (rely turn : σ → σ → Prop) : Prop where
  rely_trans {s t u : σ} : rely s t → rely t u → rely s u
  turn_refl {s t : σ} : rely s t → turn t t
  turn_trans {s t u : σ} : turn s t → turn t u → turn s u
  rely_of_turn {s t : σ} : turn s t → rely s t

/-- **A routine among others**: in whatever state the others leave to it each step takes a turn, and
the end is as is said. -/
def Among (rely turn : σ → σ → Prop) (Q : Except ε α → σ → Prop) : Routine σ ε α → σ → Prop
  | .done r, s => Q r s
  | .step act next, s =>
    ∀ t, rely s t → turn t (act t).2 ∧ Among rely turn Q (next (act t).1) (act t).2

/-- A weaker end is reached as well. -/
theorem Among.mono {Q Q' : Except ε α → σ → Prop} {p : Routine σ ε α} {s : σ}
    (h : p.Among rely turn Q s) (hQ : ∀ r t, Q r t → Q' r t) : p.Among rely turn Q' s := by
  induction p generalizing s with
  | done r => exact hQ r s h
  | step act next ih =>
    intro t ht
    obtain ⟨hturn, hnext⟩ := h t ht
    exact ⟨hturn, ih _ hnext⟩

/-- What a routine comes to is what the routine behind it starts from. -/
theorem among_andThen (Q : Except ε β → σ → Prop) (p : Routine σ ε α)
    (k : Except ε α → Routine σ ε β) (s : σ) :
    (p.andThen k).Among rely turn Q s ↔
      p.Among rely turn (fun r t => (k r).Among rely turn Q t) s := by
  induction p generalizing s with
  | done r => rfl
  | step act next ih => exact forall₂_congr fun _ _ => and_congr_right fun _ => ih _ _

/-- A failure ends a sequence. -/
theorem among_bind {Q : Except ε β → σ → Prop} {p : Routine σ ε α} {k : α → Routine σ ε β} {s : σ}
    (h : p.Among rely turn (fun r t =>
      (∀ a, r = .ok a → (k a).Among rely turn Q t) ∧ ∀ e, r = .error e → Q (.error e) t) s) :
    (p >>= k).Among rely turn Q s := by
  show (p.bind k).Among rely turn Q s
  rw [bind, among_andThen]
  refine h.mono fun r t hrest => ?_
  obtain ⟨hok, herror⟩ := hrest
  cases r with
  | error e => exact herror e rfl
  | ok a => exact hok a rfl

/-- A routine goes on among others after a step of another. -/
theorem Among.later (hrules : Rules rely turn) {Q : Except ε α → σ → Prop} {p : Routine σ ε α}
    {s t : σ} (h : p.Among rely turn Q s) (hQ : ∀ r s t, rely s t → Q r s → Q r t)
    (ht : rely s t) : p.Among rely turn Q t := by
  cases p with
  | done r => exact hQ r s t ht h
  | step act next => exact fun u hu => h u (hrules.rely_trans ht hu)

/-- One step of a routine among others. -/
theorem Among.tick (hrules : Rules rely turn) {Q : Except ε α → σ → Prop} {p : Routine σ ε α}
    {s : σ} (h : p.Among rely turn Q s) (hs : rely s s) :
    turn s (p.tick s).2 ∧ (p.tick s).1.Among rely turn Q (p.tick s).2 := by
  cases p with
  | done r => exact ⟨hrules.turn_refl hs, h⟩
  | step act next => exact h s hs

/-- **A routine that is left alone** does in a row what it may do in one turn. -/
theorem Among.run (hrules : Rules rely turn) {Q : Except ε α → σ → Prop} {p : Routine σ ε α}
    {s : σ} (h : p.Among rely turn Q s) (hs : rely s s) :
    turn s (p.run s).2 ∧ Q (p.run s).1 (p.run s).2 := by
  induction p generalizing s with
  | done r => exact ⟨hrules.turn_refl hs, h⟩
  | step act next ih =>
    obtain ⟨hturn, hnext⟩ := h s hs
    have hrely := hrules.rely_of_turn hturn
    obtain ⟨hrest, hend⟩ := ih _ hnext (hrules.rely_of_turn (hrules.turn_refl hrely))
    exact ⟨hrules.turn_trans hturn hrest, hend⟩

end Groundplan.Routine
