import Groundplan.Proofs.Policy.Regressions
import Mathlib.Logic.Relation

/-!
# What a score depends on

The summary of violations tells how many findings there are of each severity, and nothing else: it
is the same in whatever order they stand, and however they are divided into violations. Each finding
takes the weight of its severity off the score, and a graver severity weighs more, so whatever makes
violations worse lowers the score, down to zero.

## Main definitions

* `graded`: the findings of a severity
* `deductions`: what the findings take off, one by one
* `SameFindings`: the same findings of each severity
* `Worsens`: **violations are made worse**, by a finding or by a severity

## Main results

* `sameFindings_of_perm`, `sameFindings_split`: the findings are the same in another order, and with
  a violation divided into two
* `summarize_of_sameFindings`: the summary of the same findings
* `Worsens.penalty_lt`: what makes violations worse takes more off
* `summary_law`: **the counts and the score of violations**
-/

namespace Groundplan.Policy

variable {vs ws : List Violation}

/-! ## Findings by severity -/

/-- The findings of a severity. -/
def graded (x : Severity) (vs : List Violation) : List Finding :=
  (vs.filter (·.severity = x)).flatMap (·.findings)

/-- What the findings of violations take off, one by one. -/
def deductions (vs : List Violation) : List Nat :=
  vs.flatMap fun v => v.findings.map fun _ => v.severity.weight

/-- The count of a severity in a summary. -/
def Summary.count (s : Summary) : Severity → Nat
  | .critical => s.critical
  | .high => s.high
  | .medium => s.medium
  | .low => s.low
  | .info => s.info

theorem countOf_eq_length (x : Severity) (vs : List Violation) :
    countOf x vs = (graded x vs).length := by
  rw [countOf, graded, List.length_flatMap]
  rfl

theorem count_summarize (x : Severity) (vs : List Violation) (passed : Int) :
    (summarize vs passed).count x = (graded x vs).length := by
  rw [← countOf_eq_length]
  cases x <;> rfl

theorem penalty_eq_sum_deductions (vs : List Violation) : penalty vs = (deductions vs).sum := by
  rw [penalty_eq_sum, deductions, List.flatMap_def, List.sum_flatten, List.map_map]
  refine congrArg List.sum (List.map_congr_left fun v _ => ?_)
  rw [Function.comp_apply, List.map_const', List.sum_replicate_nat, Nat.mul_comm]

/-! ## The same findings -/

/-- **The same findings of each severity**, in whatever order and in whichever violations. -/
def SameFindings (vs ws : List Violation) : Prop :=
  ∀ x, (graded x vs).Perm (graded x ws)

theorem sameFindings_of_perm (h : vs.Perm ws) : SameFindings vs ws :=
  fun _ => (h.filter _).flatMap_right _

/-- A violation may be divided into two. -/
theorem sameFindings_split (before after : List Violation) (v : Violation) (fs gs : List Finding) :
    SameFindings (before ++ { v with findings := fs ++ gs } :: after)
      (before ++ { v with findings := fs } :: { v with findings := gs } :: after) := by
  intro x
  by_cases hx : v.severity = x <;> simp [graded, hx]

/-- **The summary of the same findings** is the same. -/
theorem summarize_of_sameFindings (h : SameFindings vs ws) (passed : Int) :
    summarize ws passed = summarize vs passed := by
  have hcount (x : Severity) : countOf x ws = countOf x vs := by
    rw [countOf_eq_length, countOf_eq_length, (h x).length_eq]
  simp only [summarize, score, penalty, hcount]

/-! ## Worse violations -/

/-- **Violations are made worse**: a finding is added to a violation or in one of its own, or a
violation that has findings becomes graver. -/
inductive Worsens : List Violation → List Violation → Prop where
  | finding (before after : List Violation) (v : Violation) (fs gs : List Finding) (f : Finding) :
      Worsens (before ++ { v with findings := fs ++ gs } :: after)
        (before ++ { v with findings := fs ++ f :: gs } :: after)
  | violation (before after : List Violation) (v : Violation) (hfound : v.findings ≠ []) :
      Worsens (before ++ after) (before ++ v :: after)
  | severity (before after : List Violation) (v : Violation) (x : Severity)
      (hgraver : x.rank < v.severity.rank) (hfound : v.findings ≠ []) :
      Worsens (before ++ v :: after) (before ++ { v with severity := x } :: after)

/-- A graver severity weighs more. -/
theorem weight_lt_of_rank_lt {x y : Severity} (h : x.rank < y.rank) : y.weight < x.weight := by
  revert h
  cases x <;> cases y <;> decide

theorem weight_pos (x : Severity) : 0 < x.weight := by
  cases x <;> decide

/-- **What makes violations worse** takes more off. -/
theorem Worsens.penalty_lt (h : Worsens vs ws) : penalty vs < penalty ws := by
  simp only [penalty_eq_sum]
  cases h with
  | finding before after v fs gs f =>
    have hweight := weight_pos v.severity
    simp only [List.map_append, List.map_cons, List.sum_append, List.sum_cons, List.length_append,
      List.length_cons, Nat.mul_add]
    omega
  | violation before after v hfound =>
    have hmore := Nat.mul_pos (weight_pos v.severity) (List.length_pos_of_ne_nil hfound)
    simp only [List.map_append, List.map_cons, List.sum_append, List.sum_cons]
    omega
  | severity before after v x hgraver hfound =>
    have hmore := Nat.mul_lt_mul_of_pos_right (weight_lt_of_rank_lt hgraver)
      (List.length_pos_of_ne_nil hfound)
    simp only [List.map_append, List.map_cons, List.sum_append, List.sum_cons]
    omega

theorem penalty_lt_of_worsens (h : Relation.TransGen Worsens vs ws) : penalty vs < penalty ws := by
  induction h with
  | single h => exact h.penalty_lt
  | tail _ h ih => exact ih.trans h.penalty_lt

/-! ## The law -/

/-- **The counts and the score of violations.** The count of each severity is the number of its
findings, and the total is the sum of the counts and the number of all findings. The score is one
hundred less what the findings take off one by one, but not below zero. Neither the order of the
violations nor how the findings of a severity are divided into violations makes a difference. And
after anything that makes violations worse, done once or many times, the score is less, unless it
was zero before. -/
theorem summary_law (vs : List Violation) (passed : Int) :
    (∀ x, (summarize vs passed).count x = (graded x vs).length) ∧
    (summarize vs passed).total = (Severity.all.map (summarize vs passed).count).sum ∧
    (summarize vs passed).total = (vs.flatMap (·.findings)).length ∧
    (summarize vs passed).score = max 0 (100 - ((deductions vs).sum : Int)) ∧
    0 ≤ (summarize vs passed).score ∧ (summarize vs passed).score ≤ 100 ∧
    (∀ ws, vs.Perm ws ∨ SameFindings vs ws → summarize ws passed = summarize vs passed) ∧
    ∀ ws, Relation.TransGen Worsens vs ws →
      (summarize ws passed).score ≤ (summarize vs passed).score ∧
      ((summarize vs passed).score ≠ 0 →
        (summarize ws passed).score < (summarize vs passed).score) := by
  have hscore (us : List Violation) : (summarize us passed).score = (100 - penalty us : Nat) := rfl
  refine ⟨fun x => count_summarize x vs passed, rfl, ?_, ?_, ?_, ?_, ?_, ?_⟩
  · rw [total_eq_sum, List.length_flatMap]
  · rw [hscore, penalty_eq_sum_deductions]
    omega
  · rw [hscore]
    omega
  · rw [hscore]
    omega
  · rintro ws (h | h)
    · exact summarize_of_sameFindings (sameFindings_of_perm h) passed
    · exact summarize_of_sameFindings h passed
  · intro ws h
    have hless := penalty_lt_of_worsens h
    rw [hscore, hscore]
    omega

/-- A violation of a severity with so many findings, for samples. -/
def sampleViolation (x : Severity) (n : Nat) : Violation :=
  ⟨"X", "Sample", .security, x, List.replicate n ⟨"r", "t", "m", none, none, false, []⟩⟩

/-- A second finding of a low violation, which then becomes a medium one, takes the score of two
violations down, in whatever order they stand. -/
theorem summary_law_sample :
    summarize [sampleViolation .high 1, sampleViolation .low 1] 0 =
      summarize [sampleViolation .low 1, sampleViolation .high 1] 0 ∧
    (summarize [sampleViolation .medium 2, sampleViolation .high 1] 0).score <
      (summarize [sampleViolation .low 1, sampleViolation .high 1] 0).score := by
  obtain ⟨-, -, -, -, -, -, hsame, hworse⟩ :=
    summary_law [sampleViolation .low 1, sampleViolation .high 1] 0
  have hfinding : Worsens [sampleViolation .low 1, sampleViolation .high 1]
      [sampleViolation .low 2, sampleViolation .high 1] :=
    .finding [] [sampleViolation .high 1] (sampleViolation .low 1) [] _ _
  have hseverity : Worsens [sampleViolation .low 2, sampleViolation .high 1]
      [sampleViolation .medium 2, sampleViolation .high 1] :=
    .severity [] [sampleViolation .high 1] (sampleViolation .low 2) .medium (by decide)
      (List.cons_ne_nil _ _)
  exact ⟨hsame _ (.inl (.swap _ _ [])),
    (hworse _ (.tail (.single hfinding) hseverity)).2 (by decide)⟩

end Groundplan.Policy
