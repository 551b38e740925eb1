import Groundplan.Proofs.Policy.Delta
import Groundplan.Proofs.Policy.Reordering
import Mathlib.Algebra.Order.BigOperators.Group.List
import Mathlib.Algebra.Order.Group.Nat
import Mathlib.Algebra.Ring.Nat
import Mathlib.Data.List.Perm.Subperm

/-!
# Regressions that a comparison shows

The number of findings and the score of a report count every finding, while a comparison lists a
finding only if its key, the policy and the resource, is new. So more findings, or a lower score,
show among the findings that are introduced, unless some policy finds more under a key that the old
version has as well: a further secret in a text, say, or a further open port of a group.

## Main definitions

* `findingsOf`, `foundAt`: what a policy finds, and how much of it at one resource
* `MoreUnderKey`: **a policy finds more under a key that is there already**

## Main results

* `total_eq_sum`, `penalty_eq_sum`: the counts of a summary finding by finding
* `exists_foundAt_lt`: a report that counts more has a policy that finds more at some resource
* `regression_shown`: what a comparison shows of it
* `regression_hidden`: a second secret in a text is not shown
-/

namespace Groundplan.Policy

/-! ## Counting findings -/

section Counts

variable (vs : List Violation)

theorem countOf_cons (x : Severity) (v : Violation) :
    countOf x (v :: vs) = (if v.severity = x then v.findings.length else 0) + countOf x vs := by
  rw [countOf, countOf, List.filter_cons]
  by_cases hx : v.severity = x <;> simp [hx]

/-- **The total of a summary** is the number of all findings. -/
theorem total_eq_sum (passed : Int) :
    (summarize vs passed).total = (vs.map fun v => v.findings.length).sum := by
  induction vs with
  | nil => rfl
  | cons v vs ih =>
    rw [List.map_cons, List.sum_cons, ← ih]
    simp only [summarize, Severity.all, List.map_cons, List.map_nil, List.foldr_cons,
      List.foldr_nil, countOf_cons]
    cases v.severity <;> simp <;> omega

/-- **The penalty** is the weight of the severity for each finding. -/
theorem penalty_eq_sum :
    penalty vs = (vs.map fun v => v.severity.weight * v.findings.length).sum := by
  induction vs with
  | nil => rfl
  | cons v vs ih =>
    rw [List.map_cons, List.sum_cons, ← ih]
    simp only [penalty, Severity.all, List.map_cons, List.map_nil, List.foldr_cons,
      List.foldr_nil, countOf_cons]
    cases v.severity <;> simp [Severity.weight] <;> omega

end Counts

/-! ## What a policy finds -/

/-- What a policy finds; nothing if its evaluator fails. -/
def findingsOf (s : Subject) (p : Row × Definition) : List Finding :=
  match p.2.check s with
  | .ok fs => fs
  | .error _ => []

/-- How much a policy finds at a resource. -/
def foundAt (s : Subject) (p : Row × Definition) (reference : String) : Nat :=
  ((findingsOf s p).map (·.reference)).count reference

section Policies

variable {s t : Subject} {p : Row × Definition} {ps : List (Row × Definition)} {key : String}

/-- The violation of a policy holds what it finds. -/
theorem violation?_eq (s : Subject) (p : Row × Definition) :
    (findingsOf s p = [] ∧ violation? s p = none) ∨
      violation? s p =
        some ⟨p.1.code, p.1.name, p.1.category, p.1.severity, findingsOf s p⟩ := by
  rw [violation?, findingsOf]
  rcases p.2.check s with f | (_ | ⟨g, fs⟩)
  · exact .inl ⟨rfl, rfl⟩
  · exact .inl ⟨rfl, rfl⟩
  · exact .inr rfl

/-- What is added up over violations is added up over policies, if it is nothing where a policy
finds nothing. -/
theorem sum_violations (s : Subject) (ps : List (Row × Definition))
    (weigh : Severity → List Finding → Nat) (hweigh : ∀ x, weigh x [] = 0) (id : String)
    (now : Instant) :
    ((reportOn ps id now s).violations.map fun v => weigh v.severity v.findings).sum =
      (ps.map fun p => weigh p.1.severity (findingsOf s p)).sum := by
  rw [reportOn_violations, ((bySeverity_perm _).map _).sum_eq]
  induction ps with
  | nil => rfl
  | cons p ps ih =>
    rcases violation?_eq s p with ⟨hnothing, hnone⟩ | hsome
    · rw [List.filterMap_cons_none hnone, ih, List.map_cons, List.sum_cons, hnothing, hweigh,
        Nat.zero_add]
    · rw [List.filterMap_cons_some hsome, List.map_cons, List.sum_cons, ih, List.map_cons,
        List.sum_cons]

/-- The keys of a report are those of what its policies find. -/
theorem mem_keys_reportOn (id : String) (now : Instant) :
    key ∈ (reportOn ps id now s).keys ↔
      ∃ p ∈ ps, ∃ f ∈ findingsOf s p, findingKey p.1.code f = key := by
  simp only [Report.keys, reportOn_violations, List.mem_flatMap, (bySeverity_perm _).mem_iff,
    List.mem_filterMap, List.mem_map]
  constructor
  · rintro ⟨v, ⟨p, hp, hv⟩, f, hf, rfl⟩
    rcases violation?_eq s p with ⟨-, hnone⟩ | hsome
    · rw [hnone] at hv
      cases hv
    · obtain rfl := Option.some.inj (hsome.symm.trans hv)
      exact ⟨p, hp, f, hf, rfl⟩
  · rintro ⟨p, hp, f, hf, rfl⟩
    rcases violation?_eq s p with ⟨hnothing, -⟩ | hsome
    · rw [hnothing] at hf
      cases hf
    · exact ⟨_, ⟨p, hp, hsome⟩, f, hf, rfl⟩

/-- A policy that finds more in all finds more at some resource. -/
theorem exists_foundAt_lt_of_length_lt
    (h : (findingsOf s p).length < (findingsOf t p).length) :
    ∃ reference, foundAt s p reference < foundAt t p reference := by
  by_contra hnone
  push Not at hnone
  have hsubperm : List.Subperm ((findingsOf t p).map (·.reference))
      ((findingsOf s p).map (·.reference)) :=
    List.subperm_iff_count.mpr hnone
  have hlength := hsubperm.length_le
  rw [List.length_map, List.length_map] at hlength
  omega

/-- **A report that counts more** has a policy that finds more at some resource. -/
theorem exists_foundAt_lt (id : String) (now : Instant)
    (h : (reportOn ps id now s).summary.total < (reportOn ps id now t).summary.total ∨
      (reportOn ps id now t).summary.score < (reportOn ps id now s).summary.score) :
    ∃ p ∈ ps, ∃ reference, foundAt s p reference < foundAt t p reference := by
  suffices hlength : ∃ p ∈ ps, (findingsOf s p).length < (findingsOf t p).length by
    obtain ⟨p, hp, hless⟩ := hlength
    exact ⟨p, hp, exists_foundAt_lt_of_length_lt hless⟩
  rcases h with htotal | hscore
  · have hsum (s : Subject) : (reportOn ps id now s).summary.total =
        (ps.map fun p => (findingsOf s p).length).sum :=
      (total_eq_sum _ _).trans (sum_violations s ps (fun _ fs => fs.length) (fun _ => rfl) id now)
    rw [hsum, hsum] at htotal
    exact List.exists_lt_of_sum_lt _ _ htotal
  · have hsum (s : Subject) : penalty (reportOn ps id now s).violations =
        (ps.map fun p => p.1.severity.weight * (findingsOf s p).length).sum :=
      (penalty_eq_sum _).trans
        (sum_violations s ps (fun x fs => x.weight * fs.length) (fun _ => rfl) id now)
    have hpenalty : penalty (reportOn ps id now s).violations <
        penalty (reportOn ps id now t).violations := by
      have hscore' : score (reportOn ps id now t).violations <
        score (reportOn ps id now s).violations := Int.ofNat_lt.mp hscore
      rw [score, score] at hscore'
      omega
    rw [hsum, hsum] at hpenalty
    obtain ⟨p, hp, hless⟩ := List.exists_lt_of_sum_lt _ _ hpenalty
    exact ⟨p, hp, Nat.lt_of_mul_lt_mul_left hless⟩

end Policies

/-! ## What a comparison shows -/

section Shown

variable (c : Catalog) (now : Instant) (old new provider : String)

/-- A policy finds more at a resource of one text than of another which has a finding of that key as
well, so that comparing keys does not tell them apart. -/
def MoreUnderKey (less more : String) : Prop :=
  ∃ p ∈ (c.seeded now).active provider, ∃ reference,
    p.1.code ++ ":" ++ reference ∈ (audit c "" now less provider none).1.keys ∧
      foundAt (subject less provider none) p reference <
        foundAt (subject more provider none) p reference

variable {c now old new provider}

/-- A report that counts more has a finding that the other lacks, or finds more under a key that
both have. -/
theorem onlyIn_ne_nil_or_moreUnderKey {less more : String}
    (h : (audit c "" now less provider none).1.summary.total <
        (audit c "" now more provider none).1.summary.total ∨
      (audit c "" now more provider none).1.summary.score <
        (audit c "" now less provider none).1.summary.score) :
    onlyIn (audit c "" now more provider none).1 (audit c "" now less provider none).1.keys ≠ [] ∨
      MoreUnderKey c now provider less more := by
  obtain ⟨p, hp, reference, hless⟩ := exists_foundAt_lt "" now h
  by_cases hkey : p.1.code ++ ":" ++ reference ∈ (audit c "" now less provider none).1.keys
  · exact .inr ⟨p, hp, reference, hkey, hless⟩
  · refine .inl fun hnil => hkey ?_
    -- What the policy finds there is a finding of the report.
    have hpos : 0 < foundAt (subject more provider none) p reference := by omega
    obtain ⟨f, hf, rfl⟩ := List.mem_map.mp (List.count_pos_iff.mp hpos)
    exact (delta_onlyIn _ _).eq_nil_iff.mp hnil _
      ((mem_keys_reportOn "" now).mpr ⟨p, hp, f, hf, rfl⟩)

end Shown

/-! ## A regression that is not shown -/

/-- A text with a secret in it. -/
def oneSecret : String := "locals \x7b\n  password = \"hunter22\"\n\x7d\n"

/-- The same text with a second secret. -/
def twoSecrets : String := "locals \x7b\n  password = \"hunter22\"\n  token = \"hunter33\"\n\x7d\n"

/-- A second secret is a finding more, and a lower score. -/
theorem twoSecrets_worse : 0 < (compareTexts {} 0 oneSecret twoSecrets "aws").1.issuesChange ∧
    (compareTexts {} 0 oneSecret twoSecrets "aws").1.scoreChange < 0 ∧
    (compareTexts {} 0 oneSecret twoSecrets "aws").1.introduced.isEmpty = true := by
  decide +kernel

end Groundplan.Policy
