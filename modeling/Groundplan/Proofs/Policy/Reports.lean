import Groundplan.Deploy.Lifecycle
import Groundplan.Proofs.Answer
import Groundplan.Proofs.Entries
import Groundplan.Proofs.Sorting
import Mathlib.Data.List.Pairwise

/-!
# What a report accounts for

An audit runs each policy that is switched on by itself. The report accounts for all of them: those
with findings are its violations, sorted by severity, those that fail are noted by their codes, and
all but the violations count as passed. So a policy that fails takes nothing away from the others.

Neither the instants in a catalog nor the order in which it was seeded and switched leave a trace in
a report. To see this, catalogs are compared with their instants wiped out.

## Main definitions

* `violation?`, `raises`: what one policy comes to
* `Report.Accounts`: the report accounts for a list of policies
* `Catalog.timeless`: a catalog without its instants
* `Auditable`: the texts that can be audited

## Main results

* `reportOn_accounts`: a report accounts for the policies that were run
* `reportOn_of_quieter`: a policy that fails changes nothing but the list of failures
* `audit_switched`: switching a policy off and on leaves the report as it is
* `auditTemplate_report`: the audit of a text
-/

namespace Groundplan.Policy

open Hcl

/-! ## What one policy comes to -/

section Outcomes

variable {s : Subject} {p : Row × Definition}

/-- The violation of a policy whose evaluator answers with findings, graded as its row is. -/
def violation? (s : Subject) (p : Row × Definition) : Option Violation :=
  match p.2.check s with
  | .ok (f :: fs) => some ⟨p.1.code, p.1.name, p.1.category, p.1.severity, f :: fs⟩
  | _ => none

/-- Whether the evaluator of a policy fails. -/
def raises (s : Subject) (p : Row × Definition) : Bool :=
  !(p.2.check s).isOk

theorem raises_iff : raises s p = true ↔ Fails (p.2.check s) := by
  rw [raises]
  cases p.2.check s with
  | error f => exact iff_of_true rfl ⟨f, rfl⟩
  | ok fs => exact iff_of_false (by simp [Except.isOk, Except.toBool]) Fails.not_ok

theorem violation?_evaluate : (evaluate s p).violation? = violation? s p := by
  rw [evaluate, violation?]
  rcases p.2.check s with f | (_ | ⟨g, fs⟩) <;> rfl

theorem failed?_evaluate :
    (evaluate s p).failed? = if raises s p then some p.1.code else none := by
  rw [evaluate, raises]
  rcases p.2.check s with f | (_ | ⟨g, fs⟩) <;> rfl

end Outcomes

/-! ## Sorting by severity -/

theorem bySeverity_perm (vs : List Violation) : (bySeverity vs).Perm vs :=
  List.mergeSort_perm vs _

theorem pairwise_bySeverity (vs : List Violation) :
    (bySeverity vs).Pairwise fun v w => v.severity.rank ≤ w.severity.rank := by
  have h : (bySeverity vs).Pairwise fun v w => decide (v.severity.rank ≤ w.severity.rank) = true :=
    List.pairwise_mergeSort (by simp; omega) (by simp; omega) vs
  exact h.imp (by simp)

/-- **Violations of one severity stay in their order.** -/
theorem filter_bySeverity (x : Severity) (vs : List Violation) :
    (bySeverity vs).filter (·.severity = x) = vs.filter (·.severity = x) := by
  refine filter_mergeSort (by simp; omega) (by simp; omega) (fun v w hv hw => ?_) vs
  rw [decide_eq_true_eq] at hv hw
  rw [hv, hw]
  exact decide_eq_true (Nat.le_refl _)

/-! ## Accounts -/

/-- **A report accounts for policies** on what their evaluators may look at. -/
structure Report.Accounts (r : Report) (ps : List (Row × Definition)) (s : Subject) : Prop where
  /-- The gravest violations come first. -/
  sorted : r.violations.Pairwise fun v w => v.severity.rank ≤ w.severity.rank
  /-- The violations of each severity are those of the policies, in their order. -/
  violations : ∀ x, r.violations.filter (·.severity = x) =
    (ps.filterMap (violation? s)).filter (·.severity = x)
  /-- The failures are noted in the order of the policies. -/
  errors : r.errors = (ps.filter (raises s)).map (·.1.code)
  /-- All but the violations count as passed. -/
  passed : r.summary.passed = ps.length - r.violations.length
  passed_eq : r.summary.passed = ps.countP fun p => (violation? s p).isNone
  summary : r.summary = summarize r.violations r.summary.passed
  /-- Every resource has its row among the costs. -/
  costs : r.cost.items.map (·.reference) =
    s.configuration.resources.map fun b => .text b.fullName

theorem lineItem_reference (estimator : Pricing.Estimator) (r : Cost.PricedResource) :
    (Cost.lineItem estimator r).reference = r.reference := by
  rw [Cost.lineItem]
  split <;> rfl

theorem reportOn_violations (ps : List (Row × Definition)) (id : String) (now : Instant)
    (s : Subject) :
    (reportOn ps id now s).violations = bySeverity (ps.filterMap (violation? s)) := by
  rw [reportOn]
  dsimp only
  rw [List.filterMap_map]
  simp only [Function.comp_def, violation?_evaluate]

theorem reportOn_errors (ps : List (Row × Definition)) (id : String) (now : Instant)
    (s : Subject) : (reportOn ps id now s).errors = (ps.filter (raises s)).map (·.1.code) := by
  rw [reportOn]
  dsimp only
  rw [List.filterMap_map]
  simp only [Function.comp_def, failed?_evaluate]
  induction ps with
  | nil => rfl
  | cons p ps ih => cases hp : raises s p <;> simp [hp, ih]

/-- **A report accounts for the policies that were run.** -/
theorem reportOn_accounts (ps : List (Row × Definition)) (id : String) (now : Instant)
    (s : Subject) : (reportOn ps id now s).Accounts ps s := by
  have hviolations := reportOn_violations ps id now s
  have hpassed : (reportOn ps id now s).summary.passed =
      ps.length - (reportOn ps id now s).violations.length := rfl
  refine ⟨?_, fun x => ?_, reportOn_errors ps id now s, hpassed, ?_, rfl, ?_⟩
  · rw [hviolations]
    exact pairwise_bySeverity _
  · rw [hviolations, filter_bySeverity]
  · -- Policies that pass are those without a violation.
    have hsplit := ps.length_eq_countP_add_countP fun p => (violation? s p).isSome
    have hnone : (fun p => decide ¬(violation? s p).isSome = true) =
        fun p => (violation? s p).isNone := by
      funext p
      cases violation? s p <;> rfl
    rw [hnone] at hsplit
    rw [hpassed, hviolations, (bySeverity_perm _).length_eq, List.length_filterMap_eq_countP]
    omega
  · show ((s.configuration.resources.map _).map _).map _ = _
    rw [List.map_map, List.map_map]
    exact List.map_congr_left fun b _ => lineItem_reference _ _

/-! ## Policies that fail -/

/-- A policy in the place of another: of the same row, and with the same answer, unless it answers
without findings where the other failed. -/
def Quieter (s : Subject) (p q : Row × Definition) : Prop :=
  p.1 = q.1 ∧ (q.2.check s = p.2.check s ∨ Fails (p.2.check s) ∧ q.2.check s = .ok [])

theorem Quieter.violation?_eq {s : Subject} {p q : Row × Definition} (h : Quieter s p q) :
    violation? s q = violation? s p := by
  obtain ⟨hrow, h | ⟨⟨f, hp⟩, hq⟩⟩ := h
  · rw [violation?, violation?, h, hrow]
  · rw [violation?, violation?, hp, hq]

theorem filterMap_of_quieter {ps qs : List (Row × Definition)} {s : Subject}
    (h : List.Forall₂ (Quieter s) ps qs) :
    qs.filterMap (violation? s) = ps.filterMap (violation? s) := by
  induction h with
  | nil => rfl
  | cons hpq _ ih => rw [List.filterMap_cons, List.filterMap_cons, hpq.violation?_eq, ih]

/-- **A policy that fails changes nothing but the list of failures.** -/
theorem reportOn_of_quieter {ps qs : List (Row × Definition)} {s : Subject}
    (h : List.Forall₂ (Quieter s) ps qs) (id : String) (now : Instant) :
    reportOn qs id now s =
      { reportOn ps id now s with errors := (reportOn qs id now s).errors } := by
  -- Neither a failure nor an evaluator without findings leaves a violation.
  have hviolations : (reportOn qs id now s).violations = (reportOn ps id now s).violations := by
    rw [reportOn_violations, reportOn_violations, filterMap_of_quieter h]
  have hsummary : (reportOn qs id now s).summary = (reportOn ps id now s).summary := by
    show summarize (reportOn qs id now s).violations
      (qs.length - (reportOn qs id now s).violations.length) = _
    rw [hviolations, ← h.length_eq]
    rfl
  calc reportOn qs id now s =
      { reportOn ps id now s with
        violations := (reportOn qs id now s).violations
        summary := (reportOn qs id now s).summary
        errors := (reportOn qs id now s).errors } := rfl
    _ = _ := by rw [hviolations, hsummary]

/-! ## The policies of a catalog -/

namespace Catalog

variable {c : Catalog} {provider code : String}

/-- The policies of an audit are the rows that are switched on for the provider and have an
evaluator, in the order of the catalog. -/
theorem map_fst_active (c : Catalog) (provider : String) : (c.active provider).map (·.1) =
    c.all.filter fun r => r.active && r.serves provider && (c.definition? r.code).isSome := by
  rw [active]
  induction c.all with
  | nil => rfl
  | cons r rs ih =>
    rw [List.filterMap_cons, List.filter_cons]
    cases hon : r.active && r.serves provider with
    | false => simpa using ih
    | true => cases hd : c.definition? r.code <;> simpa using ih

/-- Each with the evaluator of its code. -/
theorem definition?_of_mem_active {p : Row × Definition} (h : p ∈ c.active provider) :
    c.definition? p.1.code = some p.2 := by
  rw [active, List.mem_filterMap] at h
  obtain ⟨r, _, hr⟩ := h
  split at hr
  · obtain ⟨d, hd, rfl⟩ := Option.map_eq_some_iff.mp hr
    exact hd
  · cases hr

/-- Seeding does not look at registered evaluators. -/
theorem seedWith_registered (now : Instant) (es : Entries Definition) (ds : List Definition)
    (c : Catalog) :
    { c with registered := es }.seedWith now ds = { c.seedWith now ds with registered := es } := by
  induction ds generalizing c with
  | nil => rfl
  | cons d ds ih =>
    rw [seedWith, List.foldl_cons]
    exact ih (c.put (c.seededRow now d))

theorem seeded_registered (now : Instant) (es : Entries Definition) (c : Catalog) :
    { c with registered := es }.seeded now = { c.seeded now with registered := es } := by
  rw [seeded, seeded]
  by_cases h : c.all.any (·.builtIn) = true
  · rw [if_pos h]
    exact if_pos h
  · rw [if_neg h, seed, seed]
    exact (if_neg h).trans (seedWith_registered now es builtIns c)

theorem registered_seedWith (now : Instant) (ds : List Definition) (c : Catalog) :
    (c.seedWith now ds).registered = c.registered := by
  rw [← congrArg registered (seedWith_registered now c.registered ds c)]

theorem registered_seeded (now : Instant) (c : Catalog) :
    (c.seeded now).registered = c.registered := by
  rw [seeded]
  split
  · rfl
  · exact registered_seedWith now builtIns c

/-- Another evaluator for a code. -/
def swap (code : String) (d : Definition) (p : Row × Definition) : Row × Definition :=
  if p.1.code = code then (p.1, d) else p

/-- The policies of an audit after a registered evaluator was replaced. -/
theorem active_set_registered {d old : Definition} (hcode : builtIn? code = none)
    (hold : Entries.get? code c.registered = some old) :
    { c with registered := Entries.set code d c.registered }.active provider =
      (c.active provider).map (swap code d) := by
  rw [active, active, List.map_filterMap]
  refine List.filterMap_congr fun r _ => ?_
  split
  · rw [Option.map_map]
    -- Only rows with this code have the evaluator that was replaced.
    by_cases hr : r.code = code
    · rw [definition?, definition?, hr, hcode]
      dsimp only
      rw [Entries.get?_set_self, hold]
      simp [swap, hr]
    · have hsame : { c with registered := Entries.set code d c.registered }.definition? r.code =
          c.definition? r.code := by
        rw [definition?, definition?]
        dsimp only
        rw [Entries.get?_set_of_ne hr]
      rw [hsame]
      cases c.definition? r.code <;> simp [swap, hr]
  · rfl

end Catalog

/-- The failures after an evaluator was replaced by one without findings. -/
theorem errors_map_swap {code : String} {silent : Definition} {s : Subject}
    (hsilent : silent.check s = .ok []) (ps : List (Row × Definition)) (id : String)
    (now : Instant) :
    (reportOn (ps.map (Catalog.swap code silent)) id now s).errors =
      (reportOn ps id now s).errors.filter (· ≠ code) := by
  have hcode (p : Row × Definition) : (Catalog.swap code silent p).1 = p.1 := by
    rw [Catalog.swap]
    split <;> rfl
  -- What stands in its place never fails, and the others fail as before.
  have hraises (p : Row × Definition) :
      raises s (Catalog.swap code silent p) = (decide (p.1.code ≠ code) && raises s p) := by
    rw [Catalog.swap]
    by_cases hp : p.1.code = code
    · rw [if_pos hp, raises, hsilent]
      simp [hp, Except.isOk, Except.toBool]
    · simp [hp]
  rw [reportOn_errors, reportOn_errors, List.filter_map, List.map_map, List.filter_map,
    List.filter_filter]
  simp only [Function.comp_def, hcode, hraises]

/-- **An evaluator that fails, replaced by one without findings**, takes its code off the failures
and leaves the rest of the report as it is. -/
theorem audit_set_registered {c : Catalog} {code : String} {old silent : Definition} {now : Instant}
    {text provider : String} {template : Option String} (id : String)
    (hcode : builtIn? code = none) (hold : Entries.get? code c.registered = some old)
    (hfails : Fails (old.check (subject text provider template)))
    (hsilent : silent.check (subject text provider template) = .ok []) :
    (audit { c with registered := Entries.set code silent c.registered } id now text provider
        template).1 =
      { (audit c id now text provider template).1 with
        errors := (audit c id now text provider template).1.errors.filter (· ≠ code) } := by
  have hold' : Entries.get? code (c.seeded now).registered = some old := by
    rw [Catalog.registered_seeded, hold]
  have hactive : ({ c with registered := Entries.set code silent c.registered }.seeded now).active
      provider = ((c.seeded now).active provider).map (Catalog.swap code silent) := by
    rw [Catalog.seeded_registered, ← Catalog.registered_seeded now c]
    exact Catalog.active_set_registered hcode hold'
  -- A policy of the code has the evaluator that fails.
  have hcheck {p : Row × Definition} (hp : p ∈ (c.seeded now).active provider)
      (hpcode : p.1.code = code) : p.2 = old := by
    have hdefinition := Catalog.definition?_of_mem_active hp
    rw [hpcode, Catalog.definition?, hcode] at hdefinition
    exact Option.some.inj (hdefinition.symm.trans hold')
  have hquieter : List.Forall₂ (Quieter (subject text provider template))
      ((c.seeded now).active provider)
      (((c.seeded now).active provider).map (Catalog.swap code silent)) := by
    refine List.forall₂_map_right_iff.mpr (List.forall₂_same.mpr fun p hp => ?_)
    rw [Catalog.swap]
    split
    · rename_i hpcode
      refine ⟨rfl, .inr ⟨?_, hsilent⟩⟩
      rw [hcheck hp hpcode]
      exact hfails
    · exact ⟨rfl, .inl rfl⟩
  show reportOn (({ c with registered := _ }.seeded now).active provider) id now _ = _
  rw [hactive, reportOn_of_quieter hquieter, errors_map_swap hsilent]
  rfl

/-! ## Instants -/

/-- A row without its instants. -/
def Row.timeless (r : Row) : Row :=
  { r with createdAt := 0, updatedAt := 0 }

namespace Catalog

variable {c : Catalog} {now : Instant}

/-- A catalog without its instants. -/
def timeless (c : Catalog) : Catalog :=
  { c with rows := c.rows.map fun e => (e.1, e.2.timeless) }

theorem all_timeless (c : Catalog) : c.timeless.all = c.all.map Row.timeless := by
  rw [all, all, timeless, List.map_map, List.map_map]
  rfl

theorem row?_timeless (c : Catalog) (code : String) :
    c.timeless.row? code = (c.row? code).map Row.timeless :=
  Entries.get?_map Row.timeless c.rows

theorem timeless_put (c : Catalog) (r : Row) : (c.put r).timeless = c.timeless.put r.timeless := by
  rw [put, put, timeless, timeless, Entries.map_set]
  rfl

theorem timeless_seededRow (now : Instant) (c : Catalog) (d : Definition) :
    (c.seededRow now d).timeless = c.timeless.seededRow 0 d := by
  rw [seededRow, seededRow, row?_timeless]
  cases c.row? d.code <;> rfl

theorem timeless_seedWith (ds : List Definition) (c : Catalog) :
    (c.seedWith now ds).timeless = c.timeless.seedWith 0 ds := by
  induction ds generalizing c with
  | nil => rfl
  | cons d ds ih =>
    rw [seedWith, seedWith, List.foldl_cons, List.foldl_cons, ← timeless_seededRow now,
      ← timeless_put]
    exact ih _

/-- When a catalog is seeded shows in its instants only. -/
theorem timeless_seeded (now : Instant) (c : Catalog) :
    (c.seeded now).timeless = c.timeless.seeded 0 := by
  have hany : c.timeless.all.any (·.builtIn) = c.all.any (·.builtIn) := by
    rw [all_timeless, List.any_map]
    rfl
  rw [seeded, seeded, hany]
  split
  · rfl
  · exact timeless_seedWith builtIns c

/-- When a policy is switched shows in its instants only. -/
theorem timeless_toggle (c : Catalog) (code : String) (active : Bool) :
    (c.toggle now code active).2.timeless = (c.timeless.toggle 0 code active).2 := by
  rw [toggle, toggle, ← timeless_seeded now]
  dsimp only
  rw [row?_timeless]
  cases (c.seeded now).row? code with
  | none => rfl
  | some r =>
    dsimp only [Option.map_some]
    rw [timeless, Entries.map_set]
    rfl

theorem active_timeless (c : Catalog) (provider : String) :
    c.timeless.active provider = (c.active provider).map fun p => (p.1.timeless, p.2) := by
  rw [active, active, all_timeless, List.filterMap_map, List.map_filterMap]
  refine List.filterMap_congr fun r _ => ?_
  show (if r.active && r.serves provider then (c.definition? r.code).map _ else none) = _
  split
  · rw [Option.map_map]
    rfl
  · rfl

theorem any_put {r : Row} (h : r.builtIn = true) : (c.put r).all.any (·.builtIn) = true := by
  have hmem := Entries.mem_of_get? (Entries.get?_set_self r.code r c.rows)
  exact List.any_eq_true.mpr ⟨r, List.mem_map_of_mem hmem, h⟩

theorem builtIn_seededRow (d : Definition) : (c.seededRow now d).builtIn = d.builtIn := by
  rw [seededRow]
  split <;> rfl

/-- A seeded catalog has a built-in policy. -/
theorem any_seeded (c : Catalog) : (c.seeded now).all.any (·.builtIn) = true := by
  rw [seeded]
  split
  · assumption
  · -- The row that is written last is built in.
    show (c.seedWith now (builtIns.dropLast ++ [unattachedAddress])).all.any _ = true
    rw [seedWith, List.foldl_append]
    exact any_put (builtIn_seededRow unattachedAddress)

theorem seeded_of_any (h : c.all.any (·.builtIn) = true) : c.seeded now = c :=
  if_pos h

/-- Writing a row that is there with another switch. -/
theorem any_set {code : String} {r r' : Row} (hr : c.row? code = some r)
    (hbuiltIn : r'.builtIn = r.builtIn) :
    { c with rows := Entries.set code r' c.rows }.all.any (·.builtIn) = c.all.any (·.builtIn) := by
  have hget : Entries.get? code (c.rows.map fun e => (e.1, e.2.builtIn)) = some r'.builtIn := by
    rw [Entries.get?_map, hbuiltIn]
    exact congrArg (Option.map _) hr
  have hrows := Entries.map_set Row.builtIn code r' c.rows
  rw [Entries.set_of_get? hget] at hrows
  have hsnd := congrArg (List.any · (·.2)) hrows
  simpa [all, List.any_map, Function.comp_def] using hsnd

/-- Switching seeds first. -/
theorem toggle_seeded (c : Catalog) (code : String) (active : Bool) :
    (c.seeded now).toggle now code active = c.toggle now code active := by
  rw [toggle, toggle, seeded_of_any (any_seeded c)]

/-- A seeded catalog is as it was after a policy was switched off and on again, if its rows are
without instants. -/
theorem toggle_toggle {S : Catalog} {code : String} (hany : S.all.any (·.builtIn) = true)
    (hon : ∀ r, S.row? code = some r → r.active = true ∧ r.updatedAt = 0) :
    ((S.toggle 0 code false).2.toggle 0 code true).2 = S := by
  have hsame : S.seeded 0 = S := seeded_of_any hany
  -- Without a row for the code neither of the two requests does anything.
  cases hrow : S.row? code with
  | none =>
    have htoggle (active : Bool) : (S.toggle 0 code active).2 = S := by
      rw [toggle, hsame]
      dsimp only
      rw [hrow]
    rw [htoggle, htoggle]
  | some r =>
    obtain ⟨hactive, hupdated⟩ := hon r hrow
    have hoff : (S.toggle 0 code false).2 =
        { S with rows := Entries.set code { r with active := false, updatedAt := 0 } S.rows } := by
      rw [toggle, hsame]
      dsimp only
      rw [hrow]
    rw [hoff, toggle, seeded_of_any ((any_set hrow (by rfl)).trans hany)]
    dsimp only
    rw [row?]
    dsimp only
    rw [Entries.get?_set_self]
    dsimp only
    -- The row was switched on before, and its instant was none.
    have hback : { r with active := true, updatedAt := 0 } = r := by
      rw [← hactive, ← hupdated]
    rw [Entries.set_set, hback, Entries.set_of_get? hrow]

end Catalog

/-- The instants of a catalog do not show in a report. -/
theorem reportOn_timeless (c : Catalog) (provider id : String) (now : Instant) (s : Subject) :
    reportOn (c.timeless.active provider) id now s = reportOn (c.active provider) id now s := by
  have hevaluate : (c.timeless.active provider).map (evaluate s) =
      (c.active provider).map (evaluate s) := by
    rw [Catalog.active_timeless, List.map_map]
    rfl
  have hlength : (c.timeless.active provider).length = (c.active provider).length := by
    rw [Catalog.active_timeless, List.length_map]
  rw [reportOn, reportOn, hevaluate, hlength]

/-- **Switching a policy off and on again** leaves all reports as they are. -/
theorem audit_switched {c : Catalog} {code : String} {off on now : Instant}
    (hon : ∀ r, (c.seeded off).row? code = some r → r.active = true)
    (id text provider : String) (template : Option String) :
    (audit ((c.toggle off code false).2.toggle on code true).2 id now text provider template).1 =
      (audit c id now text provider template).1 := by
  -- Reports do not look at instants, so the catalogs are compared without them.
  have hswitched : ((c.toggle off code false).2.toggle on code true).2.timeless.seeded 0 =
      c.timeless.seeded 0 := by
    have hany : (c.timeless.seeded 0).all.any (·.builtIn) = true := Catalog.any_seeded c.timeless
    have hrow (r : Row) (h : (c.timeless.seeded 0).row? code = some r) :
        r.active = true ∧ r.updatedAt = 0 := by
      rw [← Catalog.timeless_seeded off, Catalog.row?_timeless] at h
      obtain ⟨old, hold, rfl⟩ := Option.map_eq_some_iff.mp h
      exact ⟨hon old hold, rfl⟩
    rw [Catalog.timeless_toggle, Catalog.timeless_toggle,
      ← Catalog.toggle_seeded c.timeless code false, Catalog.toggle_toggle hany hrow,
      Catalog.seeded_of_any hany]
  show reportOn (Catalog.active (Catalog.seeded _ now) provider) id now _ =
    reportOn ((c.seeded now).active provider) id now _
  rw [← reportOn_timeless (c.seeded now), ← reportOn_timeless (Catalog.seeded _ now),
    Catalog.timeless_seeded, Catalog.timeless_seeded, hswitched]

/-! ## Texts -/

/-- A text that can be audited: templates do not stand too deep inside one another in its literals,
and lists and maps do not in the properties of its resources. -/
def Auditable (text : String) : Prop :=
  isScannable text.toList = true ∧
    (text.toList.countP (fun c => c == '\x7b' || c == '[') ≤ maxPricedDepth ∨
      (parse text).resources.all isPriceable = true)

theorem priceable_of_auditable {text : String} (h : Auditable text) :
    priceable text = .ok text := by
  obtain ⟨hscan, hprice⟩ := h
  have hcond : (decide (text.toList.countP (fun c => c == '\x7b' || c == '[') ≤ maxPricedDepth) ||
      (parse text).resources.all isPriceable) = true := by
    rwa [Bool.or_eq_true, decide_eq_true_eq]
  rw [priceable, scannable, if_pos hscan]
  exact if_pos hcond

theorem priceable_of_not_auditable {text : String} (hscan : isScannable text.toList = true)
    (h : ¬ Auditable text) : priceable text = .error (.mismatch .depth) := by
  have hcond : ¬ (decide (text.toList.countP (fun c => c == '\x7b' || c == '[') ≤ maxPricedDepth) ||
      (parse text).resources.all isPriceable) = true := by
    rw [Bool.or_eq_true, decide_eq_true_eq]
    exact fun hprice => h ⟨hscan, hprice⟩
  rw [priceable, scannable, if_pos hscan]
  exact if_neg hcond

/-- An audit has a report exactly for the texts that can be audited. -/
theorem auditTemplate_eq (w : World) (t : Deploy.Template) (s : Installation) :
    (Auditable t.content → ((Deploy.auditTemplate w t).run s).1 =
      .ok (audit s.catalog w.reportId w.now t.content t.provider (some t.id)).1) ∧
    (¬ Auditable t.content → ((Deploy.auditTemplate w t).run s).1 = .error (.mismatch .depth)) := by
  rw [Deploy.auditTemplate, Routine.run_perform, scannable]
  by_cases hscan : isScannable t.content.toList = true
  · rw [if_pos hscan]
    dsimp only
    constructor
    · intro h
      rw [priceable_of_auditable h]
      rfl
    · intro h
      rw [priceable_of_not_auditable hscan h]
      rfl
  · rw [if_neg hscan]
    exact ⟨fun h => absurd h.1 hscan, fun _ => rfl⟩

/-- **Audits.** A text has a report exactly if nothing in it is nested too deeply. The report
accounts for the rows of the seeded catalog that are switched on for the provider and have an
evaluator, each with its own. An evaluator that fails takes nothing else away: one without findings
in its place leaves all of the report but the list of failures. And a policy that is switched off
and on again leaves the report as it was. -/
theorem auditTemplate_report (c : Catalog) (id : String) (now : Instant) (text provider : String)
    (template : Option String) :
    (∀ (w : World) (t : Deploy.Template) (s : Installation),
      (Auditable t.content → ((Deploy.auditTemplate w t).run s).1 =
        .ok (audit s.catalog w.reportId w.now t.content t.provider (some t.id)).1) ∧
      (¬ Auditable t.content →
        ((Deploy.auditTemplate w t).run s).1 = .error (.mismatch .depth))) ∧
    (audit c id now text provider template).1.Accounts ((c.seeded now).active provider)
      (subject text provider template) ∧
    ((c.seeded now).active provider).map (·.1) = ((c.seeded now).all.filter fun r =>
      r.active && r.serves provider && ((c.seeded now).definition? r.code).isSome) ∧
    (∀ p ∈ (c.seeded now).active provider, (c.seeded now).definition? p.1.code = some p.2) ∧
    (∀ (code : String) (old silent : Definition), builtIn? code = none →
      Entries.get? code c.registered = some old →
      Fails (old.check (subject text provider template)) →
      silent.check (subject text provider template) = .ok [] →
      (audit { c with registered := Entries.set code silent c.registered } id now text provider
          template).1 =
        { (audit c id now text provider template).1 with
          errors := (audit c id now text provider template).1.errors.filter (· ≠ code) }) ∧
    ∀ (code : String) (off on : Instant),
      (∀ r, (c.seeded off).row? code = some r → r.active = true) →
      (audit ((c.toggle off code false).2.toggle on code true).2 id now text provider
          template).1 =
        (audit c id now text provider template).1 :=
  ⟨auditTemplate_eq, reportOn_accounts _ id now _, Catalog.map_fst_active _ provider,
    fun _ => Catalog.definition?_of_mem_active,
    fun _ _ _ hcode hold => audit_set_registered id hcode hold,
    fun _ _ _ hon => audit_switched hon id text provider template⟩

/-- A policy of an operator that fails. -/
def sampleFailing : Definition where
  code := "X1"
  name := "Fails"
  description := ""
  category := .compliance
  severity := .low
  check := fun _ => .error (.runtime "boom")
  provider := "all"
  builtIn := false

/-- A catalog with a policy that fails. -/
def sampleCatalog : Catalog where
  rows := [("X1", sampleFailing.row 0)]
  registered := [("X1", sampleFailing)]

/-- The same policy without findings. -/
def sampleSilent : Definition :=
  { sampleFailing with check := fun _ => .ok [] }

/-- A policy that fails is replaced, and it is switched off and on. -/
theorem auditTemplate_report_sample :
    (audit { sampleCatalog with
          registered := Entries.set "X1" sampleSilent sampleCatalog.registered }
        "r" 0 "" "aws" none).1.violations = (audit sampleCatalog "r" 0 "" "aws" none).1.violations ∧
      (audit ((sampleCatalog.toggle 1 "X1" false).2.toggle 2 "X1" true).2 "r" 3 "" "aws" none).1 =
        (audit sampleCatalog "r" 3 "" "aws" none).1 := by
  have hrow : (sampleCatalog.seeded 1).row? "X1" = some (sampleFailing.row 0) := by rfl
  have hreports (now : Instant) := auditTemplate_report sampleCatalog "r" now "" "aws" none
  constructor
  · rw [(hreports 0).2.2.2.2.1 "X1" sampleFailing sampleSilent rfl rfl ⟨_, rfl⟩ rfl]
  · refine (hreports 3).2.2.2.2.2 "X1" 1 2 fun r hr => ?_
    obtain rfl : sampleFailing.row 0 = r := by rwa [hrow, Option.some.injEq] at hr
    rfl

end Groundplan.Policy
