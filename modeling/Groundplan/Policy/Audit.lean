import Groundplan.Cost.Breakdown
import Groundplan.Hcl.Reader
import Groundplan.Policy.Catalog
import Groundplan.Settings

/-!
# Audits

An audit runs the policies that are switched on for a provider over a configuration. Each runs by
itself: one that fails is noted and counts as passed, and the others go on. Reports that are saved
for a template are only ever added to.

## Main definitions

* `Outcome`, `evaluate`: what one policy comes to
* `Report`: the violations, the cost and the score of a configuration
* `audit`: the report on a text
* `configuredRegion`: the region that a configuration is priced in
* `priceable`, `contentOf`: the texts that can be audited
* `History`, `History.save`: the reports in the order in which they were saved
* `History.ofTemplate`, `History.latest?`: the reports of a template, newest first
-/

namespace Groundplan.Policy

open Hcl

/-! ## Outcomes -/

/-- What a policy comes to. -/
inductive Outcome where
  | clean
  | violated (v : Violation)
  | failed (code : String)
deriving Repr, Inhabited

/-- The violation in an outcome. -/
def Outcome.violation? : Outcome → Option Violation
  | .violated v => some v
  | _ => none

/-- The code of a policy that failed. -/
def Outcome.failed? : Outcome → Option String
  | .failed code => some code
  | _ => none

/-- Runs one policy. -/
def evaluate (s : Subject) (p : Row × Definition) : Outcome :=
  match p.2.check s with
  | .error _ => .failed p.1.code
  | .ok [] => .clean
  | .ok fs => .violated ⟨p.1.code, p.1.name, p.1.category, p.1.severity, fs⟩

/-! ## Reports -/

/-- The report of an audit. -/
structure Report where
  id : String
  template : Option String
  provider : String
  violations : List Violation
  cost : Cost.Breakdown
  summary : Summary
  createdAt : Instant
  /-- The codes of the policies that failed. -/
  errors : List String
  warnings : List Warning
deriving Repr, Inhabited

namespace Report

/-- The name of the template, or the word for a text that belongs to none. -/
def templateName (r : Report) : String :=
  match r.template with
  | some t => if t == "" then "inline" else t
  | none => "inline"

/-- The view of a report. -/
def toData (r : Report) : Data :=
  .map [("id", .text r.id), ("template_id", .text r.templateName), ("provider", .text r.provider),
    ("violations", .list (r.violations.map Violation.toData)), ("cost_breakdown", r.cost.toData),
    ("summary", r.summary.toData), ("policy_errors", .ofTexts r.errors),
    ("parse_warnings", .ofTexts (r.warnings.map Warning.message)),
    ("created_at", .text (instantText r.createdAt))]

end Report

/-! ## Auditing -/

/-- The literal region of a provider block. -/
def literalRegion? (b : Block) : Option String :=
  match b.property? "region" with
  | some (.string s) => some s
  | _ => none

/-- The region of the first block of a provider that gives a literal one, or the default. -/
def configuredRegion (c : Configuration) (provider : String) : String :=
  (c.providerBlocks.findSome? fun b =>
    if b.type == provider then literalRegion? b else none).getD defaultRegion

/-- The cost of a configuration. -/
def costOf (c : Configuration) (region : Option String) : Cost.Breakdown :=
  Cost.breakdown Pricing.estimate (c.resources.map (.ofBlock region))

/-- The report on what an evaluator may look at, by a list of policies. -/
def reportOn (policies : List (Row × Definition)) (id : String) (now : Instant) (s : Subject) :
    Report :=
  let outcomes := policies.map (evaluate s)
  let violations := bySeverity (outcomes.filterMap Outcome.violation?)
  ⟨id, s.template, s.provider, violations,
    costOf s.configuration (some (configuredRegion s.configuration s.provider)),
    summarize violations ((policies.length : Int) - violations.length), now,
    outcomes.filterMap Outcome.failed?, s.configuration.warnings⟩

/-- How deep lists and maps may stand inside one another in a property of a priced resource. -/
def maxPricedDepth : Nat := 490

/-- Whether the properties of a resource can be priced. -/
def isPriceable (b : Block) : Bool :=
  b.properties.all fun p => p.2.toData.depth ≤ maxPricedDepth

/-- A text that can be cut into blocks and whose resources can be priced. With few brackets in it,
nothing stands too deep. -/
def priceable (text : String) : Answer String := do
  let text ← scannable text
  let brackets := text.toList.countP fun c => c == '\x7b' || c == '['
  if brackets ≤ maxPricedDepth || (parse text).resources.all isPriceable then return text
  throw (.mismatch .depth)

/-- The text that a value is, if it can be priced; other values cannot be audited. -/
def contentOf : Data → Answer String
  | .text s => priceable s
  | _ => .error (.validation "Configuration content must be text")

/-- What the evaluators see of a text. -/
def subject (text provider : String) (template : Option String) : Subject :=
  ⟨parse text, provider, text, template⟩

/-- **Audits a text** by the policies that are switched on for a provider. -/
def audit (c : Catalog) (id : String) (now : Instant) (text provider : String)
    (template : Option String) : Report × Catalog :=
  let c := c.seeded now
  (reportOn (c.active provider) id now (subject text provider template), c)

/-! ## The history of reports -/

/-- The reports in the order in which they were saved. -/
abbrev History := List Report

namespace History

/-- **Saves a report** that belongs to a template. -/
def save (h : History) (r : Report) : Answer String × History :=
  match r.template with
  | none => (.error (.validation "Only reports for a saved template can be stored"), h)
  | some t =>
    if t == "" then (.error (.validation "Only reports for a saved template can be stored"), h)
    else (.ok r.id, h ++ [r])

/-- The reports of a template, newest first, those of one instant in the order of saving. -/
def ofTemplate (h : History) (template : String) : List Report :=
  (h.filter fun r => r.template == some template).mergeSort fun r s => s.createdAt ≤ r.createdAt

/-- The newest report of a template. -/
def latest? (h : History) (template : String) : Option Report :=
  (h.ofTemplate template).head?

end History

end Groundplan.Policy
