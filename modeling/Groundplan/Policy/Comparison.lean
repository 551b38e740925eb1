import Groundplan.Patch.Unified
import Groundplan.Policy.Audit

/-!
# Comparing two versions

What a change to a configuration does to its findings, its score and its cost. A finding of one
version is matched by those of the other with the same policy and resource.

## Main definitions

* `Report.keys`: the policies and resources of the findings of a report
* `onlyIn`: the findings of a report whose key is not among some keys
* `Comparison`, `compareTexts`: the change from one text to another
-/

namespace Groundplan.Policy

/-- What tells whether two findings of two versions are the same. -/
def findingKey (code : String) (f : Finding) : String :=
  code ++ ":" ++ f.reference

/-- The keys of the findings of a report. -/
def Report.keys (r : Report) : List String :=
  r.violations.flatMap fun v => v.findings.map (findingKey v.code)

/-- A violation with the findings whose key is not among some keys, if any are left. -/
def Violation.without? (keys : List String) (v : Violation) : Option Violation :=
  match v.findings.filter fun f => !keys.contains (findingKey v.code f) with
  | [] => none
  | fs => some { v with findings := fs }

/-- **The violations of a report whose findings have no match among some keys.** -/
def onlyIn (r : Report) (keys : List String) : List Violation :=
  r.violations.filterMap (Violation.without? keys)

/-- The change from one version to another. -/
structure Comparison where
  patch : String
  oldCost : Binary64
  newCost : Binary64
  introduced : List Violation
  fixed : List Violation
  issuesChange : Int
  scoreChange : Int
deriving Repr, Inhabited

/-- The change between two reports, with the patch between their texts. -/
def compareReports (patch : String) (old new : Report) : Comparison :=
  ⟨patch, old.cost.total, new.cost.total, onlyIn new old.keys, onlyIn old new.keys,
    (new.summary.total : Int) - old.summary.total, new.summary.score - old.summary.score⟩

/-- **The change from one text to another.** -/
def compareTexts (c : Catalog) (now : Instant) (old new provider : String) :
    Comparison × Catalog :=
  let (before, c) := audit c "" now old provider none
  let (after, c) := audit c "" now new provider none
  (compareReports (Patch.unified old new) before after, c)

/-- The view of a comparison. -/
def Comparison.toEntries (c : Comparison) : Entries Data :=
  [("patch", .text c.patch), ("cost_delta", .float (c.newCost - c.oldCost).cents),
    ("old_monthly_cost", .float c.oldCost.cents), ("new_monthly_cost", .float c.newCost.cents),
    ("security_delta", .map [
      ("new_violations", .list (c.introduced.map Violation.toData)),
      ("fixed_violations", .list (c.fixed.map Violation.toData)),
      ("total_issues_change", .int c.issuesChange), ("score_change", .int c.scoreChange)])]

end Groundplan.Policy
