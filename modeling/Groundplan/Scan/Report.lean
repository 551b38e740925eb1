import Groundplan.Scan.Category

/-!
# Scan reports

A report joins the categories of a scan. Its costs are those of the cost explorer if that shows any,
and an estimate of the resources that were found otherwise.

## Main definitions

* `CostSummary`, `costSummary`: what the account costs
* `Report`, `Report.toData`
* `scanAccount`: the scan of an account
-/

namespace Groundplan.Scan

/-- What an account costs in a month. -/
structure CostSummary where
  /-- Whether the figures are those of the cost explorer. -/
  measured : Bool
  total : Binary64
  byService : Entries Binary64
  history : List MonthlySpend
deriving Repr, Inhabited

/-- The view of a summary. -/
def CostSummary.toData (s : CostSummary) : Data :=
  .map [("source", .text (if s.measured then "cost_explorer" else "heuristic")),
    ("total_monthly", .float s.total),
    ("by_service", .map (s.byService.map fun e => (e.1, .float e.2))),
    ("history", .list (s.history.map MonthlySpend.toData))]

/-- Figures by the names of their services; of services of one name the last one counts. -/
def named (spent : List ServiceSpend) : Entries Binary64 :=
  spent.foldl (fun es s => Entries.set s.service.plain s.cost es) []

/-- **What an account costs**: the figures of the cost explorer if they show any spending, an
estimate otherwise. -/
def costSummary (region : String) (entries : List Entry) : CostSummary :=
  let found := Findings.join (entries.map (·.findings))
  let total := (Binary64.sum (found.byService.map (·.cost))).cents
  if (0 : Binary64).lt total then ⟨true, total, named found.byService, found.history⟩
  else
    let b := Cost.breakdown Pricing.estimate (found.priced.map (LiveResource.priced (some region)))
    ⟨false, b.total, b.byService, found.history⟩

/-- The report on an account in a region. -/
structure Report where
  account : Data
  region : String
  entries : List Entry
  costs : CostSummary
  scannedAt : Instant
deriving Repr, Inhabited

namespace Report

/-- The texts of the categories that failed. -/
def errors (r : Report) : List String :=
  r.entries.filterMap (·.error)

/-- The issues of all categories. -/
def issues (r : Report) : List SecurityIssue :=
  r.entries.flatMap (·.findings.issues)

/-- The opportunities of all categories. -/
def opportunities (r : Report) : List CostOpportunity :=
  r.entries.flatMap (·.findings.opportunities)

/-- How many issues have a severity. -/
def countOf (r : Report) (s : Policy.Severity) : Nat :=
  r.issues.countP fun i => i.severity == s

/-- How many resources were looked at. -/
def scanned (r : Report) : Nat :=
  (r.entries.map (·.findings.scanned)).foldr (· + ·) 0

/-- What could be saved in a month. -/
def savings (r : Report) : Binary64 :=
  (Binary64.sum (r.opportunities.map (·.savings))).cents

/-- The view of a report. -/
def toData (r : Report) : Data :=
  .map [("account_id", r.account), ("region", .text r.region),
    ("partial", .bool !r.errors.isEmpty), ("errors", .ofTexts r.errors),
    ("categories", .map (r.entries.map fun e => (e.category.word, e.toData))),
    ("security_issues", .list (r.issues.map SecurityIssue.toData)),
    ("cost_opportunities", .list (r.opportunities.map CostOpportunity.toData)),
    ("cost_summary", r.costs.toData),
    ("summary", .map [("total_resources", .ofNat r.scanned),
      ("critical_issues", .ofNat (r.countOf .critical)),
      ("high_issues", .ofNat (r.countOf .high)),
      ("estimated_monthly_savings", .float r.savings)]),
    ("scanned_at", .text (instantText r.scannedAt))]

end Report

/-- **The scan of an account** in a region, each category within a limit of seconds; this inquiry
does not fail. -/
def scanAccount (limit : Int) (now : Instant) (region : String) (account : Data) :
    Inquiry Report := do
  let entries ← Category.all.mapM (scanCategory limit now region)
  return ⟨account, region, entries, costSummary region entries, now⟩

end Groundplan.Scan
