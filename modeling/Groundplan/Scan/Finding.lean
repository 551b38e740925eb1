import Groundplan.Cloud.Inquiry
import Groundplan.Cloud.Call
import Groundplan.Cloud.Resource
import Groundplan.Policy.Finding

/-!
# Findings of a scan

What a scan of an account finds: issues of security, opportunities to save, the resources that have
a price, and what was spent.

## Main definitions

* `SecurityIssue`, `CostOpportunity`
* `Findings`: what a scan of a category finds; findings are joined by `++`
* `Findings.ofEach`: the findings of rows, one after the other
* `scanPages`: the findings of a listing, page by page
-/

namespace Groundplan.Scan

open Policy (Severity)

/-- An issue of security with a resource. -/
structure SecurityIssue where
  resourceType : String
  resource : Data
  severity : Severity
  issue : String
  recommendation : String
  region : Option String
deriving Repr, Inhabited

/-- The view of an issue. -/
def SecurityIssue.toData (i : SecurityIssue) : Data :=
  .map [("resource_type", .text i.resourceType), ("resource_id", i.resource),
    ("severity", .text i.severity.word), ("issue", .text i.issue),
    ("recommendation", .text i.recommendation), ("region", .ofText? i.region)]

/-- An opportunity to save, with what the resource costs in a month. -/
structure CostOpportunity where
  resourceType : String
  resource : Data
  cost : Binary64
  savings : Binary64
  recommendation : String
  region : Option String
deriving Repr, Inhabited

/-- The view of an opportunity. -/
def CostOpportunity.toData (o : CostOpportunity) : Data :=
  .map [("resource_type", .text o.resourceType), ("resource_id", o.resource),
    ("current_cost", .float o.cost.cents), ("potential_savings", .float o.savings.cents),
    ("recommendation", .text o.recommendation), ("region", .ofText? o.region)]

/-- What was spent on a service. The service is as the cloud gave it, a text as a rule. -/
structure ServiceSpend where
  service : Data
  cost : Binary64
deriving Repr, Inhabited

/-- What was spent in a month. -/
structure MonthlySpend where
  month : String
  cost : Binary64
deriving Repr, Inhabited

/-- The view of a month. -/
def MonthlySpend.toData (m : MonthlySpend) : Data :=
  .map [("name", .text m.month), ("cost", .float m.cost)]

/-- What a scan of a category finds. -/
structure Findings where
  issues : List SecurityIssue := []
  opportunities : List CostOpportunity := []
  /-- How many resources were looked at. -/
  scanned : Nat := 0
  /-- The resources that have a price. -/
  priced : List LiveResource := []
  /-- What was spent this month, by service. -/
  byService : List ServiceSpend := []
  /-- What was spent in the months before. -/
  history : List MonthlySpend := []
deriving Repr, Inhabited

namespace Findings

/-- Two findings together. -/
def append (a b : Findings) : Findings :=
  ⟨a.issues ++ b.issues, a.opportunities ++ b.opportunities, a.scanned + b.scanned,
    a.priced ++ b.priced, a.byService ++ b.byService, a.history ++ b.history⟩

instance : Append Findings := ⟨append⟩

/-- Many findings together. -/
def join (fs : List Findings) : Findings :=
  fs.foldr (· ++ ·) {}

/-- The findings of rows, one after the other. -/
def ofEach {α : Type} (rows : List α) (scan : α → Inquiry Findings) : Inquiry Findings := do
  return join (← rows.mapM scan)

end Findings

/-- The findings of a listing: its pages in order, and the rows of a page under a key in order. -/
def scanPages (k : Client) (operation : String) (params : Entries Data) (key : String)
    (scan : Data → Inquiry Findings) : Inquiry Findings := do
  Findings.ofEach (← k.pages operation params) fun page => do
    Findings.ofEach (← (← page).rows key) scan

end Groundplan.Scan
