import Groundplan.Account.Role
import Groundplan.Scan.Resource
import Groundplan.Scan.Permission
import Groundplan.Scan.Spending
import Groundplan.Scan.Workload

/-!
# Categories of a scan

A scan looks at an account in ten categories. They do not depend on each other: one that fails is
reported with an error text and no findings.

## Main definitions

* `Category`: the categories; `Category.scan`: the findings of one
* `failureText`: the text for a category that fails
* `Entry`: the outcome of a category
-/

namespace Groundplan.Scan

/-- What a scan looks at. -/
inductive Category where
  | compute
  | network
  | storage
  | database
  | identity
  | serverless
  | nosql
  | loadBalancers
  | containers
  | cost
deriving DecidableEq, Repr, Inhabited

namespace Category

/-- All categories in the order in which they are reported. -/
def all : List Category :=
  [.compute, .network, .storage, .database, .identity, .serverless, .nosql, .loadBalancers,
    .containers, .cost]

/-- The word for a category. -/
def word : Category → String
  | .compute => "compute"
  | .network => "network"
  | .storage => "storage"
  | .database => "database"
  | .identity => "identity"
  | .serverless => "serverless"
  | .nosql => "nosql"
  | .loadBalancers => "load_balancers"
  | .containers => "containers"
  | .cost => "cost"

/-- The name of a category in messages. -/
def label : Category → String
  | .compute => "EC2"
  | .network => "Security Group"
  | .storage => "S3"
  | .database => "RDS"
  | .identity => "IAM"
  | .serverless => "Lambda"
  | .nosql => "DynamoDB"
  | .loadBalancers => "ELB"
  | .containers => "EKS"
  | .cost => "Cost Explorer"

/-- The name of the category that a word stands for; another word is its own name. -/
def labelOf (word : String) : String :=
  ((all.find? fun c => c.word == word).map label).getD word

/-- **The findings of a category** in a region. -/
def scan (now : Instant) (region : String) : Category → Inquiry Findings
  | .compute => scanCompute now region
  | .network => scanNetwork region
  | .storage => scanStorage now region
  | .database => scanDatabase now region
  | .identity => scanIdentity now
  | .serverless => scanServerless region
  | .nosql => scanNosql now region
  | .loadBalancers => scanLoadBalancers now region
  | .containers => scanContainers region
  | .cost => scanSpending (Moment.ofInstant now).date

end Category

/-- **The text for a category that fails** within a limit of seconds. Missing permissions get
advice. -/
def failureText (limit : Int) (label : String) (f : Failure) : String :=
  if f.isDenied then
    label ++ " scan skipped: the role is missing read permissions (" ++ f.cloudCode ++
      "). Attach the read-only policy from the connection setup template."
  else
    match f with
    | .timeout => label ++ " scan timed out after " ++ decimalText limit ++ "s"
    | f => label ++ " scan failed: " ++ f.message

/-- The outcome of a category. -/
structure Entry where
  category : Category
  findings : Findings := {}
  /-- Why the category failed. -/
  error : Option String := none
deriving Repr, Inhabited

/-- The entry of a category: what its scan found, or nothing and why it failed. -/
def Entry.ofAnswer (limit : Int) (c : Category) : Answer Findings → Entry
  | .ok findings => ⟨c, findings, none⟩
  | .error f => ⟨c, {}, some (failureText limit c.label f)⟩

/-- The view of an entry. -/
def Entry.toData (e : Entry) : Data :=
  .map [("category", .text e.category.word),
    ("issues", .list (e.findings.issues.map SecurityIssue.toData)),
    ("opportunities", .list (e.findings.opportunities.map CostOpportunity.toData)),
    ("scanned_count", .ofNat e.findings.scanned), ("error", .ofText? e.error)]

/-- Scans a category; this inquiry does not fail. -/
def scanCategory (limit : Int) (now : Instant) (region : String) (c : Category) :
    Inquiry Entry := do
  return .ofAnswer limit c (← (c.scan now region).attempt)

end Groundplan.Scan
