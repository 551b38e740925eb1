import Groundplan.Calendar
import Groundplan.Deploy.Status

/-!
# Templates, credentials and deployments

The records of the deployment service. Each belongs to a user. A credential keeps the ARN of its
role sealed; a deployment keeps no keys.

## Main definitions

* `Template`: a saved configuration
* `Credential`: a role that deployments use
* `Deployment`: one attempt to provision a template
* `PlanSummary`: how many resources a plan adds, changes and destroys
-/

namespace Groundplan.Deploy

/-- A saved configuration. -/
structure Template where
  id : String
  user : String
  name : String
  content : String
  provider : String
  description : Option String
  createdAt : Instant
deriving Repr, Inhabited

/-- The view of a template, with its content or without. -/
def Template.toData (t : Template) (withContent : Bool) : Data :=
  .map ([("id", .text t.id), ("name", .text t.name), ("provider", .text t.provider),
    ("description", .ofText? t.description), ("created_at", .text (instantText t.createdAt))] ++
    (if withContent then [("content", .text t.content)] else []))

/-- A role that deployments use. -/
structure Credential where
  id : String
  user : String
  name : String
  sealedArn : String
  externalId : String
  active : Bool
  createdAt : Instant
  updatedAt : Instant
deriving Repr, Inhabited

/-- The view of a credential, which never shows the role. -/
def Credential.toData (c : Credential) : Data :=
  .map [("id", .text c.id), ("name", .text c.name), ("provider", .text "aws"),
    ("is_active", .bool c.active), ("external_id", .text c.externalId),
    ("created_at", .text (instantText c.createdAt)),
    ("updated_at", .text (instantText c.updatedAt))]

/-- How many resources a plan adds, changes and destroys. -/
structure PlanSummary where
  add : Int
  change : Int
  destroy : Int
deriving DecidableEq, Repr, Inhabited

/-- The view of a summary. -/
def PlanSummary.toData (s : PlanSummary) : Data :=
  .map [("add", .int s.add), ("change", .int s.change), ("destroy", .int s.destroy)]

/-- One attempt to provision a template. -/
structure Deployment where
  id : String
  user : String
  template : String
  credential : String
  region : String
  status : Status := .planning
  summary : Option PlanSummary := none
  planOutput : Option String := none
  applyOutput : Option String := none
  auditScore : Option Int := none
  auditIssues : Option Nat := none
  resourceCount : Int := 0
  cost : Option Binary64 := none
  error : Option String := none
  createdAt : Instant
  startedAt : Option Instant := none
  completedAt : Option Instant := none
deriving Repr, Inhabited

/-- The text of an instant that there may be. -/
def timeData (t : Option Instant) : Data :=
  .ofText? (t.map instantText)

/-- The view of a deployment. -/
def Deployment.toData (d : Deployment) : Data :=
  .map [("id", .text d.id), ("template_id", .text d.template),
    ("credential_id", .text d.credential), ("region", .text d.region),
    ("status", .text d.status.word),
    ("plan_summary", (d.summary.map PlanSummary.toData).getD .null),
    ("plan_output", .ofText? d.planOutput), ("apply_output", .ofText? d.applyOutput),
    ("audit_score", (d.auditScore.map Data.int).getD .null),
    ("audit_issues", (d.auditIssues.map Data.ofNat).getD .null),
    ("resource_count", .int d.resourceCount),
    ("estimated_cost", (d.cost.map Data.float).getD .null),
    ("error_message", .ofText? d.error), ("created_at", .text (instantText d.createdAt)),
    ("started_at", timeData d.startedAt), ("completed_at", timeData d.completedAt)]

end Groundplan.Deploy
