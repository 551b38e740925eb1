import Groundplan.Account.Connections
import Groundplan.Deploy.Lifecycle
import Groundplan.Draft.Template
import Groundplan.Http.Route
import Groundplan.Policy.Actions

/-!
# The service

All routes, and the service that answers requests by them within the limits.

## Main definitions

* `routes`: the routes of the service
* `started`: an installation as the service begins with it
* `serve`: the response to a request
-/

namespace Groundplan.Http

open Deploy Draft Policy

/-! ## Audits -/

/-- The fields of a request for an audit. -/
def auditFields : List Field := [.text "content", .textOr "provider" "aws", .optional "template_id"]

/-- Audits a configuration. -/
def postAudit : Handler := .ofAction fun x => do
  let r ← auditText x.world x.user (x.text "content") (x.text "provider") (x.text? "template_id")
  return [("report", r.toData)]

/-- The fields of a request for a comparison. -/
def comparisonFields : List Field :=
  [.text "old_content", .text "new_content", .textOr "provider" "aws"]

/-- Compares two versions of a configuration. -/
def postComparison : Handler := .ofAction fun x => do
  let c ← compareVersions x.world (x.text "old_content") (x.text "new_content") (x.text "provider")
  return c.toEntries

/-- The newest report of a template. -/
def getLatestReport : Handler := .ofAction fun x => do
  return [("report", (← latestReport x.user x.part).toData)]

/-- The policies. -/
def getPolicies : Handler := .ofAction fun x => do
  let rows ← policiesOf x.world (x.param? "provider")
  return [("policy_count", .ofNat rows.length), ("policies", .list (rows.map Row.toData))]

/-- Switches a policy. -/
def patchPolicy : Handler := .ofAction fun x => do
  return [("policy", (← togglePolicy x.world x.part (x.flag "is_active")).toData)]

/-- The routes of audits and policies. -/
def auditRoutes : List Route := [
  { method := "POST", pattern := .ofText "/api/audit", handler := postAudit, fields := auditFields,
    blurb := some "while auditing the configuration" },
  { method := "POST", pattern := .ofText "/api/audit/diff", handler := postComparison,
    fields := comparisonFields, blurb := some "while comparing configurations" },
  { method := "GET", pattern := .ofText "/api/templates/*/audit/latest",
    handler := getLatestReport },
  { method := "GET", pattern := .ofText "/api/policies", handler := getPolicies },
  { method := "PATCH", pattern := .ofText "/api/policies/*", handler := patchPolicy,
    fields := [.flag "is_active"] }]

/-! ## Templates -/

/-- The fields of a template. -/
def templateFields : List Field :=
  [.text "name", .text "content", .textOr "provider" "aws", .optional "description"]

/-- Saves a template. -/
def postTemplate : Handler := .ofAction fun x => do
  let t ← saveTemplate x.world x.user (x.text "name") (x.text "content") (x.text "provider")
    (x.text? "description")
  return [("template", t.toData true)]

/-- The templates of the user, without their texts. -/
def getTemplates : Handler := .ofAction fun x => do
  return [("templates", .list ((templatesOf (← get) x.user).map fun t => t.toData false))]

/-- The fields of a request for a draft. -/
def draftFields : List Field :=
  [.text "prompt", .textOr "provider" "aws", .optional "name", .optional "connection_id"]

/-- Makes a template from a description, in view of the resources of a connection. -/
def postDraft : Handler := .ofAction fun x => do
  let connection := x.text "connection_id"
  let present ← if connection == "" then pure [] else resourcesOf x.user connection none
  let t ← draftTemplate x.world x.user (x.text "prompt") (x.text "provider") (x.text "name") present
  return t.toEntries

/-- The routes of templates. -/
def templateRoutes : List Route := [
  { method := "POST", pattern := .ofText "/api/templates", handler := postTemplate,
    fields := templateFields },
  { method := "GET", pattern := .ofText "/api/templates", handler := getTemplates },
  { method := "POST", pattern := .ofText draftPath, handler := postDraft, fields := draftFields,
    blurb := some "while generating the template" }]

/-! ## Connections -/

/-- What a user needs to connect an account. -/
def getConnectionSetup : Handler := .ofAction fun x => connectionSetup x.world

/-- The fields of a connection. -/
def connectionFields : List Field :=
  [.text "name", .text "role_arn", .text "external_id", .optional "region"]

/-- Connects an account. -/
def postConnection : Handler := .ofAction fun x => do
  let c ← createConnection x.world x.user (x.text "name") (x.text "role_arn") (x.text "external_id")
    (x.text "region")
  return [("connection", c.toData)]

/-- The connections of the user. -/
def getConnections : Handler := .ofAction fun x => do
  return [("connections", .list ((connectionsOf (← get) x.user).map Connection.toData))]

/-- Deletes a connection. -/
def eraseConnection : Handler := .ofAction fun x => do
  deleteConnection x.user x.part
  return []

/-- Takes stock of a connection. -/
def postSync : Handler := .ofAction fun x => do
  let c ← syncConnection x.world x.user x.part
  let rs ← resourcesOf x.user x.part none
  return [("connection", c.toData), ("resource_count", .ofNat rs.length)]

/-- The resources of a connection. -/
def getResources : Handler := .ofAction fun x => do
  let rs ← resourcesOf x.user x.part (x.param? "resource_type")
  return [("resource_count", .ofNat rs.length), ("resources", .list (rs.map LiveResource.toData))]

/-- Scans the account of a connection. -/
def postScan : Handler := .ofAction fun x => do
  return [("scan", (← scanConnection x.world x.user x.part).toData)]

/-- The routes of connections. -/
def connectionRoutes : List Route := [
  { method := "GET", pattern := .ofText "/api/cloud/setup", handler := getConnectionSetup },
  { method := "POST", pattern := .ofText "/api/cloud/connections", handler := postConnection,
    fields := connectionFields },
  { method := "GET", pattern := .ofText "/api/cloud/connections", handler := getConnections },
  { method := "DELETE", pattern := .ofText "/api/cloud/connections/*", handler := eraseConnection },
  { method := "POST", pattern := .ofText "/api/cloud/connections/*/sync", handler := postSync,
    blurb := some "while syncing resources" },
  { method := "GET", pattern := .ofText "/api/cloud/connections/*/resources",
    handler := getResources },
  { method := "POST", pattern := .ofText "/api/cloud/connections/*/scan", handler := postScan,
    blurb := some "while scanning the account" }]

/-! ## Deployments -/

/-- The fields of a credential. -/
def credentialFields : List Field := [.text "name", .text "role_arn", .optional "external_id"]

/-- Adds a credential. -/
def postCredential : Handler := .ofAction fun x => do
  let c ← addCredential x.world x.user (x.text "name") (x.text "role_arn") (x.text "external_id")
  return [("credential", c.toData)]

/-- The credentials of the user. -/
def getCredentials : Handler := .ofAction fun x => do
  return [("credentials", .list ((credentialsOf (← get) x.user).map Credential.toData))]

/-- Switches a credential. -/
def patchCredential : Handler := .ofAction fun x => do
  return [("credential", (← toggleCredential x.world x.user x.part (x.flag "is_active")).toData)]

/-- Deletes a credential. -/
def eraseCredential : Handler := .ofAction fun x => do
  deleteCredential x.user x.part
  return []

/-- What a user needs to deploy. -/
def getDeploymentSetup : Handler := .ofAction fun x => do
  return deploymentSetup x.world (← get).settings ((x.param? "external_id").getD "")

/-- The fields of a request for a plan. -/
def planFields : List Field := [.text "template_id", .text "credential_id", .optional "region"]

/-- Plans a deployment. -/
def postPlan : Handler := fun x s =>
  let region := x.text "region"
  Handler.ofWork (fun x => plan x.world x.user (x.text "template_id") (x.text "credential_id")
    (if region == "" then s.settings.region else region))
    (fun d => [("deployment", d.toData)]) x s

/-- Applies a deployment. -/
def postApply : Handler :=
  .ofWork (fun x => apply x.world x.user x.part) fun d => [("deployment", d.toData)]

/-- Destroys a deployment. -/
def postDestroy : Handler :=
  .ofWork (fun x => destroy x.world x.user x.part) fun d =>
    [("deployment", d.toData), ("output", .text (d.applyOutput.getD ""))]

/-- The deployments of the user. -/
def getDeployments : Handler := .ofAction fun x => do
  return [("deployments",
    .list ((deploymentsOf (← get) x.user (x.param? "template_id")).map Deployment.toData))]

/-- A deployment. -/
def getDeployment : Handler := .ofAction fun x => do
  return [("deployment", (← deploymentOf x.user x.part).toData)]

/-- The routes of deployments. -/
def deploymentRoutes : List Route := [
  { method := "POST", pattern := .ofText "/api/deployments/credentials", handler := postCredential,
    fields := credentialFields },
  { method := "GET", pattern := .ofText "/api/deployments/credentials", handler := getCredentials },
  { method := "PATCH", pattern := .ofText "/api/deployments/credentials/*",
    handler := patchCredential, fields := [.flag "is_active"] },
  { method := "DELETE", pattern := .ofText "/api/deployments/credentials/*",
    handler := eraseCredential },
  { method := "GET", pattern := .ofText "/api/deployments/setup-template",
    handler := getDeploymentSetup },
  { method := "POST", pattern := .ofText "/api/deployments/plan", handler := postPlan,
    fields := planFields, blurb := some "during plan" },
  { method := "POST", pattern := .ofText "/api/deployments/*/apply", handler := postApply,
    blurb := some "during apply" },
  { method := "POST", pattern := .ofText "/api/deployments/*/destroy", handler := postDestroy,
    blurb := some "during destroy" },
  { method := "GET", pattern := .ofText "/api/deployments", handler := getDeployments },
  { method := "GET", pattern := .ofText "/api/deployments/*", handler := getDeployment }]

/-! ## The service -/

/-- Whether the service lives and has its tool. -/
def getHealth : Handler := .ofAction fun x => do
  let s ← get
  return [("service", .text s.settings.appName), ("terraform", ← toolStatus x.world)]

/-- **The routes of the service**, in the order in which they are tried. -/
def routes : List Route :=
  { method := "GET", pattern := .ofText "/api/health", handler := getHealth, isOpen := true } ::
    (auditRoutes ++ templateRoutes ++ connectionRoutes ++ deploymentRoutes)

/-- An installation as the service begins with it: with the built-in policies. -/
def started (settings : Settings) (now : Instant) : Installation :=
  seedPolicies now (.fresh settings)

/-- The response to a request within the limits. -/
def respond (w : World) (r : Request) (s : Installation) : Response × Installation :=
  match resolve routes r.method r.path with
  | .found route parts => route.answer w parts r s
  | .wrongMethod => (.wrongMethod, s)
  | .elsewhere path => (.redirect path, s)
  | .missing => (.notFound, s)

/-- Whether a request is within the limit of its endpoint; one that is counts toward it. -/
def withinLimit (w : World) (r : Request) (s : Installation) : Bool × Installation :=
  match rateLimit? (plainPath r.path) with
  | none => (true, s)
  | some l =>
    let (allowed, window) := s.window.allow w.now r.client l.endpoint l.limit
    (allowed, { s with window := window })

/-- **The response to a request.** -/
def serve (w : World) (r : Request) (s : Installation) : Response × Installation :=
  match sizeProblem? r with
  | some problem => (tooLarge problem, s)
  | none =>
    match withinLimit w r s with
    | (true, s) => respond w r s
    | (false, s) => (tooOften, s)

end Groundplan.Http
