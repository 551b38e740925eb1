import Groundplan.Deploy.Access
import Groundplan.Deploy.Run
import Groundplan.Installation

/-!
# The life of a deployment

Planning, applying and destroying. Each is a routine of atomic steps: it holds a slot of its user,
works in a workspace of its own under keys that exist only there, and gives both back whatever
happens. A request that the state of the deployment does not allow is refused before anything else.
An application never trusts an earlier plan; and whatever state it leaves is kept, so that the
deployment can be destroyed.

## Main definitions

* `toolFailure`: the failure of a run
* `Deployment.failed`: a deployment after a failure
* `plan`, `apply`, `destroy`: the routines
* `deploymentOf`, `deploymentsOf`: the deployments of a user
-/

namespace Groundplan.Deploy

/-! ## Records -/

/-- A deployment of a user in a state. -/
def ownDeployment (s : Installation) (user id : String) : Answer Deployment :=
  owned Deployment.user "Deployment" user id s.deployments

/-- **A deployment of a user.** -/
def deploymentOf (user id : String) : Action Deployment :=
  fun s => (ownDeployment s user id, s)

/-- The number of deployments that a listing shows. -/
def maxListed : Nat := 50

/-- The deployments of a user, all or those of a template, newest first. -/
def deploymentsOf (s : Installation) (user : String) (template : Option String) :
    List Deployment :=
  (newestFirst Deployment.createdAt ((s.deployments.map (·.2)).filter fun d =>
    d.user == user && (template.isNone || template == some d.template))).take maxListed

/-- Writes a deployment. -/
def putDeployment (d : Deployment) (s : Installation) : Installation :=
  { s with deployments := Entries.set d.id d s.deployments }

/-- A change of state that cannot fail, as a step. -/
def change (f : Installation → Installation) : Work Unit :=
  .perform fun s => (.ok (), f s)

/-! ## Failures -/

/-- The first characters of a text. -/
def cut (limit : Nat) (s : String) : String :=
  String.ofList (s.toList.take limit)

/-- Characters of output that an error message quotes. -/
def excerptChars : Nat := 500

/-- The last characters of a text. -/
def excerpt (s : String) : String :=
  let cs := s.toList
  String.ofList (cs.drop (cs.length - excerptChars))

/-- **The failure of a run**, named by its step, with the end of the output. -/
def toolFailure (step : String) (r : RunResult) : Failure :=
  let text := "Terraform " ++ step ++ " failed: " ++ r.error.getD "unknown error"
  .provisioning (if r.output == "" then text else text ++ "\n" ++ excerpt r.output)
    (cut maxOutputChars r.output)

/-- Refuses a run that did not succeed. -/
def expectSuccess (step : String) (r : RunResult) : Work Unit :=
  if r.success then pure () else .fail (toolFailure step r)

/-- What is recorded of a failure: its message, or its name if it has none. -/
def recordedMessage (f : Failure) : String :=
  if f.isRefusal || f.message != "" then f.message else f.name

/-- The output of a failed run. -/
def failedOutput? : Failure → Option String
  | .refusal r => if r.kind == .provisioning && r.output != "" then some r.output else none
  | _ => none

/-- The operations on a deployment. -/
inductive Operation where
  | plan
  | apply
  | destroy
deriving DecidableEq, Repr, Inhabited

/-- What the error message of an operation begins with. -/
def Operation.lead : Operation → String
  | .destroy => "Destroy failed: "
  | _ => ""

/-- A deployment with the output of a failed run, if there is any. -/
def Deployment.withOutput (d : Deployment) (op : Operation) (f : Failure) : Deployment :=
  match failedOutput? f, op with
  | none, _ => d
  | some text, .plan => { d with planOutput := some (cut maxOutputChars text) }
  | some text, _ => { d with applyOutput := some (cut maxOutputChars text) }

/-- **A deployment after a failure** of an operation. -/
def Deployment.failed (d : Deployment) (now : Instant) (op : Operation) (f : Failure) :
    Deployment :=
  let d := d.withOutput op f
  { d with
    -- What is not under way stays as it is, and only the message is written.
    status := if d.status.canBecome .failed then .failed else d.status
    error := some (cut maxErrorChars (op.lead ++ recordedMessage f))
    completedAt := some now }

/-- Work on a deployment, the failure of which is recorded. -/
def recording {α : Type} (now : Instant) (d : Deployment) (op : Operation) (p : Work α) : Work α :=
  p.andThen fun r =>
    match r with
    | .ok a => .done (.ok a)
    | .error f => (change (putDeployment (d.failed now op f))).andThen fun _ => .fail f

/-! ## Parts of the operations -/

/-- The keys of a credential; a refusal means that no metered work happened, so the charge is given
back. -/
def assumeOrRefund (w : World) (user : String) (c : Credential) (region : String) (m : Metered) :
    Work Keys :=
  (assumeFor w c region).asStep.andThen fun r =>
    match r with
    | .ok k => .done (.ok k)
    | .error f =>
      -- Only refusals are looked out for: any other failure ends the operation as it stands.
      if f.isRefusal then (change (refund user m)).andThen fun _ => .fail f else .fail f

/-- Takes on the role and makes the workspace. -/
def enter (id : String) (keys : Work Keys) : Work Keys := do
  let k ← keys
  (makeWorkspace id).asStep
  return k

/-- Work on a deployment: it is entered and left, and a failure anywhere is recorded. -/
def within (w : World) (d : Deployment) (op : Operation) (keys : Work Keys)
    (body : Keys → Work Deployment) : Work Deployment := do
  let k ← recording w.now d op (enter d.id keys)
  -- From here on there is a workspace, which is removed whatever happens.
  (body k).ensuring (removeWorkspace d.id)

/-- The run that prepares a workspace. -/
def prepare (w : World) (id : String) : Work Unit := do
  let r ← (runStep w id .init).asStep
  expectSuccess "init" r

/-- An audit of a template, as a step. A text that cannot be cut into blocks is given up at once,
one that cannot be priced only after the catalog has been filled. -/
def auditTemplate (w : World) (t : Template) : Work Policy.Report :=
  .perform fun s =>
    match Hcl.scannable t.content with
    | .error f => (.error f, s)
    | .ok _ =>
      let (r, c) := Policy.audit s.catalog w.reportId w.now t.content t.provider (some t.id)
      ((Policy.priceable t.content).map fun _ => r, { s with catalog := c })

/-! ## Planning -/

/-- A deployment that is ready to be applied. -/
def Deployment.planned (d : Deployment) (r : RunResult) (s : PlanSummary) (report : Policy.Report) :
    Deployment :=
  { d with
    status := .planReady
    summary := some s
    planOutput := some (cut maxOutputChars r.output)
    auditScore := some report.summary.score
    auditIssues := some report.summary.total
    resourceCount := s.add + s.change
    cost := if report.cost.total.isZero then none else some report.cost.total }

/-- Planning in the workspace. -/
def planWithin (w : World) (t : Template) (d : Deployment) (k : Keys) : Work Deployment := do
  (writeFiles d.id t.content k d.region).asStep
  prepare w d.id
  let (r, summary) ← (runPlan w d.id).asStep
  expectSuccess "plan" r
  let report ← auditTemplate w t
  let d := d.planned r summary report
  change (putDeployment d)
  return d

/-- A new deployment of a template. -/
def newDeployment (w : World) (user : String) (t : Template) (c : Credential) (region : String) :
    Deployment :=
  { id := w.recordId, user := user, template := t.id, credential := c.id, region := region,
    createdAt := w.now, startedAt := some w.now }

/-- Planning in a slot: the charge, the record, and the work. -/
def planInSlot (w : World) (user : String) (t : Template) (c : Credential) (region : String) :
    Work Deployment := do
  -- The charge comes first, so whoever cannot pay leaves no record.
  let _ ← (charge user .plan).asStep
  let d := newDeployment w user t c region
  change (putDeployment d)
  within w d .plan (assumeOrRefund w user c region .plan) fun k =>
    recording w.now d .plan (planWithin w t d k)

/-- **Plans a deployment** of a template with a credential. -/
def plan (w : World) (user template credential region : String) : Work Deployment := do
  let t ← (templateOf user template).asStep
  let c ← (credentialOf user credential).asStep
  if c.active then inSlot user (planInSlot w user t c region)
  else .fail (.validation "Deployment credential is inactive")

/-! ## Applying -/

/-- A deployment that was applied and has so many resources. -/
def Deployment.applied (d : Deployment) (now : Instant) (r : RunResult) (resources : Nat) :
    Deployment :=
  { d with
    status := .succeeded
    applyOutput := some (cut maxOutputChars r.output)
    resourceCount := resources
    error := none
    completedAt := some now }

/-- Keeps a state for a deployment. -/
def keepState (w : World) (id text : String) (s : Installation) : Installation :=
  { s with states := s.states.store s.vault w.nonce id text }

/-- A state that there is, if it is not empty. -/
def kept? (state : Option String) : Option String :=
  state.filter (· != "")

/-- Keeps the state of an application, if there is any. -/
def keep (w : World) (id : String) (state : Option String) : Work Unit :=
  match kept? state with
  | some text => change (keepState w id text)
  | none => pure ()

/-- The number of resources of a state. Where it cannot be counted the work ends, and nothing more
is recorded. -/
def counted (state : Option String) : Work Nat :=
  match resourceCount state with
  | .ok n => pure n
  | .error f => .fail f

/-- What is left of a failed application: the state is kept, and the deployment counts what it
lists. -/
def keepPartial (w : World) (d : Deployment) (state : Option String) : Work Deployment :=
  match kept? state with
  | some text => do
    change (keepState w d.id text)
    let n ← counted (some text)
    return { d with resourceCount := n }
  | none => pure d

/-- What follows the run that applies. -/
def concludeApply (w : World) (d : Deployment) (r : RunResult) (state : Option String) :
    Work Deployment :=
  if r.success then do
    -- The state is kept before it is counted, which may end the work.
    keep w d.id state
    let n ← counted (kept? state)
    let d := d.applied w.now r n
    change (putDeployment d)
    return d
  else do
    let d ← keepPartial w d state
    recording w.now d .apply (.fail (toolFailure "apply" r))

/-- Everything up to the run that applies: a fresh plan. -/
def replan (w : World) (t : Template) (d : Deployment) (k : Keys) :
    Work (RunResult × Option String) := do
  (writeFiles d.id t.content k d.region).asStep
  prepare w d.id
  let (r, _) ← (runPlan w d.id).asStep
  expectSuccess "re-plan" r
  (runApply w d.id).asStep

/-- Applying in the workspace. -/
def applyWithin (w : World) (t : Template) (d : Deployment) (k : Keys) : Work Deployment := do
  let (r, state) ← recording w.now d .apply (replan w t d k)
  concludeApply w d r state

/-- Applying in a slot. -/
def applyInSlot (w : World) (user : String) (t : Template) (c : Credential) (d : Deployment) :
    Work Deployment := do
  let _ ← (charge user .apply).asStep
  let d := { d with status := .applying }
  change (putDeployment d)
  within w d .apply (assumeOrRefund w user c d.region .apply) (applyWithin w t d)

/-- A deployment that may change as asked, with its credential and template. -/
def enterDeployment (user id : String) (target : Status) (verb : String) :
    Work (Deployment × Credential × Template) := do
  let d ← (deploymentOf user id).asStep
  if !d.status.canBecome target then
    .fail (.conflict ("Cannot " ++ verb ++ ": deployment is in " ++ d.status.word ++ " state"))
  else
    let c ← (credentialOf user d.credential).asStep
    let t ← (templateOf user d.template).asStep
    return (d, c, t)

/-- **Applies a deployment** that is planned. -/
def apply (w : World) (user id : String) : Work Deployment := do
  let (d, c, t) ← enterDeployment user id .applying "apply"
  inSlot user (applyInSlot w user t c d)

/-! ## Destroying -/

/-- A deployment that was destroyed. -/
def Deployment.destroyed (d : Deployment) (now : Instant) (r : RunResult) : Deployment :=
  { d with
    status := .destroyed
    resourceCount := 0
    applyOutput := some (cut maxOutputChars r.output)
    error := none
    completedAt := some now }

/-- The state that is kept of a deployment. -/
def keptState (id : String) : Action (Option String) :=
  fun s => (s.states.retrieve s.vault id, s)

/-- Drops the state of a deployment. -/
def dropState (id : String) (s : Installation) : Installation :=
  { s with states := s.states.delete id }

/-- Destroying in the workspace. -/
def destroyWithin (w : World) (t : Template) (d : Deployment) (k : Keys) : Work Deployment := do
  (writeFiles d.id t.content k d.region).asStep
  -- The state is read before the tool is prepared; what cannot be unsealed ends the work.
  let state ← (keptState d.id).asStep
  prepare w d.id
  let r ← (runDestroy w d.id state).asStep
  expectSuccess "destroy" r
  -- Only now is nothing left that the state is needed for.
  change (dropState d.id)
  let d := d.destroyed w.now r
  change (putDeployment d)
  return d

/-- Destroying in a slot. -/
def destroyInSlot (w : World) (t : Template) (c : Credential) (d : Deployment) :
    Work Deployment := do
  let d := { d with status := .destroying }
  change (putDeployment d)
  within w d .destroy (assumeFor w c d.region).asStep fun k =>
    recording w.now d .destroy (destroyWithin w t d k)

/-- **Destroys a deployment** from its state. -/
def destroy (w : World) (user id : String) : Work Deployment := do
  let (d, c, t) ← enterDeployment user id .destroying "destroy"
  inSlot user (destroyInSlot w t c d)

end Groundplan.Deploy
