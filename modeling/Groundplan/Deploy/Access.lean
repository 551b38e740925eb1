import Groundplan.Account.RoleTemplate
import Groundplan.Account.Session
import Groundplan.Deploy.Library

/-!
# Access for deployments

The roles that deployments use, kept as credentials. A role is kept only after it has been taken on
once, and its ARN only sealed.

## Main definitions

* `addCredential`, `toggleCredential`, `deleteCredential`
* `credentialOf`, `credentialsOf`: the credentials of a user
* `assumeFor`: the keys of a credential
* `deploymentSetup`: what a user needs to make a role
-/

namespace Groundplan.Deploy

/-- A credential of a user in a state. -/
def ownCredential (s : Installation) (user id : String) : Answer Credential :=
  owned Credential.user "Credential" user id s.credentials

/-- **A credential of a user.** -/
def credentialOf (user id : String) : Action Credential :=
  fun s => (ownCredential s user id, s)

/-- The credentials of a user, newest first. -/
def credentialsOf (s : Installation) (user : String) : List Credential :=
  newestFirst Credential.createdAt ((s.credentials.map (·.2)).filter fun c => c.user == user)

/-- Writes a credential. -/
def putCredential (c : Credential) (s : Installation) : Installation :=
  { s with credentials := Entries.set c.id c s.credentials }

/-- **Adds a credential** after its role has been taken on. Without an external identifier a fresh
one is used. -/
def addCredential (w : World) (user name arn external : String) : Action Credential := do
  Action.ofAnswer (checkRoleArn arn)
  if trimmed name == "" then throw (.validation "Credential name is required")
  let external := if external == "" then w.externalId else external
  let arn := trimmed arn
  -- A role that cannot be taken on is not kept.
  let _ ← assume w { arn, purpose := "verify", externalId := .text external }
  let s ← get
  let c : Credential := ⟨w.recordId, user, trimmed name,
    s.vault.conceal w.nonce w.recordId arn, external, true, w.now, w.now⟩
  modify (putCredential c)
  return c

/-- **Switches a credential on or off.** -/
def toggleCredential (w : World) (user id : String) (active : Bool) : Action Credential := do
  let c ← credentialOf user id
  let c := { c with active := active, updatedAt := w.now }
  modify (putCredential c)
  return c

/-- Whether a deployment with a credential is under way. -/
def isInUse (s : Installation) (credential : String) : Bool :=
  s.deployments.any fun d => d.2.credential == credential && d.2.status.inProgress

/-- **Deletes a credential** that no deployment under way uses. -/
def deleteCredential (user id : String) : Action Unit := do
  let _ ← credentialOf user id
  let s ← get
  if isInUse s id then throw (.conflict "Cannot delete credentials with active deployments")
  set { s with credentials := Entries.erase id s.credentials }

/-- **The keys of a credential** for a region. -/
def assumeFor (w : World) (c : Credential) (region : String) : Action Keys := do
  let s ← get
  let arn ← Action.ofAnswer (s.vault.reveal c.id c.sealedArn)
  assume w { arn, purpose := "deploy", externalId := .text c.externalId, region }

/-- **What a user needs to make a role** to deploy with. -/
def deploymentSetup (w : World) (s : Settings) (external : String) : Entries Data :=
  let external := if external == "" then w.externalId else external
  [("external_id", .text external),
    ("template_yaml", .text (deployRoleTemplate s.appName external s.hostAccount))]

end Groundplan.Deploy
