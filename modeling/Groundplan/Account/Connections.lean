import Groundplan.Account.RoleTemplate
import Groundplan.Account.Session
import Groundplan.Cloud.Discovery
import Groundplan.Deploy.Library
import Groundplan.Installation
import Groundplan.Scan.Report

/-!
# Working with connections

A user connects an account by a role that reads it, takes stock of its resources, and has it
scanned. A connection of another user is as good as none.

## Main definitions

* `connectionSetup`: what a user needs to make a role
* `createConnection`, `deleteConnection`
* `connectionOf`, `connectionsOf`, `resourcesOf`: the connections of a user and their resources
* `syncConnection`: takes stock of the resources of a connection
* `scanConnection`: scans the account of a connection
-/

namespace Groundplan

open Deploy (trimmed)

/-! ## Setup -/

/-- The page on which a user makes the role. -/
def setupUrl (s : Settings) (external : String) : String :=
  "https://console.aws.amazon.com/cloudformation/home?region=" ++ s.region ++
    "#/stacks/quickcreate?stackName=" ++ s.appName ++ "-connect&param_ExternalId=" ++ external

/-- **What a user needs to make a role** that reads an account. -/
def connectionSetup (w : World) : Action (Entries Data) := do
  let account ← hostAccount w
  let s := (← get).settings
  return [("external_id", .text w.externalId), ("host_account_id", account),
    ("template_yaml", .text (readRoleTemplate s.appName w.externalId account.plain)),
    ("setup_url", .text (setupUrl s w.externalId))]

/-! ## Records -/

/-- A connection of a user in a state. -/
def ownConnection (s : Installation) (user id : String) : Answer Connection :=
  owned Connection.user "Connection" user id s.connections

/-- **A connection of a user.** -/
def connectionOf (user id : String) : Action Connection :=
  fun s => (ownConnection s user id, s)

/-- The connections of a user, oldest first. -/
def connectionsOf (s : Installation) (user : String) : List Connection :=
  (s.connections.map (·.2)).filter fun c => c.user == user

/-- Writes a connection. -/
def putConnection (c : Connection) (s : Installation) : Installation :=
  { s with connections := Entries.set c.id c s.connections }

/-- A connection that does not work, and why. -/
def Connection.broken (c : Connection) (message : String) (now : Instant) : Connection :=
  { c with
    status := .failed
    lastError := some (String.ofList (message.toList.take maxErrorChars))
    updatedAt := now }

/-! ## Creating and deleting -/

/-- Whether a failure is a refusal of what was given. -/
def Failure.isValidation : Failure → Bool
  | .refusal r => r.kind == .validation
  | _ => false

/-- **Creates a connection** by taking on its role. If the role is refused, the connection is kept
with the error; if that cannot be told, nothing is kept. -/
def createConnection (w : World) (user name arn external region : String) : Action Connection := do
  Action.ofAnswer (checkRoleArn arn)
  if trimmed name == "" then throw (.validation "Connection name is required")
  if external == "" then throw (.validation "External ID is required")
  let arn := trimmed arn
  let s ← get
  let region := if region == "" then s.settings.region else region
  let c : Connection := {
    id := w.recordId
    user := user
    name := trimmed name
    sealedArn := s.vault.conceal w.nonce w.recordId arn
    externalId := external
    region := region
    account := accountOf arn
    createdAt := w.now
    updatedAt := w.now }
  try
    let _ ← assume w { arn, purpose := "connect", externalId := .text external, region }
  catch f =>
    if f.isValidation then
      modify (putConnection { c with status := .failed, lastError := some f.message })
    throw f
  let c := { c with status := .active }
  modify (putConnection c)
  return c

/-- **Deletes a connection** with its resources. -/
def deleteConnection (user id : String) : Action Unit := do
  let _ ← connectionOf user id
  modify fun s => { s with
    inventory := (s.inventory.dropConnection id).2
    connections := Entries.erase id s.connections }

/-- **The resources of a connection**, all or those of a type. -/
def resourcesOf (user id : String) (type : Option String) : Action (List LiveResource) := do
  let _ ← connectionOf user id
  return (← get).inventory.ofConnection id type

/-! ## Taking stock and scanning -/

/-- The keys of a connection. -/
def assumeConnection (w : World) (c : Connection) (purpose : String) : Action Keys := do
  let s ← get
  let arn ← Action.ofAnswer (s.vault.reveal c.id c.sealedArn)
  assume w { arn, purpose, externalId := .text c.externalId, region := c.region }

/-- The refusal of a role that may read nothing. -/
def mayReadNothing : Failure :=
  .validation "The connected role is missing read permissions. Update it with the setup template."

/-- Finds the resources of a connection. -/
def discoverConnection (w : World) (c : Connection) : Action Discovered := do
  let _ ← assumeConnection w c "sync"
  let found ← Action.inquire w (discover w.now c.region c.id)
  if found.isDenied then throw mayReadNothing
  return found

/-- How a failed discovery is kept with the connection, and how it is answered. -/
def syncFailure (f : Failure) : String × Failure :=
  if f.isRefusal then (f.message, f)
  else ("Resource discovery failed",
    .unavailableSaying "AWS" "Resource discovery failed. Please try again.")

/-- Writes resources one after the other. -/
def putResources (rs : List LiveResource) : Action Unit :=
  rs.forM fun r => Action.draw fun s =>
    let (a, inventory) := s.inventory.upsert r
    (a.map fun _ => (), { s with inventory := inventory })

/-- **Takes stock of the resources of a connection.** -/
def syncConnection (w : World) (user id : String) : Action Connection := do
  let c ← connectionOf user id
  let found ←
    try discoverConnection w c
    catch f =>
      modify (putConnection (c.broken (syncFailure f).1 w.now))
      throw (syncFailure f).2
  putResources found.resources
  let c := { c with
    status := .active
    lastError := none
    lastSync := some w.now
    updatedAt := w.now }
  modify (putConnection c)
  return c

/-- **Scans the account of a connection.** The scan is charged once the keys have been checked. -/
def scanConnection (w : World) (user id : String) : Action Scan.Report := do
  let c ← connectionOf user id
  let k ← assumeConnection w c "scan"
  let account ← checkKeys w k
  let _ ← charge user .scan
  let s ← get
  Action.inquire w (Scan.scanAccount s.settings.scanSeconds w.now k.region account)

end Groundplan
