import Groundplan.Deploy.Library
import Groundplan.Draft.Generation
import Groundplan.Installation

/-!
# Templates from descriptions

A description becomes a template: the user is charged, the text model makes a draft, and the draft
is saved if it has resources. The charge is given back only if the model could not be had.

## Main definitions

* `checkRequest`: what a request has to be like
* `draftTemplate`: a template from a description
-/

namespace Groundplan.Draft

open Deploy

/-- Characters that a description may have. -/
def maxDescription : Nat := 5000

/-- Characters of a description that serve as a name. -/
def nameChars : Nat := 60

/-- A request for a draft: the description, the provider in lower case, and the name, if one is
given. -/
structure Request where
  description : String
  provider : String
  name : String
deriving Repr, Inhabited

/-- Checks a request, whose provider may be written in any case. -/
def checkRequest (description provider name : String) : Answer Request :=
  if trimmed description == "" then .error (.validation "Architecture description is required")
  else if maxDescription < description.length then
    .error (.validation ("Architecture description is too long (max " ++ toString maxDescription ++
      " characters)"))
  else
    let provider := Text.lowerText provider
    if providers.contains provider then .ok ⟨description, provider, name⟩
    else .error providerRequired

/-- The name of the template of a request. -/
def Request.templateName (r : Request) : String :=
  if r.name == "" then String.ofList ((trimmed r.description).toList.take nameChars) else r.name

/-- A template that was made from a description. -/
structure Drafted where
  template : Template
  files : Entries String
  resources : Nat
  /-- The balance after the charge. -/
  balance : Int
deriving Repr, Inhabited

/-- The view of a template that was made from a description. -/
def Drafted.toEntries (d : Drafted) : Entries Data :=
  [("template", d.template.toData true), ("files", .map (d.files.map fun f => (f.1, .text f.2))),
    ("resource_count", .ofNat d.resources), ("credits_remaining", .int d.balance)]

/-- Whether a failure means that an outside service could not be had. -/
def isUnavailable : Failure → Bool
  | .refusal r => r.kind == .externalService
  | _ => false

/-- Saves the draft of a request if it has resources. -/
def saveDraft (w : World) (user : String) (r : Request) (files : Entries String) (balance : Int) :
    Action Drafted := do
  let content ← Action.ofAnswer (Hcl.scannable ((Entries.get? requiredFile files).getD ""))
  let resources := (Hcl.parse content).resources
  if resources.isEmpty then
    throw (.generation "Generated configuration contains no resource blocks.")
  let t ← saveTemplate w user r.templateName content r.provider (some (trimmed r.description))
  return ⟨t, files, resources.length, balance⟩

/-- **A template from a description**, in view of resources that are there already. -/
def draftTemplate (w : World) (user description provider name : String)
    (present : List LiveResource) : Action Drafted := do
  let r ← Action.ofAnswer (checkRequest description provider name)
  let balance ← charge user .generation
  match ← outcome (draftFiles w r.description r.provider (contextOf present)) with
  | .ok files => saveDraft w user r files balance
  | .error f =>
    if isUnavailable f then modify (refund user .generation)
    throw f

end Groundplan.Draft
