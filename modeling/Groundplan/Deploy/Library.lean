import Groundplan.Installation
import Groundplan.Text.Lines

/-!
# The template library

Saved configurations. Each belongs to a user, and to others it is as if it were not there.

## Main definitions

* `saveTemplate`: saves a configuration
* `templateOf`, `templatesOf`: the templates of a user
-/

namespace Groundplan.Deploy

open Text

/-- The providers that templates can be for. -/
def providers : List String := ["aws", "azure", "gcp", "kubernetes"]

/-- The refusal of an unknown provider. -/
def providerRequired : Failure :=
  .validation ("Valid provider is required (" ++ ", ".intercalate providers ++ ")")

/-- A text without blanks around it. -/
def trimmed (s : String) : String :=
  String.ofList (trim s.toList)

/-- What is wrong with the parts of a template, if anything. -/
def templateProblem? (name content provider : String) : Option Failure :=
  if trimmed name == "" then some (.validation "Template name is required")
  else if trimmed content == "" then some (.validation "Template content is required")
  else if !providers.contains provider then some providerRequired
  else none

/-- **Saves a configuration** as a template of a user. -/
def saveTemplate (w : World) (user name content provider : String)
    (description : Option String) : Action Template := do
  match templateProblem? name content provider with
  | some f => throw f
  | none =>
    let t : Template := ⟨w.recordId, user, trimmed name, content, provider, description, w.now⟩
    modify fun s => { s with templates := Entries.set t.id t s.templates }
    return t

/-- A template of a user in a state. -/
def ownTemplate (s : Installation) (user id : String) : Answer Template :=
  owned Template.user "Template" user id s.templates

/-- **A template of a user.** -/
def templateOf (user id : String) : Action Template :=
  fun s => (ownTemplate s user id, s)

/-- Records by their time of creation, the newest first and those of one instant in their order. -/
def newestFirst {α : Type} (time : α → Instant) (xs : List α) : List α :=
  xs.mergeSort fun x y => time y ≤ time x

/-- The templates of a user, newest first. -/
def templatesOf (s : Installation) (user : String) : List Template :=
  newestFirst Template.createdAt ((s.templates.map (·.2)).filter fun t => t.user == user)

end Groundplan.Deploy
