import Groundplan.Account.Connection
import Groundplan.Breaker
import Groundplan.Cloud.Inquiry
import Groundplan.Cloud.Resource
import Groundplan.Deploy.Records
import Groundplan.Metering.Credits
import Groundplan.Metering.Slots
import Groundplan.Metering.Window
import Groundplan.Policy.Audit
import Groundplan.Routine
import Groundplan.Seal.Vault
import Groundplan.World

/-!
# Installations

The state of an installation: its records, its metering, its breakers and its workspaces, and the
events of the operations so far. An action is an atomic operation on this state that may fail; a
failed action keeps what it did before.

## Main definitions

* `Installation`: the state
* `owned`: the records of a user
* `Action`: atomic operations
* `Action.note`, `Action.draw`: noting an event, and operating on a part of the state
* `Action.inquire`: finding something out in the account of a role
* `charge`, `refund`, `inSlot`: metered work
-/

namespace Groundplan

/-- The state of an installation. -/
structure Installation where
  settings : Settings := {}
  vault : Vault
  templates : Entries Deploy.Template := []
  credentials : Entries Deploy.Credential := []
  deployments : Entries Deploy.Deployment := []
  states : SealedRecords := []
  connections : Entries Connection := []
  inventory : Inventory := []
  catalog : Policy.Catalog := {}
  history : Policy.History := []
  credits : Credits := {}
  slots : Slots := {}
  sessionBreaker : Breaker := {}
  modelBreaker : Breaker := {}
  window : Window := []
  workspaces : Deploy.Workspaces := []
  /-- What the operations so far asked of the world, oldest first. -/
  events : List Event := []

/-- The installation of given settings, without any records. -/
def Installation.fresh (s : Settings) : Installation where
  settings := s
  vault := .ofMaster s.masterKey
  credits := { start := s.startBalance }
  slots := { limit := s.slotLimit }

namespace Installation

/-- The calls among the events. -/
def calls (s : Installation) : List CloudCall :=
  s.events.filterMap fun
    | .called c => some c
    | _ => none

/-- The runs of the tool among the events. -/
def runs (s : Installation) : List Deploy.ToolRun :=
  s.events.filterMap fun
    | .ran r => some r
    | _ => none

/-- The requests to the text model among the events. -/
def requests (s : Installation) : List Data :=
  s.events.filterMap fun
    | .drafted d => some d
    | _ => none

end Installation

/-- **A record of a user**, by its identifier; to others it is as if it were not there. -/
def owned {α : Type} (owner : α → String) (what user id : String) (records : Entries α) :
    Answer α :=
  match Entries.get? id records with
  | some x => if owner x == user then .ok x else .error (.notFound what)
  | none => .error (.notFound what)

theorem owned_eq_ok {α : Type} {owner : α → String} {what user id : String} {records : Entries α}
    {x : α} : owned owner what user id records = .ok x ↔
      Entries.get? id records = some x ∧ owner x = user := by
  rw [owned]
  cases Entries.get? id records with
  | none => simp
  | some y =>
    dsimp only
    split
    · rename_i h
      have huser : owner y = user := by simpa using h
      constructor
      · rintro ⟨⟩
        exact ⟨rfl, huser⟩
      · rintro ⟨⟨⟩, _⟩
        rfl
    · rename_i h
      constructor
      · intro h
        cases h
      · rintro ⟨⟨⟩, huser⟩
        exact absurd (by simpa using huser) h

/-- What is not found is refused. -/
theorem refuses_of_owned {α : Type} {owner : α → String} {what user id : String}
    {records : Entries α} {f : Failure} (h : owned owner what user id records = .error f) :
    f.isRefusal = true := by
  rw [owned] at h
  split at h
  · split at h <;> cases h
    rfl
  · cases h
    rfl

/-- An atomic operation on an installation, which may fail. -/
abbrev Action := ExceptT Failure (StateM Installation)

namespace Action

variable {α : Type}

/-- Notes an event. -/
def note (e : Event) : Action Unit :=
  modify fun s => { s with events := s.events ++ [e] }

/-- An action on a part of the state that may fail, the part being kept in any case. -/
def draw (f : Installation → Answer α × Installation) : Action α :=
  fun s => f s

/-- Conducts an inquiry in the account of a role; its calls are noted. -/
def inquire (w : World) (q : Inquiry α) : Action α := fun s =>
  let (a, calls) := w.account.conduct q
  (a, { s with events := s.events ++ calls.map .called })

/-- An action on the outcome of which nothing depends but its result. -/
def ofAnswer (a : Answer α) : Action α :=
  fun s => (a, s)

end Action

/-- The routines of an installation. -/
abbrev Work := Routine Installation Failure

/-- An action as a single step of a routine. -/
def Action.asStep {α : Type} (a : Action α) : Work α :=
  .perform a

/-! ## Metering -/

/-- Charges a user for work; the balance that is left. -/
def charge (user : String) (m : Metered) : Action Int :=
  Action.draw fun s =>
    let (a, c) := s.credits.charge user m
    (a, { s with credits := c })

/-- Gives a charge back. -/
def refund (user : String) (m : Metered) (s : Installation) : Installation :=
  { s with credits := (s.credits.refund user m).2 }

/-- Takes a slot. -/
def acquireSlot (user : String) : Action Unit :=
  Action.draw fun s =>
    let (a, slots) := s.slots.acquire user
    (a, { s with slots := slots })

/-- Gives a slot back. -/
def releaseSlot (user : String) (s : Installation) : Installation :=
  { s with slots := s.slots.release user }

/-- **Work within a slot**, which is given back whatever comes of it. -/
def inSlot {α : Type} (user : String) (body : Work α) : Work α := do
  (acquireSlot user).asStep
  body.ensuring (releaseSlot user)

end Groundplan
