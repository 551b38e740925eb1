import Groundplan.Failure
import Groundplan.Text.Shown

/-!
# Refusals by name

Makes refusals of any kind from their name and arguments. The arguments may be values of any kind:
nothing but their number is checked.

## Main definitions

* `Notice`: a refusal as its arguments give it
* `Notice.ofArguments`: the refusal of a kind with arguments
* `Notice.toData`, `Notice.summary`: how it is shown
-/

namespace Groundplan

/-- A refusal as its arguments give it. -/
structure Notice where
  message : Data
  status : Data
  code : Data
  details : Data := .map []
deriving Repr, Inhabited

namespace Notice

/-- How many arguments a kind of refusal takes, at least and at most. -/
def argumentCounts : RefusalKind → Nat × Nat
  | .notFound => (0, 1)
  | .externalService => (1, 2)
  | .generation => (1, 1)
  | .provisioning => (1, 2)
  | _ => (1, 4)

/-- A refusal of a kind with the status and the code of its kind. -/
def ofKind (k : RefusalKind) (message : Data) (details : Data := .map []) : Notice :=
  ⟨message, .int k.status, .text k.code, details⟩

/-- The first value, or the second where the first is null. -/
def given (d default : Data) : Data :=
  match d with
  | .null => default
  | d => d

/-- What a refusal of an outside service says: its message, or that the service is unavailable. -/
def serviceMessage (service message : Data) : Data :=
  if message.isTruthy then message else .text (Failure.unavailableMessage service.plain)

/-- The refusal of a kind with as many arguments as it takes; a kind with details of its own makes
them from its arguments. -/
def make (k : RefusalKind) (args : List Data) : Notice :=
  let arg (n : Nat) : Data := (args[n]?).getD .null
  match k with
  | .notFound =>
    ofKind k (.text ((if args.isEmpty then "Resource" else (arg 0).plain) ++ " not found"))
  | .externalService =>
    ofKind k (serviceMessage (arg 0) (arg 1))
      (.map [("service", arg 0), ("retryable", .bool true)])
  | .generation => ofKind k (arg 0) (.map [("hint", .text Failure.rephraseHint)])
  | .provisioning => ofKind k (arg 0)
  | k => ⟨arg 0, given (arg 1) (.int k.status), given (arg 2) (.text k.code), arg 3⟩

/-- **The refusal of a kind with arguments**, of which there must be neither too few nor too
many. -/
def ofArguments (k : RefusalKind) (args : List Data) : Answer Notice :=
  if args.length < (argumentCounts k).1 || (argumentCounts k).2 < args.length then
    .error (.mismatch .kind)
  else .ok (make k args)

/-- The record that is shown to the caller; details only if there are any. -/
def toData (n : Notice) : Data :=
  .map ([("status", .text "error"), ("error", n.code), ("message", n.message)] ++
    (if n.details.isTruthy then [("details", n.details)] else []))

/-- How a refusal is shown: what its caller sees, its status and its message in words. -/
def summary (n : Notice) : Data :=
  .map [("dict", n.toData), ("status", n.status), ("text", .text n.message.plain)]

end Notice

end Groundplan
