import Groundplan.Failure
import Groundplan.Text.Lines

/-!
# Calls to the cloud

What is asked of the cloud and how it answers. The cloud itself is a parameter: a function from
calls to answers, and one for listings that come in pages. Replies have in common rows under a key,
tags, dates, and lists that are asked for a member.

## Main definitions

* `CloudCall`: a service, a region, an operation and its parameters
* `Cloud`: the answers of an account
* `clientRegion`: the region in which a service is asked
* `Data.isText`, `Data.holds`: comparing with a text, and looking for one
* `Data.rows`: the rows under a key
* `nameTag`: the name among tags
* `isOlderThan`: whether a moment lies some days back
-/

namespace Groundplan

/-! ## Regions -/

/-- Services that answer from one region for all of them. -/
def globalServices : List String := ["iam", "ce", "cloudfront", "route53"]

/-- **The region in which a service is asked**: global ones in theirs, others in a given region or
else in that of the session. -/
def clientRegion (service region session : String) : String :=
  if globalServices.contains service then "us-east-1" else if region == "" then session else region

/-! ## Calls -/

/-- A call to the cloud. -/
structure CloudCall where
  service : String
  region : String
  operation : String
  params : Entries Data
deriving Repr, Inhabited

/-- The record of a call. -/
def CloudCall.toData (c : CloudCall) : Data :=
  .map [("service", .text c.service), ("region", .text c.region),
    ("operation", .text c.operation), ("params", .map c.params)]

/-- A cloud account as it answers: to plain calls, and to listings in pages, each of which can
fail. -/
structure Cloud where
  /-- The answer to a plain call. -/
  call : CloudCall → Answer Data
  /-- The pages of a listing. -/
  pages : CloudCall → List (Answer Data)
  /-- Whether an operation answers in pages. -/
  paginates : String → String → Bool

/-! ## Reading replies -/

open Text

namespace Data

/-- Whether a value is a given text. -/
def isText (s : String) : Data → Bool
  | .text t => t == s
  | _ => false

/-- Whether a text occurs in a value: as a part of a text, an item of a list or a key of a map. -/
def holds (s : String) : Data → Answer Bool
  | .text t => .ok (isPart s.toList t.toList)
  | .list xs => .ok (xs.any (isText s))
  | .map es => .ok (Entries.has s es)
  | _ => .error (.mismatch .kind)

/-- The rows under a key; none without the key. -/
def rows (d : Data) (key : String) : Answer (List Data) := do
  (← d.getFieldD key (.list [])).elements

/-- The entry of a map, null if it has none. -/
def entry (d : Data) (key : String) : Answer Data :=
  d.getFieldD key .null

/-- The entry of a map within an entry of a map, null if it is not there. -/
def innerEntry (d : Data) (key inner : String) : Answer Data := do
  (← d.getFieldD key (.map [])).entry inner

end Data

/-- The value of the first tag with the key `Name`. -/
def nameAmong : List Data → Answer Data
  | [] => .ok .null
  | tag :: tags => do
    if (← tag.entry "Key").isText "Name" then tag.entry "Value" else nameAmong tags

/-- The name among tags, which may be missing. -/
def nameTag (tags : Data) : Answer Data := do
  if tags.isTruthy then nameAmong (← tags.elements) else return .null

/-- Whether a moment lies more than some days back; one that is missing does not. -/
def isOlderThan (now : Instant) (days : Int) : Data → Answer Bool
  | .null => .ok false
  | .moment m => .ok (days * microsPerDay < now - m.micros)
  | _ => .error (.mismatch .member)

end Groundplan
