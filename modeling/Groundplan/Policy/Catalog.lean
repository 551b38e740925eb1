import Groundplan.Calendar
import Groundplan.Policy.Account
import Groundplan.Policy.Network
import Groundplan.Policy.Savings
import Groundplan.Policy.Secrets
import Groundplan.Policy.Storage

/-!
# The policy catalog

The policies that an installation knows, each switched on or off. The built-in policies are added
when none of them is there; adding them again refreshes their texts and leaves the switches alone.
Further policies can be registered under codes of their own.

## Main definitions

* `builtIns`, `builtIn?`: the policies that come with the library, and the one of a code
* `claimCode`: whether a code is still free for a built-in policy
* `Row`: a policy as the catalog holds it
* `Catalog`: the rows by code, and the evaluators of registered policies
* `Catalog.seed`, `Catalog.register`, `Catalog.toggle`: changes
* `Catalog.active`: the policies that an audit runs
* `Catalog.listing`: the rows in the order in which they are shown
-/

namespace Groundplan.Policy

/-! ## The built-in policies -/

/-- **The built-in policies**, in the order of the catalog. -/
def builtIns : List Definition := [
  publicAccessBlocked, groupsNotOpen, databasesPrivate, volumeEncryption, noWildcards,
  trailPresent, trailValidation, flowLogs, accessLogging, defaultGroupClosed, noPublicAddress,
  databaseEncryption, deletionProtection, tableEncryption, topicEncryption, queueEncryption,
  noInlinePolicies, metadataTokens, noSecrets, bucketEncryption, gatewayAlternative,
  oversizedMachine, standbyDatabase, unattachedAddress]

/-- The built-in policy of a code. -/
def builtIn? (code : String) : Option Definition :=
  builtIns.find? fun d => d.code == code

/-- Refuses the code of a built-in policy to another. -/
def claimCode (code : String) : Answer Unit :=
  match builtIn? code with
  | some _ => .error (.badValue ("Policy code " ++ code ++ " is already registered"))
  | none => .ok ()

/-- The view of a policy. -/
def Definition.toData (d : Definition) : Data :=
  .map [("code", .text d.code), ("name", .text d.name), ("description", .text d.description),
    ("provider", .text d.provider), ("category", .text d.category.word),
    ("severity", .text d.severity.word), ("is_built_in", .bool d.builtIn)]

/-! ## Rows -/

/-- A policy as the catalog holds it. -/
structure Row where
  code : String
  name : String
  description : String
  provider : String
  category : Category
  severity : Severity
  builtIn : Bool
  active : Bool
  createdAt : Instant
  updatedAt : Instant
deriving Repr, Inhabited

/-- The row of a definition, switched on. -/
def Definition.row (d : Definition) (now : Instant) : Row :=
  ⟨d.code, d.name, d.description, d.provider, d.category, d.severity, d.builtIn, true, now, now⟩

namespace Row

/-- The view of a row. -/
def toData (r : Row) : Data :=
  .map [("code", .text r.code), ("name", .text r.name), ("description", .text r.description),
    ("provider", .text r.provider), ("category", .text r.category.word),
    ("severity", .text r.severity.word), ("is_built_in", .bool r.builtIn),
    ("is_active", .bool r.active), ("created_at", .text (instantText r.createdAt)),
    ("updated_at", .text (instantText r.updatedAt))]

/-- Whether a row is for a provider or for all. -/
def serves (provider : String) (r : Row) : Bool :=
  r.provider == provider || r.provider == "all"

/-- The order of the listing: by field, then by severity, then by code. -/
def order (r s : Row) : Ordering :=
  (compare r.category.word s.category.word).then
    ((compare r.severity.rank s.severity.rank).then (compare r.code s.code))

end Row

/-- The rows by code in order of first appearance, and the evaluators of registered policies. -/
structure Catalog where
  rows : Entries Row := []
  registered : Entries Definition := []
deriving Inhabited

namespace Catalog

/-- The rows in order of first appearance. -/
def all (c : Catalog) : List Row :=
  c.rows.map (·.2)

/-- The row of a code. -/
def row? (c : Catalog) (code : String) : Option Row :=
  Entries.get? code c.rows

/-- Writes a row under its code. -/
def put (c : Catalog) (r : Row) : Catalog :=
  { c with rows := Entries.set r.code r c.rows }

/-- The definition of a code; a built-in one comes first. -/
def definition? (c : Catalog) (code : String) : Option Definition :=
  match builtIn? code with
  | some d => some d
  | none => Entries.get? code c.registered

/-! ## Changes -/

/-- The row that a definition gets: a new one, or one that keeps the switch of the old. -/
def seededRow (c : Catalog) (now : Instant) (d : Definition) : Row :=
  match c.row? d.code with
  | none => d.row now
  | some old => { d.row now with active := old.active, createdAt := old.createdAt }

/-- Adds definitions or refreshes their rows. -/
def seedWith (now : Instant) (ds : List Definition) (c : Catalog) : Catalog :=
  ds.foldl (fun c d => c.put (c.seededRow now d)) c

/-- **Adds the built-in policies**, those that are there being refreshed; the number of new rows. -/
def seed (c : Catalog) (now : Instant) : Nat × Catalog :=
  ((builtIns.filter fun d => (c.row? d.code).isNone).length, c.seedWith now builtIns)

/-- Adds the built-in policies if none of them is there. -/
def seeded (c : Catalog) (now : Instant) : Catalog :=
  if c.all.any (·.builtIn) then c else (c.seed now).2

/-- **Registers a policy** under a code that is free. -/
def register (c : Catalog) (now : Instant) (d : Definition) : Answer Row × Catalog :=
  if d.code == "" then (.error (.validation "Policy code is required"), c)
  else if (builtIn? d.code).isSome then
    (.error (.conflict ("Policy code " ++ d.code ++ " is reserved for a built-in policy")), c)
  else if (c.row? d.code).isSome then
    (.error (.conflict ("Policy code " ++ d.code ++ " already exists")), c)
  else
    let d := { d with builtIn := false }
    let row := d.row now
    (.ok row, { c.put row with registered := Entries.set d.code d c.registered })

/-- **Switches a policy on or off.** -/
def toggle (c : Catalog) (now : Instant) (code : String) (active : Bool) : Answer Row × Catalog :=
  let c := c.seeded now
  match c.row? code with
  | none => (.error (.notFound "Policy"), c)
  | some r =>
    let r := { r with active := active, updatedAt := now }
    (.ok r, { c with rows := Entries.set code r c.rows })

/-! ## Views -/

/-- The policies that are switched on for a provider and have an evaluator, in the order of the
catalog. -/
def active (c : Catalog) (provider : String) : List (Row × Definition) :=
  c.all.filterMap fun r =>
    if r.active && r.serves provider then (c.definition? r.code).map fun d => (r, d) else none

/-- The rows of a provider, or all rows, in the order in which they are shown. -/
def listing (c : Catalog) (provider : Option String) : List Row :=
  (match provider with
  | none => c.all
  | some p => c.all.filter (·.serves p)).mergeSort fun r s => (r.order s).isLE

end Catalog

end Groundplan.Policy
