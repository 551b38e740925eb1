import Groundplan.Calendar
import Groundplan.Cost.Breakdown
import Groundplan.Settings

/-!
# Live resources

The resources of a connected account as they were last seen.

## Main definitions

* `LiveResource`: a resource with its identifier, name and metadata
* `LiveResource.priced`: the resource as it is priced
* `Inventory`: the resources of all connections
* `Inventory.upsert`, `Inventory.ofConnection`, `Inventory.dropConnection`
-/

namespace Groundplan

/-- A resource of a connected account. Identifier and name are as the cloud gave them, a text as a
rule. -/
structure LiveResource where
  connection : String
  id : Data
  type : String
  region : String
  name : Data
  metadata : Entries Data
  syncedAt : Instant
deriving Repr, Inhabited

namespace LiveResource

/-- The view of a resource. -/
def toData (r : LiveResource) : Data :=
  .map [("connection_id", .text r.connection), ("resource_id", r.id),
    ("resource_type", .text r.type), ("name", r.name), ("region", .text r.region),
    ("metadata", .map r.metadata), ("last_synced_at", .text (instantText r.syncedAt))]

/-- The resource of a record, as it was seen at an instant. -/
def ofData (seen : Instant) (d : Data) : LiveResource where
  connection := d.textAt "connection_id"
  id := d.child "resource_id"
  type := d.textAt "resource_type"
  region := (d.textOr? "region" defaultRegion).getD ""
  name := d.child "name"
  metadata := (d.child "metadata").entries
  syncedAt := seen

/-- The name of a resource, or its identifier if it has none. -/
def reference (r : LiveResource) : Data :=
  if r.name.isTruthy then r.name else r.id

/-- A resource as it is priced, in its own region or else in a default one. -/
def priced (default : Option String) (r : LiveResource) : Cost.PricedResource :=
  ⟨r.reference, r.type, if r.region == "" then default else some r.region, r.metadata⟩

/-- Whether a value can serve as an identifier: lists and maps cannot. -/
def isKey : Data → Bool
  | .list _ => false
  | .map _ => false
  | _ => true

/-- Whether two records are of one resource: the same identifier under the same connection. -/
def sameKey (r s : LiveResource) : Bool :=
  r.connection == s.connection && r.id.same s.id

end LiveResource

/-- The resources of all connections, in order of first appearance. -/
abbrev Inventory := List LiveResource

namespace Inventory

/-- Replaces the record of a resource, or adds it at the end. -/
def insert (r : LiveResource) : Inventory → Inventory
  | [] => [r]
  | s :: rest => if s.sameKey r then r :: rest else s :: insert r rest

/-- Replaces the record of a resource or adds it; whether it is new. -/
def upsert (inv : Inventory) (r : LiveResource) : Answer Bool × Inventory :=
  if LiveResource.isKey r.id then (.ok !(inv.any (·.sameKey r)), inv.insert r)
  else (.error (.mismatch .kind), inv)

/-- The resources of a connection, all or those of a type. -/
def ofConnection (inv : Inventory) (connection : String) (type : Option String) : Inventory :=
  inv.filter fun r => r.connection == connection && (type.isNone || type == some r.type)

/-- The resources without those of a connection; how many there were. -/
def dropConnection (inv : Inventory) (connection : String) : Nat × Inventory :=
  ((inv.ofConnection connection none).length, inv.filter fun r => r.connection != connection)

end Inventory

end Groundplan
