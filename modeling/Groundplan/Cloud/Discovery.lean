import Groundplan.Account.Role
import Groundplan.Cloud.Listing

/-!
# Discovery

Finds the resources of an account, type by type. A type that the cloud refuses to list, or that it
cannot be reached for, is passed over and its code noted; anything else that goes wrong ends the
discovery.

## Main definitions

* `Listing.items?`: the items of a reply
* `discoverType`: the resources of a type
* `Discovered`, `discover`: the resources of all types, and the codes of those that failed
-/

namespace Groundplan

/-- The region of services and of buckets that belong to none. -/
def globalRegion : String := "global"

/-- The region that the records of a service get. -/
def recordRegion (service region : String) : String :=
  if globalServices.contains service || service == "s3" then globalRegion else region

/-- Metadata without what is missing; moments are written out. -/
def cleaned (metadata : Entries Data) : Entries Data :=
  (metadata.filter fun e => !e.2.isNull).map fun e =>
    match e.2 with
    | .moment m => (e.1, .text m.iso)
    | _ => e

/-- The items at a place in a page: those of a list, or a single one. -/
def itemsOfPage (s : Selector) (page : Data) : List Data :=
  match s.select page with
  | .list xs => xs
  | d => [d]

/-- The resources of items; an item that is null is passed over. -/
def recordsOf (l : Listing) (now : Instant) (region connection : String) (items : List Data) :
    Answer (List LiveResource) :=
  (items.filter (!·.isNull)).mapM fun item => do
    let r ← l.record item
    return ⟨connection, r.id, l.type, recordRegion l.service region, r.name, cleaned r.metadata,
      now⟩

/-- **The resources of a type**, page by page if it is listed in pages. -/
def discoverType (l : Listing) (now : Instant) (region connection : String) :
    Inquiry (List LiveResource) := do
  let client := Client.of l.service region
  if ← client.paginates l.operation then
    let found ← (← client.pages l.operation l.params).mapM fun (page : Answer Data) => do
      recordsOf l now region connection (itemsOfPage l.items (← page))
    return found.flatten
  else
    let reply ← client.ask l.operation l.params
    recordsOf l now region connection (← reply.rows l.items.text)

/-- What a discovery finds. -/
structure Discovered where
  resources : List LiveResource := []
  /-- The codes of the types that could not be listed. -/
  failures : List String := []
deriving Repr, Inhabited

namespace Discovered

/-- Two discoveries together. -/
def append (a b : Discovered) : Discovered :=
  ⟨a.resources ++ b.resources, a.failures ++ b.failures⟩

instance : Append Discovered := ⟨append⟩

/-- The view of a discovery. -/
def toData (d : Discovered) : Entries Data :=
  [("resources", .list (d.resources.map LiveResource.toData)), ("failures", .ofTexts d.failures)]

/-- Whether nothing was found because everything that failed was denied. -/
def isDenied (d : Discovered) : Bool :=
  !d.failures.isEmpty && d.resources.isEmpty && d.failures.all deniedCodes.contains

end Discovered

/-- What it means for a discovery how a type came out: a fault of the cloud is noted by its code. -/
def discoveredOf : Answer (List LiveResource) → Answer Discovered
  | .ok found => .ok ⟨found, []⟩
  | .error f =>
    if f.isCloudFault then .ok ⟨[], [if f.cloudCode == "" then f.name else f.cloudCode]⟩
    else .error f

/-- **The resources of an account** in a region, and the codes of the types that could not be
listed. -/
def discover (now : Instant) (region connection : String) : Inquiry Discovered := do
  let found ← listings.mapM fun l => do
    discoveredOf (← (discoverType l now region connection).attempt)
  return found.foldr (· ++ ·) {}

end Groundplan
