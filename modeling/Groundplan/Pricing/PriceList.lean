import Groundplan.Breaker
import Groundplan.Cloud.Call
import Groundplan.Json.Answer
import Groundplan.Pricing.Estimate

/-!
# The price list

Hourly rates from the price list of the cloud. Answers are kept for a quarter of an hour, a product
that is not listed counting as an answer; a breaker guards the service.

## Main definitions

* `PriceDesk`: the breaker, the answers kept, and the calls made
* `PriceDesk.lookUp`: the rate for a query
* `onDemandRate`: the rate in a reply
* `estimateWith`: the monthly cost of a resource with the price list at hand

A query is kept under a key that names the service, the class, the region and the operating system
or engine.
-/

namespace Groundplan.Pricing

open Text

/-- Seconds that an answer is kept. -/
def keepSeconds : Int := 900

/-- The state of price lookups: the breaker, the answers kept with the instants they came at, and
the calls made, first to last. -/
structure PriceDesk where
  breaker : Breaker := {}
  cache : Entries (Option Binary64 × Instant) := []
  calls : List CloudCall := []
deriving Inhabited

/-- The product that a price is asked for. -/
structure Product where
  service : String
  region : String
  /-- The attributes to match, in order; an attribute may be asked to be null. -/
  filters : Entries (Option String)
  key : String
deriving Repr, Inhabited

/-- The key of a product among the answers kept; a class or variant that is not given is written as
the word for nothing. -/
def productKey (service : String) (type : Option String) (region : String)
    (variant : Option String) : String :=
  service ++ ":" ++ type.getD "None" ++ ":" ++ region ++ ":" ++ variant.getD "None"

/-- A virtual machine with an operating system. -/
def machineProduct (type : Option String) (region : String) (system : Option String) : Product :=
  ⟨"AmazonEC2", region,
    [("instanceType", type), ("operatingSystem", system), ("tenancy", some "Shared"),
      ("preInstalledSw", some "NA"), ("capacitystatus", some "Used")],
    productKey "AmazonEC2" type region system⟩

/-- The name that the price list gives to an engine; other names are taken as they are. -/
def engineListName (engine : String) : String :=
  (Entries.get? (lowerText engine) engineListNames).getD engine

/-- A database of one zone with an engine. -/
def databaseProduct (class_ : Option String) (region : String) (engine : Option String) :
    Product :=
  ⟨"AmazonRDS", region,
    [("instanceType", class_), ("databaseEngine", engine.map engineListName),
      ("deploymentOption", some "Single-AZ")],
    productKey "AmazonRDS" class_ region (engine.map engineListName)⟩

/-- The product of a query. -/
def PriceQuery.product : PriceQuery → Product
  | .machine type region => machineProduct (some type) region (some "Linux")
  | .database class_ region engine => databaseProduct (some class_) region (some engine)

/-! ## Replies -/

/-- The first positive rate among the dimensions of a price. -/
def firstRate : List Data → Answer (Option Binary64)
  | [] => .ok none
  | d :: ds => do
    let unit ← d.getFieldD "pricePerUnit" (.map [])
    let price ← unit.getFieldD "USD" .null
    if price.isTruthy then
      let x ← price.toNumber
      if (0 : Binary64).lt x then return some x else firstRate ds
    else firstRate ds

/-- The first positive rate among the terms of a product. -/
def firstTermRate : List Data → Answer (Option Binary64)
  | [] => .ok none
  | t :: ts => do
    let dimensions ← (← t.getFieldD "priceDimensions" (.map [])).valuesOf
    match ← firstRate dimensions with
    | some x => return some x
    | none => firstTermRate ts

/-- The first positive on-demand rate in a reply; none if no product is listed. -/
def onDemandRate (reply : Data) : Answer (Option Binary64) := do
  let listed ← reply.getFieldD "PriceList" .null
  if listed.isTruthy then
    let entry ← Json.decodeData (← listed.firstItem)
    let terms ← (← entry.getFieldD "terms" (.map [])).getFieldD "OnDemand" (.map [])
    firstTermRate (← terms.valuesOf)
  else return none

/-! ## Lookups -/

/-- A filter of a call. -/
def filterData (f : String × Option String) : Data :=
  .map [("Type", .text "TERM_MATCH"), ("Field", .text f.1), ("Value", .ofText? f.2)]

/-- The region whose endpoint answers for prices. -/
def priceListRegion : String := "us-east-1"

/-- The call that asks for a product at a place. -/
def Product.call (p : Product) (location : String) : CloudCall :=
  ⟨"pricing", priceListRegion, "get_products",
    [("ServiceCode", .text p.service),
      ("Filters", .list ((p.filters ++ [("location", some location)]).map filterData)),
      ("MaxResults", .int 1)]⟩

/-- The message while the breaker is open. -/
def breakerOpenMessage : String :=
  "AWS pricing service temporarily unavailable (circuit breaker open)"

/-- A fault in a reply that is taken for a failure of the service. -/
def isReplyFault : Failure → Bool
  | .connector _ => true
  | .badValue _ => true
  | .missingKey _ => true
  | .mismatch .json => true
  | .mismatch .encoding => true
  | _ => false

namespace PriceDesk

/-- The answer kept under a key, if it is fresh; a stale one is dropped. -/
def kept? (desk : PriceDesk) (key : String) (now : Instant) :
    Option (Option Binary64) × PriceDesk :=
  match Entries.get? key desk.cache with
  | none => (none, desk)
  | some (price, t) =>
    if now - t < keepSeconds * microsPerSecond then (some price, desk)
    else (none, { desk with cache := Entries.erase key desk.cache })

/-- Takes in the reply for a product: its outcome goes to the breaker, and a rate, or that there is
none, is kept. A fault of any other kind is passed on as it is. -/
def settle (desk : PriceDesk) (key : String) (now : Instant) (reply : Answer Data) :
    Answer (Option Binary64) × PriceDesk :=
  match reply.bind onDemandRate with
  | .ok price =>
    (.ok price, { desk with
      breaker := desk.breaker.succeed
      cache := Entries.set key (price, now) desk.cache })
  | .error f =>
    match f with
    | .cloud .. =>
      (.error (.priceList ("Failed to query AWS pricing: " ++ f.message)),
        { desk with breaker := desk.breaker.fail now })
    | f =>
      if isReplyFault f then
        (.error (.priceList ("Failed to parse AWS pricing response: " ++ f.message)),
          { desk with breaker := desk.breaker.fail now })
      else (.error f, desk)

/-- **The hourly rate of a product**; none if the price list has none or does not know the
region. -/
def lookUpProduct (ask : CloudCall → Answer Data) (now : Instant) (p : Product)
    (desk : PriceDesk) : Answer (Option Binary64) × PriceDesk :=
  match desk.kept? p.key now with
  | (some price, desk) => (.ok price, desk)
  | (none, desk) =>
    match location? p.region with
    | none => (.ok none, desk)
    | some place =>
      let (allowed, breaker) := desk.breaker.allow now
      let desk := { desk with breaker := breaker }
      if allowed then
        let call := p.call place
        { desk with calls := desk.calls ++ [call] }.settle p.key now (ask call)
      else (.error (.priceList breakerOpenMessage), desk)

/-- The hourly rate for a query. -/
def lookUp (ask : CloudCall → Answer Data) (now : Instant) (q : PriceQuery) (desk : PriceDesk) :
    Answer (Option Binary64) × PriceDesk :=
  lookUpProduct ask now q.product desk

end PriceDesk

/-- **The monthly cost of a resource with the price list at hand.** A failed lookup counts as no
answer. -/
def estimateWith (ask : CloudCall → Answer Data) (now : Instant) (type : String)
    (props : Entries Data) (region : String) (desk : PriceDesk) : Answer Binary64 × PriceDesk :=
  match quote type props region with
  | .error f => (.error f, desk)
  | .ok q =>
    match q.query? with
    | none => (.ok (q.settle none), desk)
    | some query =>
      match desk.lookUp ask now query with
      | (.ok price, desk) => (.ok (q.settle price), desk)
      | (.error (.priceList _), desk) => (.ok (q.settle none), desk)
      | (.error f, desk) => (.error f, desk)

end Groundplan.Pricing
