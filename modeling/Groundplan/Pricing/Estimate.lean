import Groundplan.Failure
import Groundplan.Pricing.Table
import Groundplan.Text.CharClass

/-!
# Monthly estimates

What a resource costs in a month. The tables come first; an hourly rate that they lack is asked of a
price list, and where that gives none a rough rate stands in. A type without a rule costs nothing.

## Main definitions

* `PriceQuery`: a rate asked of a price list
* `Rate`: a known hourly rate, or a query with a rough rate to stand in
* `Quote`: the monthly cost as a rule over a rate
* `propertiesFor`: the properties of a resource in a value
* `quote`: the rule for a resource
* `estimate`: the monthly cost, from the tables alone
-/

namespace Groundplan.Pricing

open Text

/-! ## Properties as numbers and words -/

/-- The number that a property is taken for. Truth values, expressions and other values without a
number stand for the default; an integer beyond the greatest number is refused. -/
def numberOf (v : Data) (default : Binary64) : Answer Binary64 :=
  match v with
  | .int i =>
    match Binary64.ofInt? i with
    | some x => .ok x
    | none => .error (.mismatch .range)
  | .float x => .ok x
  | .text s => .ok ((Binary64.ofText? s.toList).getD default)
  | _ => .ok default

/-- How the texts of unevaluated references begin. -/
def referenceStarts : List String := ["var.", "local.", "data.", "$\x7b"]

/-- Whether a text begins like an unevaluated reference. -/
def isReference (s : String) : Bool :=
  referenceStarts.any fun p => startsWith p.toList s.toList

/-- The word that a property is taken for; references and values that are no text stand for the
default. -/
def wordOf (v : Data) (default : String) : String :=
  match v with
  | .text s => if s != "" && !isReference s then s else default
  | _ => default

/-! ## Rates -/

/-- An hourly rate asked of a price list. -/
inductive PriceQuery where
  | machine (type region : String)
  | database (class_ region engine : String)
deriving DecidableEq, Repr, Inhabited

/-- An hourly rate: known, or to be asked for, with a rate that stands in if there is no answer. -/
inductive Rate where
  | known (x : Binary64)
  | asked (q : PriceQuery) (otherwise : Binary64)
deriving Repr, Inhabited

/-- The part after the last point of an instance type, or `large`. -/
def sizeOf (type : String) : String :=
  match (splitOn '.' type.toList).reverse with
  | last :: _ :: _ => String.ofList last
  | _ => "large"

/-- A rough hourly rate from the size of an instance. -/
def roughRate (type : String) : Binary64 :=
  unitRate * (Entries.get? (sizeOf type) sizeFactors).getD 4

/-- The hourly rate of a virtual machine. -/
def machineRate (type region : String) : Rate :=
  match Entries.get? type instanceRates with
  | some x => .known (x * regionFactor region)
  | none => .asked (.machine type region) (roughRate type * regionFactor region)

/-- What a database engine costs relative to MySQL; one where it is unknown. -/
def engineFactor (engine : String) : Binary64 :=
  let name := if engine == "" then "mysql" else engine
  (Entries.get? (String.ofList (trim (lower name.toList))) engineFactors).getD 1

/-- The hourly rate of a database. -/
def databaseRate (class_ engine region : String) : Rate :=
  match Entries.get? class_ databaseRates with
  | some x => .known (x * regionFactor region * engineFactor engine)
  | none =>
    .asked (.database class_ region engine) (0.10 * regionFactor region * engineFactor engine)

/-- The hourly rate of a cache node. -/
def cacheRate (type region : String) : Binary64 :=
  (Entries.get? type cacheRates).getD 0.068 * regionFactor region

/-! ## Quotes -/

/-- The monthly cost of a resource: an amount, or hours at a rate and perhaps an amount on top. -/
inductive Quote where
  | amount (x : Binary64)
  | hourly (rate : Rate) (onTop : Option Binary64)
deriving Repr, Inhabited

/-- The value of a property, null if it is not there. -/
def property (props : Entries Data) (key : String) : Data :=
  (Entries.get? key props).getD .null

/-- The cost of a block storage volume. -/
def volumeCost (props : Entries Data) : Answer Binary64 := do
  let size ← numberOf (property props "size") 20
  let given := property props "volume_type"
  let type := wordOf (if given.isTruthy then given else property props "type") "gp3"
  let cost := size * (Entries.get? ("ebs_" ++ type) storageRates).getD 0.08
  if type == "io1" || type == "io2" then
    let iops ← numberOf (property props "iops") 0
    return cost + iops * iopsRate
  else return cost

/-- The cost of a table with provisioned or metered capacity. -/
def tableCost (props : Entries Data) : Answer Binary64 := do
  if wordOf (property props "billing_mode") "PROVISIONED" == "PAY_PER_REQUEST" then return 1.25
  else
    let writes ← numberOf (property props "write_capacity") 5
    let reads ← numberOf (property props "read_capacity") 5
    return (writes * writeUnitRate + reads * readUnitRate) * hoursPerMonth + 0.25

/-- The cost of so many cache nodes. -/
def cacheCost (props : Entries Data) (region : String) (count : Data) (default : Binary64) :
    Answer Binary64 := do
  let type := wordOf (property props "node_type") "cache.t3.medium"
  let nodes ← numberOf count default
  return cacheRate type region * hoursPerMonth * nodes

/-- The cost of the tasks of a container service. -/
def taskCost (props : Entries Data) : Answer Binary64 := do
  let tasks ← numberOf (property props "desired_count") 1
  return tasks * (0.25 * taskProcessorRate + 0.5 * taskMemoryRate) * hoursPerMonth

/-- The rules by which resources are priced. -/
inductive Rule where
  | machine
  | database
  | volume
  | table
  | balancer
  | gateway
  | tasks
  | cache
  | cacheGroup
  | bucket
  | flat
deriving DecidableEq, Repr

/-- The rule for a resource type, as configured or as discovered. -/
def ruleOf (type : String) : Rule :=
  if ["aws_instance", "ec2_instance"].contains type then .machine
  else if ["aws_db_instance", "rds_instance"].contains type then .database
  else if ["aws_ebs_volume", "ebs_volume"].contains type then .volume
  else if ["aws_dynamodb_table", "dynamodb_table"].contains type then .table
  else if ["aws_lb", "aws_alb", "aws_nlb", "load_balancer"].contains type then .balancer
  else if ["aws_nat_gateway", "nat_gateway"].contains type then .gateway
  else if type == "aws_ecs_service" then .tasks
  else if ["aws_elasticache_cluster", "elasticache_cluster"].contains type then .cache
  else if type == "aws_elasticache_replication_group" then .cacheGroup
  else if type == "s3_bucket" then .bucket
  else .flat

/-- Whether a rule looks at the properties of a resource. -/
def Rule.readsProperties (r : Rule) : Bool :=
  !(([.balancer, .gateway, .bucket, .flat] : List Rule).contains r)

/-- The properties of a resource in a value. What counts as absent has none; another value that is
no map has none to look at either. -/
def propertiesFor (type : String) (d : Data) : Answer (Entries Data) :=
  match d with
  | .map es => .ok es
  | d => if d.isTruthy && (ruleOf type).readsProperties then .error (.mismatch .member) else .ok []

/-- The quote for a resource. -/
def quote (type : String) (props : Entries Data) (region : String) : Answer Quote :=
  match ruleOf type with
  | .machine =>
    .ok (.hourly (machineRate (wordOf (property props "instance_type") "t3.micro") region) none)
  | .database => do
    let class_ := wordOf (property props "instance_class") "db.t3.micro"
    let engine := wordOf (property props "engine") "postgres"
    let storage ← numberOf (property props "allocated_storage") 20
    return .hourly (databaseRate class_ engine region) (some (storage * 0.115))
  | .volume => (volumeCost props).map .amount
  | .table => (tableCost props).map .amount
  | .balancer => .ok (.amount (0.0225 * hoursPerMonth + 5))
  | .gateway => .ok (.amount (0.045 * hoursPerMonth + 10 * 0.045))
  | .tasks => (taskCost props).map .amount
  | .cache => (cacheCost props region (property props "num_cache_nodes") 1).map .amount
  | .cacheGroup =>
    let count :=
      match Entries.get? "num_cache_clusters" props with
      | some v => v
      | none => property props "number_cache_clusters"
    (cacheCost props region count 2).map .amount
  | .bucket => .ok (.amount 0.50)
  | .flat => .ok (.amount ((Entries.get? type flatCosts).getD 0))

/-- The query that a quote depends on. -/
def Quote.query? : Quote → Option PriceQuery
  | .hourly (.asked q _) _ => some q
  | _ => none

/-- The rate when the answer to a query is known. -/
def Rate.settle (r : Rate) (answer : Option Binary64) : Binary64 :=
  match r with
  | .known x => x
  | .asked _ otherwise => answer.getD otherwise

/-- The monthly cost when the answer to the query is known. -/
def Quote.settle (q : Quote) (answer : Option Binary64) : Binary64 :=
  match q with
  | .amount x => x
  | .hourly r none => r.settle answer * hoursPerMonth
  | .hourly r (some x) => r.settle answer * hoursPerMonth + x

/-- An estimator: the monthly cost of a resource from its type, properties and region. -/
abbrev Estimator := String → Entries Data → String → Answer Binary64

/-- **The monthly cost of a resource**, from the tables alone. -/
def estimate : Estimator := fun type props region =>
  (quote type props region).map (·.settle none)

end Groundplan.Pricing
