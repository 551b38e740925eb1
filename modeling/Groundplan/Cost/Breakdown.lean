import Groundplan.Cost.Ranking
import Groundplan.Hcl.Block
import Groundplan.Pricing.Estimate

/-!
# Cost breakdowns

What a set of resources costs in a month, row by row. A resource that cannot be priced is a row of
its own at no cost, and leaves the others as they are.

## Main definitions

* `PricedResource`: a resource as it is priced
* `LineItem`, `Breakdown`: the rows and their totals
* `breakdown`: the breakdown of resources by an estimator
* `Breakdown.toData`: the rows by descending cost
-/

namespace Groundplan.Cost

open Text

/-! ## Services -/

/-- The services of resource types. -/
def serviceNames : Entries String := [
  ("aws_instance", "EC2"), ("ec2_instance", "EC2"), ("aws_ebs_volume", "EC2"),
  ("ebs_volume", "EC2"), ("aws_eip", "EC2"), ("aws_db_instance", "RDS"), ("rds_instance", "RDS"),
  ("aws_lb", "ELB"), ("aws_alb", "ELB"), ("aws_nlb", "ELB"), ("load_balancer", "ELB"),
  ("aws_nat_gateway", "VPC"), ("nat_gateway", "VPC"),
  ("aws_cloudfront_distribution", "CloudFront"), ("cloudfront_distribution", "CloudFront"),
  ("aws_route53_zone", "Route53"), ("route53_zone", "Route53"), ("aws_ecs_service", "ECS"),
  ("aws_ecs_cluster", "ECS"), ("ecs_cluster", "ECS"), ("aws_eks_cluster", "EKS"),
  ("aws_kms_key", "KMS"), ("aws_secretsmanager_secret", "Secrets Manager"),
  ("aws_cloudwatch_log_group", "CloudWatch"), ("log_group", "CloudWatch"),
  ("aws_api_gateway_rest_api", "API Gateway"), ("aws_apigatewayv2_api", "API Gateway")]

/-- Words in a type that tell its service, in the order in which they are looked for. -/
def serviceMarkers : Entries String := [
  ("s3", "S3"), ("dynamodb", "DynamoDB"), ("lambda", "Lambda"), ("elasticache", "ElastiCache"),
  ("sqs", "SQS"), ("sns", "SNS"), ("iam", "IAM")]

/-- The service of a resource type. -/
def serviceOf (type : String) : String :=
  match Entries.get? type serviceNames with
  | some s => s
  | none =>
    match serviceMarkers.find? fun m => isPart m.1.toList type.toList with
    | some m => m.2
    | none => "Other"

/-! ## Descriptions -/

/-- A text without the occurrences of a part, found from the left. -/
def dropPart (part : List Char) (cs : List Char) : List Char :=
  if part.isEmpty then cs
  else
    match cs with
    | [] => []
    | c :: rest =>
      if part.isPrefixOf (c :: rest) then dropPart part (rest.drop (part.length - 1))
      else c :: dropPart part rest
termination_by cs.length
decreasing_by
  · simp only [List.length_drop, List.length_cons]; omega
  · simp

/-- A resource type in words. -/
def typeLabel (type : String) : String :=
  String.ofList ((dropPart "aws_".toList type.toList).map fun c => if c == '_' then ' ' else c)

/-- The first value that counts as present, or the last. -/
def firstTruthy : List Data → Data
  | [] => .null
  | [d] => d
  | d :: ds => if d.isTruthy then d else firstTruthy ds

/-- The description of a resource: its type in words, and its size if that is given as a text that
is no reference. -/
def describe (type : String) (props : Entries Data) : String :=
  let size := firstTruthy (["instance_type", "instance_class", "node_type"].map
    (Pricing.property props))
  match size with
  | .text s =>
    if startsWith "var.".toList s.toList || startsWith "local.".toList s.toList then typeLabel type
    else typeLabel type ++ " (" ++ s ++ ")"
  | _ => typeLabel type

/-! ## Rows -/

/-- A resource as it is priced. -/
structure PricedResource where
  /-- What names it, a text as a rule. -/
  reference : Data
  type : String
  region : Option String
  properties : Entries Data
deriving Repr, Inhabited

/-- A resource block, priced in a region. -/
def PricedResource.ofBlock (region : Option String) (b : Hcl.Block) : PricedResource :=
  ⟨.text b.fullName, b.type, region, Hcl.Value.entriesData b.properties⟩

/-- The monthly cost of one resource. -/
structure LineItem where
  reference : Data
  type : String
  service : String
  region : Option String
  cost : Binary64
  description : String
  /-- Whether the resource could be priced. -/
  priced : Bool
deriving Repr, Inhabited

/-- What a description adds for a resource without cost. -/
def freeNote : String := " (free tier / request-based)"

/-- The row of a resource. Without a region the rates are not scaled. -/
def lineItem (estimator : Pricing.Estimator) (r : PricedResource) : LineItem :=
  match estimator r.type r.properties (r.region.getD "") with
  | .ok x =>
    let cost := x.cents
    let text := describe r.type r.properties
    ⟨r.reference, r.type, serviceOf r.type, r.region, cost,
      if cost.eq 0 then text ++ freeNote else text, true⟩
  | .error _ =>
    ⟨r.reference, r.type, serviceOf r.type, r.region, 0, "Unable to estimate cost", false⟩

/-- The rows of a set of resources and their totals. -/
structure Breakdown where
  total : Binary64
  byService : Entries Binary64
  items : List LineItem
deriving Repr, Inhabited

/-- Adds the cost of a row to the subtotal of its service; rows without a price add nothing. -/
def addToService (subtotals : Entries Binary64) (item : LineItem) : Entries Binary64 :=
  if item.priced then
    Entries.set item.service
      (((Entries.get? item.service subtotals).getD 0 + item.cost).cents) subtotals
  else subtotals

/-- Adds the cost of a row to a total; rows without a price add nothing. -/
def addToTotal (total : Binary64) (item : LineItem) : Binary64 :=
  if item.priced then total + item.cost else total

/-- The totals of rows. -/
def Breakdown.ofItems (items : List LineItem) : Breakdown :=
  ⟨(items.foldl addToTotal 0).cents, items.foldl addToService [], items⟩

/-- **The breakdown of resources**, one row for each. -/
def breakdown (estimator : Pricing.Estimator) (rs : List PricedResource) : Breakdown :=
  .ofItems (rs.map (lineItem estimator))

/-! ## Views -/

/-- The public view of a row. -/
def LineItem.toData (i : LineItem) : Data :=
  .map [("resource_ref", i.reference), ("resource_type", .text i.type),
    ("service", .text i.service), ("region", .ofText? i.region),
    ("monthly_cost_usd", .float i.cost.cents), ("description", .text i.description),
    ("priced", .bool i.priced)]

/-- The rows by descending cost, equal costs in their order. A cost that is not a number has no
place among the others: the rows are then as ranking leaves them. -/
def Breakdown.ranked (b : Breakdown) : List LineItem :=
  if b.items.any (·.cost.isNan) then rankDown (fun i j => i.cost.lt j.cost) b.items
  else b.items.mergeSort fun i j => !i.cost.lt j.cost

/-- The public view of a breakdown. -/
def Breakdown.toData (b : Breakdown) : Data :=
  .map [("currency", .text "USD"), ("total_monthly", .float b.total.cents),
    ("by_service", .map (b.byService.map fun s => (s.1, .float s.2.cents))),
    ("line_items", .list (b.ranked.map LineItem.toData))]

end Groundplan.Cost
