import Groundplan.Cloud.Inquiry
import Groundplan.Cloud.Call
import Groundplan.Cloud.Resource
import Groundplan.Text.Shown

/-!
# Listings

How the tracked types of resources are listed: the service and operation to ask, where the items
stand in a reply, and what an item says about its resource.

## Main definitions

* `Selector`: a place in a reply; `Selector.select`, `Selector.text`
* `Record`: what an item says about its resource
* `Listing`: how a type is listed; `listings`: those of the tracked types
-/

namespace Groundplan

open Text

/-! ## Places in replies -/

/-- A place in a reply. -/
inductive Selector where
  /-- The reply itself. -/
  | here
  /-- The entry under a key. -/
  | field (of : Selector) (key : String)
  /-- The items of a list, inner lists being spliced in. -/
  | each (of : Selector)
  /-- The entries under a key of the items of a list, inner lists being spliced in. -/
  | eachField (of : Selector) (key : String)
deriving Repr, Inhabited

/-- A list with its inner lists spliced in. -/
def spliced (xs : List Data) : List Data :=
  xs.flatMap fun x =>
    match x with
    | .list ys => ys
    | x => [x]

/-- Whether a value is null. -/
def Data.isNull : Data → Bool
  | .null => true
  | _ => false

namespace Selector

/-- What stands at a place in a value; null if there is no such place. -/
def select : Selector → Data → Data
  | .here, d => d
  | .field of key, d => ((of.select d).field? key).getD .null
  | .each of, d =>
    match of.select d with
    | .list xs => .list ((spliced xs).filter (!·.isNull))
    | _ => .null
  | .eachField of key, d =>
    match of.select d with
    | .list xs =>
      .list (((spliced xs).map fun x => (x.field? key).getD .null).filter (!·.isNull))
    | _ => .null

/-- The words for a place, from the outside in. -/
def words : Selector → List String
  | .here => []
  | .field of key => of.words ++ [key]
  | .each of => addMark of.words
  | .eachField of key => addMark of.words ++ [key]
where
  /-- Marks the last word as that of a list. -/
  addMark : List String → List String
    | [] => ["[]"]
    | [w] => [w ++ "[]"]
    | w :: ws => w :: addMark ws

/-- The text of a place. -/
def text (s : Selector) : String :=
  ".".intercalate s.words

end Selector

/-! ## Items -/

/-- What an item says about its resource. -/
structure Record where
  id : Data
  name : Data
  metadata : Entries Data := []
deriving Repr, Inhabited

/-- What follows the last slash, and of that what follows the last colon. -/
def lastPart (s : String) : String :=
  let after (sep : Char) (cs : List Char) : List Char := ((splitOn sep cs).getLast?).getD []
  String.ofList (after ':' (after '/' s.toList))

/-- The name at the end of an ARN or an address. -/
def arnName : Data → Answer Data
  | .text s => .ok (.text (lastPart s))
  | _ => .error (.mismatch .member)

/-- The number of items, entries or characters of a value. -/
def countOf : Data → Answer Nat
  | .list xs => .ok xs.length
  | .map es => .ok es.length
  | .text s => .ok s.length
  | _ => .error (.mismatch .kind)

/-- The entries of an item under keys, by the names that they get. -/
def pick (item : Data) (names : Entries String) : Answer (Entries Data) :=
  names.mapM fun n => do return (n.1, ← item.entry n.2)

/-- A resource that its identifier names. -/
def selfNamed (key : String) (names : Entries String) (item : Data) : Answer Record := do
  let id ← item.getItem key
  return ⟨id, id, ← pick item names⟩

/-- A resource with a name under a key of its own. -/
def namedBy (key nameKey : String) (names : Entries String) (item : Data) : Answer Record := do
  return ⟨← item.getItem key, ← item.entry nameKey, ← pick item names⟩

/-- A resource whose tags name it. -/
def tagged (key : String) (names : Entries String) (item : Data) : Answer Record := do
  return ⟨← item.getItem key, ← nameTag (← item.entry "Tags"), ← pick item names⟩

/-- A machine. -/
def machineRecord (item : Data) : Answer Record := do
  let r ← tagged "InstanceId" [("instance_type", "InstanceType")] item
  let state ← item.innerEntry "State" "Name"
  return { r with metadata := r.metadata ++ ("state", state) :: (← pick item
    [("private_ip", "PrivateIpAddress"), ("public_ip", "PublicIpAddress"), ("vpc_id", "VpcId")]) }

/-- A security group, with the number of its rules. -/
def groupRecord (item : Data) : Answer Record := do
  let r ← namedBy "GroupId" "GroupName" [("vpc_id", "VpcId"), ("description", "Description")] item
  let rules ← countOf (← item.getFieldD "IpPermissions" (.list []))
  return { r with metadata := r.metadata ++ [("ingress_rules", .ofNat rules)] }

/-- A zone of names. -/
def zoneRecord (item : Data) : Answer Record := do
  let r ← namedBy "Id" "Name" [] item
  let isPrivate ← item.innerEntry "Config" "PrivateZone"
  return { r with metadata := ("private_zone", isPrivate) ::
    (← pick item [("record_count", "ResourceRecordSetCount")]) }

/-- A topic, which its ARN names. -/
def topicRecord (item : Data) : Answer Record := do
  let arn ← item.getItem "TopicArn"
  return ⟨arn, ← arnName arn, []⟩

/-- An item that is an ARN or an address. -/
def addressRecord (item : Data) : Answer Record := do
  return ⟨item, ← arnName item, []⟩

/-! ## Types -/

/-- How the resources of a type are listed. -/
structure Listing where
  type : String
  service : String
  operation : String
  items : Selector
  record : Data → Answer Record
  params : Entries Data := []

/-- The parameters that ask for machines that are not gone. -/
def presentMachines : Entries Data :=
  [("Filters", .list [.map [("Name", .text "instance-state-name"),
    ("Values", .ofTexts ["pending", "running", "stopping", "stopped"])]])]

/-- **The listings of the tracked types**, in the order in which they are asked for. -/
def listings : List Listing := [
  ⟨"vpc", "ec2", "describe_vpcs", .field .here "Vpcs",
    tagged "VpcId" [("cidr_block", "CidrBlock"), ("is_default", "IsDefault")], []⟩,
  ⟨"subnet", "ec2", "describe_subnets", .field .here "Subnets",
    tagged "SubnetId" [("vpc_id", "VpcId"), ("cidr_block", "CidrBlock"),
      ("availability_zone", "AvailabilityZone")], []⟩,
  ⟨"ec2_instance", "ec2", "describe_instances",
    .each (.eachField (.field .here "Reservations") "Instances"), machineRecord, presentMachines⟩,
  ⟨"security_group", "ec2", "describe_security_groups", .field .here "SecurityGroups",
    groupRecord, []⟩,
  ⟨"rds_instance", "rds", "describe_db_instances", .field .here "DBInstances",
    selfNamed "DBInstanceIdentifier" [("instance_class", "DBInstanceClass"), ("engine", "Engine"),
      ("allocated_storage", "AllocatedStorage"), ("multi_az", "MultiAZ"),
      ("status", "DBInstanceStatus")], []⟩,
  ⟨"s3_bucket", "s3", "list_buckets", .field .here "Buckets",
    selfNamed "Name" [("created_at", "CreationDate")], []⟩,
  ⟨"iam_user", "iam", "list_users", .field .here "Users",
    selfNamed "UserName" [("arn", "Arn"), ("password_last_used", "PasswordLastUsed")], []⟩,
  ⟨"lambda_function", "lambda", "list_functions", .field .here "Functions",
    selfNamed "FunctionName" [("runtime", "Runtime"), ("memory_size", "MemorySize")], []⟩,
  ⟨"dynamodb_table", "dynamodb", "list_tables", .field .here "TableNames",
    fun name => .ok ⟨name, name, []⟩, []⟩,
  ⟨"load_balancer", "elbv2", "describe_load_balancers", .field .here "LoadBalancers",
    namedBy "LoadBalancerArn" "LoadBalancerName"
      [("type", "Type"), ("scheme", "Scheme"), ("dns_name", "DNSName")], []⟩,
  ⟨"ecs_cluster", "ecs", "list_clusters", .field .here "clusterArns", addressRecord, []⟩,
  ⟨"cloudfront_distribution", "cloudfront", "list_distributions",
    .each (.field (.field .here "DistributionList") "Items"),
    namedBy "Id" "DomainName" [("enabled", "Enabled"), ("status", "Status")], []⟩,
  ⟨"route53_zone", "route53", "list_hosted_zones", .field .here "HostedZones", zoneRecord, []⟩,
  ⟨"sns_topic", "sns", "list_topics", .field .here "Topics", topicRecord, []⟩,
  ⟨"sqs_queue", "sqs", "list_queues", .field .here "QueueUrls", addressRecord, []⟩,
  ⟨"elasticache_cluster", "elasticache", "describe_cache_clusters", .field .here "CacheClusters",
    selfNamed "CacheClusterId" [("node_type", "CacheNodeType"), ("engine", "Engine"),
      ("num_cache_nodes", "NumCacheNodes")], []⟩,
  ⟨"log_group", "logs", "describe_log_groups", .field .here "logGroups",
    selfNamed "logGroupName" [("stored_bytes", "storedBytes"),
      ("retention_days", "retentionInDays")], []⟩]

end Groundplan
