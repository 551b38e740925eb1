import Groundplan.Scan.Finding
import Groundplan.Text.CharClass
import Groundplan.Text.Shown

/-!
# Scanning resources

Machines that run should take session tokens of the second version only; machines that are stopped
and volumes that nothing is attached to cost money. Buckets should block public access in all four
ways and encrypt what they hold. Relational databases should be private, encrypted and, in
production, spread over zones; tables should be protected from deletion and recoverable to a point
in time. Passwords and access keys should be changed often, and keys that nobody uses should go.

## Main definitions

* `scanInstance`, `scanVolume`, `scanCompute`: machines and volumes of a region
* `scanBucket`, `scanStorage`: buckets
* `scanInstanceOfDatabase`, `scanDatabase`: relational databases
* `scanTable`, `scanNosql`: tables
* `scanKey`, `scanUser`, `scanIdentity`: access keys and users
-/

namespace Groundplan.Scan

open Text

/-! ## Machines and volumes -/

/-- What a stopped machine still costs in a month. -/
def stoppedSavings : Binary64 := 5.0

/-- What a gigabyte of volume costs in a month. -/
def volumeRate : Binary64 := 0.1

/-- The findings of a machine. -/
def scanInstance (now : Instant) (region : String) (machine : Data) : Answer Findings := do
  let id ← machine.getFieldD "InstanceId" (.text "Unknown")
  let state ← machine.innerEntry "State" "Name"
  if state.isText "stopped" then
    return { scanned := 1, opportunities := [⟨"EC2 Instance", id, 0, stoppedSavings,
      "Instance is stopped but its volumes are still billed. " ++
        "Terminate it if it is no longer needed.", some region⟩] }
  else if state.isText "running" then
    let tokens ← machine.innerEntry "MetadataOptions" "HttpTokens"
    let issues : List SecurityIssue :=
      if tokens.isText "required" then []
      else [⟨"EC2 Instance", id, .high, "IMDSv1 is allowed (HttpTokens is not 'required')",
        "Require IMDSv2 tokens to block SSRF access to instance credentials", some region⟩]
    let name ← nameTag (← machine.entry "Tags")
    let type ← machine.entry "InstanceType"
    return { scanned := 1, issues := issues, priced :=
      [⟨"", id, "ec2_instance", region, name, [("instance_type", type)], now⟩] }
  else return { scanned := 1 }

/-- The monthly cost of a volume of a size in gigabytes. -/
def volumeCost (size : Data) : Answer Binary64 :=
  match size.numeric? with
  | some _ => do return (← size.toNumber) * volumeRate
  | none => .error (.mismatch .kind)

/-- The findings of a volume that nothing is attached to. -/
def scanVolume (now : Instant) (region : String) (volume : Data) : Answer Findings := do
  let size ← volume.getFieldD "Size" (.int 0)
  let cost ← volumeCost size
  let id ← volume.getFieldD "VolumeId" (.text "Unknown")
  let type ← volume.entry "VolumeType"
  return {
    scanned := 1
    opportunities := [⟨"EBS Volume", id, cost, cost,
      "Unattached volume. Snapshot and delete it if it is not needed.", some region⟩]
    priced := [⟨"", id, "ebs_volume", region, .null,
      [("size", size), ("volume_type", type)], now⟩] }

/-- The parameters that ask for volumes that nothing is attached to. -/
def availableVolumes : Entries Data :=
  [("Filters", .list [.map [("Name", .text "status"), ("Values", .ofTexts ["available"])]])]

/-- **The findings of the machines and volumes of a region.** -/
def scanCompute (now : Instant) (region : String) : Inquiry Findings := do
  let machines ← scanPages (.of "ec2" region) "describe_instances" [] "Reservations" fun r => do
    Findings.ofEach (← r.rows "Instances") fun machine => scanInstance now region machine
  let volumes ← scanPages (.of "ec2" region) "describe_volumes" availableVolumes "Volumes"
    fun volume => scanVolume now region volume
  return machines ++ volumes

/-! ## Buckets -/

/-- The settings that block public access. -/
def publicAccessFlags : List String :=
  ["BlockPublicAcls", "BlockPublicPolicy", "IgnorePublicAcls", "RestrictPublicBuckets"]

/-- An issue with a bucket. -/
def bucketIssue (name : Data) (severity : Policy.Severity) (issue recommendation : String) :
    SecurityIssue :=
  ⟨"S3 Bucket", name, severity, issue, recommendation, none⟩

/-- What an answer means when a code of the cloud says that something is not configured: nothing in
that case, and the failure in case of any other. -/
def unlessMissing {α : Type} (code : String) : Answer α → Answer (Option α)
  | .ok a => .ok (some a)
  | .error f => if f matches .cloud .. && f.cloudCode == code then .ok none else .error f

/-- The issues of the settings that block public access. -/
def accessIssues (name : Data) : Option Data → Answer (List SecurityIssue)
  | none => .ok [bucketIssue name .critical "No public access block configuration"
      "Configure public access block settings"]
  | some reply => do
    let block ← reply.getItem "PublicAccessBlockConfiguration"
    let missing ← publicAccessFlags.filterM fun flag => do return !(← block.entry flag).isTruthy
    return if missing.isEmpty then [] else [bucketIssue name .critical
      ("Public access not fully blocked (missing: " ++ ", ".intercalate missing ++ ")")
      ("Enable all four public access block settings: " ++ ", ".intercalate publicAccessFlags)]

/-- The findings of a bucket. -/
def scanBucket (now : Instant) (region : String) (bucket : Data) : Inquiry Findings := do
  let s3 := Client.of "s3" region
  let name ← bucket.getItem "Name"
  let block ← (s3.ask "get_public_access_block" [("Bucket", name)]).attempt
  let access ← accessIssues name (← unlessMissing "NoSuchPublicAccessBlockConfiguration" block)
  let encryption ← (s3.ask "get_bucket_encryption" [("Bucket", name)]).attempt
  let encrypted ← unlessMissing "ServerSideEncryptionConfigurationNotFoundError" encryption
  return {
    scanned := 1
    issues := access ++ (if encrypted.isSome then [] else [bucketIssue name .high
      "Default encryption is not enabled" "Enable default server-side encryption"])
    opportunities := [⟨"S3 Bucket", name, 0, 0,
      "Enable Intelligent-Tiering to automatically save on infrequent access", none⟩]
    priced := [⟨"", name, "s3_bucket", region, name, [], now⟩] }

/-- **The findings of the buckets of an account.** -/
def scanStorage (now : Instant) (region : String) : Inquiry Findings := do
  let reply ← (Client.of "s3" region).ask "list_buckets" []
  Findings.ofEach (← reply.rows "Buckets") (scanBucket now region)

/-! ## Relational databases -/

/-- What a small database is taken to cost in a month. -/
def smallDatabaseCost : Binary64 := 15.0

/-- What a small database would save on another kind of machine. -/
def smallDatabaseSavings : Binary64 := 5.0

/-- Whether an identifier names something of production. -/
def namesProduction : Data → Answer Bool
  | .text s => .ok (isPart "prod".toList (lowerText s).toList)
  | _ => .error (.mismatch .member)

/-- Whether a class is one of the small ones. -/
def isSmallClass (class_ : Data) : Answer Bool := do
  if ← class_.holds "micro" then return true else class_.holds "small"

/-- The findings of a relational database. -/
def scanInstanceOfDatabase (now : Instant) (region : String) (db : Data) : Answer Findings := do
  let id ← db.getFieldD "DBInstanceIdentifier" (.text "Unknown")
  let class_ ← db.getFieldD "DBInstanceClass" (.text "")
  let issue (severity : Policy.Severity) (text advice : String) : List SecurityIssue :=
    [⟨"RDS Instance", id, severity, text, advice, some region⟩]
  let isPublic := (← db.entry "PubliclyAccessible").isTruthy
  let encrypted := (← db.entry "StorageEncrypted").isTruthy
  let spread := (← db.entry "MultiAZ").isTruthy
  let exposed ← if spread then pure false else namesProduction id
  let available := (← db.entry "DBInstanceStatus").isText "available"
  let small ← if available then isSmallClass class_ else pure false
  return {
    scanned := 1
    issues :=
      (if isPublic then issue .high "Database is publicly accessible"
        "Disable public accessibility and use VPC" else []) ++
      (if encrypted then [] else issue .high "Storage is not encrypted"
        "Enable storage encryption") ++
      (if exposed then issue .medium "Production database is not Multi-AZ"
        "Enable Multi-AZ for high availability" else [])
    opportunities := if small then [⟨"RDS Instance", id, smallDatabaseCost, smallDatabaseSavings,
      "Consider Graviton (db.t4g) for 20% better price/performance", some region⟩] else []
    priced := [⟨"", id, "rds_instance", region, id,
      [("instance_class", class_), ("engine", ← db.entry "Engine"),
        ("allocated_storage", ← db.entry "AllocatedStorage"), ("multi_az", .bool spread)], now⟩] }

/-- **The findings of the relational databases of a region.** -/
def scanDatabase (now : Instant) (region : String) : Inquiry Findings :=
  scanPages (.of "rds" region) "describe_db_instances" [] "DBInstances"
    fun db => scanInstanceOfDatabase now region db

/-! ## Tables -/

/-- Whether a table can be recovered to a point in time. -/
def isRecoverable (backups : Data) : Answer Bool := do
  let description ← backups.getFieldD "ContinuousBackupsDescription" (.map [])
  return (← description.innerEntry "PointInTimeRecoveryDescription"
    "PointInTimeRecoveryStatus").isText "ENABLED"

/-- The findings of a table. -/
def scanTable (now : Instant) (region : String) (name : Data) : Inquiry Findings := do
  let dynamodb := Client.of "dynamodb" region
  let issue (severity : Policy.Severity) (text advice : String) : List SecurityIssue :=
    [⟨"DynamoDB Table", name, severity, text, advice, some region⟩]
  let table ← (← dynamodb.ask "describe_table" [("TableName", name)]).getItem "Table"
  let guarded := (← table.entry "DeletionProtectionEnabled").isTruthy
  let recoverable ← isRecoverable (← dynamodb.ask "describe_continuous_backups"
    [("TableName", name)])
  let throughput ← table.getFieldD "ProvisionedThroughput" (.map [])
  let billing ← (← table.getFieldD "BillingModeSummary" (.map [])).getFieldD "BillingMode"
    (.text "PROVISIONED")
  return {
    scanned := 1
    issues :=
      (if guarded then [] else issue .medium "Deletion protection is disabled"
        "Enable deletion protection to prevent accidental deletion") ++
      (if recoverable then [] else issue .low "Point-in-Time Recovery (PITR) is disabled"
        "Enable PITR for data recovery")
    priced := [⟨"", name, "dynamodb_table", region, name,
      [("billing_mode", billing), ("read_capacity", ← throughput.entry "ReadCapacityUnits"),
        ("write_capacity", ← throughput.entry "WriteCapacityUnits")], now⟩] }

/-- **The findings of the tables of a region.** -/
def scanNosql (now : Instant) (region : String) : Inquiry Findings :=
  scanPages (.of "dynamodb" region) "list_tables" [] "TableNames" (scanTable now region)

/-! ## Identities -/

/-- The days after which passwords and keys should be changed. -/
def maxKeyDays : Int := 90

/-- The client that asks about identities. -/
def identityClient : Client := .of "iam" ""

/-- The issues of an access key of a user. -/
def scanKey (now : Instant) (user key : Data) : Inquiry (List SecurityIssue) := do
  let id ← key.getItem "AccessKeyId"
  let name : Data := .text (user.plain ++ " (" ++ id.plain ++ ")")
  let old ← isOlderThan now maxKeyDays (← key.entry "CreateDate")
  let lastUse ← identityClient.ask "get_access_key_last_used" [("AccessKeyId", id)]
  let used ← lastUse.innerEntry "AccessKeyLastUsed" "LastUsedDate"
  return (if old then [⟨"IAM Access Key", name, .medium,
      "Access key is older than " ++ decimalText maxKeyDays ++ " days",
      "Rotate access keys regularly", none⟩] else []) ++
    (if used.isTruthy then [] else [⟨"IAM Access Key", name, .low,
      "Access key has never been used", "Remove unused access keys", none⟩])

/-- The findings of a user. -/
def scanUser (now : Instant) (user : Data) : Inquiry Findings := do
  let name ← user.getItem "UserName"
  let old ← isOlderThan now maxKeyDays (← user.entry "PasswordLastUsed")
  let keys ← (← identityClient.ask "list_access_keys" [("UserName", name)]).rows "AccessKeyMetadata"
  let issues ← keys.mapM (scanKey now name)
  return {
    scanned := 1
    issues := (if old then [⟨"IAM User", name, .medium,
      "Password older than " ++ decimalText maxKeyDays ++ " days", "Rotate password", none⟩]
      else []) ++ issues.flatten }

/-- **The findings of the users of an account.** -/
def scanIdentity (now : Instant) : Inquiry Findings :=
  scanPages identityClient "list_users" [] "Users" (scanUser now)

end Groundplan.Scan
