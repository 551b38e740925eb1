import Groundplan.Policy.Evaluator
import Groundplan.Policy.Reference

/-!
# Storage and database policies

Policies on buckets and block storage volumes, and on relational databases and tables.

## Main definitions

* `publicAccessBlocked`, `accessLogging`, `bucketEncryption`: buckets
* `volumeEncryption`: volumes, and the root devices of machines
* `databasesPrivate`, `databaseEncryption`, `deletionProtection`, `tableEncryption`: databases and
  tables
-/

namespace Groundplan.Policy

open Hcl

/-! ## Buckets and volumes -/

/-- Reports the buckets for which neither a property nor a companion resource settles a matter. -/
def flagBuckets (property : Option String) (companion : String) (report : Block → Finding) :
    Evaluator := fun s =>
  flag "aws_s3_bucket" (fun b => do
    let inline ←
      match property with
      | some p => b.has p
      | none => pure false
    return !inline && !hasCompanion b "bucket" (s.configuration.ofTypes [companion])) report s

/-- Buckets must have a public access block. -/
def publicAccessBlocked : Definition where
  code := "SEC001"
  name := "S3 Bucket Public Access Blocked"
  description :=
    "Ensures S3 buckets have public access blocked to prevent unintended data exposure"
  category := .security
  severity := .critical
  check := flagBuckets none "aws_s3_bucket_public_access_block" fun b =>
    finding b ("S3 bucket " ++ named b ++ " does not have a public access block configured")
      ("Add an aws_s3_bucket_public_access_block resource for " ++ named b ++
        " with block_public_acls, block_public_policy, ignore_public_acls and " ++
        "restrict_public_buckets all set to true")
      true []

/-- Buckets must log access. -/
def accessLogging : Definition where
  code := "SEC009"
  name := "S3 Bucket Access Logging Enabled"
  description := "Ensures S3 buckets have server access logging enabled for audit purposes"
  category := .security
  severity := .medium
  check := flagBuckets (some "logging") "aws_s3_bucket_logging" fun b =>
    finding b ("S3 bucket " ++ named b ++ " does not have access logging configured")
      ("Add an aws_s3_bucket_logging resource for " ++ named b ++
        " with a target_bucket and target_prefix")
      false []

/-- Buckets must be encrypted by default. -/
def bucketEncryption : Definition where
  code := "SEC020"
  name := "S3 Default Encryption Configured"
  description := "Ensures S3 buckets declare a server-side encryption configuration"
  category := .security
  severity := .high
  check := flagBuckets (some "server_side_encryption_configuration")
    "aws_s3_bucket_server_side_encryption_configuration" fun b =>
    finding b ("S3 bucket " ++ named b ++ " does not declare default encryption")
      ("Add an aws_s3_bucket_server_side_encryption_configuration for " ++ named b ++
        " with sse_algorithm = \"aws:kms\" or \"AES256\"")
      true []

/-- Whether a machine has root devices and one of them is not encrypted. -/
def hasOpenRootDevice (b : Block) : Bool :=
  let devices := b.nested "root_block_device"
  devices.any fun d => !isOn (((Entries.get? "encrypted" d).map Value.toData).getD .null)

/-- Volumes must be encrypted, and so must the root devices of machines that describe one. -/
def volumeEncryption : Definition where
  code := "SEC004"
  name := "EBS Volumes Encrypted"
  description := "Ensures EBS volumes have encryption enabled at rest"
  category := .security
  severity := .high
  check := fun s => do
    let volumes ← flag "aws_ebs_volume" (isOffAt · "encrypted") (fun b =>
      finding b ("EBS volume " ++ named b ++ " is not encrypted")
        "Add encrypted = true to enable encryption at rest" true []) s
    let machines ← flag "aws_instance" (fun b => .ok (hasOpenRootDevice b)) (fun b =>
      finding b ("EC2 instance " ++ named b ++ " has an unencrypted root block device")
        "Add encrypted = true inside the root_block_device block" true []) s
    return volumes ++ machines

/-! ## Databases and tables -/

/-- Databases must not be publicly accessible. -/
def databasesPrivate : Definition where
  code := "SEC003"
  name := "RDS Instance Not Publicly Accessible"
  description := "Ensures RDS instances are not publicly accessible from the internet"
  category := .security
  severity := .high
  check := flag "aws_db_instance" (isOnAt · "publicly_accessible") fun b =>
    finding b ("RDS instance " ++ named b ++ " is publicly accessible")
      "Set publicly_accessible = false to restrict access to your VPC" true []

/-- Databases must be encrypted. -/
def databaseEncryption : Definition where
  code := "SEC012"
  name := "RDS Encryption at Rest Enabled"
  description := "Ensures RDS database instances have encryption at rest enabled"
  category := .security
  severity := .high
  check := flag "aws_db_instance" (isOffAt · "storage_encrypted") fun b =>
    finding b ("RDS instance " ++ named b ++ " does not have encryption at rest enabled")
      ("Add storage_encrypted = true and optionally a kms_key_id for customer-managed " ++
        "encryption")
      true []

/-- Databases must be protected from deletion. -/
def deletionProtection : Definition where
  code := "SEC013"
  name := "RDS Deletion Protection Enabled"
  description := "Ensures RDS database instances have deletion protection enabled to prevent " ++
    "accidental deletion"
  category := .security
  severity := .medium
  check := flag "aws_db_instance" (isOffAt · "deletion_protection") fun b =>
    finding b ("RDS instance " ++ named b ++ " does not have deletion protection enabled")
      "Add deletion_protection = true to prevent accidental database deletion" true []

/-- Tables must be encrypted. -/
def tableEncryption : Definition where
  code := "SEC014"
  name := "DynamoDB Server-Side Encryption Enabled"
  description := "Ensures DynamoDB tables have server-side encryption configured with a " ++
    "customer-managed KMS key"
  category := .security
  severity := .medium
  check := flag "aws_dynamodb_table" (fun b => (b.has "server_side_encryption").map not) fun b =>
    finding b ("DynamoDB table " ++ named b ++
        " does not have a server_side_encryption block configured")
      "Add a server_side_encryption block with enabled = true and a kms_key_arn" false []

end Groundplan.Policy
