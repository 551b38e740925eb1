import Groundplan.Policy.Catalog

/-!
# What evaluators read

An evaluator turns the values that it looks at into plain ones, and fails on one that is nested too
deep. It reads no more than it needs: a search for a companion ends with the first that is found,
and what stands behind it is not read.

## Main definitions

* `isReadable`, `readable`: a value that is not nested too deep
* `plainAt`, `plainNested`: looking into a block by itself
* `companionReads`, `segments`: what is read in search of a companion, and of open groups
* `readings`, `readsOf`: what each evaluator reads
* `Definition.run`: an evaluator by itself
-/

namespace Groundplan.Policy

open Hcl

/-- How deep lists and maps may stand inside one another in a value that is read. -/
def maxReadDepth : Nat := 490

/-- Whether a value can be read. -/
def isReadable (v : Value) : Bool :=
  v.toData.depth ≤ maxReadDepth

/-- A value that can be read, refused if it is nested too deep. -/
def readable (v : Value) : Answer Value :=
  if isReadable v then .ok v else .error (.mismatch .depth)

/-! ## Properties -/

/-- **The plain value at a path of a block**, or a default. -/
def plainAt (b : Block) (path : String) (default : Data) : Answer Data := do
  match ← b.find? path with
  | some v => return (← readable v).toData
  | none => return default

/-- The plain forms of the nested blocks of a name. -/
def plainNested (b : Block) (name : String) : Answer (List Data) :=
  (b.nested name).mapM fun es => do return (← readable (.map es)).toData

/-- The value that is read at a path of a block, if there is one. -/
def valuesAt (b : Block) (path : String) : List Value :=
  match b.find? path with
  | .ok (some v) => [v]
  | _ => []

/-- What is read at a path of the resources of a type. -/
def readsAt (type path : String) (s : Subject) : List Value :=
  (s.configuration.ofTypes [type]).flatMap (valuesAt · path)

/-- The maps that are read under the name of nested blocks. -/
def nestedReads (b : Block) (name : String) : List Value :=
  (b.nested name).map .map

/-- Whether there is a value at a path; nothing is read for that. -/
def isThere (b : Block) (path : String) : Bool :=
  match b.has path with
  | .ok found => found
  | .error _ => false

/-! ## Companions -/

/-- What is read to see whether a text is the literal name of a block, up to the one that it is. -/
def identityReads (target : Block) (s : String) : List String → List Value
  | [] => []
  | key :: keys =>
    match target.property? key with
    | none => identityReads target s keys
    | some v =>
      match v.toData with
      | .text literal =>
        if !isVariable literal && s == literal then [v] else v :: identityReads target s keys
      | _ => v :: identityReads target s keys

/-- What is read to see whether values point at a block, up to the first that does. -/
def referenceReads (target : Block) : List Data → List Value
  | [] => []
  | .text s :: ds =>
    if names (traversal target) s.toList then []
    else
      identityReads target s identityProperties ++
        (if carries target s then [] else referenceReads target ds)
  | _ :: ds => referenceReads target ds

/-- **What is read in search of a companion**, up to the first that is found. -/
def companionReads (target : Block) (property : String) : List Block → List Value
  | [] => []
  | b :: bs =>
    match b.property? property with
    | none => companionReads target property bs
    | some v =>
      v :: referenceReads target (listOf v.toData) ++
        (if refersTo target v.toData then [] else companionReads target property bs)

/-- What is read of buckets with no property that settles a matter. -/
def bucketReads (property : Option String) (companion : String) (s : Subject) : List Value :=
  (s.configuration.ofTypes ["aws_s3_bucket"]).flatMap fun b =>
    if property.any (isThere b) then []
    else companionReads b "bucket" (s.configuration.ofTypes [companion])

/-- What is read of an address. -/
def addressReads (c : Configuration) (b : Block) : List Value :=
  if isThere b "instance" || isThere b "network_interface" then []
  else
    companionReads b "allocation_id" (c.ofTypes ["aws_eip_association"]) ++
      (if hasCompanion b "allocation_id" (c.ofTypes ["aws_eip_association"]) then []
      else companionReads b "allocation_id" (c.ofTypes ["aws_nat_gateway"]))

/-! ## Others -/

/-- What is read of a queue. -/
def queueReads (b : Block) : List Value :=
  valuesAt b "kms_master_key_id" ++
    (match lacksKey b with
    | .ok true => valuesAt b "sqs_managed_sse_enabled"
    | _ => [])

/-- What is read of a resource that is itself a rule: all its properties. -/
def ruleReads (b : Block) : List Value :=
  b.properties.map (·.2)

/-- What the policy on open groups reads, group by group and rule by rule, each with what is found
there. -/
def segments (c : Configuration) : List (List Value × Answer (List Finding)) :=
  ((c.ofTypes ["aws_security_group"]).map fun b => (nestedReads b "ingress", groupFindings b)) ++
  ((c.ofTypes ["aws_security_group_rule"]).map fun b =>
    if isIngress b then (valuesAt b "type" ++ ruleReads b, ruleResourceFindings b)
    else (valuesAt b "type", .ok [])) ++
  (c.ofTypes ["aws_vpc_security_group_ingress_rule"]).map fun b =>
    (ruleReads b, ruleResourceFindings b)

/-- What is read up to the first failure. -/
def readsUntilFailure : List (List Value × Answer (List Finding)) → List Value
  | [] => []
  | (vs, .ok _) :: rest => vs ++ readsUntilFailure rest
  | (vs, .error _) :: _ => vs

/-- What is read of groups and rules. -/
def groupReads (s : Subject) : List Value :=
  readsUntilFailure (segments s.configuration)

/-- What is read of volumes, and of the root devices of machines. -/
def volumeReads (s : Subject) : List Value :=
  readsAt "aws_ebs_volume" "encrypted" s ++
    (s.configuration.ofTypes ["aws_instance"]).flatMap (nestedReads · "root_block_device")

/-- What is read of the networks that must have flow logs. -/
def networkReads (s : Subject) : List Value :=
  (s.configuration.ofTypes ["aws_vpc"]).flatMap fun b =>
    companionReads b "vpc_id" (s.configuration.ofTypes ["aws_flow_log"])

/-- **What evaluators read**, in turn, if nothing in it is nested too deep; those that are not here
read nothing. -/
def readings : Entries (Subject → List Value) := [
  ("SEC001", bucketReads none "aws_s3_bucket_public_access_block"),
  ("SEC002", groupReads),
  ("SEC003", readsAt "aws_db_instance" "publicly_accessible"),
  ("SEC004", volumeReads),
  ("SEC007", readsAt "aws_cloudtrail" "enable_log_file_validation"),
  ("SEC008", networkReads),
  ("SEC009", bucketReads (some "logging") "aws_s3_bucket_logging"),
  ("SEC011", readsAt "aws_subnet" "map_public_ip_on_launch"),
  ("SEC012", readsAt "aws_db_instance" "storage_encrypted"),
  ("SEC013", readsAt "aws_db_instance" "deletion_protection"),
  ("SEC015", readsAt "aws_sns_topic" "kms_master_key_id"),
  ("SEC016", fun s => (s.configuration.ofTypes ["aws_sqs_queue"]).flatMap queueReads),
  ("SEC018", readsAt "aws_instance" "metadata_options.http_tokens"),
  ("SEC020", bucketReads (some "server_side_encryption_configuration")
    "aws_s3_bucket_server_side_encryption_configuration"),
  ("COST002", readsAt "aws_instance" "instance_type"),
  ("COST003", readsAt "aws_db_instance" "multi_az"),
  ("COST004", fun s =>
    (s.configuration.ofTypes ["aws_eip"]).flatMap (addressReads s.configuration))]

/-- What the evaluator of a code reads. -/
def readsOf (code : String) (s : Subject) : List Value :=
  match Entries.get? code readings with
  | some reads => reads s
  | none => []

/-- **Runs an evaluator by itself**, which fails on a value that it cannot read. -/
def Definition.run (d : Definition) (s : Subject) : Answer (List Finding) :=
  if (readsOf d.code s).all isReadable then d.check s else .error (.mismatch .depth)

end Groundplan.Policy
