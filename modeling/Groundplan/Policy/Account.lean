import Groundplan.Policy.Evaluator

/-!
# Account policies

Policies on access rights, audit trails, messaging and the metadata service of machines.

## Main definitions

* `noWildcards`, `noInlinePolicies`: access rights
* `trailPresent`, `trailValidation`: audit trails
* `topicEncryption`, `queueEncryption`: messaging
* `metadataTokens`: machines
-/

namespace Groundplan.Policy

open Hcl Text

/-! ## Access rights -/

/-- The text after an opening bracket and blanks, if it starts with one. -/
def dropOpening : List Char → List Char
  | '[' :: cs => cs.dropWhile isBlank
  | cs => cs

/-- Whether a text starts with a separator and a wildcard in quotes, perhaps in a list. -/
def startsWildcard (cs : List Char) : Bool :=
  let cs :=
    match cs with
    | '"' :: r => r
    | r => r
  match cs.dropWhile isBlank with
  | c :: r =>
    (c == ':' || c == '=') && startsWith ['"', '*', '"'] (dropOpening (r.dropWhile isBlank))
  | [] => false

/-- Whether a key of a policy document is given a wildcard somewhere in a text. -/
def grantsAll (key : List Char) : List Char → Bool
  | [] => false
  | c :: rest =>
    (key.isPrefixOf (c :: rest) && startsWildcard ((c :: rest).drop key.length)) ||
      grantsAll key rest

/-- The findings for a policy document. -/
def wildcardFindings (b : Block) : List Finding :=
  (if grantsAll "Action".toList b.raw.toList then
    [finding b ("IAM policy " ++ named b ++ " uses wildcard (*) for Action")
      "Specify explicit actions instead of using * to follow least privilege" false []]
  else []) ++
  (if grantsAll "Resource".toList b.raw.toList then
    [finding b ("IAM policy " ++ named b ++ " uses wildcard (*) for Resource")
      "Specify explicit resource ARNs instead of using * to limit scope" false []]
  else [])

/-- Policy documents must not grant everything. -/
def noWildcards : Definition where
  code := "SEC005"
  name := "IAM Policies No Wildcards"
  description := "Detects IAM policies using overly permissive wildcard (*) actions or resources"
  category := .security
  severity := .high
  check := fun s =>
    .ok ((s.configuration.ofTypes ["aws_iam_policy", "aws_iam_role_policy"]).flatMap
      wildcardFindings)

/-- Users must not have policies of their own. -/
def noInlinePolicies : Definition where
  code := "SEC017"
  name := "No Inline IAM User Policies"
  description := "Flags inline IAM user policies which are harder to audit and manage than " ++
    "managed policies"
  category := .security
  severity := .medium
  check := flag "aws_iam_user_policy" (fun _ => .ok true) fun b =>
    finding b ("Inline IAM user policy " ++ named b ++
        " found. Inline policies are harder to manage, audit and reuse")
      ("Replace aws_iam_user_policy with aws_iam_user_policy_attachment referencing a managed " ++
        "aws_iam_policy")
      false []

/-! ## Audit trails -/

/-- A configuration with resources must have an audit trail. -/
def trailPresent : Definition where
  code := "SEC006"
  name := "CloudTrail Enabled"
  description := "Ensures an AWS CloudTrail trail is defined to log API activity across the account"
  category := .security
  severity := .high
  check := fun s =>
    if s.configuration.resources.isEmpty then .ok []
    else if (s.configuration.ofTypes ["aws_cloudtrail"]).isEmpty then
      .ok [⟨"template", "aws_cloudtrail",
        "No aws_cloudtrail resource found in the template. CloudTrail should be enabled for API " ++
          "auditing", none,
        some ("Add an aws_cloudtrail resource with is_multi_region_trail = true and " ++
          "enable_logging = true"), false, []⟩]
    else .ok []

/-- Audit trails must be validated. -/
def trailValidation : Definition where
  code := "SEC007"
  name := "CloudTrail Log File Validation Enabled"
  description := "Ensures CloudTrail log file validation is enabled to detect tampering"
  category := .security
  severity := .medium
  check := flag "aws_cloudtrail" (isOffAt · "enable_log_file_validation") fun b =>
    finding b ("CloudTrail " ++ named b ++ " does not have log file validation enabled")
      "Add enable_log_file_validation = true to detect unauthorized log modifications" true []

/-! ## Messaging -/

/-- Whether a block names no key of its own. -/
def lacksKey (b : Block) : Answer Bool :=
  (value b "kms_master_key_id").map fun d => !d.isTruthy

/-- Topics must be encrypted. -/
def topicEncryption : Definition where
  code := "SEC015"
  name := "SNS Topic Encryption Enabled"
  description := "Ensures SNS topics are encrypted at rest using a KMS key"
  category := .security
  severity := .medium
  check := flag "aws_sns_topic" lacksKey fun b =>
    finding b ("SNS topic " ++ named b ++ " does not have encryption enabled")
      "Add kms_master_key_id with a KMS key ARN or alias to enable server-side encryption" false []

/-- Queues must be encrypted, with a key or by the service. -/
def queueEncryption : Definition where
  code := "SEC016"
  name := "SQS Queue Encryption Enabled"
  description := "Ensures SQS queues are encrypted at rest using KMS or SQS-managed SSE"
  category := .security
  severity := .medium
  check := flag "aws_sqs_queue"
    (fun b => do return (← lacksKey b) && (← isOffAt b "sqs_managed_sse_enabled"))
    fun b => finding b ("SQS queue " ++ named b ++ " does not have encryption enabled")
      ("Add kms_master_key_id for KMS-managed encryption, or set " ++
        "sqs_managed_sse_enabled = true for SQS-managed server-side encryption")
      false []

/-! ## Machines -/

/-- Whether a machine lets its metadata be read without a token. -/
def allowsBareMetadata (b : Block) : Answer Bool :=
  (value b "metadata_options.http_tokens").map fun d =>
    match d with
    | .text s => s != "required"
    | _ => true

/-- Machines must ask for a token before they tell their metadata. -/
def metadataTokens : Definition where
  code := "SEC018"
  name := "EC2 IMDSv2 Enforced"
  description := "Ensures EC2 instances require IMDSv2 to mitigate SSRF attacks"
  category := .security
  severity := .high
  check := flag "aws_instance" allowsBareMetadata fun b =>
    finding b ("EC2 instance " ++ named b ++
        " does not enforce IMDSv2. Without http_tokens = \"required\", " ++
        "the instance metadata service is vulnerable to SSRF attacks")
      ("Add a metadata_options block with http_tokens = \"required\" and " ++
        "http_endpoint = \"enabled\"")
      true []

end Groundplan.Policy
