import Groundplan.Scan.Finding
import Groundplan.Text.Shown

/-!
# Scanning functions, load balancers and clusters

Functions should run on a runtime that is still supported; load balancers should log, be protected
and not serve plain HTTP; clusters should not answer to the whole internet and should encrypt their
secrets.

## Main definitions

* `scanFunction`, `scanServerless`
* `scanBalancer`, `scanLoadBalancers`
* `scanCluster`, `scanContainers`
-/

namespace Groundplan.Scan

/-! ## Functions -/

/-- Runtimes that are no longer supported. -/
def deprecatedRuntimes : List String :=
  ["nodejs14.x", "nodejs16.x", "python3.8", "python3.9", "java11", "dotnetcore3.1", "ruby2.7",
    "go1.x"]

/-- Whether a runtime is no longer supported. -/
def isDeprecated : Data → Answer Bool
  | .text s => .ok (deprecatedRuntimes.contains s)
  | d => if LiveResource.isKey d then .ok false else .error (.mismatch .kind)

/-- The findings of a function. -/
def scanFunction (region : String) (function : Data) : Answer Findings := do
  let runtime ← function.entry "Runtime"
  let name ← function.getFieldD "FunctionName" (.text "Unknown")
  return { scanned := 1, issues := if ← isDeprecated runtime then [⟨"Lambda Function", name, .high,
    "Deprecated Runtime: " ++ runtime.plain,
    "Update to a supported runtime version (e.g., nodejs18.x, python3.11)", some region⟩] else [] }

/-- **The findings of the functions of a region.** -/
def scanServerless (region : String) : Inquiry Findings :=
  scanPages (.of "lambda" region) "list_functions" [] "Functions"
    fun function => scanFunction region function

/-! ## Load balancers -/

/-- The values of attributes by their keys, the last one of a key counting. -/
def attributesOf (rows : List Data) : Answer (Entries Data) := do
  let pairs ← rows.mapM fun row => do
    let key ← row.getItem "Key"
    if !LiveResource.isKey key then throw (.mismatch .kind)
    return (key.text?, ← row.entry "Value")
  return pairs.foldl (fun es p =>
    match p.1 with
    | some key => Entries.set key p.2 es
    | none => es) []

/-- Whether a listener serves plain HTTP. -/
def servesPlainly (listener : Data) : Answer Bool := do
  if (← listener.entry "Protocol").isText "HTTP" then
    let redirects ← (← listener.rows "DefaultActions").anyM fun action => do
      return (← action.entry "Type").isText "redirect"
    return !redirects
  else return false

/-- The findings of a load balancer. -/
def scanBalancer (now : Instant) (region : String) (balancer : Data) : Inquiry Findings := do
  let elb := Client.of "elbv2" region
  let arn ← balancer.getItem "LoadBalancerArn"
  let name ← balancer.getFieldD "LoadBalancerName" arn
  let issue (severity : Policy.Severity) (text advice : String) : List SecurityIssue :=
    [⟨"Load Balancer", name, severity, text, advice, some region⟩]
  let reply ← elb.ask "describe_load_balancer_attributes" [("LoadBalancerArn", arn)]
  let attributes ← attributesOf (← reply.rows "Attributes")
  let isOn (key : String) : Bool := ((Entries.get? key attributes).getD .null).isText "true"
  let listeners ← (← elb.ask "describe_listeners" [("LoadBalancerArn", arn)]).rows "Listeners"
  let plain ← listeners.mapM fun l => servesPlainly l
  return {
    scanned := 1
    issues :=
      (if isOn "access_logs.s3.enabled" then [] else issue .medium "Access logging is disabled"
        "Enable access logs to S3 for auditability") ++
      (if isOn "deletion_protection.enabled" then [] else issue .low
        "Deletion protection is disabled" "Enable deletion protection") ++
      (plain.filter id).flatMap fun _ => issue .high
        "Unsecured HTTP Listener found without redirect"
        "Redirect HTTP to HTTPS or remove HTTP listener"
    priced := [⟨"", arn, "load_balancer", region, name, [("type", ← balancer.entry "Type")], now⟩] }

/-- **The findings of the load balancers of a region.** -/
def scanLoadBalancers (now : Instant) (region : String) : Inquiry Findings :=
  scanPages (.of "elbv2" region) "describe_load_balancers" [] "LoadBalancers"
    (scanBalancer now region)

/-! ## Clusters -/

/-- Whether a cluster answers to the whole internet. -/
def isPublicCluster (network : Data) : Answer Bool := do
  let ranges ← network.entry "publicAccessCidrs"
  if (← network.entry "endpointPublicAccess").isTruthy then
    if ranges.isTruthy then ranges.holds "0.0.0.0/0" else return true
  else return false

/-- The findings of a cluster. -/
def scanCluster (region : String) (name : Data) : Inquiry Findings := do
  let issue (severity : Policy.Severity) (text advice : String) : List SecurityIssue :=
    [⟨"EKS Cluster", name, severity, text, advice, some region⟩]
  let reply ← (Client.of "eks" region).ask "describe_cluster" [("name", name)]
  let cluster ← reply.getItem "cluster"
  let isPublic ← isPublicCluster (← cluster.getFieldD "resourcesVpcConfig" (.map []))
  let encrypted := (← cluster.entry "encryptionConfig").isTruthy
  return {
    scanned := 1
    issues :=
      (if isPublic then issue .critical "Public API endpoint enabled with 0.0.0.0/0"
        "Disable public access or restrict CIDRs" else []) ++
      (if encrypted then [] else issue .high "Secrets encryption (Envelope Encryption) inactive"
        "Enable secrets encryption with KMS") }

/-- **The findings of the clusters of a region.** -/
def scanContainers (region : String) : Inquiry Findings :=
  scanPages (.of "eks" region) "list_clusters" [] "clusters" (scanCluster region)

end Groundplan.Scan
