import Groundplan.Policy.Reference
import Groundplan.Pricing.Table

/-!
# Savings policies

Policies that point out where a configuration costs more than it may have to.

## Main definitions

* `gatewayAlternative`, `oversizedMachine`, `standbyDatabase`, `unattachedAddress`
* `machineGrade?`: how large an instance type is
-/

namespace Groundplan.Policy

open Hcl Text

/-- Gateways have a cheaper alternative. -/
def gatewayAlternative : Definition where
  code := "COST001"
  name := "Consider NAT Instance for Cost Savings"
  description := "NAT Gateways cost ~$32/month plus data charges. For dev/test environments, " ++
    "a NAT Instance can save 60-80%"
  category := .cost
  severity := .medium
  check := flag "aws_nat_gateway" (fun _ => .ok true) fun b =>
    finding b ("NAT Gateway " ++ named b ++ " costs ~$32/month plus data processing fees")
      ("For non-production workloads, consider a NAT Instance (t3.nano ~$3/month) instead. " ++
        "This can save $25-30/month per NAT.")
      false [("estimated_monthly_cost", .int 32), ("potential_savings", .int 29),
        ("alternative_resource", .text "aws_instance with source_dest_check = false")]

/-! ## Sizes -/

/-- The families whose larger sizes are very large. -/
def largeFamilies : List String := ["m5", "m6i", "c5", "c6i", "r5", "r6i"]

/-- The sizes that are very large in those families. -/
def veryLargeSizes : List String := ["2xlarge", "4xlarge", "8xlarge"]

/-- The sizes that are large in any family. -/
def largeSizes : List String :=
  ["large", "xlarge", "2xlarge", "4xlarge", "8xlarge", "12xlarge", "16xlarge", "24xlarge"]

/-- A text without one line feed at its end. -/
def dropFinalFeed (cs : List Char) : List Char :=
  match cs.reverse with
  | '\n' :: r => r.reverse
  | _ => cs

/-- How large an instance type is, if it is. -/
def machineGrade? (type : String) : Option String :=
  let cs := dropFinalFeed type.toList
  if largeFamilies.any fun f => veryLargeSizes.any fun s =>
      cs == f.toList ++ '.' :: s.toList then some "very large"
  else if largeSizes.any fun s => endsWith ('.' :: s.toList) cs then some "large"
  else none

/-- The instance type of a machine, if it is a literal. -/
def literalType? (b : Block) : Option String :=
  match b.property? "instance_type" with
  | some (.string s) => some s
  | _ => none

/-- What is added to a finding on an instance type. -/
def typeMetadata (type : String) : Entries Data :=
  ("current_instance_type", .text type) ::
    match Entries.get? type Pricing.instanceRates with
    | some rate => [("estimated_monthly_cost", .float (rate * Pricing.hoursPerMonth).cents)]
    | none => []

/-- The finding for a machine, if it is large. -/
def oversizedFinding? (b : Block) : Option Finding := do
  let type ← literalType? b
  let grade ← machineGrade? type
  return finding b
    ("Instance " ++ named b ++ " uses a " ++ grade ++ " instance type (" ++ type ++ ")")
    ("Consider starting with a smaller instance and scaling up based on actual usage. " ++
      "AWS Compute Optimizer gives right-sizing recommendations.")
    false (typeMetadata type)

/-- Large machines may be larger than needed. -/
def oversizedMachine : Definition where
  code := "COST002"
  name := "Potentially Oversized Instance"
  description := "Detects large instance types that might be oversized for typical workloads"
  category := .cost
  severity := .low
  check := fun s => .ok ((s.configuration.ofTypes ["aws_instance"]).filterMap oversizedFinding?)

/-! ## Standby databases -/

/-- The words that tell a database for trials. -/
def trialMarkers : List String := ["dev", "test", "staging", "qa", "demo", "sandbox"]

/-- Whether a database is given a standby. -/
def hasStandby (b : Block) : Answer Bool :=
  (value b "multi_az").map fun d =>
    match d with
    | .bool on => on
    | _ => false

/-- The finding for a database with a standby. -/
def standbyFinding (b : Block) : Finding :=
  let name := lowerText b.name
  if trialMarkers.any fun m => isPart m.toList name.toList then
    finding b ("RDS instance " ++ named b ++
        " has Multi-AZ enabled but appears to be non-production")
      ("Multi-AZ doubles your RDS cost. For dev/test environments, consider disabling " ++
        "Multi-AZ to save 50% on database costs.")
      true [("environment_indicator", .text name)]
  else
    finding b ("RDS instance " ++ named b ++ " has Multi-AZ enabled (2x cost)")
      ("Multi-AZ is recommended for production but doubles cost. " ++
        "Verify this is a production database.")
      false []

/-- A standby doubles the cost of a database. -/
def standbyDatabase : Definition where
  code := "COST003"
  name := "Multi-AZ Enabled (Verify if Needed)"
  description := "Multi-AZ deployments double RDS costs. Ensure this is intended for " ++
    "production workloads."
  category := .cost
  severity := .medium
  check := flag "aws_db_instance" hasStandby standbyFinding

/-! ## Addresses -/

/-- Whether nothing in a configuration uses an address. -/
def isUnattached (c : Configuration) (b : Block) : Answer Bool := do
  let attached := (← b.has "instance") || (← b.has "network_interface")
  return !attached &&
    !hasCompanion b "allocation_id" (c.ofTypes ["aws_eip_association"]) &&
    !hasCompanion b "allocation_id" (c.ofTypes ["aws_nat_gateway"])

/-- Addresses that nothing uses cost money. -/
def unattachedAddress : Definition where
  code := "COST004"
  name := "Elastic IP Association Check"
  description := "Unassociated Elastic IPs cost $3.65/month. Ensure all EIPs are attached to " ++
    "resources."
  category := .cost
  severity := .low
  check := fun s =>
    flag "aws_eip" (isUnattached s.configuration) (fun b =>
      finding b ("Elastic IP " ++ named b ++ " may not be associated with any resource")
        "Unassociated EIPs cost $3.65/month. Attach this EIP to an instance or NAT Gateway."
        false [("monthly_cost", .float 3.65)]) s

end Groundplan.Policy
