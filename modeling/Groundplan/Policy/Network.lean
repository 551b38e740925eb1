import Groundplan.Policy.Evaluator
import Groundplan.Policy.Reference

/-!
# Network policies

Policies on security groups, virtual networks and subnets. An ingress rule exposes the sensitive
ports that it opens to the whole internet.

## Main definitions

* `sensitivePorts`, `openRanges`: the ports, and the address ranges that cover everything
* `openRange?`: the first such range in a rule
* `portOf`: the port that a value stands for
* `exposedPorts`: the sensitive ports that a rule opens, none at all for a rule that is not open
* `groupsNotOpen`: no sensitive port is open to the world
* `flowLogs`, `defaultGroupClosed`, `noPublicAddress`
-/

namespace Groundplan.Policy

open Hcl Text

/-! ## Exposed ports -/

/-- Ports that must never be reachable from the whole internet. -/
def sensitivePorts : List Int := [22, 3389, 3306, 5432, 27017, 6379]

/-- The address ranges that cover everything. -/
def openRanges : List String := ["0.0.0.0/0", "::/0"]

/-- The properties of a rule that hold address ranges. -/
def rangeProperties : List String := ["cidr_blocks", "ipv6_cidr_blocks", "cidr_ipv4", "cidr_ipv6"]

/-- A range that covers everything. -/
def openRangeOf? : Data → Option String
  | .text s => if openRanges.contains s then some s else none
  | _ => none

/-- The field of a rule, null if it is not there. -/
def ruleField (rule : Entries Data) (key : String) : Data :=
  (Entries.get? key rule).getD .null

/-- The first range of a rule that covers everything. -/
def openRange? (rule : Entries Data) : Option String :=
  (rangeProperties.flatMap fun key => listOf (ruleField rule key)).findSome? openRangeOf?

/-- The port that a value stands for: an integer, or a text of digit characters. A text of digit
characters that is no number is an error. -/
def portOf : Data → Answer (Option Int)
  | .int i => .ok (some i)
  | .text s =>
    let part := String.ofList (trim s.toList)
    if isDigitText part then (integerOf part).map some else .ok none
  | _ => .ok none

/-- The protocol words that stand for all traffic. -/
def allTrafficWords : List String := ["-1", "all"]

/-- Whether a protocol stands for all traffic; quotes around it and case do not count. -/
def isAllTraffic : Data → Bool
  | .text s => allTrafficWords.contains (String.ofList (lower (trimWith (· == '"') s.toList)))
  | .int i => i == -1
  | _ => false

/-- The protocol of a rule. -/
def protocolOf (rule : Entries Data) : Data :=
  match Entries.get? "protocol" rule with
  | some d => d
  | none => (Entries.get? "ip_protocol" rule).getD (.text "tcp")

/-- The sensitive ports from a port to a port, one of which stands for the other if it is missing;
none if both are. -/
def portsBetween : Option Int → Option Int → List Int
  | none, none => []
  | some p, none => sensitivePorts.filter fun q => p ≤ q && q ≤ p
  | none, some p => sensitivePorts.filter fun q => p ≤ q && q ≤ p
  | some p, some r => sensitivePorts.filter fun q => p ≤ q && q ≤ r

/-- **The sensitive ports that a rule opens to the world.** There is no answer for a rule that is
not open to it. -/
def exposedPorts (rule : Entries Data) : Answer (Option (List Int)) :=
  match openRange? rule with
  | none => .ok none
  | some _ =>
    if isAllTraffic (protocolOf rule) then .ok (some sensitivePorts)
    else do
      let first ← portOf (ruleField rule "from_port")
      let last ← portOf (ruleField rule "to_port")
      return some (portsBetween first last)

/-- The exposed ports of a rule with the range that exposes them. -/
def exposure (rule : Entries Data) : Answer (List (Int × String)) := do
  let ports := (← exposedPorts rule).getD []
  return ports.map fun p => (p, (openRange? rule).getD "")

/-! ## Policies -/

/-- The finding for an exposed port. -/
def exposureFinding (b : Block) (label : String) (port : Int) (range : String) : Finding :=
  finding b
    (label ++ " " ++ named b ++ " allows inbound traffic on port " ++ decimalText port ++
      " from " ++ range)
    "Restrict the CIDR block to specific IP ranges instead of the whole internet"
    false [("port", .int port), ("cidr", .text range)]

/-- The findings for one rule. -/
def ruleFindings (b : Block) (label : String) (rule : Properties) : Answer (List Finding) :=
  (exposure (Value.entriesData rule)).map fun ports =>
    ports.map fun p => exposureFinding b label p.1 p.2

/-- The findings for the rules inside a security group. -/
def groupFindings (b : Block) : Answer (List Finding) := do
  let found ← (b.nested "ingress").mapM (ruleFindings b "Security group")
  return found.flatten

/-- The findings for a resource that is itself a rule. -/
def ruleResourceFindings (b : Block) : Answer (List Finding) :=
  ruleFindings b "Security group rule" b.properties

/-- Whether a rule resource is for incoming traffic. -/
def isIngress (b : Block) : Bool :=
  match (b.property? "type").map Value.toData with
  | some (.text s) => s == "ingress"
  | _ => false

/-- No rule opens a sensitive port to the world. -/
def groupsNotOpen : Definition where
  code := "SEC002"
  name := "Security Group Not Open to World"
  description := "Detects security groups with SSH (22), RDP (3389) or database ports open to " ++
    "0.0.0.0/0"
  category := .security
  severity := .critical
  check := fun s => do
    let groups ← (s.configuration.ofTypes ["aws_security_group"]).mapM groupFindings
    let rules ← ((s.configuration.ofTypes ["aws_security_group_rule"]).filter isIngress).mapM
      ruleResourceFindings
    let ingress ← (s.configuration.ofTypes ["aws_vpc_security_group_ingress_rule"]).mapM
      ruleResourceFindings
    return (groups ++ rules ++ ingress).flatten

/-- Virtual networks must have flow logs. -/
def flowLogs : Definition where
  code := "SEC008"
  name := "VPC Flow Logs Enabled"
  description := "Ensures each VPC has flow logs enabled for network traffic monitoring"
  category := .security
  severity := .medium
  check := fun s =>
    flag "aws_vpc"
      (fun b => .ok (!hasCompanion b "vpc_id" (s.configuration.ofTypes ["aws_flow_log"])))
      (fun b => finding b ("VPC " ++ named b ++ " does not have flow logs enabled")
        ("Add an aws_flow_log resource referencing " ++ named b ++ " to capture network traffic")
        false []) s

/-- The default security group must have no rules. -/
def defaultGroupClosed : Definition where
  code := "SEC010"
  name := "Default Security Group Restricts All Traffic"
  description := "Ensures the default security group of every VPC restricts all inbound and " ++
    "outbound traffic"
  category := .security
  severity := .high
  check := flag "aws_default_security_group"
    (fun b => do return (← b.has "ingress") || (← b.has "egress"))
    fun b => finding b ("Default security group " ++ named b ++
        " has ingress or egress rules defined. " ++
        "The default security group should restrict all traffic")
      ("Remove all ingress and egress blocks from the aws_default_security_group and use " ++
        "dedicated security groups for traffic rules instead")
      false []

/-- Subnets must not hand out public addresses. -/
def noPublicAddress : Definition where
  code := "SEC011"
  name := "VPC Subnets Do Not Auto-Assign Public IP"
  description := "Flags subnets that automatically assign public IP addresses to launched instances"
  category := .security
  severity := .medium
  check := flag "aws_subnet" (isOnAt · "map_public_ip_on_launch") fun b =>
    finding b ("Subnet " ++ named b ++ " auto-assigns public IP addresses to instances on launch")
      ("Set map_public_ip_on_launch = false and use Elastic IPs or NAT Gateways for " ++
        "controlled internet access")
      true []

end Groundplan.Policy
