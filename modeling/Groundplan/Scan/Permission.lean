import Groundplan.Cloud.Call
import Groundplan.Scan.Finding
import Groundplan.Text.Shown

/-!
# Open permissions

What an ingress permission of a security group opens to the whole internet.

## Main definitions

* `Opening`: what is open: all traffic, all ports, or a sensitive port; `Opening.covers`
* `openRange`: the address range that makes a permission public
* `openingsOf`: what a permission opens
* `permissionIssues`: the issues of a permission
-/

namespace Groundplan.Scan

/-- Ports that must never be reachable from the whole internet. -/
def sensitivePorts : List Int := [22, 3389, 3306, 5432, 27017, 6379, 9200]

/-- What is open to the world. -/
inductive Opening where
  | allTraffic
  | allPorts
  /-- A port, by way of a range of ports. -/
  | port (port : Int) (first last : Data)
deriving Repr, Inhabited

/-- Whether an opening lets traffic to a port through. -/
def Opening.covers (p : Int) : Opening → Bool
  | .allTraffic => true
  | .allPorts => true
  | .port q _ _ => p == q

/-- An opening in words. -/
def Opening.text (range : String) : Opening → String
  | .allTraffic => "All traffic is open to the world (" ++ range ++ ")"
  | .allPorts => "All ports (0-65535) are open to the world (" ++ range ++ ")"
  | .port p first last =>
    "Port " ++ decimalText p ++ " is open to the world (" ++ range ++ ") via range " ++
      first.plain ++ "-" ++ last.plain

/-- The advice that goes with an opening. -/
def Opening.advice : Opening → String
  | .port .. => "Restrict CIDR to specific IP addresses or ranges"
  | _ => "Restrict to only necessary ports and IPs"

/-- Whether one of the ranges under a key is a given one. -/
def hasRange (permission : Data) (key rangeKey range : String) : Answer Bool := do
  (← permission.rows key).anyM fun r => do return (← r.entry rangeKey).isText range

/-- **The address range that makes a permission public**, if there is one. -/
def openRange (permission : Data) : Answer (Option String) := do
  let v4 ← hasRange permission "IpRanges" "CidrIp" "0.0.0.0/0"
  let v6 ← hasRange permission "Ipv6Ranges" "CidrIpv6" "::/0"
  return if v4 then some "0.0.0.0/0" else if v6 then some "::/0" else none

/-- Whether a port lies between two ports. -/
def isBetween (first last : Data) (port : Int) : Answer Bool := do
  if ← first.atMost (.int port) then (Data.int port).atMost last else return false

/-- **What a permission that is open to the world opens.** -/
def openingsOf (permission : Data) : Answer (List Opening) := do
  if (← permission.entry "IpProtocol").isText "-1" then return [.allTraffic]
  let first ← permission.entry "FromPort"
  let last ← permission.entry "ToPort"
  if first.same (.int 0) && last.same (.int 65535) then return [.allPorts]
  match first, last with
  | .null, _ => return []
  | _, .null => return []
  | _, _ => return (← sensitivePorts.filterM (isBetween first last)).map (.port · first last)

/-- **The issues of a permission** of a group in a region. -/
def permissionIssues (group region : String) (permission : Data) : Answer (List SecurityIssue) := do
  match ← openRange permission with
  | none => return []
  | some range =>
    return (← openingsOf permission).map fun o =>
      ⟨"Security Group", .text group, .critical, o.text range, o.advice, some region⟩

/-- A security group as issues name it. -/
def groupName (group : Data) : Answer String := do
  return (← group.entry "GroupId").plain ++ " (" ++ (← group.entry "GroupName").plain ++ ")"

/-- The findings of a security group. -/
def scanGroup (region : String) (group : Data) : Inquiry Findings := do
  let name ← groupName group
  let issues ← (← group.rows "IpPermissions").mapM fun p => permissionIssues name region p
  return { issues := issues.flatten, scanned := 1 }

/-- **The findings of the security groups of a region.** -/
def scanNetwork (region : String) : Inquiry Findings :=
  scanPages (.of "ec2" region) "describe_security_groups" [] "SecurityGroups" (scanGroup region)

end Groundplan.Scan
