import Groundplan.Deploy.Records
import Groundplan.Json.Reader
import Groundplan.Number.Integer
import Groundplan.Text.Lines

/-!
# What the provisioning tool says

The counts in the output of a plan, and the number of resources in a state.

## Main definitions

* `planSummary`, `planSummaryOf`: the counts in the output of a plan
* `resourceCount`, `resourceCountOf`: the number of resources that a state lists

## Main results

* `resourceCount_none`: no state lists nothing
-/

namespace Groundplan.Deploy

open Text

/-! ## Plans -/

/-- What follows a part at the start of a text. -/
def dropStart? (part : String) (cs : List Char) : Option (List Char) :=
  if part.toList.isPrefixOf cs then some (cs.drop part.toList.length) else none

/-- A run of decimal digits, blanks before and after it, and then a part; the digits and what
follows the part. -/
def countedPart? (part : String) (cs : List Char) : Option (String × List Char) :=
  let rest := cs.dropWhile isBlank
  match rest.takeWhile isDecimal with
  | [] => none
  | ds =>
    (dropStart? part ((rest.drop ds.length).dropWhile isBlank)).map fun r => (String.ofList ds, r)

/-- The digits of the three counts of a summary that a text starts with. -/
def summaryDigits? (cs : List Char) : Option (String × String × String) := do
  let rest ← dropStart? "Plan:" cs
  let (add, rest) ← countedPart? "to add," rest
  let (change, rest) ← countedPart? "to change," rest
  let (destroy, _) ← countedPart? "to destroy" rest
  return (add, change, destroy)

/-- The digits of the counts of the first summary in a text. -/
def findSummary? : List Char → Option (String × String × String)
  | [] => none
  | c :: cs =>
    match summaryDigits? (c :: cs) with
    | some digits => some digits
    | none => findSummary? cs

/-- **The counts in the output of a plan**, all zero if it gives none. -/
def planSummary (output : String) : Answer PlanSummary :=
  match findSummary? output.toList with
  | none => .ok ⟨0, 0, 0⟩
  | some (add, change, destroy) => do
    let a ← integerOf add
    let b ← integerOf change
    let c ← integerOf destroy
    return ⟨a, b, c⟩

/-- The same of a value, which may be no text. -/
def planSummaryOf (d : Data) : Answer PlanSummary := do
  planSummary (← d.asTextOrNothing)

/-! ## States -/

/-- The number of entries of the resource list of a value. -/
def listedResources (d : Data) : Nat :=
  match d.field? "resources" with
  | some (.list xs) => xs.length
  | _ => 0

/-- **The number of resources that a state lists**; a state that is no JSON lists none, and one that
is nested too deeply cannot be counted. -/
def resourceCount : Option String → Answer Nat
  | none => .ok 0
  | some text =>
    match Json.read text with
    | .ok d => .ok (listedResources d)
    | .error .tooDeep => .error (.mismatch .depth)
    | .error _ => .ok 0

/-- The same of a value, which may be no text. -/
def resourceCountOf (d : Data) : Answer Nat :=
  match d with
  | .text s => resourceCount (some s)
  | d => if d.isTruthy then .error (.mismatch .kind) else .ok 0

theorem resourceCount_none : resourceCount none = .ok 0 := rfl

end Groundplan.Deploy
