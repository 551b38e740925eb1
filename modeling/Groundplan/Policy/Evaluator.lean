import Groundplan.Hcl.Block
import Groundplan.Policy.Finding
import Groundplan.Text.CharClass

/-!
# Evaluators

A policy looks at a configuration and its text and answers with findings. An evaluator can fail, on
a property whose text looks like a number and is none.

## Main definitions

* `Subject`: what an evaluator may look at
* `Evaluator`, `Definition`: an evaluator, and the policy that it belongs to
* `finding`: a finding at a block
* `flag`, `flagBlock`: the evaluators that report the blocks of some types that fail a test
-/

namespace Groundplan.Policy

open Hcl

/-- What an evaluator may look at: a configuration with its text, and where it belongs. -/
structure Subject where
  configuration : Configuration
  provider : String
  text : String
  template : Option String
deriving Repr, Inhabited

/-- An evaluator. -/
abbrev Evaluator := Subject → Answer (List Finding)

/-- A policy and its evaluator. -/
structure Definition where
  code : String
  name : String
  description : String
  category : Category
  severity : Severity
  check : Evaluator
  provider : String := "aws"
  builtIn : Bool := true
deriving Inhabited

/-! ## Properties -/

/-- A property that is switched on: true, or a text that says so. -/
def isOn : Data → Bool
  | .bool b => b
  | .text s => Text.lowerText s == "true"
  | _ => false

/-- The plain value at a path of a block, null if there is none. -/
def value (b : Block) (path : String) : Answer Data :=
  b.get path .null

/-- The items of a list; none for null; any other value stands alone. -/
def listOf : Data → List Data
  | .null => []
  | .list xs => xs
  | d => [d]

/-! ## Reporting -/

/-- A finding at a block. -/
def finding (b : Block) (message suggestion : String) (fixable : Bool)
    (metadata : Entries Data) : Finding :=
  ⟨b.fullName, b.type, message, some b.startLine, some suggestion, fixable, metadata⟩

/-- The text of a name between double quotes. -/
def named (b : Block) : String :=
  "\"" ++ b.name ++ "\""

/-- The findings at the blocks that fail a test, in order. -/
def flagged (blocks : List Block) (fails : Block → Answer Bool) (report : Block → Finding) :
    Answer (List Finding) := do
  let bad ← blocks.filterM fails
  return bad.map report

/-- Reports the resources of a type that fail a test. -/
def flag (type : String) (fails : Block → Answer Bool) (report : Block → Finding) : Evaluator :=
  fun s => flagged (s.configuration.ofTypes [type]) fails report

/-- Whether a property is switched on. -/
def isOnAt (b : Block) (path : String) : Answer Bool :=
  (value b path).map isOn

/-- Whether a property is not switched on. -/
def isOffAt (b : Block) (path : String) : Answer Bool :=
  (value b path).map fun d => !isOn d

end Groundplan.Policy
