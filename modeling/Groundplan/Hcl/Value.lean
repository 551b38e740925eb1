import Groundplan.Number.Integer

/-!
# Property values

The values that a configuration gives to its properties. References, function calls and heredoc
bodies are not evaluated: they are expressions, kept as text.

## Main definitions

* `Hcl.Value`: a property value
* `Hcl.Properties`: named values in order of first appearance
* `Hcl.Value.toData`: the plain form; `Hcl.Value.tagged`: the form that shows every kind
* `Hcl.Value.step`, `Hcl.Properties.find?`: walking a dotted path
-/

namespace Groundplan.Hcl

/-- A property value. -/
inductive Value where
  | null
  | bool (b : Bool)
  | int (i : Int)
  | float (x : Binary64)
  | string (s : String)
  | list (items : List Value)
  | map (entries : List (String × Value))
  /-- A reference, a call or the body of a heredoc, as written. -/
  | expression (source : String)
deriving BEq, Repr, Inhabited

/-- Named values in order of first appearance. -/
abbrev Properties := Entries Value

namespace Value

/-- The name of the kind of a value. -/
def kind : Value → String
  | .null => "null"
  | .bool _ => "bool"
  | .int _ => "int"
  | .float _ => "float"
  | .string _ => "string"
  | .list _ => "list"
  | .map _ => "map"
  | .expression _ => "expression"

/-- Whether a value was left unevaluated. -/
def isExpression : Value → Bool
  | .expression _ => true
  | _ => false

mutual

/-- The plain form of a value; an expression is its source. -/
def toData : Value → Data
  | .null => .null
  | .bool b => .bool b
  | .int i => .int i
  | .float x => .float x
  | .string s => .text s
  | .list xs => .list (itemsData xs)
  | .map es => .map (entriesData es)
  | .expression s => .text s

/-- The plain forms of the items of a list. -/
def itemsData : List Value → List Data
  | [] => []
  | x :: xs => toData x :: itemsData xs

/-- The plain forms of the entries of a map. -/
def entriesData : List (String × Value) → List (String × Data)
  | [] => []
  | (k, v) :: es => (k, toData v) :: entriesData es

end

mutual

/-- The form of a value that names its kind and the kinds of everything inside. -/
def tagged : Value → Data
  | .list xs => .map [("kind", .text "list"), ("value", .list (itemsTagged xs))]
  | .map es => .map [("kind", .text "map"), ("value", .map (entriesTagged es))]
  | .null => .map [("kind", .text "null"), ("value", .null)]
  | .bool b => .map [("kind", .text "bool"), ("value", .bool b)]
  | .int i => .map [("kind", .text "int"), ("value", .int i)]
  | .float x => .map [("kind", .text "float"), ("value", .float x)]
  | .string s => .map [("kind", .text "string"), ("value", .text s)]
  | .expression s => .map [("kind", .text "expression"), ("value", .text s)]

/-- The tagged forms of the items of a list. -/
def itemsTagged : List Value → List Data
  | [] => []
  | x :: xs => tagged x :: itemsTagged xs

/-- The tagged forms of the entries of a map. -/
def entriesTagged : List (String × Value) → List (String × Data)
  | [] => []
  | (k, v) :: es => (k, tagged v) :: entriesTagged es

end

@[simp] theorem itemsData_eq_map (xs : List Value) : itemsData xs = xs.map toData := by
  induction xs with
  | nil => rfl
  | cons x xs ih => simp [itemsData, ih]

@[simp] theorem entriesData_eq_map (es : List (String × Value)) :
    entriesData es = es.map fun e => (e.1, toData e.2) := by
  induction es with
  | nil => rfl
  | cons e es ih => simp [entriesData, ih]

/-- The entries of a value that is a map. -/
def entries? : Value → Option Properties
  | .map es => some es
  | _ => none

/-- Whether a value is a map. -/
def isMap : Value → Bool
  | .map _ => true
  | _ => false

end Value

/-- The plain form of named values. -/
def Properties.toData (ps : Properties) : Data :=
  .map (Value.entriesData ps)

/-- The tagged form of named values. -/
def Properties.tagged (ps : Properties) : Data :=
  .map (Value.entriesTagged ps)

/-! ## Paths -/

/-- A text that holds digit characters only, and at least one. -/
def isDigitText (part : String) : Bool :=
  part != "" && part.toList.all Text.isDigit

/-- One step into a value: the entry of a map; the item of a list at a position; the entry of the
first map in a list. -/
def Value.step (v : Value) (part : String) : Answer (Option Value) :=
  match v with
  | .map es => .ok (Entries.get? part es)
  | .list xs =>
    if isDigitText part then (integerOf part).map fun i => xs[i.toNat]?
    else .ok ((xs.find? Value.isMap).bind fun m => (m.entries?.getD []).get? part)
  | _ => .ok none

/-- The value that steps lead to from a value. -/
def walk (v : Option Value) : List String → Answer (Option Value)
  | [] => .ok v
  | part :: parts =>
    match v with
    | none => walk none parts
    | some v =>
      match v.step part with
      | .ok w => walk w parts
      | .error e => .error e

/-- The parts of a dotted path. -/
def pathParts (path : String) : List String :=
  (Text.splitOn '.' path.toList).map String.ofList

/-- The value at a dotted path. -/
def Properties.find? (ps : Properties) (path : String) : Answer (Option Value) :=
  match pathParts path with
  | [] => .ok none
  | first :: rest => walk (ps.get? first) rest

end Groundplan.Hcl
