import Groundplan.Failure
import Groundplan.Text.CharClass

/-!
# Fields of bodies

What a body has to hold: fields of text and flags, some of which may be missing or null. Other
fields are ignored.

## Main definitions

* `Field`: a field with its kind and its default
* `flagOf?`: the flag that a value stands for
* `readFields`: the fields of a body, or the values that do not fit
-/

namespace Groundplan.Http

/-- The kinds of fields. -/
inductive FieldKind where
  | text
  | flag
deriving DecidableEq, Repr, Inhabited

/-- A field of a body. -/
structure Field where
  key : String
  kind : FieldKind := .text
  /-- The value of a field that is missing; one without a default must be there. -/
  default : Option Data := none
  /-- Whether the field may be null. -/
  nullable : Bool := false
deriving Repr, Inhabited

namespace Field

/-- A text that must be there. -/
def text (key : String) : Field := { key := key }

/-- A text with a default. -/
def textOr (key default : String) : Field := { key := key, default := some (.text default) }

/-- A text that may be missing or null. -/
def optional (key : String) : Field := { key := key, default := some .null, nullable := true }

/-- A flag that must be there. -/
def flag (key : String) : Field := { key := key, kind := .flag }

end Field

/-- Words for a flag that is set. -/
def yesWords : List String := ["1", "on", "t", "true", "y", "yes"]

/-- Words for a flag that is not set. -/
def noWords : List String := ["0", "off", "f", "false", "n", "no"]

/-- The flag that a value stands for: a truth value, zero or one, or a word for either in any
case. -/
def flagOf? : Data → Option Bool
  | .bool b => some b
  | .text s =>
    let word := String.ofList (s.toList.map Char.toLower)
    if yesWords.contains word then some true
    else if noWords.contains word then some false
    else none
  | d =>
    if d.same (.int 1) then some true else if d.same (.int 0) then some false else none

/-- The value that a kind of field takes. -/
def FieldKind.take? : FieldKind → Data → Option Data
  | .text, .text s => some (.text s)
  | .flag, d => (flagOf? d).map .bool
  | _, _ => none

/-- The value of a field of a body, or the value that does not fit; where the field is missing that
is the body. -/
def Field.read (f : Field) (body : Entries Data) : Except Data Data :=
  match Entries.get? f.key body with
  | none =>
    match f.default with
    | some d => .ok d
    | none => .error (.map body)
  | some v =>
    match v, f.nullable, f.kind.take? v with
    | .null, true, _ => .ok .null
    | _, _, some d => .ok d
    | _, _, none => .error v

/-- **The fields of a body**, or all values that do not fit. -/
def readFields (fields : List Field) : Data → Except (List Data) (Entries Data)
  | .map body =>
    let results := fields.map fun f => (f.key, f.read body)
    let wrong := results.filterMap fun r =>
      match r.2 with
      | .error d => some d
      | .ok _ => none
    if wrong.isEmpty then
      .ok (results.filterMap fun r => r.2.toOption.map fun d => (r.1, d))
    else .error wrong
  | d => .error [d]

end Groundplan.Http
