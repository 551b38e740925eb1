import Groundplan.Data
import Groundplan.Text.Quoted

/-!
# Writing JSON

The compact JSON text of a value. Characters beyond ASCII are written as they are or as escapes of
UTF-16 units; map entries are written in their order or sorted by key.

## Main definitions

* `Json.Style`: what is escaped, and whether keys are sorted
* `Json.write`: the text of a value
-/

namespace Groundplan.Json

open Text

/-- How values are written. -/
structure Style where
  /-- Whether characters beyond ASCII are written as escapes. -/
  escapeBeyondAscii : Bool := false
  /-- Whether the entries of maps are sorted by key. -/
  sortKeys : Bool := false

/-- An escape of one UTF-16 unit. -/
def unitEscape (u : Nat) : List Char :=
  '\\' :: 'u' :: hexDigits 4 u

/-- One character of a string. -/
def writeChar (style : Style) (c : Char) : List Char :=
  if c == '"' then ['\\', '"']
  else if c == '\\' then ['\\', '\\']
  else if c == '\n' then ['\\', 'n']
  else if c == '\r' then ['\\', 'r']
  else if c == '\t' then ['\\', 't']
  else if c == '\x08' then ['\\', 'b']
  else if c == '\x0c' then ['\\', 'f']
  else if c.toNat < 0x20 then unitEscape c.toNat
  else if style.escapeBeyondAscii && 0x7f ≤ c.toNat then
    if c.toNat = 0x7f then [c]
    else if c.toNat < 0x10000 then unitEscape c.toNat
    else
      let n := c.toNat - 0x10000
      unitEscape (0xd800 + n / 0x400) ++ unitEscape (0xdc00 + n % 0x400)
  else [c]

/-- A string between quotes. -/
def writeString (style : Style) (s : String) : String :=
  "\"" ++ String.ofList (s.toList.flatMap (writeChar style)) ++ "\""

/-- The JSON text of a number. -/
def writeFloat : Binary64 → String
  | .nan => "NaN"
  | .infinite s => if s then "-Infinity" else "Infinity"
  | x => x.text

mutual

/-- The text of a value. -/
def write (style : Style) : Data → String
  | .null => "null"
  | .bool b => if b then "true" else "false"
  | .int i => decimalText i
  | .float x => writeFloat x
  | .text s => writeString style s
  | .moment m => writeString style m.iso
  | .list xs => "[" ++ ",".intercalate (writeItems style xs) ++ "]"
  | .map es =>
    let parts := writeEntries style es
    let sorted :=
      if style.sortKeys then parts.mergeSort (fun a b => decide (a.1 ≤ b.1)) else parts
    "\x7b" ++ ",".intercalate (sorted.map fun p => writeString style p.1 ++ ":" ++ p.2) ++ "\x7d"

/-- The texts of the items of a list. -/
def writeItems (style : Style) : List Data → List String
  | [] => []
  | x :: xs => write style x :: writeItems style xs

/-- The keys of a map with the texts of their values. -/
def writeEntries (style : Style) : List (String × Data) → List (String × String)
  | [] => []
  | (k, v) :: es => (k, write style v) :: writeEntries style es

end

end Groundplan.Json
