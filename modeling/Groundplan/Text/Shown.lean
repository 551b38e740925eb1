import Groundplan.Data
import Groundplan.Text.Quoted

/-!
# Values in messages

How a message shows a value of any kind: texts in quotes, lists and maps in brackets, moments part
by part.

## Main definitions

* `Data.shown`: a value with texts in quotes
* `Data.plain`: a value as it stands in a sentence, a text being itself
-/

namespace Groundplan

open Text

/-- The parts of a moment, the smallest ones being dropped while they are zero. -/
def Moment.parts (m : Moment) : List Nat :=
  let date := [m.date.year, m.date.month, m.date.day, m.second / 3600, m.second / 60 % 60]
  if m.micro != 0 then date ++ [m.second % 60, m.micro]
  else if m.second % 60 != 0 then date ++ [m.second % 60]
  else date

/-- An offset in days and seconds, the seconds not being negative. -/
def offsetShown (seconds : Int) : String :=
  if seconds == 0 then "datetime.timezone.utc"
  else
    let days := seconds / 86400
    "datetime.timezone(datetime.timedelta(" ++
      (if days == 0 then "" else "days=" ++ decimalText days ++ ", ") ++
      "seconds=" ++ decimalText (seconds % 86400) ++ "))"

/-- A moment part by part. -/
def Moment.shown (m : Moment) : String :=
  "datetime.datetime(" ++ ", ".intercalate (m.parts.map toString) ++
    (match m.offset with
    | none => ""
    | some o => ", tzinfo=" ++ offsetShown o) ++ ")"

namespace Data

mutual

/-- A value as messages show it, with texts in quotes. -/
def shown : Data → String
  | .null => "None"
  | .bool true => "True"
  | .bool false => "False"
  | .int i => decimalText i
  | .float x => x.text
  | .text s => quoted s
  | .list xs => "[" ++ ", ".intercalate (itemsShown xs) ++ "]"
  | .map es => "\x7b" ++ ", ".intercalate (entriesShown es) ++ "\x7d"
  | .moment m => m.shown

/-- The items of a list as messages show them. -/
def itemsShown : List Data → List String
  | [] => []
  | x :: xs => shown x :: itemsShown xs

/-- The entries of a map as messages show them. -/
def entriesShown : List (String × Data) → List String
  | [] => []
  | (k, v) :: es => (quoted k ++ ": " ++ shown v) :: entriesShown es

end

/-- The text of a moment in a sentence: date and time of day, with a blank between. -/
def momentPlain (m : Moment) : String :=
  String.ofList (m.iso.toList.map fun c => if c == 'T' then ' ' else c)

/-- A value as it stands in a sentence: a text is itself. -/
def plain : Data → String
  | .text s => s
  | .moment m => momentPlain m
  | d => d.shown

end Data

end Groundplan
