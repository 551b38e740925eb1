import Groundplan.Failure
import Groundplan.Text.Bytes
import Groundplan.Text.Lines
import Groundplan.Text.Shown

/-!
# Targets of requests

The path and the query of a request, written with escapes for bytes. A target is brought to its
plain form before it is sent: it starts with one slash, and its segments of one or two dots are
resolved.

## Main definitions

* `unescaped`: a text with its escapes resolved
* `fields`: fields that are given as values
* `withoutDots`: a path with its dot segments resolved
* `Target.ofText`: the path and the query of a target
* `plainPath`: a path as the limits see it
-/

namespace Groundplan.Http

open Text

/-- The bytes of a text whose escapes, a percent sign and two hexadecimal digits, stand for bytes;
a percent sign without digits stands for itself. -/
def unescapedBytes : List Char → List UInt8
  | '%' :: a :: b :: rest =>
    match hexValue? a, hexValue? b with
    | some x, some y => UInt8.ofNat (16 * x + y) :: unescapedBytes rest
    | _, _ => utf8Bytes "%" ++ unescapedBytes (a :: b :: rest)
  | c :: cs => utf8Bytes c.toString ++ unescapedBytes cs
  | [] => []

/-- A text with its escapes resolved. -/
def unescaped (cs : List Char) : String :=
  utf8Replace (unescapedBytes cs)

/-- The path and the query of a request. -/
structure Target where
  path : String
  query : Entries String := []
deriving Repr, Inhabited

/-- A part of a query: a name and a value, in which a plus sign stands for a blank. -/
def queryPart (cs : List Char) : String × String :=
  let cs := cs.map fun c => if c == '+' then ' ' else c
  (unescaped (cs.takeWhile (· != '=')), unescaped ((cs.dropWhile (· != '=')).drop 1))

/-- The parts of a query, the last one of a name counting. -/
def queryOf (cs : List Char) : Entries String :=
  Entries.merge [] (((splitOn '&' cs).filter (!·.isEmpty)).map queryPart)

/-! ## Fields -/

/-- The text that stands for the value of a field: truth values in small letters, and nothing for
null. -/
def fieldText : Data → String
  | .bool b => if b then "true" else "false"
  | .null => ""
  | v => v.plain

/-- The fields of a query or of the headers of a request that are given as values. Of a list the
last item counts, and an empty one leaves its field out. -/
def fields (d : Data) : Entries String :=
  d.entries.filterMap fun e =>
    match e.2 with
    | .list xs => xs.getLast?.map fun x => (e.1, fieldText x)
    | v => some (e.1, fieldText v)

/-! ## Targets -/

/-- The segments of a path with the dot segments resolved: one dot stays where it is, two dots go
back by one segment, but never before the first slash. The segments kept come last to first. -/
def resolved (kept : List (List Char)) : List (List Char) → List (List Char)
  | [] => kept.reverse
  | ['.'] :: rest => resolved kept rest
  | ['.', '.'] :: rest => resolved (if kept = [[]] then kept else kept.drop 1) rest
  | segment :: rest => resolved (segment :: kept) rest

/-- A path without dot segments; nothing left means the root. -/
def withoutDots (path : List Char) : List Char :=
  match ['/'].intercalate (resolved [] (splitOn '/' path)) with
  | [] => ['/']
  | path => path

/-- What follows the authority, which two slashes announce. -/
def withoutAuthority : List Char → List Char
  | '/' :: '/' :: rest => rest.dropWhile (· != '/')
  | path => path

/-- Letters that a target may have at most. -/
def maxTargetLetters : Nat := 65536

/-- Whether a text can be sent as a target: it is not too long and has no control characters. -/
def isSendable (s : String) : Bool :=
  s.length ≤ maxTargetLetters && s.toList.all fun c => 0x20 ≤ c.toNat && c.toNat != 0x7f

/-- **The path and the query of a target.** What follows a number sign is not sent, and the path is
resolved both when it is sent and when it is received. -/
def Target.ofText (s : String) : Answer Target :=
  if isSendable s then
    let cs := s.toList.takeWhile (· != '#')
    let path := withoutAuthority (cs.takeWhile (· != '?'))
    let path := withoutDots ('/' :: path.dropWhile (· == '/'))
    .ok ⟨unescaped (unescaped path).toList, queryOf ((cs.dropWhile (· != '?')).drop 1)⟩
  else .error (.mismatch .address)

/-- A path as the limits see it: without tabs and line breaks, and cut off at a question mark or a
number sign. -/
def plainPath (path : String) : String :=
  String.ofList ((path.toList.filter fun c => c != '\t' && c != '\n' && c != '\r').takeWhile
    fun c => c != '?' && c != '#')

end Groundplan.Http
