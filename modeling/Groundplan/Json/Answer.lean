import Groundplan.Json.Reader
import Groundplan.Number.Integer

/-!
# JSON in replies

Reading JSON where a failure is to be passed on, and refusing values that are too deep to be
written.

## Main definitions

* `Json.decode`: the value of a JSON text
* `Json.decodeData`: the same where the text is itself a value, which may be no text
* `Json.textOfBytes?`: the text of bytes in any of the encodings of Unicode
* `Json.decodeBytes`: the value of a JSON text in bytes
* `Json.writable`: a value that can be written
-/

namespace Groundplan.Json

/-- The value of a JSON text. -/
def decode (s : String) : Answer Data :=
  match read s with
  | .ok d => .ok d
  | .error .malformed => .error (.mismatch .json)
  | .error .tooDeep => .error (.mismatch .depth)
  | .error (.longInteger n) => .error (.badValue (longIntegerMessage n))

/-- The value of a JSON text that is a value itself. -/
def decodeData : Data → Answer Data
  | .text s => decode s
  | _ => .error (.mismatch .kind)

/-! ## Bytes -/

/-- How bytes without a mark encode a text, as the zeros among the first four of them show: the
width of a unit and whether its high byte comes first. -/
def encodingOf (bs : List UInt8) : Nat × Bool :=
  match bs with
  | a :: b :: c :: d :: _ =>
    if a == 0 then (if b == 0 then (4, true) else (2, true))
    else if b == 0 then (if c == 0 && d == 0 then (4, false) else (2, false))
    else (1, true)
  | [a, b] => if a == 0 then (2, true) else if b == 0 then (2, false) else (1, true)
  | _ => (1, true)

/-- **The text of bytes** in any of the encodings of Unicode, told by a mark at the start or by the
zeros among the first bytes. -/
def textOfBytes? (bs : List UInt8) : Option String :=
  match bs with
  | 0 :: 0 :: 0xfe :: 0xff :: rest => Text.utf32Decode? true rest
  | 0xff :: 0xfe :: 0 :: 0 :: rest => Text.utf32Decode? false rest
  | 0xfe :: 0xff :: rest => Text.utf16Decode? true rest
  | 0xff :: 0xfe :: rest => Text.utf16Decode? false rest
  | 0xef :: 0xbb :: 0xbf :: rest => Text.utf8Decode? rest
  | _ =>
    match encodingOf bs with
    | (4, order) => Text.utf32Decode? order bs
    | (2, order) => Text.utf16Decode? order bs
    | _ => Text.utf8Decode? bs

/-- The value of a JSON text in bytes. -/
def decodeBytes (bs : List UInt8) : Answer Data :=
  match textOfBytes? bs with
  | some s => decode s
  | none => .error (.mismatch .encoding)

/-! ## Values to be written -/

/-- How deep lists and maps may stand inside one another in a value that is written. -/
def maxWrittenDepth : Nat := 496

/-- A value that can be written, refused if it is too deep. -/
def writable (d : Data) : Answer Data :=
  if d.depth ≤ maxWrittenDepth then .ok d else .error (.mismatch .depth)

end Groundplan.Json
