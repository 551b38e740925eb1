import Groundplan.Text.Quoted

/-!
# Texts as bytes

The UTF-8 and hexadecimal forms of texts: strict decoding, decoding that puts one replacement
character for every invalid stretch, and the two UTF-16 and UTF-32 byte orders.

## Main definitions

* `utf8Bytes`, `utf8Size`: the UTF-8 form of a text and its length
* `utf8Decode?`: the text of a valid UTF-8 sequence
* `utf8Replace`: the text of any byte sequence, invalid stretches replaced
* `hexText`, `hexBytes?`: bytes in hexadecimal

## Main results

* `hexText_length`: two digits for each byte
-/

namespace Groundplan.Text

/-! ## UTF-8 -/

/-- The UTF-8 form of a text. -/
def utf8Bytes (s : String) : List UInt8 :=
  s.toUTF8.toList

/-- The number of bytes of the UTF-8 form of a text. -/
def utf8Size (s : String) : Nat :=
  s.utf8ByteSize

/-- The continuation bytes that a lead byte asks for, with the range of the first of them and the
bits that the lead byte carries; `none` for a byte that leads nothing. -/
def leadByte? (b : Nat) : Option (Nat × Nat × Nat × Nat) :=
  if b < 0x80 then some (0, 0, 0, b)
  else if b < 0xc2 then none
  else if b < 0xe0 then some (1, 0x80, 0xbf, b - 0xc0)
  else if b == 0xe0 then some (2, 0xa0, 0xbf, 0)
  else if b == 0xed then some (2, 0x80, 0x9f, b - 0xe0)
  else if b < 0xf0 then some (2, 0x80, 0xbf, b - 0xe0)
  else if b == 0xf0 then some (3, 0x90, 0xbf, 0)
  else if b < 0xf4 then some (3, 0x80, 0xbf, b - 0xf0)
  else if b == 0xf4 then some (3, 0x80, 0x8f, 4)
  else none

/-- Reads `count` continuation bytes, the first between `low` and `high`: whether they are all
there, the code point so far, and what follows. -/
def continuation : Nat → Nat → Nat → Nat → List UInt8 → Bool × Nat × List UInt8
  | 0, _, _, acc, bs => (true, acc, bs)
  | _ + 1, _, _, acc, [] => (false, acc, [])
  | count + 1, low, high, acc, b :: bs =>
    if low ≤ b.toNat && b.toNat ≤ high then
      continuation count 0x80 0xbf (acc * 64 + (b.toNat - 0x80)) bs
    else (false, acc, b :: bs)

theorem continuation_length_le (count low high acc : Nat) (bs : List UInt8) :
    (continuation count low high acc bs).2.2.length ≤ bs.length := by
  fun_induction continuation count low high acc bs with
  | case1 => exact Nat.le_refl _
  | case2 => exact Nat.le_refl _
  | case3 count low high acc b bs h ih => simp only [List.length_cons]; omega
  | case4 => exact Nat.le_refl _

/-- Decodes bytes, `none` marking an invalid stretch; the characters so far are `done`, last
first. -/
def decodeFrom (done : List (Option Char)) : List UInt8 → List (Option Char)
  | [] => done.reverse
  | b :: bs =>
    match leadByte? b.toNat with
    | none => decodeFrom (none :: done) bs
    | some (count, low, high, bits) =>
      let r := continuation count low high bits bs
      decodeFrom ((if r.1 then some (Char.ofNat r.2.1) else none) :: done) r.2.2
termination_by bs => bs.length
decreasing_by
  · simp
  · have := continuation_length_le count low high bits bs
    simp only [List.length_cons]; omega

/-- The text of any byte sequence: each longest invalid stretch that could have begun a character
becomes one replacement character. -/
def utf8Replace (bs : List UInt8) : String :=
  String.ofList ((decodeFrom [] bs).map (·.getD '\ufffd'))

/-- The text of a valid UTF-8 sequence. -/
def utf8Decode? (bs : List UInt8) : Option String :=
  let cs := decodeFrom [] bs
  if cs.all Option.isSome then some (String.ofList (cs.map (·.getD '\ufffd'))) else none

/-! ## Sixteen and thirty-two bit units -/

/-- The number that bytes stand for in the given byte order. -/
def joinBytes (bigEndian : Bool) (bs : List UInt8) : Nat :=
  (if bigEndian then bs else bs.reverse).foldl (fun n b => 256 * n + b.toNat) 0

/-- Joins the bytes two by two to numbers; `none` if one is left over. -/
def units16? (bigEndian : Bool) (done : List Nat) : List UInt8 → Option (List Nat)
  | [] => some done.reverse
  | [_] => none
  | a :: b :: rest => units16? bigEndian (joinBytes bigEndian [a, b] :: done) rest

/-- Joins the bytes four by four to numbers; `none` if some are left over. -/
def units32? (bigEndian : Bool) (done : List Nat) : List UInt8 → Option (List Nat)
  | [] => some done.reverse
  | a :: b :: c :: d :: rest => units32? bigEndian (joinBytes bigEndian [a, b, c, d] :: done) rest
  | _ => none

/-- The character of a code point that is no half of a pair; half pairs are replaced. -/
def unpaired (u : Nat) : Char :=
  if 0xd800 ≤ u && u < 0xe000 then '\ufffd' else Char.ofNat u

/-- The characters of UTF-16 units, a pair of surrogates joined; the characters so far are `done`,
last first. -/
def ofUnits16 (done : List Char) : List Nat → List Char
  | [] => done.reverse
  | [u] => (unpaired u :: done).reverse
  | u :: v :: rest =>
    if 0xd800 ≤ u && u < 0xdc00 && 0xdc00 ≤ v && v < 0xe000 then
      ofUnits16 (Char.ofNat (0x10000 + (u - 0xd800) * 0x400 + (v - 0xdc00)) :: done) rest
    else ofUnits16 (unpaired u :: done) (v :: rest)

/-- The text of a UTF-16 sequence, half pairs being replaced; none where half a unit is left. -/
def utf16Decode? (bigEndian : Bool) (bs : List UInt8) : Option String :=
  (units16? bigEndian [] bs).map fun us => String.ofList (ofUnits16 [] us)

/-- The text of a UTF-32 sequence, half pairs being replaced; none where a part of a unit is left or
a unit is no code point. -/
def utf32Decode? (bigEndian : Bool) (bs : List UInt8) : Option String :=
  (units32? bigEndian [] bs).bind fun us =>
    if us.all (· < 0x110000) then some (String.ofList (us.map unpaired)) else none

/-! ## Hexadecimal -/

/-- The two lower-case digits of a byte. -/
def byteDigits (b : UInt8) : List Char :=
  [hexDigit (b.toNat / 16), hexDigit (b.toNat % 16)]

/-- Bytes in lower-case hexadecimal, two digits each. -/
def hexText (bs : List UInt8) : List Char :=
  bs.flatMap byteDigits

theorem hexText_length (bs : List UInt8) : (hexText bs).length = 2 * bs.length := by
  induction bs with
  | nil => rfl
  | cons b bs ih =>
    simp only [hexText, List.flatMap_cons, List.length_append, List.length_cons] at ih ⊢
    simp only [byteDigits, List.length_cons, List.length_nil]
    omega

/-- The value of a hexadecimal digit of either case. -/
def hexValue? (c : Char) : Option Nat :=
  if c.isDigit then some (c.toNat - 48)
  else if 'a' ≤ c && c ≤ 'f' then some (c.toNat - 87)
  else if 'A' ≤ c && c ≤ 'F' then some (c.toNat - 55)
  else none

/-- A blank that may stand between the bytes of a hexadecimal text. -/
def isAsciiBlank (c : Char) : Bool :=
  c == ' ' || (9 ≤ c.toNat && c.toNat ≤ 13)

/-- The bytes that pairs of hexadecimal digits stand for, blanks being allowed between pairs; the
bytes so far are `done`, last first. -/
def hexBytesFrom (done : List UInt8) : List Char → Option (List UInt8)
  | [] => some done.reverse
  | [c] => if isAsciiBlank c then some done.reverse else none
  | c :: d :: rest =>
    if isAsciiBlank c then hexBytesFrom done (d :: rest)
    else
      match hexValue? c, hexValue? d with
      | some a, some b => hexBytesFrom (UInt8.ofNat (16 * a + b) :: done) rest
      | _, _ => none

/-- The bytes of a hexadecimal text. -/
def hexBytes? (cs : List Char) : Option (List UInt8) :=
  hexBytesFrom [] cs

end Groundplan.Text
