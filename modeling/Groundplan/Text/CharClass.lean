import Groundplan.Text.Tables

/-!
# Character classes

The classes of Unicode characters that the readers and printers of this library distinguish:
blanks, word characters, digits, decimal digits and printable characters. Each agrees with the
ASCII class below code point 128 and is read off a table beyond.

The lower case of a text has each character replaced by its own lower case, with two exceptions: the
dotted capital I becomes two characters, and a capital sigma at the end of a word becomes a final
sigma.

## Main definitions

* `isBlank c`: white space, including the separators from U+001C to U+001F
* `isWord c`: a letter, a numeral of any kind, or an underscore
* `decimalValue? c`: the value of a decimal digit of any script
* `isDecimal c`, `isDigit c`: a decimal digit; a decimal digit or another digit character
* `isPrintable c`: a character that quoted text shows as it is
* `lower`: the lower case of a text
-/

namespace Groundplan.Text

/-- Whether a code point lies in one of the inclusive ranges. -/
def inRanges (ranges : Array (Nat × Nat)) (n : Nat) : Bool :=
  ranges.any fun r => r.1 ≤ n && n ≤ r.2

/-! ## Blanks -/

/-- White space: the ASCII blanks and separators, and the Unicode spaces. -/
def isBlank (c : Char) : Bool :=
  let n := c.toNat
  (9 ≤ n && n ≤ 13) || (28 ≤ n && n ≤ 32) || n == 0x85 || n == 0xa0 || n == 0x1680 ||
    (0x2000 ≤ n && n ≤ 0x200a) || n == 0x2028 || n == 0x2029 || n == 0x202f || n == 0x205f ||
    n == 0x3000

/-- A blank within a line that separates tokens: a space or a tab. -/
def isSpacing (c : Char) : Bool :=
  c == ' ' || c == '\t'

/-! ## Words and names -/

/-- A character of words: a letter, a numeral or an underscore. -/
def isWord (c : Char) : Bool :=
  c.isAlphanum || c == '_' || (128 ≤ c.toNat && inRanges wordRanges c.toNat)

/-- A character that can start an identifier: an ASCII letter or an underscore. -/
def isNameStart (c : Char) : Bool :=
  c.isAlpha || c == '_'

/-- A character that can continue an identifier: a word character or a hyphen. -/
def isNamePart (c : Char) : Bool :=
  isWord c || c == '-'

/-! ## Digits -/

/-- The zeros of the decimal digit runs: each is followed by the digits one to nine. -/
def decimalZeros : List Nat := [
  48, 1632, 1776, 1984, 2406, 2534, 2662, 2790, 2918, 3046, 3174, 3302, 3430, 3558, 3664, 3792,
  3872, 4160, 4240, 6112, 6160, 6470, 6608, 6784, 6800, 6992, 7088, 7232, 7248, 42528, 43216,
  43264, 43472, 43504, 43600, 44016, 65296, 66720, 68912, 69734, 69872, 69942, 70096, 70384, 70736,
  70864, 71248, 71360, 71472, 71904, 72016, 72784, 73040, 73120, 92768, 92864, 93008, 120782,
  120792, 120802, 120812, 120822, 123200, 123632, 125264, 130032]

/-- The digits that belong to no decimal run: superscripts, circled digits and the like. -/
def otherDigitRanges : List (Nat × Nat) := [
  (178, 179), (185, 185), (4969, 4977), (6618, 6618), (8304, 8304), (8308, 8313), (8320, 8329),
  (9312, 9320), (9332, 9340), (9352, 9360), (9450, 9450), (9461, 9469), (9471, 9471),
  (10102, 10110), (10112, 10120), (10122, 10130), (68160, 68163), (69216, 69224), (69714, 69722),
  (127232, 127242)]

/-- The value of a decimal digit of any script. -/
def decimalValue? (c : Char) : Option Nat :=
  if c.isDigit then some (c.toNat - 48)
  else if c.toNat < 128 then none
  else (decimalZeros.find? fun z => z ≤ c.toNat && c.toNat < z + 10).map (c.toNat - ·)

/-- A decimal digit of any script. -/
def isDecimal (c : Char) : Bool :=
  (decimalValue? c).isSome

/-- A digit character: a decimal digit, or a digit with no place value such as a superscript. -/
def isDigit (c : Char) : Bool :=
  isDecimal c || otherDigitRanges.any fun r => r.1 ≤ c.toNat && c.toNat ≤ r.2

/-! ## Printing -/

/-- A character that can be shown as it is. -/
def isPrintable (c : Char) : Bool :=
  if c.toNat < 128 then 32 ≤ c.toNat && c.toNat < 127
  else !inRanges unprintableRanges c.toNat

/-! ## Lower case -/

/-- A character that has case and counts when the end of a word is looked for. -/
def isCased (c : Char) : Bool :=
  inRanges casedRanges c.toNat

/-- A character that is passed over when the end of a word is looked for. -/
def isCaseIgnorable (c : Char) : Bool :=
  inRanges ignorableRanges c.toNat

/-- The lower case of a single character. -/
def lowerChar (c : Char) : Char :=
  if c.toNat < 128 then (if c.isUpper then Char.ofNat (c.toNat + 32) else c)
  else
    match lowerRuns.find? fun r =>
      r.1 ≤ c.toNat && c.toNat ≤ r.2.1 && (c.toNat - r.1) % r.2.2.1 == 0 with
    | some r => Char.ofNat ((c.toNat : Int) + r.2.2.2).toNat
    | none => c

/-- Whether the first character that counts has case. -/
def meetsCased (cs : List Char) : Bool :=
  match cs.dropWhile isCaseIgnorable with
  | c :: _ => isCased c
  | [] => false

/-- The lower case of the rest of a text, when what precedes it is `before`, last first. -/
def lowerFrom (before done : List Char) : List Char → List Char
  | [] => done.reverse
  | c :: rest =>
    if c == '\u0130' then lowerFrom (c :: before) ('\u0307' :: 'i' :: done) rest
    else if c == '\u03a3' then
      let sigma := if meetsCased before && !meetsCased rest then '\u03c2' else '\u03c3'
      lowerFrom (c :: before) (sigma :: done) rest
    else lowerFrom (c :: before) (lowerChar c :: done) rest

/-- The lower case of a text. -/
def lower (cs : List Char) : List Char :=
  lowerFrom [] [] cs

/-- The lower case of a text. -/
def lowerText (s : String) : String :=
  String.ofList (lower s.toList)

end Groundplan.Text
