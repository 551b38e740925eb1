import Groundplan.Number.Binary64
import Groundplan.Text.Lines

/-!
# Numbers in decimal

The decimal text of integers and binary64 numbers, and the texts that are read as numbers.

A number is written with the fewest digits that read back as the same number, and of those the
nearest to it; positionally when its decimal exponent is from -4 to 15, with an exponent of at
least two digits otherwise.

## Main definitions

* `decimalText`: the digits of an integer
* `Binary64.text`: the shortest text of a number
* `readInt`, `Binary64.ofText?`: the numbers that texts stand for
* `maxIntegerDigits`: longer integer texts are refused
-/

namespace Groundplan

open Text

/-! ## Integers -/

/-- Integer texts with more digits than this are refused. -/
def maxIntegerDigits : Nat := 4300

/-- The decimal digits of an integer, with a hyphen before a negative one. -/
def decimalText (i : Int) : String :=
  if i < 0 then "-" ++ toString i.natAbs else toString i.natAbs

/-- The natural that decimal digits of any script stand for, most significant first. Other
characters count as zeros. -/
def digitsValue (cs : List Char) : Nat :=
  cs.foldl (fun n c => 10 * n + (decimalValue? c).getD 0) 0

/-- A sign before a number: whether it is a hyphen, and what follows it. -/
def splitSign : List Char → Bool × List Char
  | '-' :: cs => (true, cs)
  | '+' :: cs => (false, cs)
  | cs => (false, cs)

/-- The decimal digits at the start of a text, single underscores between two digits being passed
over, and what follows them. -/
def spanDigits : List Char → List Char × List Char
  | [] => ([], [])
  | [c] => if isDecimal c then ([c], []) else ([], [c])
  | c :: d :: rest =>
    if isDecimal c then
      if d == '_' && (rest.head?.map isDecimal).getD false then
        let (digits, after) := spanDigits rest
        (c :: digits, after)
      else
        let (digits, after) := spanDigits (d :: rest)
        (c :: digits, after)
    else ([], c :: d :: rest)

/-- A blank that may surround a number: white space, the separators from U+001C to U+001F apart. -/
def isNumberBlank (c : Char) : Bool :=
  isBlank c && !(28 ≤ c.toNat && c.toNat ≤ 31)

/-- Why a text is not an integer. -/
inductive IntegerFault where
  | malformed
  | tooLong (digits : Nat)
deriving DecidableEq, Repr

/-- The integer that a text stands for: blanks around it are ignored, a sign may lead, underscores
may separate digits, and at most `maxIntegerDigits` digits are taken. -/
def readInt (cs : List Char) : Except IntegerFault Int :=
  let (negative, body) := splitSign (trimWith isNumberBlank cs)
  let (digits, rest) := spanDigits body
  if digits.isEmpty || !rest.isEmpty then .error .malformed
  else if maxIntegerDigits < digits.length then .error (.tooLong digits.length)
  else
    let n : Int := digitsValue digits
    .ok (if negative then -n else n)

namespace Binary64

/-! ## Writing -/

/-- The number of decimal digits of a natural; none for zero. -/
def digitCount (n : Nat) : Nat :=
  if n = 0 then 0 else (toString n).length

/-- The exponent `k` with `10 ^ (k - 1) ≤ num / den < 10 ^ k`. -/
def decimalExponent (num den : Nat) : Int :=
  if den ≤ num then digitCount (num / den)
  else 1 - (digitCount ((den + num - 1) / num - 1) : Int)

/-- `num / den` in units of `10 ^ p`, as a quotient. -/
def inUnits (num den : Nat) (p : Int) : Nat × Nat :=
  if 0 ≤ p then (num, den * Nat.pow 10 p.toNat) else (num * Nat.pow 10 (-p).toNat, den)

/-- The digits and the unit exponent of the shortest decimal that reads back as the positive
number `m · 2 ^ e`, which is `num / den`: of the numbers with `n` digits the two neighbours are
tried, the nearer first. -/
def shortestFrom (m : Nat) (e : Int) (num den : Nat) (k : Int) : Nat → Nat → Nat × Int
  | 0, n => (roundDiv (inUnits num den (k - n)).1 (inUnits num den (k - n)).2, k - n)
  | fuel + 1, n =>
    let p := k - n
    let (a, b) := inUnits num den p
    let low := a / b
    let near := roundDiv a b
    let far := if near = low then low + 1 else low
    let readsBack (d : Nat) : Bool := ofDecimal false d p == .finite false m e
    if readsBack near then (near, p)
    else if readsBack far then (far, p)
    else shortestFrom m e num den k fuel (n + 1)

/-- The digits and the unit exponent of the shortest decimal that reads back as the positive number
`m · 2 ^ e`; seventeen digits always do. -/
def shortest (m : Nat) (e : Int) : Nat × Int :=
  let (num, den) := if 0 ≤ e then (m * Nat.pow 2 e.toNat, 1) else (m, Nat.pow 2 (-e).toNat)
  shortestFrom m e num den (decimalExponent num den) 16 1

/-- Digits without the zeros at their end. -/
def dropZeros (cs : List Char) : List Char :=
  trimEndWith (· == '0') cs

/-- An exponent with its sign and at least two digits. -/
def exponentText (e : Int) : List Char :=
  let digits := (toString e.natAbs).toList
  (if e < 0 then '-' else '+') :: (if digits.length < 2 then '0' :: digits else digits)

/-- Writes the number `0.d₁d₂… · 10 ^ point`: positionally when the point lies from three places
before the digits to sixteen places after their start, with an exponent otherwise. -/
def layOut (digits : List Char) (point : Int) : List Char :=
  if -3 ≤ point ∧ point ≤ 16 then
    if point ≤ 0 then '0' :: '.' :: (List.replicate (-point).toNat '0' ++ digits)
    else
      let n := point.toNat
      if digits.length ≤ n then digits ++ List.replicate (n - digits.length) '0' ++ ['.', '0']
      else digits.take n ++ '.' :: digits.drop n
  else
    match digits with
    | [d] => d :: 'e' :: exponentText (point - 1)
    | d :: rest => d :: '.' :: rest ++ 'e' :: exponentText (point - 1)
    | [] => []

/-- The text of a number: the fewest digits that read back, with at least one place after the point
when it is written positionally. -/
def text : Binary64 → String
  | .nan => "nan"
  | .infinite s => if s then "-inf" else "inf"
  | .finite s m e =>
    let body :=
      if m = 0 then ['0', '.', '0']
      else
        let (d, p) := shortest m e
        let all := (toString d).toList
        layOut (dropZeros all) (p + all.length)
    String.ofList (if s then '-' :: body else body)

/-! ## Reading -/

/-- An optional exponent: its value and what follows; no digits after the mark means no exponent. -/
def splitExponent (cs : List Char) : Int × List Char :=
  match cs with
  | c :: rest =>
    if c == 'e' || c == 'E' then
      let (negative, body) := splitSign rest
      let (digits, after) := spanDigits body
      if digits.isEmpty then (0, cs)
      else
        let n : Int := digitsValue digits
        (if negative then -n else n, after)
    else (0, cs)
  | [] => (0, [])

/-- The number that a text stands for: blanks around it are ignored; a sign may lead; infinities and
nan are spelled out in any case; underscores may separate digits. -/
def ofText? (cs : List Char) : Option Binary64 :=
  let (negative, body) := splitSign (trimWith isNumberBlank cs)
  let word := String.ofList (body.map Char.toLower)
  if word == "inf" || word == "infinity" then some (.infinite negative)
  else if word == "nan" then some .nan
  else
    let (whole, rest) := spanDigits body
    let (places, rest) :=
      match rest with
      | '.' :: after => spanDigits after
      | _ => ([], rest)
    if whole.isEmpty && places.isEmpty then none
    else
      let (e, rest) := splitExponent rest
      if rest.isEmpty then
        some (ofDecimal negative (digitsValue (whole ++ places)) (e - places.length))
      else none

end Binary64

end Groundplan
