import Groundplan.Proofs.Number.Rounding
import Mathlib.Tactic.LinearCombination

/-!
# The order of numbers under arithmetic

Rounding is monotone: of two exact values the greater is not rounded below the less, whatever
exponents they are rounded at. So adding the same number, and rounding to decimal places, keep the
order of numbers, and adding a number that is not negative does not lower a sum. What can go wrong
is only that a result is no number at all, from infinities of opposite signs.

## Main definitions

* `rounded`: what a quotient stands for after rounding
* `Rounds`: **a number is an exact value, rounded**
* `IsKept`: numbers that arithmetic leaves, which rounding does not change
* `NotBelow`: a number is not less than another
* `IsAmount`: a number that is not negative

## Main results

* `rounded_le_rounded`, `Rounds.le`: **rounding is monotone**
* `rounds_add`, `rounds_mul`: arithmetic rounds the exact result
* `NotBelow.trans`, `notBelow_total`: all but what is no number is in order
* `NotBelow.add_right`, `NotBelow.roundTo`: adding and rounding keep the order
* `IsAmount.add`, `IsAmount.mul`, `IsAmount.roundTo`: results that are not negative
* `notBelow_add`: **adding an amount does not lower** a number
-/

namespace Groundplan

/-! ## Rounding to a natural -/

/-- **Rounding to a natural is monotone** in the quotient. -/
theorem roundDiv_mono {a b c d : ℕ} (hb : 0 < b) (hd : 0 < d) (h : a * d ≤ c * b) :
    roundDiv a b ≤ roundDiv c d := by
  have hquot : a / b ≤ c / d := by
    rw [Nat.le_div_iff_mul_le hd]
    refine Nat.le_of_mul_le_mul_right ?_ hb
    calc a / b * d * b = a / b * b * d := by ring
      _ ≤ a * d := by gcongr; exact Nat.div_mul_le_self a b
      _ ≤ c * b := h
  rcases hquot.lt_or_eq with hless | hsame
  · calc roundDiv a b ≤ a / b + 1 := roundDiv_le_div_add_one a b
      _ ≤ c / d := hless
      _ ≤ roundDiv c d := div_le_roundDiv c d
  · -- The remainders decide, and they are in the order of the quotients.
    have hrest : a % b * d ≤ c % d * b := by
      have ha := Nat.div_add_mod a b
      have hc := Nat.div_add_mod c d
      rw [← hsame] at hc
      have ha' : a * d = b * d * (a / b) + a % b * d := by
        conv_lhs => rw [← ha]
        ring
      have hc' : c * b = b * d * (a / b) + c % d * b := by
        conv_lhs => rw [← hc]
        ring
      omega
    have hbelow (hupper : 2 * (c % d) < d) : 2 * (a % b) < b := by
      refine Nat.lt_of_mul_lt_mul_right (a := d) ?_
      calc 2 * (a % b) * d = 2 * (a % b * d) := by ring
        _ ≤ 2 * (c % d * b) := by gcongr
        _ = 2 * (c % d) * b := by ring
        _ < d * b := by gcongr
        _ = b * d := by ring
    have habove (hlower : b < 2 * (a % b)) : d < 2 * (c % d) := by
      refine Nat.lt_of_mul_lt_mul_right (a := b) ?_
      calc d * b = b * d := by ring
        _ < 2 * (a % b) * d := by gcongr
        _ = 2 * (a % b * d) := by ring
        _ ≤ 2 * (c % d * b) := by gcongr
        _ = 2 * (c % d) * b := by ring
    simp only [roundDiv, hsame]
    split_ifs <;> omega

namespace Binary64

/-! ## The exponent and the mantissa -/

theorem minExponent_le_exponentOf (num den : ℕ) : minExponent ≤ exponentOf num den := by
  rw [exponentOf_eq]
  exact le_max_left _ _

section Quotients

variable {num den num' den' : ℕ}

/-- The mantissa of a rounded quotient has at most one bit too many, and only just. -/
theorem scaledQuotient_le (hnum : 0 < num) (hden : 0 < den) :
    scaledQuotient num den (exponentOf num den) ≤ 2 ^ 53 := by
  refine Nat.lt_succ_iff.mp (scaledQuotient_lt hden ?_)
  have hupper := (exponentOf_spec hnum hden).1
  have hunit : (0 : ℚ) < 2 ^ exponentOf num den * den := by positivity
  push_cast
  linarith

/-- Above the least exponent it has all its bits. -/
theorem le_scaledQuotient_of_lt (hnum : 0 < num) (hden : 0 < den)
    (h : minExponent < exponentOf num den) :
    2 ^ 52 ≤ scaledQuotient num den (exponentOf num den) := by
  refine le_scaledQuotient hden ?_
  have hlower := (exponentOf_spec hnum hden).2 h
  have hunit : (0 : ℚ) < 2 ^ exponentOf num den * den := by positivity
  push_cast
  linarith

/-- A mantissa has at most 53 bits once the one too many was carried. -/
theorem Carried.lt {m : ℕ} {e : ℤ} (h : Carried num den m e) (hnum : 0 < num) (hden : 0 < den) :
    m < 2 ^ 53 := by
  cases h with
  | plain hplain => exact lt_of_le_of_ne (scaledQuotient_le hnum hden) hplain
  | carry => norm_num

/-- It has them all above the least exponent. -/
theorem Carried.full {m : ℕ} {e : ℤ} (h : Carried num den m e) (hnum : 0 < num) (hden : 0 < den)
    (he : minExponent < e) : 2 ^ 52 ≤ m := by
  cases h with
  | plain => exact le_scaledQuotient_of_lt hnum hden he
  | carry => exact le_refl _

theorem num_pos_of_le (hnum : 0 < num) (hden' : 0 < den') (h : num * den' ≤ num' * den) :
    0 < num' := by
  rcases Nat.eq_zero_or_pos num' with rfl | hpos
  · have hpos := Nat.mul_pos hnum hden'
    omega
  · exact hpos

/-- Of two mantissas with all their bits the less has no greater exponent. -/
theorem exponent_le_of_lt {e f : ℤ} {d : ℚ} (hd : 0 < d)
    (h : 2 ^ 52 * 2 ^ e * d < 2 ^ 53 * 2 ^ f * d) : e ≤ f := by
  have hscaled := lt_of_mul_lt_mul_right h hd.le
  have hpow : (2 : ℚ) ^ e < 2 ^ (f + 1) := by
    rw [zpow_add_one₀ two_ne_zero]
    linarith
  exact Int.lt_add_one_iff.mp ((zpow_lt_zpow_iff_right₀ one_lt_two).mp hpow)

/-- A greater quotient is not rounded at a less exponent. -/
theorem exponentOf_le_exponentOf (hnum : 0 < num) (hden : 0 < den) (hden' : 0 < den')
    (h : num * den' ≤ num' * den) : exponentOf num den ≤ exponentOf num' den' := by
  rcases (minExponent_le_exponentOf num den).lt_or_eq with hleast | hleast
  · have hlower := (exponentOf_spec hnum hden).2 hleast
    have hupper := (exponentOf_spec (num_pos_of_le hnum hden' h) hden').1
    have h' : (num * den' : ℚ) ≤ num' * den := by exact_mod_cast h
    refine exponent_le_of_lt (show (0 : ℚ) < den * den' by positivity) ?_
    calc (2 ^ 52 * 2 ^ exponentOf num den * (den * den') : ℚ)
        = 2 ^ 52 * 2 ^ exponentOf num den * den * den' := by ring
      _ ≤ num * den' := by gcongr
      _ ≤ num' * den := h'
      _ < 2 ^ 53 * 2 ^ exponentOf num' den' * den' * den := by gcongr
      _ = 2 ^ 53 * 2 ^ exponentOf num' den' * (den * den') := by ring
  · rw [← hleast]
    exact minExponent_le_exponentOf num' den'

/-- At one exponent, a greater quotient does not get a less mantissa. -/
theorem scaledQuotient_mono (hden : 0 < den) (hden' : 0 < den') (h : num * den' ≤ num' * den)
    (e : ℤ) : scaledQuotient num den e ≤ scaledQuotient num' den' e := by
  rw [scaledQuotient, scaledQuotient]
  have hpow (n : ℕ) : 0 < Nat.pow 2 n := Nat.pow_pos two_pos
  split
  · refine roundDiv_mono (Nat.mul_pos hden (hpow _)) (Nat.mul_pos hden' (hpow _)) ?_
    calc num * (den' * Nat.pow 2 e.toNat) = num * den' * Nat.pow 2 e.toNat := by ring
      _ ≤ num' * den * Nat.pow 2 e.toNat := by gcongr
      _ = num' * (den * Nat.pow 2 e.toNat) := by ring
  · refine roundDiv_mono hden hden' ?_
    calc num * Nat.pow 2 (-e).toNat * den' = num * den' * Nat.pow 2 (-e).toNat := by ring
      _ ≤ num' * den * Nat.pow 2 (-e).toNat := by gcongr
      _ = num' * Nat.pow 2 (-e).toNat * den := by ring

/-! ## Rounded quotients -/

/-- What a quotient stands for after rounding, where no bound on numbers is in the way. -/
def rounded (num den : ℕ) : ℚ :=
  scaledQuotient num den (exponentOf num den) * 2 ^ exponentOf num den

theorem rounded_zero {den : ℕ} (hden : 0 < den) : rounded 0 den = 0 := by
  rw [rounded, scaledQuotient_of_multiple hden (n := 0) (by simp), Nat.cast_zero, zero_mul]

theorem rounded_nonneg (num den : ℕ) : 0 ≤ rounded num den := by
  rw [rounded]
  positivity

/-- **Rounding is monotone**, also where the exponents differ. -/
theorem rounded_le_rounded (hden : 0 < den) (hden' : 0 < den') (h : num * den' ≤ num' * den) :
    rounded num den ≤ rounded num' den' := by
  rcases Nat.eq_zero_or_pos num with rfl | hnum
  · rw [rounded_zero hden]
    exact rounded_nonneg num' den'
  have hnum' := num_pos_of_le hnum hden' h
  rw [rounded, rounded]
  rcases (exponentOf_le_exponentOf hnum hden hden' h).lt_or_eq with hless | hsame
  · -- The less value is at most the least power of two with the next exponent.
    have hupper : (scaledQuotient num den (exponentOf num den) : ℚ) ≤ 2 ^ 53 := by
      exact_mod_cast scaledQuotient_le hnum hden
    have hlower : (2 ^ 52 : ℚ) ≤ scaledQuotient num' den' (exponentOf num' den') := by
      exact_mod_cast le_scaledQuotient_of_lt hnum' hden'
        ((minExponent_le_exponentOf num den).trans_lt hless)
    have hpow : (2 : ℚ) ^ (exponentOf num den + 1) ≤ 2 ^ exponentOf num' den' :=
      zpow_le_zpow_right₀ one_le_two hless
    calc (scaledQuotient num den (exponentOf num den) : ℚ) * 2 ^ exponentOf num den
        ≤ 2 ^ 53 * 2 ^ exponentOf num den := by gcongr
      _ = 2 ^ 52 * 2 ^ (exponentOf num den + 1) := by
        rw [zpow_add_one₀ two_ne_zero]
        ring
      _ ≤ scaledQuotient num' den' (exponentOf num' den') * 2 ^ exponentOf num' den' := by
        gcongr
  · rw [hsame]
    have hmantissa := scaledQuotient_mono hden hden' h (exponentOf num' den')
    gcongr

end Quotients

/-! ## Numbers as rounded values -/

/-- Numbers that arithmetic leaves: a finite one has a mantissa of at most 53 bits and an exponent
in range. -/
def IsKept : Binary64 → Prop
  | .finite _ m e => m < 2 ^ 53 ∧ minExponent ≤ e ∧ e ≤ maxExponent
  | _ => True

/-- The least power of two that is out of range. -/
def limit : ℚ :=
  2 ^ (1024 : ℤ)

theorem limit_pos : 0 < limit := by
  rw [limit]
  positivity

/-- It has one more than the greatest exponent, or a mantissa of one bit too many. -/
theorem limit_eq : limit = 2 ^ 52 * 2 ^ (972 : ℤ) ∧ limit = 2 ^ 53 * 2 ^ (971 : ℤ) := by
  rw [limit, ← zpow_natCast, ← zpow_natCast, ← zpow_add₀ two_ne_zero, ← zpow_add₀ two_ne_zero]
  exact ⟨rfl, rfl⟩

/-- A mantissa of at most 53 bits is below it at every exponent in range. -/
theorem mul_lt_limit {m : ℕ} {e : ℤ} (hm : m < 2 ^ 53) (he : e ≤ maxExponent) :
    (m * 2 ^ e : ℚ) < limit := by
  have hm' : (m : ℚ) < 2 ^ 53 := by exact_mod_cast hm
  have hpow : (2 : ℚ) ^ e ≤ 2 ^ (971 : ℤ) := zpow_le_zpow_right₀ one_le_two he
  calc (m * 2 ^ e : ℚ) < 2 ^ 53 * 2 ^ e := by gcongr
    _ ≤ 2 ^ 53 * 2 ^ (971 : ℤ) := by gcongr
    _ = limit := limit_eq.2.symm

/-- A mantissa with all its bits is not, at an exponent that is out of range. -/
theorem limit_le_mul {m : ℕ} {e : ℤ} (hm : 2 ^ 52 ≤ m) (he : maxExponent < e) :
    limit ≤ m * 2 ^ e := by
  have hm' : (2 ^ 52 : ℚ) ≤ m := by exact_mod_cast hm
  have hpow : (2 : ℚ) ^ (972 : ℤ) ≤ 2 ^ e := zpow_le_zpow_right₀ one_le_two he
  calc limit = 2 ^ 52 * 2 ^ (972 : ℤ) := limit_eq.1
    _ ≤ m * 2 ^ e := by gcongr

/-- **A rounded quotient of any sign**: it is infinite exactly if its value is out of range. -/
theorem ofRatio_rounded (s : Bool) (num : ℕ) {den : ℕ} (hden : 0 < den) :
    (ofRatio s num den = infinite s ∧ limit ≤ rounded num den) ∨
      ∃ m e, ofRatio s num den = finite s m e ∧ (m : ℚ) * 2 ^ e = rounded num den ∧
        rounded num den < limit ∧ IsKept (finite s m e) := by
  rcases Nat.eq_zero_or_pos num with rfl | hnum
  · refine .inr ⟨0, minExponent, if_pos (.inl rfl), ?_, ?_, ?_⟩
    · rw [rounded_zero hden, Nat.cast_zero, zero_mul]
    · rw [rounded_zero hden]
      exact limit_pos
    · exact ⟨by norm_num, le_refl _, by decide⟩
  obtain ⟨m, e, hcarried⟩ := exists_carried num den
  have hbits := hcarried.lt hnum hden
  have hleast : minExponent ≤ e :=
    (minExponent_le_exponentOf num den).trans hcarried.exponentOf_le.1
  rw [hcarried.ofRatio_eq hnum hden, rounded, ← hcarried.value_eq]
  split
  · rename_i hrange
    have hfull := hcarried.full hnum hden (lt_trans (by decide) hrange)
    exact .inl ⟨rfl, limit_le_mul hfull hrange⟩
  · rename_i hrange
    have hin : e ≤ maxExponent := not_lt.mp hrange
    exact .inr ⟨m, e, rfl, rfl, mul_lt_limit hbits hin, hbits, hleast, hin⟩

theorem isKept_ofRatio (s : Bool) (num den : ℕ) : IsKept (ofRatio s num den) := by
  rcases Nat.eq_zero_or_pos den with rfl | hden
  · rw [ofRatio, if_pos (.inr rfl)]
    exact ⟨by norm_num, le_refl _, by decide⟩
  · rcases ofRatio_rounded s num hden with ⟨hinfinite, -⟩ | ⟨m, e, hfinite, -, -, hkept⟩
    · rw [hinfinite]
      trivial
    · rwa [hfinite]

theorem isKept_ofScaled (s : Bool) (m : ℕ) (e : ℤ) : IsKept (ofScaled s m e) := by
  rw [ofScaled]
  split <;> exact isKept_ofRatio _ _ _

theorem isKept_zero : IsKept 0 :=
  isKept_ofRatio false 0 1

/-- A sum is a number that arithmetic leaves, whatever its terms are. -/
theorem isKept_add (x y : Binary64) : IsKept (x + y) := by
  show IsKept (add x y)
  rcases x with _ | s | ⟨s, m, e⟩ <;> rcases y with _ | t | ⟨t, n, f⟩ <;>
    simp only [add] <;> try trivial
  · split <;> trivial
  · split
    · exact ⟨by norm_num, le_refl _, by decide⟩
    · exact isKept_ofScaled _ _ _

/-- A value with a sign. -/
def signed (s : Bool) (r : ℚ) : ℚ :=
  if s then -r else r

/-- **A number is an exact value, rounded.** -/
def Rounds (x : Binary64) (q : ℚ) : Prop :=
  ∃ s num den, 0 < den ∧ x = ofRatio s num den ∧ q = signed s (num / den)

theorem valueOf_false (m : ℕ) (e : ℤ) : valueOf false m e = m * 2 ^ e := by
  simp [valueOf]

theorem valueOf_true (m : ℕ) (e : ℤ) : valueOf true m e = -(m * 2 ^ e) := by
  simp [valueOf]

/-- Finite numbers are in the order of their values. -/
theorem le_finite_iff {s t : Bool} {m n : ℕ} {e f : ℤ} :
    (finite s m e).le (finite t n f) ↔ valueOf s m e ≤ valueOf t n f := by
  rw [← signedAt_mul (min_le_left e f), ← signedAt_mul (min_le_right e f),
    mul_le_mul_iff_left₀ (by positivity), Int.cast_le, le_iff_lt_or_eq, ← compare_lt_iff_lt,
    ← compare_eq_iff_eq]
  simp [le, compare?]

theorem eq_finite_iff {s t : Bool} {m n : ℕ} {e f : ℤ} :
    (finite s m e).eq (finite t n f) ↔ valueOf s m e = valueOf t n f := by
  rw [← signedAt_mul (min_le_left e f), ← signedAt_mul (min_le_right e f),
    mul_left_inj' (by positivity), Int.cast_inj, ← compare_eq_iff_eq]
  simp [eq, compare?]

theorem valueOf_eq_signed (s : Bool) (m : ℕ) (e : ℤ) : valueOf s m e = signed s (m * 2 ^ e) := by
  cases s
  · exact valueOf_false m e
  · exact valueOf_true m e

/-- Rounded quotients are in the order of what they stand for after rounding. -/
theorem ofRatio_le_ofRatio {s t : Bool} {num den num' den' : ℕ} (hden : 0 < den) (hden' : 0 < den')
    (h : signed s (rounded num den) ≤ signed t (rounded num' den')) :
    (ofRatio s num den).le (ofRatio t num' den') := by
  have hlimit := limit_pos
  have hsize := rounded_nonneg num den
  have hsize' := rounded_nonneg num' den'
  rcases ofRatio_rounded s num hden with ⟨hx, hrange⟩ | ⟨m, e, hx, hvalue, hrange, -⟩ <;>
    rcases ofRatio_rounded t num' hden' with ⟨hy, hrange'⟩ | ⟨n, f, hy, hvalue', hrange', -⟩ <;>
    rw [hx, hy]
  · cases s <;> cases t <;> first | rfl | (exfalso; simp [signed] at h; linarith)
  · cases s <;> cases t <;> first | rfl | (exfalso; simp [signed] at h; linarith)
  · cases t <;> cases s <;> first | rfl | (exfalso; simp [signed] at h; linarith)
  · rw [le_finite_iff, valueOf_eq_signed, valueOf_eq_signed, hvalue, hvalue']
    exact h

/-- What is monotone for values that are not negative, and keeps zero, is monotone with signs. -/
theorem signed_le_signed {s t : Bool} {u v u' v' : ℚ} (hu : 0 ≤ u) (hv : 0 ≤ v) (hu' : 0 ≤ u')
    (hv' : 0 ≤ v') (huv : u ≤ v → u' ≤ v') (hvu : v ≤ u → v' ≤ u')
    (hzero : u = 0 → u' = 0) (hzero' : v = 0 → v' = 0) (h : signed s u ≤ signed t v) :
    signed s u' ≤ signed t v' := by
  cases s <;> cases t <;> simp only [signed, if_true, if_false, Bool.false_eq_true] at h ⊢
  · exact huv h
  · rw [hzero (by linarith), hzero' (by linarith), neg_zero]
  · linarith
  · exact neg_le_neg (hvu (neg_le_neg_iff.mp h))

/-- **Rounding is monotone**, for values of any sign. -/
theorem Rounds.le {x y : Binary64} {p q : ℚ} (hx : Rounds x p) (hy : Rounds y q) (h : p ≤ q) :
    x.le y := by
  obtain ⟨s, num, den, hden, rfl, rfl⟩ := hx
  obtain ⟨t, num', den', hden', rfl, rfl⟩ := hy
  have hmono {a b c d : ℕ} (hb : 0 < b) (hd : 0 < d) (hle : (a / b : ℚ) ≤ c / d) :
      rounded a b ≤ rounded c d := by
    rw [div_le_div_iff₀ (by exact_mod_cast hb) (by exact_mod_cast hd)] at hle
    exact rounded_le_rounded hb hd (by exact_mod_cast hle)
  have hzero {a b : ℕ} (hb : 0 < b) (hnone : (a / b : ℚ) = 0) : rounded a b = 0 := by
    obtain rfl : a = 0 := by simpa [hb.ne'] using hnone
    exact rounded_zero hb
  exact ofRatio_le_ofRatio hden hden' (signed_le_signed (by positivity) (by positivity)
    (rounded_nonneg num den) (rounded_nonneg num' den') (hmono hden hden') (hmono hden' hden)
    (hzero hden) (hzero hden') h)

/-! ## What arithmetic rounds -/

theorem rounds_ofRatio (s : Bool) (num : ℕ) {den : ℕ} (hden : 0 < den) :
    Rounds (ofRatio s num den) (signed s (num / den)) :=
  ⟨s, num, den, hden, rfl, rfl⟩

theorem rounds_zeroOf (s : Bool) : Rounds (zeroOf s) 0 :=
  ⟨s, 0, 1, one_pos, (if_pos (.inl rfl)).symm, by cases s <;> simp [signed]⟩

/-- A scaled mantissa is a quotient. -/
theorem exists_ofScaled (s : Bool) (m : ℕ) (e : ℤ) :
    ∃ num den : ℕ, 0 < den ∧ ofScaled s m e = ofRatio s num den ∧
      (num : ℚ) = m * 2 ^ e * den := by
  rw [ofScaled]
  split
  · rename_i he
    refine ⟨m * Nat.pow 2 e.toNat, 1, one_pos, rfl, ?_⟩
    rw [zpow_of_nonneg he, Nat.pow_eq]
    push_cast
    ring
  · rename_i he
    refine ⟨m, Nat.pow 2 (-e).toNat, Nat.pow_pos two_pos, rfl, ?_⟩
    rw [Nat.pow_eq, Nat.cast_pow, Nat.cast_ofNat, mul_assoc, mul_comm (2 ^ e : ℚ),
      pow_mul_zpow (by omega), mul_one]

theorem rounds_ofScaled (s : Bool) (m : ℕ) (e : ℤ) : Rounds (ofScaled s m e) (valueOf s m e) := by
  obtain ⟨num, den, hden, hx, hvalue⟩ := exists_ofScaled s m e
  have hquot : (m * 2 ^ e : ℚ) = num / den := by
    rw [eq_div_iff (by exact_mod_cast hden.ne'), hvalue]
  rw [hx, valueOf_eq_signed, hquot]
  exact rounds_ofRatio s num hden

/-- **A sum is the exact sum, rounded.** -/
theorem rounds_add (s t : Bool) (m n : ℕ) (e f : ℤ) :
    Rounds (finite s m e + finite t n f) (valueOf s m e + valueOf t n f) := by
  -- Both numbers are whole at the lesser exponent, and the sum is taken there.
  have hsum : valueOf s m e + valueOf t n f =
      (signedAt (min e f) s m e + signedAt (min e f) t n f : ℤ) * 2 ^ min e f := by
    rw [← signedAt_mul (min_le_left e f), ← signedAt_mul (min_le_right e f)]
    push_cast
    ring
  show Rounds (add _ _) _
  rw [add, hsum]
  generalize signedAt (min e f) s m e + signedAt (min e f) t n f = sum
  split
  · rename_i hzero
    rw [hzero, Int.cast_zero, zero_mul]
    exact rounds_zeroOf _
  · have hsigned : ((sum : ℤ) : ℚ) * 2 ^ min e f =
        valueOf (decide (sum < 0)) sum.natAbs (min e f) := by
      rw [valueOf, Nat.cast_natAbs]
      congr 1
      by_cases hneg : sum < 0
      · simp [hneg, abs_of_neg hneg]
      · simp [hneg, abs_of_nonneg (not_lt.mp hneg)]
    rw [hsigned]
    exact rounds_ofScaled _ _ _

/-- **A product is the exact product, rounded.** -/
theorem rounds_mul (s t : Bool) (m n : ℕ) (e f : ℤ) :
    Rounds (finite s m e * finite t n f) (valueOf s m e * valueOf t n f) := by
  have hproduct : valueOf s m e * valueOf t n f = valueOf (s != t) (m * n) (e + f) := by
    rw [valueOf, valueOf, valueOf, zpow_add₀ two_ne_zero]
    cases s <;> cases t <;> simp <;> ring
  rw [hproduct]
  exact rounds_ofScaled _ _ _

/-- Decimal places of a finite number: the natural that is rounded to, of a quotient. -/
theorem exists_roundTo (places : ℕ) (s : Bool) (m : ℕ) (e : ℤ) :
    ∃ a b : ℕ, 0 < b ∧ (a : ℚ) = m * 2 ^ e * 10 ^ places * b ∧
      (finite s m e).roundTo places = ofRatio s (roundDiv a b) (Nat.pow 10 places) := by
  rw [roundTo]
  split
  · rename_i he
    refine ⟨m * Nat.pow 10 places * Nat.pow 2 e.toNat, 1, one_pos, ?_, ?_⟩
    · rw [zpow_of_nonneg he, Nat.pow_eq, Nat.pow_eq]
      push_cast
      ring
    · rw [roundDiv_of_dvd one_pos (one_dvd _), Nat.div_one]
  · rename_i he
    refine ⟨m * Nat.pow 10 places, Nat.pow 2 (-e).toNat, Nat.pow_pos two_pos, ?_, rfl⟩
    have hclear := pow_mul_zpow (show e ≤ 0 by omega)
    rw [Nat.pow_eq, Nat.pow_eq]
    push_cast
    linear_combination -(m : ℚ) * 10 ^ places * hclear

/-- **Rounding to decimal places is monotone.** -/
theorem roundTo_le (places : ℕ) {s t : Bool} {m n : ℕ} {e f : ℤ}
    (h : valueOf s m e ≤ valueOf t n f) :
    ((finite s m e).roundTo places).le ((finite t n f).roundTo places) := by
  obtain ⟨a, b, hb, ha, hx⟩ := exists_roundTo places s m e
  obtain ⟨c, d, hd, hc, hy⟩ := exists_roundTo places t n f
  have hplaces : 0 < Nat.pow 10 places := Nat.pow_pos (by norm_num)
  -- Rounding keeps the order of sizes; the signs are put back at the end.
  have hmono {a b c d : ℕ} {u v : ℚ} (hb : 0 < b) (hd : 0 < d)
      (ha : (a : ℚ) = u * 10 ^ places * b) (hc : (c : ℚ) = v * 10 ^ places * d) (huv : u ≤ v) :
      (roundDiv a b / (Nat.pow 10 places : ℕ) : ℚ) ≤ roundDiv c d / (Nat.pow 10 places : ℕ) := by
    have hcross : (a * d : ℚ) ≤ c * b := by
      rw [ha, hc]
      calc u * 10 ^ places * b * d = u * (10 ^ places * b * d) := by ring
        _ ≤ v * (10 ^ places * b * d) := by gcongr
        _ = v * 10 ^ places * d * b := by ring
    have hround := roundDiv_mono hb hd (by exact_mod_cast hcross)
    gcongr
  have hzero {a b : ℕ} {u : ℚ} (hb : 0 < b) (ha : (a : ℚ) = u * 10 ^ places * b) (hu : u = 0) :
      (roundDiv a b / (Nat.pow 10 places : ℕ) : ℚ) = 0 := by
    obtain rfl : a = 0 := by simpa [hu] using ha
    rw [roundDiv_of_dvd hb (dvd_zero b), Nat.zero_div, Nat.cast_zero, zero_div]
  rw [valueOf_eq_signed, valueOf_eq_signed] at h
  rw [hx, hy]
  exact (rounds_ofRatio s _ hplaces).le (rounds_ofRatio t _ hplaces)
    (signed_le_signed (by positivity) (by positivity) (by positivity) (by positivity)
      (hmono hb hd ha hc) (hmono hd hb hc ha) (hzero hb ha) (hzero hd hc) h)

/-! ## The order of results -/

/-- A number is not less than another. -/
def NotBelow (x y : Binary64) : Prop :=
  x.lt y = false

theorem notBelow_finite_iff {s t : Bool} {m n : ℕ} {e f : ℤ} :
    NotBelow (finite s m e) (finite t n f) ↔ valueOf t n f ≤ valueOf s m e := by
  rw [NotBelow, Bool.eq_false_iff, ne_eq, lt_finite_iff, not_lt]

theorem notBelow_nan_left (y : Binary64) : NotBelow nan y :=
  rfl

theorem notBelow_nan_right (x : Binary64) : NotBelow x nan := by
  rcases x with _ | (_ | _) | ⟨s, m, e⟩ <;> rfl

theorem notBelow_infinite (y : Binary64) : NotBelow (infinite false) y := by
  rcases y with _ | (_ | _) | ⟨t, n, f⟩ <;> rfl

theorem notBelow_negInfinite (x : Binary64) : NotBelow x (infinite true) := by
  rcases x with _ | (_ | _) | ⟨s, m, e⟩ <;> rfl

theorem notBelow_of_le {x y : Binary64} (h : x.le y) : NotBelow y x := by
  rcases x with _ | (_ | _) | ⟨s, m, e⟩ <;> rcases y with _ | (_ | _) | ⟨t, n, f⟩
  case finite.finite =>
    exact notBelow_finite_iff.mpr (le_finite_iff.mp h)
  all_goals first | rfl | cases h

theorem notBelow_refl (x : Binary64) : NotBelow x x := by
  rcases x with _ | (_ | _) | ⟨s, m, e⟩
  case finite => exact notBelow_of_le (le_finite_iff.mpr (le_refl _))
  all_goals rfl

theorem le_trans {x y z : Binary64} (hxy : x.le y) (hyz : y.le z) : x.le z := by
  rcases x with _ | (_ | _) | ⟨s, m, e⟩ <;> rcases y with _ | (_ | _) | ⟨t, n, f⟩ <;>
    rcases z with _ | (_ | _) | ⟨u, k, g⟩
  case finite.finite.finite =>
    rw [le_finite_iff] at hxy hyz ⊢
    exact hxy.trans hyz
  all_goals
    first
    | rfl
    | exact absurd hxy Bool.false_ne_true
    | exact absurd hyz Bool.false_ne_true

/-- The order goes on over what is a number. -/
theorem NotBelow.trans {x y z : Binary64} (hxy : NotBelow x y) (hyz : NotBelow y z)
    (hy : y.isNan = false) : NotBelow x z := by
  rcases x with _ | (_ | _) | ⟨s, m, e⟩ <;> rcases y with _ | (_ | _) | ⟨t, n, f⟩ <;>
    rcases z with _ | (_ | _) | ⟨u, k, g⟩
  case finite.finite.finite =>
    rw [notBelow_finite_iff] at hxy hyz ⊢
    exact hyz.trans hxy
  all_goals
    first
    | exact notBelow_nan_left _
    | exact notBelow_nan_right _
    | exact notBelow_infinite _
    | exact notBelow_negInfinite _
    | exact absurd (Eq.symm hxy) Bool.false_ne_true
    | exact absurd (Eq.symm hyz) Bool.false_ne_true
    | exact absurd (Eq.symm hy) Bool.false_ne_true

theorem notBelow_total (x y : Binary64) : NotBelow x y ∨ NotBelow y x := by
  rcases x with _ | (_ | _) | ⟨s, m, e⟩ <;> rcases y with _ | (_ | _) | ⟨t, n, f⟩
  case finite.finite =>
    rw [notBelow_finite_iff, notBelow_finite_iff]
    exact le_total _ _
  all_goals first | exact .inl rfl | exact .inr rfl

theorem isNan_of_eq {x y : Binary64} (h : x.eq y) : x.isNan = false ∧ y.isNan = false := by
  rcases x with _ | (_ | _) | ⟨s, m, e⟩ <;> rcases y with _ | (_ | _) | ⟨t, n, f⟩
  all_goals first | exact ⟨rfl, rfl⟩ | cases h

/-- Equal numbers are not less than each other. -/
theorem notBelow_of_eq {x y : Binary64} (h : x.eq y) : NotBelow x y ∧ NotBelow y x := by
  rcases x with _ | (_ | _) | ⟨s, m, e⟩ <;> rcases y with _ | (_ | _) | ⟨t, n, f⟩
  case finite.finite =>
    rw [eq_finite_iff] at h
    rw [notBelow_finite_iff, notBelow_finite_iff]
    exact ⟨h.ge, h.le⟩
  all_goals first | exact ⟨rfl, rfl⟩ | cases h

/-- **Adding the same number keeps the order**, as far as results are numbers. -/
theorem NotBelow.add_right {x y : Binary64} (h : NotBelow x y) (c : Binary64) :
    NotBelow (x + c) (y + c) := by
  show NotBelow (add x c) (add y c)
  rcases x with _ | (_ | _) | ⟨s, m, e⟩ <;> rcases y with _ | (_ | _) | ⟨t, n, f⟩ <;>
    rcases c with _ | (_ | _) | ⟨u, k, g⟩
  case finite.finite.finite =>
    rw [notBelow_finite_iff] at h
    exact notBelow_of_le ((rounds_add t u n k f g).le (rounds_add s u m k e g)
      (by linarith))
  all_goals
    first
    | exact notBelow_nan_left _
    | exact notBelow_nan_right _
    | exact notBelow_infinite _
    | exact notBelow_negInfinite _
    | cases h

/-- Rounding to decimal places keeps the order. -/
theorem NotBelow.roundTo {x y : Binary64} (h : NotBelow x y) (places : ℕ) :
    NotBelow (x.roundTo places) (y.roundTo places) := by
  rcases x with _ | (_ | _) | ⟨s, m, e⟩ <;> rcases y with _ | (_ | _) | ⟨t, n, f⟩
  case finite.finite =>
    rw [notBelow_finite_iff] at h
    exact notBelow_of_le (roundTo_le places h)
  all_goals
    first
    | exact notBelow_nan_left _
    | exact notBelow_nan_right _
    | exact notBelow_infinite _
    | exact notBelow_negInfinite _
    | cases h

/-! ## Amounts -/

/-- A number that is not negative; an infinite one counts. -/
def IsAmount (x : Binary64) : Prop :=
  (0 : Binary64).le x

theorem Rounds.isAmount {x : Binary64} {q : ℚ} (hx : Rounds x q) (hq : 0 ≤ q) : IsAmount x :=
  (rounds_zeroOf false).le hx hq

theorem isAmount_finite_iff {s : Bool} {m : ℕ} {e : ℤ} :
    IsAmount (finite s m e) ↔ 0 ≤ valueOf s m e := by
  rw [IsAmount, show (0 : Binary64) = finite false 0 minExponent from rfl, le_finite_iff,
    valueOf_false, Nat.cast_zero, zero_mul]

theorem isAmount_zero : IsAmount 0 :=
  (rounds_zeroOf false).isAmount (le_refl 0)

/-- Amounts are numbers, so one that is not below another is at least that. -/
theorem NotBelow.le {x y : Binary64} (h : NotBelow x y) (hx : IsAmount x) (hy : IsAmount y) :
    y.le x := by
  rcases x with _ | (_ | _) | ⟨s, m, e⟩ <;> rcases y with _ | (_ | _) | ⟨t, n, f⟩
  case finite.finite =>
    rw [notBelow_finite_iff] at h
    exact le_finite_iff.mpr h
  all_goals
    first
    | rfl
    | exact absurd hx Bool.false_ne_true
    | exact absurd hy Bool.false_ne_true
    | cases h

/-- Amounts add up to an amount. -/
theorem IsAmount.add {x y : Binary64} (hx : IsAmount x) (hy : IsAmount y) : IsAmount (x + y) := by
  rcases x with _ | (_ | _) | ⟨s, m, e⟩ <;> rcases y with _ | (_ | _) | ⟨t, n, f⟩
  case finite.finite =>
    rw [isAmount_finite_iff] at hx hy
    exact (rounds_add s t m n e f).isAmount (add_nonneg hx hy)
  all_goals
    first
    | rfl
    | exact absurd hx Bool.false_ne_true
    | exact absurd hy Bool.false_ne_true

/-- Whether a number is finite and greater than zero. -/
def isPositive : Binary64 → Bool
  | .finite false m _ => m != 0
  | _ => false

theorem isPositive_iff {x : Binary64} :
    x.isPositive ↔ ∃ m e, x = finite false m e ∧ 0 < valueOf false m e := by
  have hvalue (m : ℕ) (e : ℤ) : 0 < valueOf false m e ↔ m ≠ 0 := by
    rw [valueOf_false, mul_pos_iff_of_pos_right (by positivity), Nat.cast_pos, Nat.pos_iff_ne_zero]
  rcases x with _ | (_ | _) | ⟨(_ | _), m, e⟩ <;> simp [isPositive, hvalue]

/-- An amount at a rate is an amount. The rate is neither zero nor infinite, since an infinite
amount of nothing is no number. -/
theorem IsAmount.mul {x y : Binary64} (hx : IsAmount x) (hy : y.isPositive) : IsAmount (x * y) := by
  obtain ⟨n, f, rfl, hn⟩ := isPositive_iff.mp hy
  rcases x with _ | (_ | _) | ⟨s, m, e⟩
  · cases hx
  · have hn' : n ≠ 0 := by
      rintro rfl
      simp [valueOf] at hn
    show IsAmount (Binary64.mul _ _)
    rw [Binary64.mul, if_neg hn']
    rfl
  · cases hx
  · rw [isAmount_finite_iff] at hx
    exact (rounds_mul s false m n e f).isAmount (mul_nonneg hx hn.le)

protected theorem mul_comm (x y : Binary64) : x * y = y * x := by
  show mul x y = mul y x
  rcases x with _ | (_ | _) | ⟨(_ | _), m, e⟩ <;> rcases y with _ | (_ | _) | ⟨(_ | _), n, f⟩ <;>
    simp [mul, Nat.mul_comm, Int.add_comm]

/-- Rounded to decimal places, an amount is an amount. -/
theorem IsAmount.roundTo {x : Binary64} (hx : IsAmount x) (places : ℕ) :
    IsAmount (x.roundTo places) := by
  rcases x with _ | (_ | _) | ⟨s, m, e⟩
  · cases hx
  · rfl
  · cases hx
  · obtain ⟨a, b, hb, ha, heq⟩ := exists_roundTo places s m e
    rw [heq]
    refine (rounds_ofRatio s _ (Nat.pow_pos (by norm_num))).isAmount ?_
    rw [isAmount_finite_iff, valueOf_eq_signed] at hx
    cases s with
    | false =>
      simp only [signed, if_false, Bool.false_eq_true]
      positivity
    | true =>
      -- Only zero has this sign.
      have hzero : (m * 2 ^ e : ℚ) = 0 := by
        have hsize : (0 : ℚ) ≤ m * 2 ^ e := by positivity
        simp only [signed, if_true] at hx
        linarith
      obtain rfl : a = 0 := by simpa [hzero] using ha
      rw [roundDiv_of_dvd hb (dvd_zero b)]
      simp [signed]

/-! ## Adding amounts -/

/-- A number that arithmetic leaves is rounded to itself, or to an equal number. -/
theorem le_ofScaled {s : Bool} {m : ℕ} {e : ℤ} (h : IsKept (finite s m e)) :
    (finite s m e).le (ofScaled s m e) := by
  obtain ⟨hbits, hleast, hmost⟩ := h
  obtain ⟨num, den, hden, hx, hvalue⟩ := exists_ofScaled s m e
  have hden' : (0 : ℚ) < den := by exact_mod_cast hden
  have hbits' : (m : ℚ) < 2 ^ 53 := by exact_mod_cast hbits
  -- It is a multiple of the unit that it is rounded at.
  have hrounded : rounded num den = m * 2 ^ e := by
    rcases Nat.eq_zero_or_pos num with rfl | hnum
    · rw [rounded_zero hden]
      have : (m * 2 ^ e * den : ℚ) = 0 := by rw [← hvalue, Nat.cast_zero]
      exact ((mul_eq_zero_iff_right hden'.ne').mp this).symm
    have hexponent : exponentOf num den ≤ e := by
      rcases (minExponent_le_exponentOf num den).lt_or_eq with habove | hsame
      · refine exponent_le_of_lt hden' ?_
        calc (2 ^ 52 * 2 ^ exponentOf num den * den : ℚ)
            ≤ num := (exponentOf_spec hnum hden).2 habove
          _ = m * 2 ^ e * den := hvalue
          _ < 2 ^ 53 * 2 ^ e * den := by gcongr
      · omega
    have hunit : (2 : ℚ) ^ e = 2 ^ (e - exponentOf num den).toNat * 2 ^ exponentOf num den := by
      rw [← zpow_natCast, ← zpow_add₀ two_ne_zero]
      congr 1
      omega
    have hmultiple : scaledQuotient num den (exponentOf num den) =
        m * 2 ^ (e - exponentOf num den).toNat := by
      refine scaledQuotient_of_multiple hden ?_
      rw [hvalue, hunit]
      push_cast
      ring
    rw [rounded, hmultiple, hunit]
    push_cast
    ring
  have hrange : rounded num den < limit := by
    rw [hrounded]
    exact mul_lt_limit hbits hmost
  rw [hx]
  rcases ofRatio_rounded s num hden with ⟨-, hinfinite⟩ | ⟨k, f, hfinite, hsame, -, -⟩
  · exact absurd hrange (not_lt.mpr hinfinite)
  · rw [hfinite, le_finite_iff, valueOf_eq_signed, valueOf_eq_signed, hsame, hrounded]

/-- **Adding an amount does not lower** a number that arithmetic leaves. -/
theorem notBelow_add {x c : Binary64} (hx : IsKept x) (hc : IsAmount c) : NotBelow (x + c) x := by
  rcases x with _ | (_ | _) | ⟨s, m, e⟩ <;> rcases c with _ | (_ | _) | ⟨u, k, g⟩
  case finite.finite =>
    rw [isAmount_finite_iff] at hc
    exact notBelow_of_le (le_trans (le_ofScaled hx)
      ((rounds_ofScaled s m e).le (rounds_add s u m k e g) (by linarith)))
  all_goals
    first
    | exact notBelow_nan_left _
    | exact notBelow_nan_right _
    | exact notBelow_infinite _
    | exact notBelow_negInfinite _
    | exact absurd hc Bool.false_ne_true

end Binary64

end Groundplan
