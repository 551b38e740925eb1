import Groundplan.Breaker
import Mathlib.Algebra.Order.Field.Power
import Mathlib.Data.Rat.Cast.Order
import Mathlib.Tactic.Linarith
import Mathlib.Tactic.NormNum
import Mathlib.Tactic.Positivity
import Mathlib.Tactic.Ring

/-!
# Rounded quotients

A quotient of naturals is rounded to a mantissa of 53 bits. Whether the rounded quotient is less
than a whole number can then be told from the exact one, as long as the spacing of the numbers there
is known. For microseconds as seconds this gives the point up to which no instant is lost.

## Main definitions

* `valueOf`: what a finite number stands for
* `Carried`: the mantissa and the exponent that a quotient is rounded to
* `whole`: the number of an integer

## Main results

* `lt_finite_iff`: finite numbers compare as their values do
* `exponentOf_spec`: the exponent that a quotient is rounded at
* `Carried.ofRatio_eq`, `ofRatio_cases`: a rounded quotient and its value
* `secondsOf_lt_whole`: **microseconds as seconds keep their side of a whole number**, up to a
  point
* `not_lastMicrosecond_lt_whole`: beyond it the last microsecond is lost
-/

namespace Groundplan

/-! ## Rounding to a natural -/

/-- What is more than a half below a natural is rounded below it. -/
theorem roundDiv_lt {a b n : ℕ} (h : 2 * a + b < 2 * (n * b)) : roundDiv a b < n := by
  have hab := Nat.div_add_mod a b
  have hquot : a / b < n := Nat.div_lt_of_lt_mul (by rw [Nat.mul_comm]; omega)
  by_cases hnext : a / b + 1 < n
  · exact (roundDiv_le_div_add_one a b).trans_lt hnext
  · -- The quotient is the natural before, and less than a half is left.
    obtain rfl : n = a / b + 1 := by omega
    have hexpand : (a / b + 1) * b = b * (a / b) + b := by ring
    rw [roundDiv, if_pos (by omega)]
    exact Nat.lt_succ_self _

/-- What is less than a half below a natural is rounded to it, or above it. -/
theorem le_roundDiv {a b n : ℕ} (hb : 0 < b) (h : 2 * (n * b) < 2 * a + b) :
    n ≤ roundDiv a b := by
  have hab := Nat.div_add_mod a b
  by_cases hreach : n ≤ a / b
  · exact hreach.trans (div_le_roundDiv a b)
  · have hrest := Nat.mod_lt a hb
    obtain ⟨k, rfl⟩ : ∃ k, n = a / b + 1 + k := ⟨n - (a / b + 1), by omega⟩
    have hexpand : (a / b + 1 + k) * b = b * (a / b) + b + k * b := by ring
    -- Only the next natural is so near.
    obtain rfl : k = 0 := by
      rcases Nat.eq_zero_or_pos k with hk | hk
      · exact hk
      · have := Nat.le_mul_of_pos_left b hk
        omega
    rw [roundDiv, if_neg (by omega), if_pos (by omega)]

namespace Binary64

/-! ## Powers of two -/

theorem zpow_of_nonneg {e : ℤ} (he : 0 ≤ e) : (2 : ℚ) ^ e = 2 ^ e.toNat := by
  rw [← zpow_natCast]
  congr 1
  omega

theorem pow_mul_zpow {e : ℤ} (he : e ≤ 0) : (2 : ℚ) ^ (-e).toNat * 2 ^ e = 1 := by
  rw [← zpow_natCast, ← zpow_add₀ two_ne_zero, show ((-e).toNat : ℤ) + e = 0 by omega, zpow_zero]

/-! ## Values -/

/-- What a finite number stands for. -/
def valueOf (negative : Bool) (m : ℕ) (e : ℤ) : ℚ :=
  (if negative then -1 else 1) * m * 2 ^ e

theorem signedAt_mul {g e : ℤ} (hg : g ≤ e) (negative : Bool) (m : ℕ) :
    (signedAt g negative m e : ℚ) * 2 ^ g = valueOf negative m e := by
  have hpow : (2 : ℚ) ^ ((e - g).toNat) * 2 ^ g = 2 ^ e := by
    rw [← zpow_natCast, ← zpow_add₀ two_ne_zero]
    congr 1
    omega
  rw [signedAt, valueOf, ← hpow]
  cases negative with
  | false =>
    simp
    ring
  | true =>
    simp
    ring

/-- **Finite numbers compare as their values do.** -/
theorem lt_finite_iff {s t : Bool} {m n : ℕ} {e f : ℤ} :
    (finite s m e).lt (finite t n f) ↔ valueOf s m e < valueOf t n f := by
  rw [← signedAt_mul (min_le_left e f), ← signedAt_mul (min_le_right e f),
    mul_lt_mul_iff_left₀ (by positivity), Int.cast_lt, ← compare_lt_iff_lt]
  simp [lt, compare?]

/-! ## Exponents -/

/-- A comparison in powers of two, without fractions. -/
theorem scaled_le_iff (c num den : ℕ) (g : ℤ) :
    (if 0 ≤ g then decide (c * (den * Nat.pow 2 g.toNat) ≤ num)
      else decide (c * den ≤ num * Nat.pow 2 (-g).toNat)) ↔ (c * 2 ^ g * den : ℚ) ≤ num := by
  split
  · rename_i hg
    rw [decide_eq_true_iff, zpow_of_nonneg hg, ← Nat.cast_le (α := ℚ), Nat.pow_eq]
    push_cast
    rw [mul_assoc, mul_comm (den : ℚ)]
  · rename_i hg
    have hclear : (c * 2 ^ g * den * 2 ^ (-g).toNat : ℚ) = c * den := by
      rw [mul_right_comm, mul_assoc (c : ℚ), mul_comm (2 ^ g : ℚ), pow_mul_zpow (by omega), mul_one]
    rw [decide_eq_true_iff, ← Nat.cast_le (α := ℚ), Nat.pow_eq]
    push_cast
    rw [← hclear]
    exact mul_le_mul_iff_left₀ (by positivity)

/-- What an exponent is chosen by: whether the quotient reaches the mantissas of 53 bits there. -/
theorem exponentOf_eq (num den : ℕ) :
    exponentOf num den = max minExponent
      (if (2 ^ 52 * 2 ^ ((num.log2 : ℤ) - den.log2 - 52) * den : ℚ) ≤ num
        then (num.log2 : ℤ) - den.log2 - 52 else (num.log2 : ℤ) - den.log2 - 52 - 1) := by
  have hreach := scaled_le_iff (Nat.pow 2 52) num den ((num.log2 : ℤ) - den.log2 - 52)
  have hcast : ((Nat.pow 2 52 : ℕ) : ℚ) = 2 ^ 52 := by norm_num
  rw [hcast] at hreach
  simp only [exponentOf, if_congr hreach rfl rfl]

/-- **The exponent that a quotient is rounded at**: the mantissa does not have more than 53 bits,
and it has them all unless the exponent is least. -/
theorem exponentOf_spec {num den : ℕ} (hnum : 0 < num) (hden : 0 < den) :
    (num : ℚ) < 2 ^ 53 * 2 ^ exponentOf num den * den ∧
      (minExponent < exponentOf num den → 2 ^ 52 * 2 ^ exponentOf num den * den ≤ (num : ℚ)) := by
  have hlow : (2 : ℚ) ^ num.log2 ≤ num := by exact_mod_cast Nat.log2_self_le hnum.ne'
  have hhigh : (num : ℚ) < 2 ^ (num.log2 + 1) := by exact_mod_cast Nat.lt_log2_self
  have hlow' : (2 : ℚ) ^ den.log2 ≤ den := by exact_mod_cast Nat.log2_self_le hden.ne'
  have hhigh' : (den : ℚ) ≤ 2 ^ (den.log2 + 1) := by exact_mod_cast Nat.lt_log2_self.le
  rw [exponentOf_eq]
  obtain ⟨guess, hguess⟩ : ∃ g : ℤ, g = num.log2 - den.log2 - 52 := ⟨_, rfl⟩
  rw [← hguess]
  have hpow : (2 ^ 52 * 2 ^ guess * 2 ^ den.log2 : ℚ) = 2 ^ num.log2 := by
    rw [hguess, ← zpow_natCast, ← zpow_natCast, ← zpow_natCast, ← zpow_add₀ two_ne_zero,
      ← zpow_add₀ two_ne_zero]
    congr 1
    push_cast
    ring
  -- The exponent before the least one is put in its place fits from both sides.
  have hfits : ∃ e : ℤ, (if (2 ^ 52 * 2 ^ guess * den : ℚ) ≤ num then guess else guess - 1) = e ∧
      (num : ℚ) < 2 ^ 53 * 2 ^ e * den ∧ 2 ^ 52 * 2 ^ e * den ≤ (num : ℚ) := by
    by_cases hreach : (2 ^ 52 * 2 ^ guess * den : ℚ) ≤ num
    · refine ⟨guess, if_pos hreach, ?_, hreach⟩
      calc (num : ℚ) < 2 ^ (num.log2 + 1) := hhigh
        _ = 2 ^ 53 * 2 ^ guess * 2 ^ den.log2 := by rw [pow_succ, ← hpow]; ring
        _ ≤ 2 ^ 53 * 2 ^ guess * den := by gcongr
    · have hhalf : (2 : ℚ) ^ (guess - 1) * 2 = 2 ^ guess := by
        rw [← zpow_add_one₀ two_ne_zero, sub_add_cancel]
      refine ⟨guess - 1, if_neg hreach, ?_, ?_⟩
      · calc (num : ℚ) < 2 ^ 52 * 2 ^ guess * den := not_le.1 hreach
          _ = 2 ^ 53 * 2 ^ (guess - 1) * den := by rw [← hhalf]; ring
      · calc (2 ^ 52 * 2 ^ (guess - 1) * den : ℚ)
            ≤ 2 ^ 52 * 2 ^ (guess - 1) * 2 ^ (den.log2 + 1) := by gcongr
          _ = 2 ^ num.log2 := by rw [← hpow, ← hhalf]; ring
          _ ≤ num := hlow
  obtain ⟨e, he, hupper, hlower⟩ := hfits
  rw [he]
  constructor
  · calc (num : ℚ) < 2 ^ 53 * 2 ^ e * den := hupper
      _ ≤ 2 ^ 53 * 2 ^ max minExponent e * den := by
        gcongr
        · exact one_le_two
        · exact le_max_right _ _
  · intro hleast
    rwa [max_eq_right (by omega)]

/-! ## Rounded quotients -/

/-- The rounded quotient at an exponent is that of two naturals. -/
theorem exists_scaledQuotient (num : ℕ) {den : ℕ} (hden : 0 < den) (e : ℤ) :
    ∃ a b, 0 < b ∧ scaledQuotient num den e = roundDiv a b ∧
      (a : ℚ) * (2 ^ e * den) = num * b := by
  rw [scaledQuotient]
  split
  · rename_i he
    refine ⟨num, den * Nat.pow 2 e.toNat, Nat.mul_pos hden (Nat.pow_pos two_pos), rfl, ?_⟩
    rw [zpow_of_nonneg he, Nat.pow_eq]
    push_cast
    ring
  · rename_i he
    refine ⟨num * Nat.pow 2 (-e).toNat, den, hden, rfl, ?_⟩
    rw [Nat.pow_eq]
    push_cast
    rw [mul_assoc, ← mul_assoc _ _ (den : ℚ), pow_mul_zpow (by omega), one_mul]

/-- A quotient that is more than half a unit below a multiple of the unit is rounded below it. -/
theorem scaledQuotient_lt {num den n : ℕ} (hden : 0 < den) {e : ℤ}
    (h : (num : ℚ) < (n - 1 / 2) * (2 ^ e * den)) : scaledQuotient num den e < n := by
  obtain ⟨a, b, hb, hround, hab⟩ := exists_scaledQuotient num hden e
  have hb' : (0 : ℚ) < b := by exact_mod_cast hb
  have hless : (a : ℚ) < (n - 1 / 2) * b := by
    refine lt_of_mul_lt_mul_right ?_ (show (0 : ℚ) ≤ 2 ^ e * den by positivity)
    calc (a : ℚ) * (2 ^ e * den) = num * b := hab
      _ < (n - 1 / 2) * (2 ^ e * den) * b := by gcongr
      _ = (n - 1 / 2) * b * (2 ^ e * den) := by ring
  have hdoubled : (2 * a + b : ℚ) < 2 * (n * b) := by linarith
  rw [hround]
  exact roundDiv_lt (by exact_mod_cast hdoubled)

/-- A quotient that is less than half a unit below a multiple of the unit is rounded to it, or
above it. -/
theorem le_scaledQuotient {num den n : ℕ} (hden : 0 < den) {e : ℤ}
    (h : (n - 1 / 2) * (2 ^ e * den) < (num : ℚ)) : n ≤ scaledQuotient num den e := by
  obtain ⟨a, b, hb, hround, hab⟩ := exists_scaledQuotient num hden e
  have hb' : (0 : ℚ) < b := by exact_mod_cast hb
  have hmore : (n - 1 / 2) * b < (a : ℚ) := by
    refine lt_of_mul_lt_mul_right ?_ (show (0 : ℚ) ≤ 2 ^ e * den by positivity)
    calc ((n - 1 / 2) * b * (2 ^ e * den) : ℚ) = (n - 1 / 2) * (2 ^ e * den) * b := by ring
      _ < num * b := by gcongr
      _ = a * (2 ^ e * den) := hab.symm
  have hdoubled : (2 * (n * b) : ℚ) < 2 * a + b := by linarith
  rw [hround]
  exact le_roundDiv hb (by exact_mod_cast hdoubled)

/-- **The mantissa and the exponent of a rounded quotient**: the mantissa at the exponent that was
chosen, or, where rounding carried into one more bit, the half of it at the next exponent. -/
inductive Carried (num den : ℕ) : ℕ → ℤ → Prop
  | plain (hplain : scaledQuotient num den (exponentOf num den) ≠ 2 ^ 53) :
    Carried num den (scaledQuotient num den (exponentOf num den)) (exponentOf num den)
  | carry (hcarry : scaledQuotient num den (exponentOf num den) = 2 ^ 53) :
    Carried num den (2 ^ 52) (exponentOf num den + 1)

section Carry

variable {num den m : ℕ} {e : ℤ}

theorem exists_carried (num den : ℕ) : ∃ m e, Carried num den m e := by
  by_cases h : scaledQuotient num den (exponentOf num den) = 2 ^ 53
  · exact ⟨_, _, .carry h⟩
  · exact ⟨_, _, .plain h⟩

/-- Only the exponent can be too great for a number. -/
theorem Carried.ofRatio_eq (h : Carried num den m e) (hnum : 0 < num) (hden : 0 < den)
    (negative : Bool) : ofRatio negative num den =
      if maxExponent < e then infinite negative else finite negative m e := by
  rw [ofRatio, if_neg (by omega)]
  dsimp only
  rw [Nat.pow_eq, Nat.pow_eq]
  cases h with
  | plain hplain => rw [if_neg hplain]
  | carry hcarry => rw [if_pos hcarry]

/-- What was carried is of the same value. -/
theorem Carried.value_eq (h : Carried num den m e) : (m * 2 ^ e : ℚ) =
    scaledQuotient num den (exponentOf num den) * 2 ^ exponentOf num den := by
  cases h with
  | plain => rfl
  | carry hcarry =>
    rw [hcarry, zpow_add_one₀ two_ne_zero]
    push_cast
    ring

theorem Carried.exponentOf_le (h : Carried num den m e) :
    exponentOf num den ≤ e ∧ e ≤ exponentOf num den + 1 := by
  cases h with
  | plain => exact ⟨le_refl _, by omega⟩
  | carry => exact ⟨by omega, le_refl _⟩

end Carry

/-- **A rounded quotient**: it is infinite, or it stands for the rounded mantissa at the exponent
that was chosen, also where one more bit was carried. -/
theorem ofRatio_cases (negative : Bool) {num den : ℕ} (hnum : 0 < num) (hden : 0 < den) :
    (ofRatio negative num den = infinite negative ∧ maxExponent ≤ exponentOf num den) ∨
      ∃ m e, ofRatio negative num den = finite negative m e ∧ valueOf negative m e =
        valueOf negative (scaledQuotient num den (exponentOf num den)) (exponentOf num den) := by
  obtain ⟨m, e, hcarried⟩ := exists_carried num den
  rw [hcarried.ofRatio_eq hnum hden]
  split
  · exact .inl ⟨rfl, by have := hcarried.exponentOf_le; omega⟩
  · refine .inr ⟨m, e, rfl, ?_⟩
    rw [valueOf, valueOf, mul_assoc, mul_assoc, hcarried.value_eq]

/-! ## Whole numbers -/

/-- The number of an integer. -/
def whole (i : ℤ) : Binary64 :=
  ofRatio (i < 0) i.natAbs 1

/-- A natural is a multiple of every unit up to one. -/
theorem natCast_eq_scaled (n : ℕ) {e : ℤ} (he : e ≤ 0) :
    (n : ℚ) = ((n * 2 ^ (-e).toNat : ℕ) : ℚ) * 2 ^ e := by
  push_cast
  rw [mul_assoc, pow_mul_zpow he, mul_one]

/-- What is a multiple of its unit is not changed by rounding. -/
theorem scaledQuotient_of_multiple {num den n : ℕ} (hden : 0 < den) {e : ℤ}
    (h : (num : ℚ) = n * (2 ^ e * den)) : scaledQuotient num den e = n := by
  have hunit : (0 : ℚ) < 2 ^ e * den := by positivity
  refine Nat.le_antisymm (Nat.lt_succ_iff.1 (scaledQuotient_lt hden ?_)) (le_scaledQuotient hden ?_)
  · rw [h]
    push_cast
    gcongr
    linarith
  · rw [h]
    gcongr
    linarith

/-- A natural of at most 53 bits is rounded at a unit that it is a multiple of. -/
theorem exponentOf_natural {n : ℕ} (hpos : 0 < n) (hn : n ≤ 2 ^ 53) :
    exponentOf n 1 ≤ 1 ∧ ∃ k : ℕ, (n : ℚ) = k * (2 ^ exponentOf n 1 * (1 : ℕ)) := by
  obtain ⟨-, hlower⟩ := exponentOf_spec hpos one_pos
  generalize exponentOf n 1 = e at hlower
  rw [Nat.cast_one, mul_one] at hlower ⊢
  have hn' : (n : ℚ) ≤ 2 ^ 53 := by exact_mod_cast hn
  by_cases he : e ≤ 0
  · exact ⟨by omega, _, natCast_eq_scaled n he⟩
  · -- Only the least natural of 54 bits is left.
    have hlower := hlower (by rw [minExponent]; omega)
    have hone : e = 1 := by
      have hless : (2 : ℚ) ^ e < 2 ^ (2 : ℤ) := by
        norm_num
        linarith
      have := (zpow_lt_zpow_iff_right₀ one_lt_two).1 hless
      omega
    subst hone
    refine ⟨le_refl 1, 2 ^ 52, le_antisymm ?_ ?_⟩
    · norm_num
      linarith
    · norm_num at hlower ⊢
      linarith

/-- Up to 53 bits a natural is rounded to itself. -/
theorem whole_eq {n : ℕ} (hpos : 0 < n) (hn : n ≤ 2 ^ 53) :
    ∃ m e, whole n = finite false m e ∧ valueOf false m e = n := by
  obtain ⟨hsmall, k, hk⟩ := exponentOf_natural hpos hn
  have hwhole : whole n = ofRatio false n 1 := by
    rw [whole, decide_eq_false (by omega), Int.natAbs_natCast]
  rw [hwhole]
  obtain ⟨-, hinfinite⟩ | ⟨m, e, hfinite, hvalue⟩ := ofRatio_cases false hpos one_pos
  · rw [maxExponent] at hinfinite
    omega
  · refine ⟨m, e, hfinite, ?_⟩
    rw [hvalue, scaledQuotient_of_multiple one_pos hk, valueOf, hk]
    simp

/-! ## Quotients against whole numbers -/

variable {num den n : ℕ}

/-- A quotient that is more than half a unit below a natural stays below it. -/
theorem ofRatio_lt_whole (hnum : 0 < num) (hden : 0 < den) (hpos : 0 < n) (hn : n ≤ 2 ^ 53)
    (he : exponentOf num den ≤ 0)
    (h : (num : ℚ) < (n - 2 ^ exponentOf num den / 2) * den) :
    (ofRatio false num den).lt (whole n) := by
  obtain ⟨m, f, hwhole, hn'⟩ := whole_eq hpos hn
  obtain ⟨-, hinfinite⟩ | ⟨m', f', hfinite, hvalue⟩ := ofRatio_cases false hnum hden
  · rw [maxExponent] at hinfinite
    omega
  generalize exponentOf num den = e at he h hvalue
  have hscaled := natCast_eq_scaled n he
  rw [hfinite, hwhole, lt_finite_iff, hvalue, hn', hscaled, valueOf]
  -- At this exponent the natural is a multiple of the unit, and the mantissas decide.
  have hless : scaledQuotient num den e < n * 2 ^ (-e).toNat := by
    refine scaledQuotient_lt hden (h.trans_eq ?_)
    rw [hscaled]
    ring
  have hless' : (scaledQuotient num den e : ℚ) < (n * 2 ^ (-e).toNat : ℕ) := by
    exact_mod_cast hless
  rw [if_neg Bool.false_ne_true, one_mul]
  gcongr

/-- A quotient that is less than half a unit below a natural does not stay below it. -/
theorem not_ofRatio_lt_whole (hnum : 0 < num) (hden : 0 < den) (hpos : 0 < n) (hn : n ≤ 2 ^ 53)
    (h : (n - 2 ^ exponentOf num den / 2) * den < (num : ℚ)) :
    ¬ (ofRatio false num den).lt (whole n) := by
  obtain ⟨m, f, hwhole, hn'⟩ := whole_eq hpos hn
  obtain ⟨hinfinite, -⟩ | ⟨m', f', hfinite, hvalue⟩ := ofRatio_cases false hnum hden
  · rw [hinfinite, hwhole]
    simp [lt, compare?]
  have hspec := (exponentOf_spec hnum hden).2
  generalize exponentOf num den = e at h hvalue hspec
  rw [hfinite, hwhole, lt_finite_iff, hvalue, hn', valueOf, not_lt]
  by_cases he : e ≤ 0
  · have hscaled := natCast_eq_scaled n he
    have hreach : n * 2 ^ (-e).toNat ≤ scaledQuotient num den e := by
      refine le_scaledQuotient hden (lt_of_eq_of_lt ?_ h)
      rw [hscaled]
      ring
    have hreach' : ((n * 2 ^ (-e).toNat : ℕ) : ℚ) ≤ scaledQuotient num den e := by
      exact_mod_cast hreach
    rw [hscaled, if_neg Bool.false_ne_true, one_mul]
    gcongr
  · -- The mantissa has all its bits, and its unit is more than one.
    have hlower := hspec (by rw [minExponent]; omega)
    have hfull : 2 ^ 52 ≤ scaledQuotient num den e := by
      refine le_scaledQuotient hden (lt_of_lt_of_le ?_ hlower)
      have hunit : (0 : ℚ) < 2 ^ e * den := by positivity
      push_cast
      linarith
    have hfull' : (2 ^ 52 : ℚ) ≤ scaledQuotient num den e := by exact_mod_cast hfull
    have hunit : (2 : ℚ) ≤ 2 ^ e := by
      calc (2 : ℚ) = 2 ^ (1 : ℤ) := (zpow_one 2).symm
        _ ≤ 2 ^ e := zpow_le_zpow_right₀ one_le_two (by omega)
    have hn'' : (n : ℚ) ≤ 2 ^ 53 := by exact_mod_cast hn
    rw [if_neg Bool.false_ne_true, one_mul]
    calc (n : ℚ) ≤ 2 ^ 52 * 2 := by linarith
      _ ≤ scaledQuotient num den e * 2 ^ e := by gcongr

/-- A quotient has the sign that it is given. -/
theorem ofRatio_sign (negative : Bool) (num den : ℕ) :
    ofRatio negative num den = infinite negative ∨
      ∃ m e, ofRatio negative num den = finite negative m e := by
  rcases Nat.eq_zero_or_pos num with rfl | hnum
  · exact .inr ⟨_, _, if_pos (.inl rfl)⟩
  rcases Nat.eq_zero_or_pos den with rfl | hden
  · exact .inr ⟨_, _, if_pos (.inr rfl)⟩
  obtain ⟨hinfinite, -⟩ | ⟨m, e, hfinite, -⟩ := ofRatio_cases negative hnum hden
  · exact .inl hinfinite
  · exact .inr ⟨m, e, hfinite⟩

/-- What an integer that is not positive is rounded to is not positive either. -/
theorem whole_nonpos {i : ℤ} (hi : i ≤ 0) :
    whole i = infinite true ∨ ∃ s m e, whole i = finite s m e ∧ valueOf s m e ≤ 0 := by
  rcases hi.lt_or_eq with hneg | rfl
  · rw [whole, decide_eq_true hneg]
    obtain hinfinite | ⟨m, e, hfinite⟩ := ofRatio_sign true i.natAbs 1
    · exact .inl hinfinite
    · have hvalue : (0 : ℚ) ≤ m * 2 ^ e := by positivity
      refine .inr ⟨true, m, e, hfinite, ?_⟩
      rw [valueOf, if_pos rfl]
      linarith
  · exact .inr ⟨false, 0, minExponent, rfl, by simp [valueOf]⟩

/-- No quotient is less than a number that is not positive. -/
theorem not_ofRatio_lt_nonpos (num den : ℕ) {i : ℤ} (hi : i ≤ 0) :
    ¬ (ofRatio false num den).lt (whole i) := by
  obtain hnum | ⟨m, e, hnum⟩ := ofRatio_sign false num den <;>
    obtain hwhole | ⟨s, n, f, hwhole, hvalue⟩ := whole_nonpos hi <;> rw [hnum, hwhole]
  · decide
  · simp [lt, compare?]
  · simp [lt, compare?]
  · have hpos : 0 ≤ valueOf false m e := by
      rw [valueOf, if_neg Bool.false_ne_true]
      positivity
    rw [lt_finite_iff, not_lt]
    exact hvalue.trans hpos

/-! ## Seconds -/

open Breaker (secondsOf)

variable {m d : ℤ}

theorem secondsOf_natCast (m : ℕ) : secondsOf m = ofRatio false m 1000000 := by
  rw [secondsOf, if_neg (by omega), Int.natAbs_natCast]

/-- Seconds that are not less than a whole number are not rounded below it. -/
theorem not_secondsOf_lt_whole (hm : 0 ≤ m) (hd : d ≤ 2 ^ 53) (h : d * 1000000 ≤ m) :
    ¬ (secondsOf m).lt (whole d) := by
  obtain ⟨m, rfl⟩ := Int.eq_ofNat_of_zero_le hm
  rw [secondsOf_natCast]
  by_cases hpos : d ≤ 0
  · exact not_ofRatio_lt_nonpos _ _ hpos
  obtain ⟨d, rfl⟩ := Int.eq_ofNat_of_zero_le (by omega : 0 ≤ d)
  refine not_ofRatio_lt_whole (by omega) (by norm_num) (by omega) (by omega) ?_
  have hpow : (0 : ℚ) < 2 ^ exponentOf m 1000000 := by positivity
  have h' : (d * 1000000 : ℚ) ≤ m := by exact_mod_cast h
  push_cast
  linarith

/-- **Microseconds as seconds keep their side of a whole number**, as long as that is at most
`2 ^ 34`: up to there the numbers are less than two microseconds apart. -/
theorem secondsOf_lt_whole (hm : 0 ≤ m) (hd : d ≤ 2 ^ 34) :
    (secondsOf m).lt (whole d) ↔ m < d * 1000000 := by
  constructor
  · intro hlt
    by_contra h
    exact not_secondsOf_lt_whole hm (by omega) (by omega) hlt
  · intro h
    obtain ⟨m, rfl⟩ := Int.eq_ofNat_of_zero_le hm
    obtain ⟨d, rfl⟩ := Int.eq_ofNat_of_zero_le (by omega : 0 ≤ d)
    rw [secondsOf_natCast]
    have hd' : (d : ℚ) ≤ 2 ^ 34 := by exact_mod_cast hd
    have h' : (m + 1 : ℚ) ≤ d * 1000000 := by exact_mod_cast h
    rcases Nat.eq_zero_or_pos m with rfl | hpos
    · obtain ⟨n, e, hwhole, hvalue⟩ := whole_eq (show 0 < d by omega) (by omega)
      rw [hwhole, ofRatio, if_pos (.inl rfl), zeroOf, lt_finite_iff, hvalue]
      simp [valueOf]
      omega
    -- The exponent is so small since the seconds are below `2 ^ 34`.
    have hunit : exponentOf m 1000000 ≤ -19 := by
      by_contra hmore
      have hlower := (exponentOf_spec hpos (show 0 < 1000000 by norm_num)).2
        (by rw [minExponent]; omega)
      have hpow : (2 : ℚ) ^ (-18 : ℤ) ≤ 2 ^ exponentOf m 1000000 :=
        zpow_le_zpow_right₀ one_le_two (by omega)
      norm_num at hpow hlower
      linarith
    have hpow : (2 : ℚ) ^ exponentOf m 1000000 ≤ 2 ^ (-19 : ℤ) :=
      zpow_le_zpow_right₀ one_le_two hunit
    refine ofRatio_lt_whole hpos (by norm_num) (by omega) (by omega) (by omega) ?_
    norm_num at hpow ⊢
    linarith

/-- **Beyond that the last microsecond is lost**: it is rounded to the whole number. -/
theorem not_lastMicrosecond_lt_whole (hd : 2 ^ 34 < d) (hd' : d ≤ 2 ^ 53) :
    ¬ (secondsOf (d * 1000000 - 1)).lt (whole d) := by
  obtain ⟨d, rfl⟩ := Int.eq_ofNat_of_zero_le (by omega : 0 ≤ d)
  obtain ⟨m, hm⟩ := Int.eq_ofNat_of_zero_le (by omega : 0 ≤ (d : ℤ) * 1000000 - 1)
  rw [hm, secondsOf_natCast]
  have hm' : (m + 1 : ℚ) = d * 1000000 := by exact_mod_cast (by omega : m + 1 = d * 1000000)
  have hd'' : (2 ^ 34 + 1 : ℚ) ≤ d := by exact_mod_cast hd
  -- Here the numbers are more than two microseconds apart.
  have hunit : -18 ≤ exponentOf m 1000000 := by
    by_contra hless
    have hupper := (exponentOf_spec (show 0 < m by omega) (show 0 < 1000000 by norm_num)).1
    have hpow : (2 : ℚ) ^ exponentOf m 1000000 ≤ 2 ^ (-19 : ℤ) :=
      zpow_le_zpow_right₀ one_le_two (by omega)
    norm_num at hpow hupper
    linarith
  have hpow : (2 : ℚ) ^ (-18 : ℤ) ≤ 2 ^ exponentOf m 1000000 :=
    zpow_le_zpow_right₀ one_le_two hunit
  refine not_ofRatio_lt_whole (by omega) (by norm_num) (by omega) (by omega) ?_
  norm_num at hpow ⊢
  linarith

end Binary64

end Groundplan
