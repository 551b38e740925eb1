import Groundplan.Proofs.Number.Order

/-!
# Rounding to cents twice

A number that was rounded to cents is the number nearest to some whole cents, and is not one of
those cents itself as a rule. All the same it is not changed by being rounded again. Where numbers
lie closer together than cents, the same cents are nearest to it. Where they lie further apart, it
is the number nearest to whatever cents are taken for it.

## Main results

* `abs_roundDiv_sub_le`, `abs_rounded_sub_le`: how far a rounded quotient lies from the quotient
* `ofRatio_of_near`: what lies nearer to a number than half a unit is rounded to it
* `cents_cents`: **rounding to cents twice** is rounding once
-/

namespace Groundplan.Binary64

variable {num den : ℕ}

/-! ## Distances -/

/-- A quotient is rounded to a natural that is at most a half away. -/
theorem abs_roundDiv_sub_le (a : ℕ) {b : ℕ} (hb : 0 < b) :
    |(roundDiv a b * b : ℚ) - a| ≤ b / 2 := by
  have hlow : ¬ 2 * a + b < 2 * (roundDiv a b * b) := fun h => lt_irrefl _ (roundDiv_lt h)
  have hhigh : ¬ 2 * ((roundDiv a b + 1) * b) < 2 * a + b := fun h =>
    absurd (le_roundDiv hb h) (by omega)
  rw [not_lt, ← Nat.cast_le (α := ℚ)] at hlow hhigh
  push_cast at hlow hhigh
  rw [abs_le]
  constructor <;> linarith

/-- A quotient that is less than a half away from a natural is rounded to it. -/
theorem roundDiv_eq_of_near {a b n : ℕ} (hb : 0 < b) (h : |(n * b : ℚ) - a| < b / 2) :
    roundDiv a b = n := by
  rw [abs_lt] at h
  have hlow : (2 * (n * b) : ℚ) < 2 * a + b := by linarith
  have hhigh : (2 * a + b : ℚ) < 2 * ((n + 1) * b) := by linarith
  refine Nat.le_antisymm (Nat.lt_succ_iff.1 (roundDiv_lt ?_)) (le_roundDiv hb ?_)
  · exact_mod_cast hhigh
  · exact_mod_cast hlow

/-- A quotient is rounded to a number that is at most half a unit away. -/
theorem abs_rounded_sub_le (num : ℕ) (hden : 0 < den) :
    |rounded num den * den - num| ≤ 2 ^ exponentOf num den * den / 2 := by
  rw [rounded]
  set q := scaledQuotient num den (exponentOf num den)
  have hlow : ¬ (num : ℚ) < (q - 1 / 2) * (2 ^ exponentOf num den * den) := fun h =>
    lt_irrefl _ (scaledQuotient_lt hden h)
  have hhigh : ¬ ((q + 1 : ℕ) - 1 / 2) * (2 ^ exponentOf num den * den) < (num : ℚ) := fun h =>
    Nat.not_succ_le_self _ (le_scaledQuotient hden h)
  rw [not_lt] at hlow hhigh
  push_cast at hhigh
  rw [abs_le]
  constructor <;> linarith

/-! ## Numbers with all their bits -/

/-- **What lies nearer to a number than half a unit is rounded to it**, if the number has all its
bits and does not lie above by leaving them. -/
theorem ofRatio_of_near {m : ℕ} {e : ℤ} (s : Bool) (hden : 0 < den) (hbits : m < 2 ^ 53)
    (hrange : minExponent ≤ e ∧ e ≤ maxExponent) (hlow : (2 ^ 52 * 2 ^ e * den : ℚ) ≤ num)
    (hnear : |(m * 2 ^ e * den : ℚ) - num| < 2 ^ e * den / 2) :
    ofRatio s num den = finite s m e := by
  rw [abs_lt] at hnear
  have hden' : (0 : ℚ) < den := by exact_mod_cast hden
  have hunit : (0 : ℚ) < 2 ^ e * den := by positivity
  have hbits' : (m + 1 : ℚ) ≤ 2 ^ 53 := by exact_mod_cast hbits
  have hnum : 0 < num := by
    have : (0 : ℚ) < num := by linarith
    exact_mod_cast this
  -- Between the least mantissa with all its bits and the greatest one no other exponent is chosen.
  have hexponent : exponentOf num den = e := by
    obtain ⟨hupper, hlower⟩ := exponentOf_spec hnum hden
    refine le_antisymm ?_ (exponent_le_of_lt hden' (hlow.trans_lt hupper))
    rcases (minExponent_le_exponentOf num den).lt_or_eq with habove | hleast
    · refine exponent_le_of_lt hden' ((hlower habove).trans_lt ?_)
      calc (num : ℚ) < (m + 1) * (2 ^ e * den) := by linarith
        _ ≤ 2 ^ 53 * (2 ^ e * den) := by gcongr
        _ = 2 ^ 53 * 2 ^ e * den := by ring
    · exact hleast ▸ hrange.1
  have hmantissa : scaledQuotient num den e = m := by
    refine le_antisymm (Nat.lt_succ_iff.1 (scaledQuotient_lt hden ?_)) (le_scaledQuotient hden ?_)
    · push_cast
      linarith
    · linarith
  have hcarried : Carried num den m e := by
    rw [← hexponent] at hmantissa ⊢
    rw [← hmantissa] at hbits ⊢
    exact .plain hbits.ne
  rw [hcarried.ofRatio_eq hnum hden]
  exact if_neg (not_lt.2 hrange.2)

/-- Above the least exponent, a rounded quotient has all its bits. -/
theorem full_of_ofRatio {s : Bool} {m : ℕ} {e : ℤ} (hnum : 0 < num) (hden : 0 < den)
    (h : ofRatio s num den = finite s m e) (he : minExponent < e) : 2 ^ 52 ≤ m := by
  obtain ⟨n, f, hcarried⟩ := exists_carried num den
  rw [hcarried.ofRatio_eq hnum hden] at h
  split at h <;> cases h
  exact hcarried.full hnum hden he

/-! ## Cents -/

section Cents

variable {s : Bool} {k m a b : ℕ} {e : ℤ}

/-- Where numbers lie closer together than cents, the cents nearest to the number that is nearest to
some are these. -/
theorem roundDiv_of_fine (hb : 0 < b) (ha : (a : ℚ) = m * 2 ^ e * 100 * b)
    (hvalue : (m : ℚ) * 2 ^ e = rounded k 100) (hfine : exponentOf k 100 ≤ -7) :
    roundDiv a b = k := by
  have hb' : (0 : ℚ) < b := by exact_mod_cast hb
  have hunit : (2 : ℚ) ^ exponentOf k 100 ≤ 2 ^ (-7 : ℤ) := zpow_le_zpow_right₀ one_le_two hfine
  have hnear := abs_rounded_sub_le k (show 0 < 100 by norm_num)
  rw [← hvalue] at hnear
  push_cast at hnear
  have hless : |(m * 2 ^ e * 100 : ℚ) - k| < 1 / 2 := by
    refine hnear.trans_lt ?_
    norm_num at hunit ⊢
    linarith
  refine roundDiv_eq_of_near hb ?_
  rw [ha, ← sub_mul, abs_mul, abs_of_pos hb', abs_sub_comm]
  calc |(m * 2 ^ e * 100 : ℚ) - k| * b < 1 / 2 * b := by gcongr
    _ = b / 2 := by ring

/-- Where numbers lie further apart, a number is nearest to the cents nearest to it. -/
theorem ofRatio_of_coarse (s : Bool) (hb : 0 < b) (ha : (a : ℚ) = m * 2 ^ e * 100 * b)
    (hfull : 2 ^ 52 ≤ m) (hbits : m < 2 ^ 53) (hcoarse : -6 ≤ e) (hmost : e ≤ maxExponent) :
    ofRatio s (roundDiv a b) 100 = finite s m e := by
  have hb' : (0 : ℚ) < b := by exact_mod_cast hb
  have hunit : (2 : ℚ) ^ (-6 : ℤ) ≤ 2 ^ e := zpow_le_zpow_right₀ one_le_two hcoarse
  have hfull' : (2 ^ 52 : ℚ) ≤ m := by exact_mod_cast hfull
  refine ofRatio_of_near s (by norm_num) hbits ⟨by rw [minExponent]; omega, hmost⟩ ?_ ?_
  · -- The least number of all bits at this exponent is a whole number of cents.
    have hwhole : ((2 ^ (52 + e).toNat * 100 : ℕ) : ℚ) = 2 ^ 52 * 2 ^ e * 100 := by
      push_cast
      rw [← zpow_of_nonneg (by omega), zpow_add₀ two_ne_zero]
      norm_num
    have hreach : (2 ^ 52 * 2 ^ e * 100 * b : ℚ) ≤ a := by
      rw [ha]
      gcongr
    rw [← hwhole] at hreach
    rw [show ((100 : ℕ) : ℚ) = 100 by norm_num, ← hwhole, Nat.cast_le]
    have hreach' : 2 ^ (52 + e).toNat * 100 * b ≤ a := by exact_mod_cast hreach
    exact le_roundDiv hb (by omega)
  · have hnear := abs_roundDiv_sub_le a hb
    rw [ha, ← sub_mul, abs_mul, abs_of_pos hb', abs_sub_comm] at hnear
    have hhalf : |(m * 2 ^ e * 100 : ℚ) - roundDiv a b| ≤ 1 / 2 := by
      refine le_of_mul_le_mul_right ?_ hb'
      linarith
    push_cast
    refine hhalf.trans_lt ?_
    norm_num at hunit ⊢
    linarith

/-- The number nearest to some cents is not changed by rounding to cents. -/
theorem cents_ofRatio (s : Bool) (k : ℕ) : (ofRatio s k 100).cents = ofRatio s k 100 := by
  rcases Nat.eq_zero_or_pos k with rfl | hk
  · cases s <;> decide +kernel
  have hhundred : 0 < 100 := by norm_num
  rcases ofRatio_rounded s k hhundred with ⟨hinfinite, -⟩ | ⟨m, e, hfinite, hvalue, -, hkept⟩
  · rw [hinfinite]
    rfl
  obtain ⟨hbits, -, hmost⟩ := hkept
  obtain ⟨a, b, hb, ha, hcents⟩ := exists_roundTo 2 s m e
  have ha' : (a : ℚ) = m * 2 ^ e * 100 * b := by
    rw [ha]
    norm_num
  rw [hfinite, cents, hcents]
  by_cases hfine : exponentOf k 100 ≤ -7
  · rw [roundDiv_of_fine hb ha' hvalue hfine]
    exact hfinite
  · -- The exponent is the one that was chosen, or the next, where a bit was carried.
    have habove : minExponent < exponentOf k 100 := by
      rw [minExponent]
      omega
    have hexponent : exponentOf k 100 ≤ e := by
      refine exponent_le_of_lt one_pos ?_
      have hmantissa : (2 ^ 52 : ℚ) ≤ scaledQuotient k 100 (exponentOf k 100) := by
        exact_mod_cast le_scaledQuotient_of_lt hk hhundred habove
      have hbits' : (m : ℚ) < 2 ^ 53 := by exact_mod_cast hbits
      calc (2 ^ 52 * 2 ^ exponentOf k 100 * 1 : ℚ) ≤ rounded k 100 := by
            rw [mul_one, rounded]
            gcongr
        _ = m * 2 ^ e := hvalue.symm
        _ < 2 ^ 53 * 2 ^ e * 1 := by
            rw [mul_one]
            gcongr
    have hfull := full_of_ofRatio hk hhundred hfinite (habove.trans_le hexponent)
    exact ofRatio_of_coarse s hb ha' hfull hbits (by omega) hmost

end Cents

/-- **Rounding to cents twice** is rounding once. -/
theorem cents_cents (x : Binary64) : x.cents.cents = x.cents := by
  rcases x with _ | s | ⟨s, m, e⟩
  · rfl
  · rfl
  · obtain ⟨a, b, -, -, hcents⟩ := exists_roundTo 2 s m e
    rw [cents, cents, hcents]
    exact cents_ofRatio s _

end Groundplan.Binary64
