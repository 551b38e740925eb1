import Groundplan.Cloud.Resource
import Groundplan.Proofs.Number.Rounding

/-!
# When identifiers are the same

Identifiers of resources are what the cloud gives: texts as a rule, but any value that is no list and
no map. Numbers are the same by what they stand for, whether they are integers, truth values or
binary64 numbers. So each identifier has an identity, by which it is the same as others; only a nan
has none, and is not even the same as itself.

## Main definitions

* `Data.Identity`, `Data.identity?`: what makes a value the same as others

## Main results

* `Data.Numeric.compare?_eq_iff`: **numbers are equal exactly if they stand for the same**
* `Data.same_iff`: **values are the same exactly if they have an identity in common**
* `LiveResource.sameKey_comm`, `LiveResource.sameKey_congr`: so it is with records of one resource
-/

namespace Groundplan

namespace Binary64

/-- Finite numbers are equal as their values are. -/
theorem compare?_finite_eq_iff {s t : Bool} {m n : ℕ} {e f : ℤ} :
    compare? (finite s m e) (finite t n f) = some .eq ↔ valueOf s m e = valueOf t n f := by
  have hunit : (2 : ℚ) ^ min e f ≠ 0 := by positivity
  rw [← signedAt_mul (min_le_left e f), ← signedAt_mul (min_le_right e f), mul_left_inj' hunit,
    Int.cast_inj, compare?, Option.some_inj, compare_eq_iff_eq]

/-- An integer equals a finite number as it equals its value. -/
theorem compareInt?_finite_eq_iff {i : ℤ} {s : Bool} {m : ℕ} {e : ℤ} :
    compareInt? i (finite s m e) = some .eq ↔ (i : ℚ) = valueOf s m e := by
  have hunit : (2 : ℚ) ^ min 0 e ≠ 0 := by positivity
  -- The integer in the units in which the two are compared.
  have hscaled : ((i * Nat.pow 2 (-min 0 e).toNat : ℤ) : ℚ) * 2 ^ min 0 e = i := by
    have hone := pow_mul_zpow (min_le_left 0 e)
    push_cast [Nat.pow_eq]
    rw [mul_assoc, hone, mul_one]
  rw [← signedAt_mul (min_le_right 0 e), ← hscaled, mul_left_inj' hunit, Int.cast_inj, compareInt?,
    Option.some_inj, compare_eq_iff_eq]

end Binary64

namespace Data

open Binary64

/-- **What makes a value the same as others.** A number stands for an infinity or for a rational. -/
inductive Identity where
  | null
  | text (s : String)
  /-- A moment, and whether its offset is known. -/
  | moment (known : Bool) (micros : Int)
  | number (value : Bool ⊕ ℚ)

/-- What a binary64 number stands for. -/
def floatValue? : Binary64 → Option (Bool ⊕ ℚ)
  | .nan => none
  | .infinite s => some (.inl s)
  | .finite s m e => some (.inr (valueOf s m e))

/-- What a number stands for. -/
def Numeric.value? : Numeric → Option (Bool ⊕ ℚ)
  | .int i => some (.inr i)
  | .float x => floatValue? x

/-- The identity of a value, if it has one. -/
def identity? : Data → Option Identity
  | .null => some .null
  | .text s => some (.text s)
  | .moment m => some (.moment m.offset.isSome m.micros)
  | d => (d.numeric?.bind Numeric.value?).map .number

theorem exists_common_iff {α : Type} {a b : α} :
    (∃ v, some a = some v ∧ some b = some v) ↔ a = b := by
  simp [eq_comm]

theorem compareInt?_eq_iff (i : ℤ) (y : Binary64) :
    compareInt? i y = some .eq ↔ ∃ v, some (.inr (i : ℚ)) = some v ∧ floatValue? y = some v := by
  cases y with
  | nan => simp [compareInt?, floatValue?]
  | infinite t => cases t <;> simp [compareInt?, floatValue?]
  | finite t n f => rw [compareInt?_finite_eq_iff, floatValue?, exists_common_iff,
      Sum.inr.injEq]

theorem compare?_eq_iff (x y : Binary64) :
    x.compare? y = some .eq ↔ ∃ v, floatValue? x = some v ∧ floatValue? y = some v := by
  cases x with
  | nan => simp [compare?, floatValue?]
  | infinite s =>
    cases y with
    | nan => simp [compare?, floatValue?]
    | infinite t => cases s <;> cases t <;> simp [compare?, floatValue?]
    | finite t n f => cases s <;> simp [compare?, floatValue?]
  | finite s m e =>
    cases y with
    | nan => simp [compare?, floatValue?]
    | infinite t => cases t <;> simp [compare?, floatValue?]
    | finite t n f => rw [compare?_finite_eq_iff, floatValue?, floatValue?, exists_common_iff,
      Sum.inr.injEq]

/-- **Numbers are equal exactly if they stand for the same.** -/
theorem Numeric.compare?_eq_iff (a b : Numeric) :
    a.compare? b = some .eq ↔ ∃ v, a.value? = some v ∧ b.value? = some v := by
  cases a with
  | int i =>
    cases b with
    | int j =>
      rw [value?, value?, exists_common_iff, Sum.inr.injEq, Int.cast_inj, compare?, Option.some_inj,
        compare_eq_iff_eq]
    | float y => exact compareInt?_eq_iff i y
  | float x =>
    cases b with
    | int j =>
      have hswap (o : Option Ordering) : o.map Ordering.swap = some .eq ↔ o = some .eq := by
        rcases o with _ | _ | _ | _ <;> decide
      rw [compare?, hswap, compareInt?_eq_iff]
      exact exists_congr fun v => and_comm
    | float y => exact Data.compare?_eq_iff x y

/-- **Values are the same exactly if they have an identity in common**, unless they are lists or
maps. -/
theorem same_iff {x : Data} (hx : LiveResource.isKey x) (y : Data) :
    x.same y ↔ ∃ v, x.identity? = some v ∧ y.identity? = some v := by
  -- Numbers of whatever kind are compared by what they stand for; no two other kinds are the same.
  have hnumbers (a b : Numeric) : (a.compare? b == some .eq) = true ↔
      ∃ v, a.value?.map Identity.number = some v ∧ b.value?.map Identity.number = some v := by
    rw [beq_iff_eq, Numeric.compare?_eq_iff]
    cases a.value? <;> cases b.value? <;> simp
  cases x with
  | list => cases hx
  | map => cases hx
  | _ =>
    cases y <;>
      first
      | exact hnumbers _ _
      | simp only [same, identity?, exists_common_iff]; simp; done
      | simp [same, identity?, numeric?]

/-- Being the same goes both ways, from a value that is no list and no map. -/
theorem same_comm {x y : Data} (hx : LiveResource.isKey x) (hy : LiveResource.isKey y) :
    x.same y = y.same x := by
  rw [Bool.eq_iff_iff, same_iff hx, same_iff hy]
  exact exists_congr fun v => and_comm

/-- Values that are the same are the same as the same others. -/
theorem same_congr {x y : Data} (hx : LiveResource.isKey x) (hy : LiveResource.isKey y)
    (h : x.same y) (z : Data) : x.same z = y.same z := by
  obtain ⟨v, hxv, hyv⟩ := (same_iff hx y).1 h
  rw [Bool.eq_iff_iff, same_iff hx, same_iff hy, hxv, hyv]

end Data

namespace LiveResource

variable {r s t : LiveResource}

theorem sameKey_comm (hr : isKey r.id) (hs : isKey s.id) : r.sameKey s = s.sameKey r := by
  rw [sameKey, sameKey, Data.same_comm hr hs, Bool.beq_comm]

theorem sameKey_congr (hr : isKey r.id) (hs : isKey s.id) (h : r.sameKey s) (t : LiveResource) :
    r.sameKey t = s.sameKey t := by
  rw [sameKey, Bool.and_eq_true, beq_iff_eq] at h
  rw [sameKey, sameKey, h.1, Data.same_congr hr hs h.2]

end LiveResource

end Groundplan
