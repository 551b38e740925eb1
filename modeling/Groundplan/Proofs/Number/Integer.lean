import Groundplan.Number.Integer
import Groundplan.Proofs.Text.Classes
import Mathlib.Data.List.TakeWhile

/-!
# Integers in texts of digits

A text of digit characters is read as an integer exactly if all of them have a place value and there
are not too many. Neither blanks nor signs nor underscores are among digit characters, so nothing is
passed over on the way.

## Main definitions

* `IsNumeral`: a text of decimal digits, not too many
* `IsShort`: a natural whose decimal digits are not too many

## Main results

* `spanDigits_eq`: without underscores, the decimal digits at the start
* `integerOf_eq_ok_iff`: which texts of digit characters stand for an integer
* `integerOf_of_isNumeral`: which integer that is
* `integerOf_toString`: what is written in decimal digits is read again
-/

namespace Groundplan

open Text

/-! ## Digit characters -/

theorem isDigit_wideBlanks : ∀ n ∈ wideBlanks, isDigit (Char.ofNat n) = false := by
  decide +kernel

/-- No blank is a digit character. -/
theorem isBlank_eq_false_of_isDigit {c : Char} (h : isDigit c = true) : isBlank c = false := by
  by_cases hc : c.toNat < 128
  · exact ascii_induction (P := fun c => isDigit c = true → isBlank c = false)
      (by decide +kernel) hc h
  · by_contra hb
    rw [Bool.not_eq_false] at hb
    have hwide := isDigit_wideBlanks _ (toNat_mem_wideBlanks hb (by omega))
    rw [Char.ofNat_toNat, h] at hwide
    cases hwide

/-- Trimming changes nothing where there is nothing to trim. -/
theorem trimWith_eq_self {p : Char → Bool} {cs : List Char} (h : ∀ c ∈ cs, p c = false) :
    trimWith p cs = cs := by
  rw [trimWith, dropWhile_eq_self fun c hc => h c (List.mem_of_mem_head? hc), trimEndWith,
    dropWhile_eq_self fun c hc => h c (List.mem_reverse.mp (List.mem_of_mem_head? hc)),
    List.reverse_reverse]

/-- A text that does not begin with a sign has none. -/
theorem splitSign_eq {cs : List Char} (h : ∀ c ∈ cs.head?, c ≠ '-' ∧ c ≠ '+') :
    splitSign cs = (false, cs) := by
  cases cs with
  | nil => rfl
  | cons c cs =>
    obtain ⟨hminus, hplus⟩ := h c rfl
    rw [splitSign]
    · rintro _ ⟨⟩
      exact hminus rfl
    · rintro _ ⟨⟩
      exact hplus rfl

/-- **Without underscores** the decimal digits of a number are those at the start of its text. -/
theorem spanDigits_eq {cs : List Char} (h : ∀ c ∈ cs, c ≠ '_') :
    spanDigits cs = (cs.takeWhile isDecimal, cs.dropWhile isDecimal) := by
  fun_induction spanDigits cs with
  | case1 => rfl
  | case2 c hc => simp [hc]
  | case3 c hc => simp [hc]
  | case4 c d rest hc hd digits after heq ih =>
    simp only [Bool.and_eq_true, beq_iff_eq] at hd
    exact absurd hd.1 (h d (by simp))
  | case5 c d rest hc hd digits after heq ih =>
    rw [heq] at ih
    have ih := ih fun e he => h e (List.mem_cons_of_mem _ he)
    simp only [Prod.mk.injEq] at ih
    simp [List.takeWhile_cons, List.dropWhile_cons, hc, ih.1, ih.2]
  | case6 c d rest hc => simp [hc]

/-! ## Texts of digit characters -/

/-- A text of decimal digits, not too many to be taken. -/
def IsNumeral (cs : List Char) : Prop :=
  (∀ c ∈ cs, isDecimal c = true) ∧ cs.length ≤ maxIntegerDigits

instance (cs : List Char) : Decidable (IsNumeral cs) :=
  -- The characters of the text are gone through, not all characters that there are.
  @instDecidableAnd _ _ (List.decidableBAll (isDecimal · = true) cs)
    (Nat.decLe cs.length maxIntegerDigits)

/-- Reading a text of digit characters. -/
theorem readInt_eq {cs : List Char} (h : ∀ c ∈ cs, isDigit c = true) :
    readInt cs =
      if (cs.takeWhile isDecimal).isEmpty || !(cs.dropWhile isDecimal).isEmpty then
        .error .malformed
      else if maxIntegerDigits < (cs.takeWhile isDecimal).length then
        .error (.tooLong (cs.takeWhile isDecimal).length)
      else .ok (digitsValue (cs.takeWhile isDecimal)) := by
  have hblank : ∀ c ∈ cs, isNumberBlank c = false := fun c hc => by
    rw [isNumberBlank, isBlank_eq_false_of_isDigit (h c hc), Bool.false_and]
  have hne {d : Char} (hd : isDigit d = false) : ∀ c ∈ cs, c ≠ d := fun c hc hcd => by
    rw [← hcd, h c hc] at hd
    cases hd
  rw [readInt, trimWith_eq_self hblank, splitSign_eq fun c hc =>
    ⟨hne (by decide) c (List.mem_of_mem_head? hc), hne (by decide) c (List.mem_of_mem_head? hc)⟩]
  dsimp only
  rw [spanDigits_eq (hne (by decide))]
  rfl

/-- Reading succeeds for numerals. -/
theorem readInt_eq_ok_iff {cs : List Char} (hne : cs ≠ []) (h : ∀ c ∈ cs, isDigit c = true) :
    (∃ i, readInt cs = .ok i) ↔ IsNumeral cs := by
  rw [readInt_eq h]
  by_cases hall : ∀ c ∈ cs, isDecimal c = true
  · have htake : cs.takeWhile isDecimal = cs := List.takeWhile_eq_self_iff.mpr hall
    have hdrop : cs.dropWhile isDecimal = [] := List.dropWhile_eq_nil_iff.mpr hall
    rw [htake, hdrop, if_neg (by simp [hne])]
    by_cases hlength : maxIntegerDigits < cs.length
    · rw [if_pos hlength]
      exact iff_of_false (by simp) fun hnumeral => absurd hnumeral.2 (by omega)
    · rw [if_neg hlength]
      exact iff_of_true ⟨_, rfl⟩ ⟨hall, by omega⟩
  · -- A character that is no decimal digit is left over.
    have hdrop : cs.dropWhile isDecimal ≠ [] := fun hnil =>
      hall (List.dropWhile_eq_nil_iff.mp hnil)
    rw [if_pos (by simp [hdrop])]
    exact iff_of_false (by simp) fun hnumeral => hall hnumeral.1

/-- **A text of digit characters stands for an integer** exactly if all of them are decimal digits
and there are not too many. -/
theorem integerOf_eq_ok_iff (part : String) (hne : part.toList ≠ [])
    (h : ∀ c ∈ part.toList, isDigit c = true) :
    (∃ i, integerOf part = .ok i) ↔ IsNumeral part.toList := by
  rw [← readInt_eq_ok_iff hne h, integerOf]
  split <;> simp_all

/-- **The integer of a numeral** is what its digits stand for. -/
theorem integerOf_of_isNumeral {part : String} (hne : part.toList ≠ [])
    (h : IsNumeral part.toList) : integerOf part = .ok (digitsValue part.toList) := by
  have hread : readInt part.toList = .ok (digitsValue part.toList) := by
    rw [readInt_eq fun c hc => by rw [isDigit, h.1 c hc, Bool.true_or],
      List.takeWhile_eq_self_iff.2 h.1, List.dropWhile_eq_nil_iff.2 h.1, if_neg (by simp [hne]),
      if_neg (Nat.not_lt.2 h.2)]
  rw [integerOf, hread]

/-! ## Naturals in decimal digits -/

/-- A natural whose decimal digits are not too many to be taken. -/
def IsShort (n : Nat) : Prop :=
  (Nat.toDigits 10 n).length ≤ maxIntegerDigits

instance : DecidablePred IsShort :=
  fun n => inferInstanceAs (Decidable ((Nat.toDigits 10 n).length ≤ maxIntegerDigits))

theorem isDecimal_of_mem_toDigits {n : Nat} {c : Char} (h : c ∈ Nat.toDigits 10 n) :
    isDecimal c = true :=
  isDecimal_of_isDigit (Nat.isDigit_of_mem_toDigits (by decide) (by decide) h)

/-- **What is written in decimal digits is read again.** -/
theorem integerOf_toString {n : Nat} (h : IsShort n) : integerOf (toString n) = .ok n := by
  have hlist : (toString n).toList = Nat.toDigits 10 n := toList_toString n
  rw [integerOf_of_isNumeral (by rw [hlist]; exact Nat.toDigits_ne_nil)
    (by rw [hlist]; exact ⟨fun _ => isDecimal_of_mem_toDigits, h⟩), hlist, digitsValue_toDigits]

end Groundplan
