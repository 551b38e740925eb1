import Groundplan.Number.Decimal
import Mathlib.Data.List.Basic
import Mathlib.Data.List.TakeWhile

/-!
# Words, blanks and digits

Facts about the character classes that readers rely on: no character of a word is a blank, a text
without blanks at its ends is not changed by trimming, a text is split at its first separator, and
the digits of a natural stand for it.

## Main results

* `isBlank_eq_false_of_isWord`: words hold no blanks
* `trim_eq_self`: trimming changes nothing where neither end is a blank
* `trim_eq_nil_iff`, `head?_trim`, `getLast?_trim`, `trim_trim`: what is left by trimming
* `splitOn_append_cons`: the piece before the first separator
* `digitsValue_toDigits`: the digits of a natural stand for it
* `decimalText_injective`: an integer is known by its digits
-/

namespace Groundplan.Text

/-- A property of the ASCII characters holds of each of them if it holds of all 128. -/
theorem ascii_induction {P : Char → Prop} (h : ∀ n : Fin 128, P (Char.ofNat n)) {c : Char}
    (hc : c.toNat < 128) : P c := by
  have := h ⟨c.toNat, hc⟩
  rwa [Char.ofNat_toNat] at this

/-- A character of a class differs from one outside it. -/
theorem ne_of_class {p : Char → Bool} {c d : Char} (hc : p c = true) (hd : p d = false) :
    c ≠ d := by
  rintro rfl
  rw [hc] at hd
  exact Bool.noConfusion hd

/-! ## Names -/

/-- Identifiers begin with an ASCII character. -/
theorem toNat_lt_of_isNameStart {c : Char} (h : isNameStart c = true) : c.toNat < 128 := by
  rw [isNameStart, Bool.or_eq_true, beq_iff_eq] at h
  rcases h with h | rfl
  · rcases (Bool.or_eq_true _ _).mp h with h | h
    · have hZ : c.val ≤ 'Z'.val := (of_decide_eq_true h).2
      exact Nat.lt_of_le_of_lt (UInt32.le_iff_toNat_le.1 hZ) (by decide)
    · have hz : c.val ≤ 'z'.val := of_decide_eq_true ((Bool.and_eq_true _ _).mp h).2
      exact Nat.lt_of_le_of_lt (UInt32.le_iff_toNat_le.1 hz) (by decide)
  · decide

theorem isWord_of_isNameStart {c : Char} (h : isNameStart c = true) : isWord c = true := by
  simp only [isNameStart, Bool.or_eq_true] at h
  rcases h with h | h <;> simp [isWord, Char.isAlphanum, h]

theorem isNamePart_of_isWord {c : Char} (h : isWord c = true) : isNamePart c = true := by
  simp [isNamePart, h]

theorem isNamePart_of_isNameStart {c : Char} (h : isNameStart c = true) : isNamePart c = true :=
  isNamePart_of_isWord (isWord_of_isNameStart h)

/-- No number begins like an identifier. -/
theorem isDecimal_eq_false_of_isNameStart {c : Char} (h : isNameStart c = true) :
    isDecimal c = false :=
  ascii_induction (P := fun c => isNameStart c = true → isDecimal c = false)
    (by decide +kernel) (toNat_lt_of_isNameStart h) h

/-! ## Blanks -/

/-- The blanks beyond ASCII. -/
def wideBlanks : List Nat :=
  [0x85, 0xa0, 0x1680, 0x2028, 0x2029, 0x202f, 0x205f, 0x3000] ++ List.range' 0x2000 11

theorem toNat_mem_wideBlanks {c : Char} (h : isBlank c = true) (hc : 128 ≤ c.toNat) :
    c.toNat ∈ wideBlanks := by
  simp only [isBlank, Bool.or_eq_true, Bool.and_eq_true, decide_eq_true_eq, beq_iff_eq] at h
  simp only [wideBlanks, List.mem_append, List.mem_cons, List.not_mem_nil, or_false,
    List.mem_range'_1]
  omega

theorem inRanges_wideBlanks : ∀ n ∈ wideBlanks, inRanges wordRanges n = false := by
  -- The table is looked through as a list, which can be computed with.
  have h : ∀ n ∈ wideBlanks, (wordRanges.toList.any fun r => r.1 ≤ n && n ≤ r.2) = false := by
    decide +kernel
  intro n hn
  rw [inRanges, ← Array.any_toList]
  exact h n hn

/-- Words hold no blanks. -/
theorem isBlank_eq_false_of_isWord {c : Char} (h : isWord c = true) : isBlank c = false := by
  by_cases hc : c.toNat < 128
  · -- An ASCII character: all of them are tried.
    have hw : (c.isAlphanum || c == '_') = true := by
      rwa [isWord, decide_eq_false (Nat.not_le.2 hc), Bool.false_and, Bool.or_false] at h
    exact ascii_induction (P := fun c => (c.isAlphanum || c == '_') = true → isBlank c = false)
      (by decide +kernel) hc hw
  · -- Of the others no blank is in the table of words, and no letter or digit is among them.
    by_contra hb
    rw [Bool.not_eq_false] at hb
    have hw := inRanges_wideBlanks _ (toNat_mem_wideBlanks hb (by omega))
    rw [isWord, hw, Bool.and_false, Bool.or_false, Bool.or_eq_true, Char.isAlphanum,
      Bool.or_eq_true] at h
    rcases h with (h | h) | h
    · exact hc (toNat_lt_of_isNameStart (by rw [isNameStart, h, Bool.true_or]))
    · simp only [Char.isDigit, Bool.and_eq_true, decide_eq_true_eq, UInt32.le_iff_toNat_le] at h
      have h0 : c.toNat = c.val.toNat := rfl
      have h9 : '9'.val.toNat = 57 := rfl
      omega
    · exact hc (toNat_lt_of_isNameStart (by rw [isNameStart, h, Bool.or_true]))

theorem isBlank_eq_false_of_isNamePart {c : Char} (h : isNamePart c = true) :
    isBlank c = false := by
  simp only [isNamePart, Bool.or_eq_true, beq_iff_eq] at h
  rcases h with h | rfl
  · exact isBlank_eq_false_of_isWord h
  · decide

/-- Nothing is dropped from a text the first character of which is outside the class. -/
theorem dropWhile_eq_self {p : Char → Bool} {cs : List Char}
    (h : ∀ c ∈ cs.head?, p c = false) : cs.dropWhile p = cs := by
  cases cs with
  | nil => rfl
  | cons c cs => rw [List.dropWhile_cons_of_neg (by simpa using h c rfl)]

theorem takeWhile_eq_nil {p : Char → Bool} {cs : List Char}
    (h : ∀ c ∈ cs.head?, p c = false) : cs.takeWhile p = [] := by
  cases cs with
  | nil => rfl
  | cons c cs => rw [List.takeWhile_cons_of_neg (by simpa using h c rfl)]

/-- Trimming changes nothing where neither end is a blank. -/
theorem trim_eq_self {cs : List Char} (hhead : ∀ c ∈ cs.head?, isBlank c = false)
    (hlast : ∀ c ∈ cs.getLast?, isBlank c = false) : trim cs = cs := by
  rw [trim, trimWith, dropWhile_eq_self hhead, trimEndWith, dropWhile_eq_self, List.reverse_reverse]
  rwa [List.head?_reverse]

/-- Trimming stops at the first character that is no blank. -/
theorem trim_of_dropWhile {cs rest : List Char} {c : Char}
    (h : cs.dropWhile isBlank = c :: rest) :
    isBlank c = false ∧ trim cs = c :: trimEndWith isBlank rest := by
  have hc : isBlank c = false := by simpa [h] using List.head?_dropWhile_not isBlank cs
  refine ⟨hc, ?_⟩
  rw [trim, trimWith, h, trimEndWith, List.reverse_cons, List.dropWhile_append, trimEndWith]
  split
  · rename_i hempty
    rw [List.isEmpty_iff.1 hempty]
    simp [hc]
  · simp

/-- Nothing is left of a text by trimming exactly if it is all blanks. -/
theorem trim_eq_nil_iff {cs : List Char} : trim cs = [] ↔ ∀ c ∈ cs, isBlank c = true := by
  rw [← List.dropWhile_eq_nil_iff]
  cases h : cs.dropWhile isBlank with
  | nil => simp [trim, trimWith, h, trimEndWith]
  | cons c rest => simp [(trim_of_dropWhile h).2]

/-- What is left of a text by trimming does not begin with a blank. -/
theorem head?_trim {cs : List Char} : ∀ c ∈ (trim cs).head?, isBlank c = false := by
  cases h : cs.dropWhile isBlank with
  | nil => simp [trim, trimWith, h, trimEndWith]
  | cons c rest =>
    obtain ⟨hc, htrim⟩ := trim_of_dropWhile h
    simp [htrim, hc]

/-- Nor does it end with one. -/
theorem getLast?_trim {cs : List Char} : ∀ c ∈ (trim cs).getLast?, isBlank c = false := by
  intro c hc
  rw [trim, trimWith, trimEndWith, List.getLast?_reverse] at hc
  have hlast := List.head?_dropWhile_not isBlank (cs.dropWhile isBlank).reverse
  rw [hc] at hlast
  simpa using hlast

/-- Trimming twice is trimming once. -/
theorem trim_trim (cs : List Char) : trim (trim cs) = trim cs :=
  trim_eq_self head?_trim getLast?_trim

/-! ## Pieces -/

section Pieces

variable {sep : Char} {cs rest : List Char}

theorem beq_eq_false_of_notMem (h : sep ∉ cs) : ∀ c ∈ cs, (fun c => c == sep) c = false := by
  intro c hc
  rw [beq_eq_false_iff_ne]
  rintro rfl
  exact h hc

theorem splitOn_append_cons (h : sep ∉ cs) :
    splitOn sep (cs ++ sep :: rest) = cs :: splitOn sep rest := by
  rw [splitOn, splitOn, List.splitOn_eq_splitOnP, List.splitOn_eq_splitOnP,
    List.splitOnP_append_cons_of_forall_mem (beq_eq_false_of_notMem h) sep (beq_self_eq_true sep)]

/-- The pieces on either side of a separator, whatever they hold themselves. -/
theorem splitOn_append (cs rest : List Char) :
    splitOn sep (cs ++ sep :: rest) = splitOn sep cs ++ splitOn sep rest := by
  simp only [splitOn, List.splitOn_eq_splitOnP]
  exact List.splitOnP_append_cons cs rest (beq_self_eq_true sep)

theorem splitOn_of_notMem (h : sep ∉ cs) : splitOn sep cs = [cs] := by
  rw [splitOn, List.splitOn_eq_splitOnP, List.splitOnP_eq_singleton (beq_eq_false_of_notMem h)]

end Pieces

/-! ## Digits -/

theorem isDecimal_of_isDigit {c : Char} (h : c.isDigit = true) : isDecimal c = true := by
  simp [isDecimal, decimalValue?, h]

theorem digitsValue_eq_ofDigitChars {cs : List Char} (h : ∀ c ∈ cs, c.isDigit = true) :
    digitsValue cs = Nat.ofDigitChars 10 cs 0 := by
  rw [digitsValue, Nat.ofDigitChars_eq_foldl]
  refine List.foldl_ext _ _ 0 fun n c hc => ?_
  simp [decimalValue?, h c hc]

/-- **The decimal digits of a natural stand for it.** -/
theorem digitsValue_toDigits (n : Nat) : digitsValue (Nat.toDigits 10 n) = n := by
  rw [digitsValue_eq_ofDigitChars fun c hc =>
    Nat.isDigit_of_mem_toDigits (by decide) (by decide) hc]
  exact Nat.ofDigitChars_toDigits (by decide) (by decide)

theorem toList_toString (n : Nat) : (toString n).toList = Nat.toDigits 10 n := by
  rw [Nat.toString_eq_repr, Nat.toList_repr]

theorem isDigit_of_mem_toDigits {n : Nat} {c : Char} (h : c ∈ Nat.toDigits 10 n) :
    c.isDigit = true :=
  Nat.isDigit_of_mem_toDigits (by decide) (by decide) h

theorem notMem_toDigits {c : Char} (h : c.isDigit = false) (n : Nat) : c ∉ Nat.toDigits 10 n := by
  intro hmem
  rw [isDigit_of_mem_toDigits hmem] at h
  cases h

/-- The text of an integer is its digits, after a hyphen if it is negative. -/
theorem toList_decimalText (i : Int) :
    (decimalText i).toList = (if i < 0 then ['-'] else []) ++ Nat.toDigits 10 i.natAbs := by
  rw [decimalText]
  split <;> simp [Nat.toList_repr]

theorem isDigit_of_mem_decimalText {i : Int} {c : Char} (h : c ∈ (decimalText i).toList) :
    c.isDigit = true ∨ c = '-' := by
  rw [toList_decimalText, List.mem_append] at h
  rcases h with h | h
  · split at h
    · exact .inr (by simpa using h)
    · cases h
  · exact .inl (isDigit_of_mem_toDigits h)

theorem notMem_decimalText {c : Char} (h : c.isDigit = false) (hhyphen : c ≠ '-') (i : Int) :
    c ∉ (decimalText i).toList := by
  intro hmem
  rcases isDigit_of_mem_decimalText hmem with hdigit | rfl
  · rw [hdigit] at h
    cases h
  · exact hhyphen rfl

/-- **An integer is known by its digits.** -/
theorem decimalText_injective : Function.Injective decimalText := by
  intro i j h
  have hchars := congrArg String.toList h
  have hhyphen (n : Nat) (cs : List Char) : Nat.toDigits 10 n ≠ '-' :: cs := fun he =>
    notMem_toDigits (by decide) n (he ▸ List.mem_cons_self)
  have habs (he : Nat.toDigits 10 i.natAbs = Nat.toDigits 10 j.natAbs) : i.natAbs = j.natAbs := by
    rw [← digitsValue_toDigits i.natAbs, he, digitsValue_toDigits]
  rw [toList_decimalText, toList_decimalText] at hchars
  -- a hyphen is no digit, so both have it or neither has
  split at hchars <;> split at hchars
  · have := habs (List.append_cancel_left hchars)
    omega
  · exact absurd hchars.symm (hhyphen _ _)
  · exact absurd hchars (hhyphen _ _)
  · have := habs hchars
    omega

end Groundplan.Text
