import Groundplan.Hcl.Nesting
import Groundplan.Proofs.Text.Classes
import Mathlib.Data.List.Induction

/-!
# String literals

A text without templates, written as a literal, reads as itself: every scanner passes over exactly
the literal, and unescaping its inside gives the text back.

## Main definitions

* `PlainText`: a text that opens no template
* `PlainText.literal`: the literal that stands for it
* `Inside`: what may stand between the quotes of a literal

## Main results

* `closeQuote_inside`, `skipString_inside`: a literal ends at its own quote
* `PlainText.unescape_escaped`: its inside stands for the text
* `PlainText.readKey?_literal`, `readLabels_literals`: literals as keys and as labels
-/

namespace Groundplan.Hcl

open Text

/-! ## Writing literals -/

/-- A character with which a template may begin. -/
def isSigil (c : Char) : Bool :=
  c == '$' || c == '%'

/-- Whether a text opens a template somewhere. -/
def opensTemplate : List Char → Bool
  | c :: d :: rest => (isSigil c && d == '\x7b') || opensTemplate (d :: rest)
  | _ => false

/-- A text that opens no template. -/
structure PlainText where
  chars : List Char
  plain : opensTemplate chars = false
deriving DecidableEq

/-- One character inside a literal. -/
def writeChar (c : Char) : List Char :=
  if c == '\n' then ['\\', 'n']
  else if c == '\t' then ['\\', 't']
  else if c == '\r' then ['\\', 'r']
  else if c == '"' then ['\\', '"']
  else if c == '\\' then ['\\', '\\']
  else [c]

/-- The inside of the literal that stands for a text. -/
def escaped (cs : List Char) : List Char :=
  cs.flatMap writeChar

/-- The text itself. -/
def PlainText.text (s : PlainText) : String :=
  String.ofList s.chars

/-- The literal that stands for a text. -/
def PlainText.literal (s : PlainText) : List Char :=
  '"' :: (escaped s.chars ++ ['"'])

@[simp] theorem escaped_nil : escaped [] = [] := rfl

@[simp] theorem escaped_cons (c : Char) (cs : List Char) :
    escaped (c :: cs) = writeChar c ++ escaped cs := rfl

/-- A character is written as an escape that stands for it, or as it is. -/
theorem writeChar_cases (c : Char) :
    (∃ e, writeChar c = ['\\', e] ∧ simpleEscape? e = some c) ∨
    (writeChar c = [c] ∧ c ≠ '\\' ∧ c ≠ '"' ∧ c ≠ '\n') := by
  by_cases h : c = '\n' ∨ c = '\t' ∨ c = '\r' ∨ c = '"' ∨ c = '\\'
  · left
    rcases h with rfl | rfl | rfl | rfl | rfl
    · exact ⟨'n', rfl, rfl⟩
    · exact ⟨'t', rfl, rfl⟩
    · exact ⟨'r', rfl, rfl⟩
    · exact ⟨'"', rfl, rfl⟩
    · exact ⟨'\\', rfl, rfl⟩
  · right
    push Not at h
    obtain ⟨h1, h2, h3, h4, h5⟩ := h
    exact ⟨by simp [writeChar, h1, h2, h3, h4, h5], h5, h4, h1⟩

/-! ## The inside of a literal -/

/-- A character that stands for itself before a text: it neither begins an escape nor ends the
literal, and a sigil is not followed by another one of its kind or by a brace. -/
def Passes (c : Char) (tail : List Char) : Prop :=
  c ≠ '\\' ∧ c ≠ '"' ∧ c ≠ '\n' ∧ (isSigil c = true → ∀ d ∈ tail.head?, d ≠ c ∧ d ≠ '\x7b')

/-- What may stand between the quotes of a literal: escapes, doubled sigils, and characters that
stand for themselves. -/
inductive Inside : List Char → Prop
  | nil : Inside []
  | escape (c : Char) {cs : List Char} (h : Inside cs) : Inside ('\\' :: c :: cs)
  | twin {c : Char} {cs : List Char} (hc : isSigil c = true) (h : Inside cs) : Inside (c :: c :: cs)
  | char {c : Char} {cs : List Char} (hc : Passes c cs) (h : Inside cs) : Inside (c :: cs)

/-- The first character of a written text that the text does not hold itself is a backslash. -/
theorem head?_escaped {d : Char} {cs : List Char} (h : d ∈ (escaped cs).head?) :
    d = '\\' ∨ d ∈ cs.head? := by
  cases cs with
  | nil => simp at h
  | cons c cs =>
    rcases writeChar_cases c with ⟨e, he, -⟩ | ⟨he, -⟩
    · rw [escaped_cons, he] at h
      exact .inl (by simpa [eq_comm] using h)
    · rw [escaped_cons, he] at h
      exact .inr (by simpa using h)

theorem inside_escaped {cs : List Char} (h : opensTemplate cs = false) : Inside (escaped cs) := by
  induction cs using List.twoStepInduction with
  | nil => exact .nil
  | singleton c =>
    -- nothing follows that could turn a sigil into an opening
    rcases writeChar_cases c with ⟨e, he, -⟩ | ⟨he, h1, h2, h3⟩
    · rw [escaped_cons, he]
      exact .escape e .nil
    · rw [escaped_cons, he]
      exact .char ⟨h1, h2, h3, by simp⟩ .nil
  | cons_cons c d cs ih ih' =>
    simp only [opensTemplate, Bool.or_eq_false_iff, Bool.and_eq_false_iff] at h
    obtain ⟨hopen, hrest⟩ := h
    rcases writeChar_cases c with ⟨e, he, -⟩ | ⟨he, h1, h2, h3⟩
    · rw [escaped_cons, he]
      exact .escape e (ih' d hrest)
    · rw [escaped_cons, he]
      by_cases htwin : isSigil c = true ∧ d = c
      · -- a doubled sigil is passed over as a whole
        obtain ⟨hc, rfl⟩ := htwin
        rw [escaped_cons, he]
        refine .twin hc (ih ?_)
        cases cs with
        | nil => rfl
        | cons f cs => exact (Bool.or_eq_false_iff.1 hrest).2
      · -- any other character stands for itself: what follows is an escape or `d`
        refine .char ⟨h1, h2, h3, fun hc f hf => ?_⟩ (ih' d hrest)
        rcases head?_escaped hf with rfl | hf
        · exact ⟨h1.symm, by decide⟩
        · obtain rfl : d = f := by simpa using hf
          refine ⟨fun hd => htwin ⟨hc, hd⟩, ?_⟩
          simpa [hc] using hopen

/-! ## Scanners at a literal -/

section Scanners

variable {c : Char} {tail : List Char}

theorem passes_append {cs : List Char} (h : Passes c cs) (rest : List Char) :
    Passes c (cs ++ '"' :: rest) := by
  refine ⟨h.1, h.2.1, h.2.2.1, fun hc d hd => ?_⟩
  cases cs with
  | nil =>
    -- the quote itself follows, which is no sigil and no brace
    obtain rfl : '"' = d := by simpa using hd
    exact ⟨h.2.1.symm, by decide⟩
  | cons e cs => exact h.2.2.2 hc d hd

theorem ne_of_isSigil (h : isSigil c = true) : c ≠ '\\' ∧ c ≠ '"' ∧ c ≠ '\n' := by
  simp only [isSigil, Bool.or_eq_true, beq_iff_eq] at h
  rcases h with rfl | rfl <;> decide

theorem skipRegion_of_passes (h : Passes c tail) (n : Nat) (hn : (c :: tail).length ≤ n) :
    (skipRegion n .quoted (c :: tail) hn).map (·.val) =
      (skipRegion n .quoted tail (Nat.le_of_succ_le hn)).map (·.val) := by
  obtain ⟨h1, h2, h3, h4⟩ := h
  rw [skipRegion]
  simp only [beq_iff_eq, h1, h2, h3, ↓reduceIte]
  split
  · rename_i hc
    cases tail with
    | nil => simp [skipRegion]
    | cons d more =>
      obtain ⟨hd, hbrace⟩ := h4 hc d rfl
      simp only [hd, hbrace, ↓reduceIte]
  · rfl

theorem skipRegion_of_isSigil (h : isSigil c = true) (n : Nat)
    (hn : (c :: c :: tail).length ≤ n) :
    (skipRegion n .quoted (c :: c :: tail) hn).map (·.val) =
      (skipRegion n .quoted tail (Nat.le_of_succ_le (Nat.le_of_succ_le hn))).map (·.val) := by
  have hne := ne_of_isSigil h
  simp only [isSigil] at h
  rw [skipRegion]
  simp only [beq_iff_eq, hne, h, ↓reduceIte]

theorem regionFits_of_passes (h : Passes c tail) (levels : Nat) :
    regionFits levels .quoted (c :: tail) = regionFits levels .quoted tail := by
  obtain ⟨h1, h2, h3, h4⟩ := h
  rw [regionFits.eq_def]
  simp only [beq_iff_eq, h1, h2, h3, Bool.or_eq_true, or_self, ↓reduceIte]
  split
  · rename_i hc
    cases tail with
    | nil => simp [regionFits.eq_def]
    | cons d more =>
      obtain ⟨hd, hbrace⟩ := h4 (by simpa [isSigil] using hc) d rfl
      simp only [hd, hbrace, ↓reduceIte]
  · rfl

theorem regionFits_of_isSigil (h : isSigil c = true) (levels : Nat) :
    regionFits levels .quoted (c :: c :: tail) = regionFits levels .quoted tail := by
  have hne := ne_of_isSigil h
  simp only [isSigil] at h
  rw [regionFits.eq_def]
  simp only [beq_iff_eq, hne, h, Bool.or_eq_true, or_self, ↓reduceIte]

end Scanners

/-- What is left after the inside of a literal and its quote, whatever bound comes with it. -/
theorem skipRegion_inside {inside : List Char} (hin : Inside inside) (rest : List Char) (n : Nat)
    (h : (inside ++ '"' :: rest).length ≤ n) :
    (skipRegion n .quoted (inside ++ '"' :: rest) h).map (·.val) = some rest := by
  -- Induction on the inside: one lemma for each of its parts says how the scanner passes it.
  induction hin generalizing n with
  | nil =>
    simp only [List.nil_append]
    rw [skipRegion]
    simp
  | escape c _ ih =>
    simp only [List.cons_append]
    rw [skipRegion]
    simp only [beq_self_eq_true, ↓reduceIte, List.drop_one, List.tail_cons]
    exact ih n _
  | twin hc _ ih => exact (skipRegion_of_isSigil hc n h).trans (ih n _)
  | char hc _ ih => exact (skipRegion_of_passes (passes_append hc rest) n h).trans (ih n _)

/-- No templates stand in a literal without templates. -/
theorem regionFits_inside {inside : List Char} (hin : Inside inside) (rest : List Char)
    (levels : Nat) : regionFits levels .quoted (inside ++ '"' :: rest) = true := by
  induction hin with
  | nil => simp [regionFits.eq_def]
  | escape c _ ih =>
    rw [List.cons_append, List.cons_append, regionFits.eq_def]
    simpa using ih
  | twin hc _ ih => exact (regionFits_of_isSigil hc levels).trans ih
  | char hc _ ih => exact (regionFits_of_passes (passes_append hc rest) levels).trans ih

/-- A literal ends at its own quote. -/
theorem closeQuote_inside {inside : List Char} (h : Inside inside) (rest : List Char) :
    closeQuote (inside ++ '"' :: rest) = some rest :=
  skipRegion_inside h rest _ _

theorem skipString_inside {inside : List Char} (h : Inside inside) (rest : List Char) :
    skipString (inside ++ '"' :: rest) = rest := by
  rw [skipString, closeQuote_inside h, Option.getD_some]

/-! ## Reading literals -/

@[simp] theorem consumed_append (cs rest : List Char) : consumed (cs ++ rest) rest = cs := by
  simp [consumed]

theorem dropLast_consumed (cs : List Char) (c : Char) (rest : List Char) :
    (consumed (cs ++ c :: rest) rest).dropLast = cs := by
  rw [← List.singleton_append, ← List.append_assoc, consumed_append, List.dropLast_concat]

/-- A character that is no backslash stands for itself. -/
theorem unescapeFrom_cons_of_ne {c : Char} (h : c ≠ '\\') (done cs : List Char) :
    unescapeFrom done (c :: cs) = unescapeFrom (c :: done) cs := by
  cases cs with
  | nil => rw [unescapeFrom, unescapeFrom]
  | cons d cs => rw [unescapeFrom]; simp [h]

/-- Unescaping undoes escaping, character by character. -/
theorem unescapeFrom_escaped (done cs : List Char) :
    unescapeFrom done (escaped cs) = done.reverse ++ cs := by
  induction cs generalizing done with
  | nil => rw [escaped_nil, unescapeFrom, List.append_nil]
  | cons c cs ih =>
    rw [escaped_cons]
    rcases writeChar_cases c with ⟨e, he, hsimple⟩ | ⟨he, hslash, -⟩
    · rw [he, List.cons_append, List.cons_append, List.nil_append, unescapeFrom, hsimple]
      simpa using ih (c :: done)
    · -- a character that is written as it is, which is no backslash
      rw [he, List.cons_append, List.nil_append, unescapeFrom_cons_of_ne hslash, ih]
      simp

namespace PlainText

variable (s : PlainText) (rest : List Char)

/-- The inside of a literal stands for its text. -/
theorem unescape_escaped : unescape (escaped s.chars) = s.text := by
  rw [unescape, unescapeFrom_escaped, List.reverse_nil, List.nil_append, text]

/-- **A literal ends at its own quote.** -/
theorem closeQuote_literal : closeQuote (escaped s.chars ++ '"' :: rest) = some rest :=
  closeQuote_inside (inside_escaped s.plain) rest

theorem literal_append : s.literal ++ rest = '"' :: (escaped s.chars ++ '"' :: rest) := by
  simp [literal]

/-- A literal is read as a key that is its text. -/
theorem readKey?_literal : readKey? (s.literal ++ rest) = some (s.text, rest) := by
  rw [literal_append, readKey?]
  simp only [beq_self_eq_true, ↓reduceIte, closeQuote_literal, Option.map_some, dropLast_consumed,
    unescape_escaped]

end PlainText

theorem dropWhile_isSpacing_of_ne {c : Char} {cs : List Char} (h : isSpacing c = false) :
    (c :: cs).dropWhile isSpacing = c :: cs :=
  List.dropWhile_cons_of_neg (by simp [h])

/-- Literals apart by spaces are read as labels, up to what cannot begin one. -/
theorem readLabels_literals (labels : List PlainText) (done : List String) {cs : List Char}
    (hstop : readKey? (cs.dropWhile isSpacing) = none) :
    readLabels done (labels.flatMap (fun l => ' ' :: l.literal) ++ cs) =
      (done.reverse ++ labels.map PlainText.text, cs.dropWhile isSpacing) := by
  induction labels generalizing done with
  | nil =>
    rw [List.flatMap_nil, List.nil_append, readLabels]
    split
    · -- a further label: what follows begins none
      rename_i h
      rw [hstop] at h
      cases h
    · simp
  | cons l labels ih =>
    have hkey (more : List Char) : readKey? ((' ' :: l.literal ++ more).dropWhile isSpacing) =
        some (l.text, more) := by
      rw [List.cons_append, List.dropWhile_cons_of_pos (by decide), PlainText.literal_append,
        dropWhile_isSpacing_of_ne (by decide), ← PlainText.literal_append,
        PlainText.readKey?_literal]
    rw [List.flatMap_cons, List.append_assoc, readLabels]
    split
    · rename_i label more h
      rw [hkey] at h
      cases h
      rw [ih]
      simp
    · rename_i h
      rw [hkey] at h
      cases h

end Groundplan.Hcl
