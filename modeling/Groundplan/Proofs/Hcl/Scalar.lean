import Groundplan.Proofs.Hcl.Passage
import Groundplan.Proofs.Hcl.Source

/-!
# Reading scalars

What a text has to be like for every scanner to take it for one value, and the scalars, which are
written as such texts and read as their values. Reading takes room, so a result is stated together
with the condition that it fits.

## Main definitions

* `Room.fits`: whether so many levels fit into a room
* `Reading.given`: a result under the condition that it fits
* `ValueText`: a text that every scanner takes for one value

## Main results

* `Reading.within_given`, `Reading.mapM_given`, `Reading.foldlM_given`: conditions add up
* `Scalar.valueText`, `Scalar.readValue_source`: scalars are written as such texts and read back
-/

namespace Groundplan.Hcl

open Text

/-! ## Room -/

/-- Whether so many levels fit into a room. -/
def Room.fits (room : Room) (levels : Nat) : Bool :=
  match room with
  | none => true
  | some n => levels ≤ n

@[simp] theorem Room.fits_zero (room : Room) : room.fits 0 = true := by
  cases room with
  | none => rfl
  | some n => exact decide_eq_true (Nat.zero_le n)

theorem Room.fits_max (room : Room) (m n : Nat) :
    room.fits (max m n) = (room.fits m && room.fits n) := by
  cases room with
  | none => rfl
  | some k =>
    rw [Bool.eq_iff_iff]
    simp only [fits, decide_eq_true_eq, Bool.and_eq_true]
    omega

namespace Reading

variable {α β σ : Type}

/-- A result if it fits, and too deep nesting otherwise. -/
def given (fits : Bool) (a : α) : Reading α :=
  if fits then ofValue a else stop .deepNesting

@[simp] theorem given_true (a : α) : given true a = ofValue a := rfl

theorem ofValue_bind (a : α) (f : α → Reading β) : ofValue a >>= f = f a := by
  show (ofValue a).andThen f = f a
  simp [andThen, ofValue]

theorem given_bind {fits fits' : Bool} {a : α} {f : α → Reading β} {b : β}
    (h : f a = given fits' b) : (given fits a >>= f) = given (fits && fits') b := by
  cases fits with
  | false => rfl
  | true => rw [given_true, ofValue_bind, h, Bool.true_and]

theorem given_map (fits : Bool) (a : α) (f : α → β) :
    (given fits a >>= fun a => ofValue (f a)) = given fits (f a) := by
  cases fits with
  | false => rfl
  | true => exact ofValue_bind a _

/-- A level further in, a level more is needed. -/
theorem within_given {levels n : Nat} {f : Room → Reading α} {a : α}
    (h : ∀ room : Room, f room = given (room.fits n) a) (room : Room) :
    within levels room f = given (room.fits (levels + n)) a := by
  cases room with
  | none => exact h none
  | some m =>
    by_cases hm : levels ≤ m
    · -- what is left has room for `n` exactly where the whole has room for both
      have : Room.fits (some (m - levels)) n = Room.fits (some m) (levels + n) := by
        rw [Bool.eq_iff_iff]
        simp only [Room.fits, decide_eq_true_eq]
        omega
      rw [within, if_pos hm, h, this]
    · have : Room.fits (some m) (levels + n) = false := by
        simp only [Room.fits, decide_eq_false_iff_not]
        omega
      rw [within, if_neg hm, this]
      rfl

theorem mapM_given {f : α → Reading β} {fits : α → Bool} {g : α → β} {xs : List α}
    (h : ∀ x ∈ xs, f x = given (fits x) (g x)) :
    xs.mapM f = given (xs.all fits) (xs.map g) := by
  induction xs with
  | nil => rfl
  | cons x xs ih =>
    rw [List.forall_mem_cons] at h
    rw [List.mapM_cons, h.1, List.all_cons]
    refine given_bind ?_
    rw [ih h.2]
    exact given_map _ _ fun ys => g x :: ys

theorem foldlM_given {f : σ → α → Reading σ} {fits : α → Bool} {g : σ → α → σ} {xs : List α}
    (h : ∀ x ∈ xs, ∀ s, f s x = given (fits x) (g s x)) (s : σ) :
    xs.foldlM f s = given (xs.all fits) (xs.foldl g s) := by
  induction xs generalizing s with
  | nil => rfl
  | cons x xs ih =>
    rw [List.forall_mem_cons] at h
    rw [List.foldlM_cons, h.1, List.all_cons, List.foldl_cons]
    exact given_bind (ih h.2 _)

end Reading

/-! ## Reading by shape -/

section Shapes

variable {room : Room} {cs inner : List Char}

theorem readValue_of_value {v : Value} (hcs : cs ≠ []) (h : shapeOf cs = .value v) :
    readValue room cs = .ofValue v := by
  rw [readValue, dif_neg hcs]
  split
  · rename_i hs; rw [h] at hs; cases hs; rfl
  all_goals rename_i hs; rw [h] at hs; cases hs

theorem readValue_of_integer {negative : Bool} {digits : List Char} (hcs : cs ≠ [])
    (h : shapeOf cs = .integer negative digits) :
    readValue room cs = integerValue negative digits := by
  rw [readValue, dif_neg hcs]
  split
  · rename_i hs; rw [h] at hs; cases hs
  · rename_i hs; rw [h] at hs; cases hs; rfl
  all_goals rename_i hs; rw [h] at hs; cases hs

/-- A list is read item by item. -/
theorem readValue_of_list (hcs : cs ≠ []) (h : shapeOf cs = .list inner) :
    readValue room cs = ((elements inner).mapM fun item =>
      Reading.within 2 room fun room => readValue room item) >>= fun items =>
        .ofValue (.list items) := by
  rw [readValue, dif_neg hcs]
  split
  · rename_i hs; rw [h] at hs; cases hs
  · rename_i hs; rw [h] at hs; cases hs
  · rename_i hs
    rw [h] at hs
    cases hs
    -- The reader goes through the items together with the proof that they are shorter.
    conv => rhs; rw [← List.attach_map_subtype_val (elements inner), List.mapM_map]
    rfl
  · rename_i hs; rw [h] at hs; cases hs

theorem readValue_of_map (hcs : cs ≠ []) (h : shapeOf cs = .map inner) :
    readValue room cs = readBody room true inner >>= fun entries => .ofValue (.map entries) := by
  rw [readValue, dif_neg hcs]
  split
  · rename_i hs; rw [h] at hs; cases hs
  · rename_i hs; rw [h] at hs; cases hs
  · rename_i hs; rw [h] at hs; cases hs
  · rename_i hs; rw [h] at hs; cases hs; rfl

/-- A text that begins like no number and is no word of its own is a string, a list, a map or an
expression. -/
theorem shapeOf_eq_literalShape {c : Char} {rest : List Char} (hdecimal : isDecimal c = false)
    (hhyphen : c ≠ '-') (hword : ∀ word ∈ ["true", "false", "null"], c :: rest ≠ word.toList) :
    shapeOf (c :: rest) = literalShape (c :: rest) := by
  have hint : integerLiteral? (c :: rest) = none := by
    simp only [integerLiteral?]
    split
    · rename_i h
      exact absurd (List.cons.inj h).1 hhyphen
    · simp [hdecimal]
  have hnumber : numberLiteral? (c :: rest) = none := by
    simp only [numberLiteral?]
    split
    · rename_i h
      exact absurd (List.cons.inj h).1 hhyphen
    · simp [hdecimal]
  simp only [List.forall_mem_cons] at hword
  rw [shapeOf, if_neg (by simp), if_neg (by simpa using hword.1), if_neg (by simpa using hword.2.1),
    if_neg (by simpa using hword.2.2.1), hint, hnumber]

end Shapes

/-! ## Texts of values -/

/-- A text that every scanner takes for one value: it is a strict passage without blanks at its
ends, begins no heredoc and no `for` expression. -/
structure ValueText (cs : List Char) : Prop where
  passage : Passage false cs
  head : ∀ c ∈ cs.head?, isBlank c = false ∧ c ≠ '<'
  last : ∀ c ∈ cs.getLast?, isBlank c = false
  nonempty : cs ≠ []
  loopless : ∀ rest, isForExpression (cs ++ rest) = false

/-- A text that does not begin with a blank or an `f` begins no `for` expression. -/
theorem isForExpression_of_ne {c : Char} {rest : List Char} (hblank : isBlank c = false)
    (hf : c ≠ 'f') : isForExpression (c :: rest) = false := by
  rw [isForExpression, List.dropWhile_cons_of_neg (by simp [hblank])]
  split
  · rename_i h
    exact absurd (List.cons.inj h).1 hf
  · rfl

/-- A text without blanks that is no beginning of `for` begins no `for` expression. -/
theorem isForExpression_of_dot {cs : List Char} (hblank : ∀ c ∈ cs, isBlank c = false)
    (hdot : '.' ∈ cs) (rest : List Char) : isForExpression (cs ++ rest) = false := by
  have hhead : (cs ++ rest).dropWhile isBlank = cs ++ rest := by
    refine dropWhile_eq_self fun c hc => hblank c ?_
    cases cs with
    | nil => cases hdot
    | cons d ds =>
      obtain rfl : d = c := by simpa using hc
      exact List.mem_cons_self
  rw [isForExpression, hhead]
  split
  · -- a text of one to three characters is `f`, `fo` or `for` and has no dot; in a longer one the
    -- character behind `for` would be a blank
    rename_i c more h
    match cs, hdot, h with
    | [_], hdot, h | [_, _], hdot, h | [_, _, _], hdot, h => simp_all
    | _ :: _ :: _ :: d :: ds, _, h =>
      obtain rfl : d = c := by simp_all
      exact hblank d (by simp)
  · rfl

/-- The characters of names begin and end nothing. -/
theorem isMark_eq_false_of_isNamePart {c : Char} (h : isNamePart c = true) :
    isMark c = false ∧ isStop c = false := by
  have hne {d : Char} (hd : isNamePart d = false) : (c == d) = false :=
    beq_eq_false_iff_ne.2 (ne_of_class h hd)
  constructor
  · simp only [isMark, isOpener, isCloser, Bool.or_eq_false_iff]
    refine ⟨⟨⟨⟨⟨?_, ?_⟩, ?_⟩, ?_⟩, ⟨?_, ?_⟩, ?_⟩, ⟨?_, ?_⟩, ?_⟩ <;> exact hne (by decide +kernel)
  · simp only [isStop, Bool.or_eq_false_iff]
    exact ⟨hne (by decide +kernel), hne (by decide +kernel)⟩

/-- A text of names and dots is the text of a value. -/
theorem valueText_of_names {cs : List Char} (hne : cs ≠ [])
    (hchars : ∀ c ∈ cs, isNamePart c = true ∨ c = '.')
    (hloop : ∀ rest, isForExpression (cs ++ rest) = false) : ValueText cs := by
  have hblank (c : Char) (hc : c ∈ cs) : isBlank c = false := by
    rcases hchars c hc with h | rfl
    · exact isBlank_eq_false_of_isNamePart h
    · decide
  refine ⟨.of_forall fun c hc => ?_, fun c hc => ?_, fun c hc => ?_, hne, hloop⟩
  · -- no character is one that a scanner stops at
    rcases hchars c hc with h | rfl
    · exact isMark_eq_false_of_isNamePart h
    · decide
  · refine ⟨hblank c (List.mem_of_mem_head? hc), ?_⟩
    rcases hchars c (List.mem_of_mem_head? hc) with h | rfl
    · exact ne_of_class h (by decide +kernel)
    · decide
  · exact hblank c (List.mem_of_mem_getLast? hc)

/-! ## Scalars -/

theorem Identifier.isNamePart_of_mem {n : Identifier} {c : Char} (h : c ∈ n.chars) :
    isNamePart c = true := by
  rcases List.mem_cons.1 h with rfl | h
  · exact isNamePart_of_isNameStart n.head_isNameStart
  · exact n.tail_isNamePart c h

/-- The characters of a reference are those of its names, and dots. -/
theorem Reference.mem_chars {r : Reference} {c : Char} (h : c ∈ r.chars) :
    isNamePart c = true ∨ c = '.' := by
  simp only [Reference.chars, List.mem_append, List.mem_flatMap, List.mem_cons] at h
  rcases h with h | ⟨n, -, rfl | h⟩
  · exact .inl (Identifier.isNamePart_of_mem h)
  · exact .inr rfl
  · exact .inl (Identifier.isNamePart_of_mem h)

theorem Reference.dot_mem (r : Reference) : '.' ∈ r.chars := by
  simp [Reference.chars]

namespace Scalar

/-- The text of an integer is its digits, after a hyphen if it is negative. -/
theorem source_int (i : ShortInteger) : (Scalar.int i).source =
    (if i.value < 0 then ['-'] else []) ++ Nat.toDigits 10 i.value.natAbs :=
  toList_decimalText i.value

theorem isDigit_of_mem_source_int {i : ShortInteger} {c : Char}
    (h : c ∈ (Scalar.int i).source) : c.isDigit = true ∨ c = '-' :=
  isDigit_of_mem_decimalText h

theorem valueText (s : Scalar) : ValueText s.source := by
  -- A word is compared character by character only once, as one closed computation.
  have hname {cs : List Char} (h : cs.all isNamePart = true) :
      ∀ c ∈ cs, isNamePart c = true ∨ c = '.' := fun c hc => .inl (List.all_eq_true.1 h c hc)
  cases s with
  | null =>
    exact valueText_of_names (by decide) (hname (by decide +kernel)) fun rest =>
      isForExpression_of_ne (by decide) (by decide)
  | bool b =>
    cases b with
    | true =>
      exact valueText_of_names (by decide) (hname (by decide +kernel)) fun rest =>
        isForExpression_of_ne (by decide) (by decide)
    | false =>
      exact valueText_of_names (by decide) (hname (by decide +kernel)) fun rest => by
        simp [source, isForExpression, isBlank]
  | int i =>
    -- digits and hyphens are parts of names, and `for` begins with neither
    have hne : (Scalar.int i).source ≠ [] := by
      rw [source_int]
      exact List.append_ne_nil_of_right_ne_nil _ Nat.toDigits_ne_nil
    refine valueText_of_names hne (fun c hc => .inl ?_) fun rest => ?_
    · rcases isDigit_of_mem_source_int hc with h | rfl
      · simp [isNamePart, isWord, Char.isAlphanum, h]
      · rfl
    · obtain ⟨c, cs, hcs⟩ := List.exists_cons_of_ne_nil hne
      have hc := isDigit_of_mem_source_int (i := i) (c := c) (by simp [hcs])
      rw [hcs, List.cons_append]
      refine isForExpression_of_ne ?_ ?_
      · rcases hc with h | rfl
        · exact isBlank_eq_false_of_isWord (by simp [isWord, Char.isAlphanum, h])
        · decide
      · rcases hc with h | rfl
        · exact ne_of_class h (by decide)
        · decide
  | string s =>
    -- a quoted text begins and ends with its quotes
    refine ⟨.plain s, fun c hc => ?_, fun c hc => ?_, by simp [source, PlainText.literal], ?_⟩
    · obtain rfl : '"' = c := by simpa [source, PlainText.literal] using hc
      decide
    · have hlast : s.literal.getLast? = some '"' := by
        rw [PlainText.literal, ← List.cons_append, List.getLast?_concat]
      rw [source, hlast] at hc
      obtain rfl : '"' = c := by simpa using hc
      decide
    · exact fun rest => isForExpression_of_ne (by decide) (by decide)
  | reference r =>
    refine valueText_of_names (by simp [source, Reference.chars]) (fun c hc => r.mem_chars hc) ?_
    refine isForExpression_of_dot (fun c hc => ?_) r.dot_mem
    rcases r.mem_chars hc with h | rfl
    · exact isBlank_eq_false_of_isNamePart h
    · decide

/-- An integer is told by its digits. -/
theorem shapeOf_int (i : ShortInteger) : shapeOf (Scalar.int i).source =
    .integer (decide (i.value < 0)) (Nat.toDigits 10 i.value.natAbs) := by
  have hdigit (c : Char) (hc : c ∈ Nat.toDigits 10 i.value.natAbs) : c.isDigit = true :=
    Nat.isDigit_of_mem_toDigits (by decide) (by decide) hc
  have hall : (Nat.toDigits 10 i.value.natAbs).all isDecimal = true :=
    List.all_eq_true.2 fun c hc => isDecimal_of_isDigit (hdigit c hc)
  have hempty : (Nat.toDigits 10 i.value.natAbs).isEmpty = false := by simp [Nat.toDigits_ne_nil]
  have hword (word : String) (hlast : 'e' ∈ word.toList ∨ 'l' ∈ word.toList) :
      ((Scalar.int i).source == word.toList) = false := by
    -- Each of the three words has a letter that no integer has.
    refine beq_eq_false_iff_ne.2 fun h => ?_
    rw [← h] at hlast
    rcases hlast with hlast | hlast <;>
      exact absurd (isDigit_of_mem_source_int hlast) (by decide)
  have hliteral : integerLiteral? (Scalar.int i).source =
      some (decide (i.value < 0), Nat.toDigits 10 i.value.natAbs) := by
    rw [source_int]
    by_cases hneg : i.value < 0
    · simp [integerLiteral?, hneg, hall, hempty]
    · obtain ⟨c, cs, hcs⟩ := List.exists_cons_of_ne_nil (Nat.toDigits_ne_nil (n := i.value.natAbs)
        (b := 10))
      have hhyphen : c ≠ '-' := by
        have := hdigit c (by simp [hcs])
        exact ne_of_class this (by decide)
      rw [hcs] at hall hempty ⊢
      simp [integerLiteral?, hneg, hall, hhyphen]
  rw [shapeOf, if_neg (by simp [source_int, Nat.toDigits_ne_nil]), hword _ (by decide),
    hword _ (by decide), hword _ (by decide), hliteral]
  rfl

/-- **A written scalar reads as its value.** -/
theorem readValue_source (s : Scalar) (room : Room) :
    readValue room s.source = .ofValue s.meaning := by
  cases s with
  | null => exact readValue_of_value (by decide) rfl
  | bool b =>
    cases b with
    | true => exact readValue_of_value (by decide) rfl
    | false => exact readValue_of_value (by decide) rfl
  | int i =>
    rw [readValue_of_integer (Scalar.int i).valueText.nonempty (shapeOf_int i), integerValue,
      if_neg (Nat.not_lt.2 i.short), digitsValue_toDigits, meaning]
    have hsign : (if decide (i.value < 0) = true then -(i.value.natAbs : Int)
        else i.value.natAbs) = i.value := by
      simp only [decide_eq_true_eq]
      split <;> omega
    simp only [hsign]
  | string s =>
    refine readValue_of_value (Scalar.string s).valueText.nonempty ?_
    have hshape : shapeOf s.literal = literalShape s.literal :=
      shapeOf_eq_literalShape (by decide) (by decide) (by simp)
    have hclose := s.closeQuote_literal []
    rw [source, hshape, PlainText.literal, literalShape, hclose, if_pos (by simp),
      List.dropLast_concat, s.unescape_escaped, meaning]
  | reference r =>
    refine readValue_of_value (Scalar.reference r).valueText.nonempty ?_
    have hstart := r.first.head_isNameStart
    have hshape : shapeOf r.chars = literalShape r.chars := by
      -- None of the three words has a dot.
      refine shapeOf_eq_literalShape (isDecimal_eq_false_of_isNameStart hstart)
        (ne_of_class hstart (by decide)) fun word hword h => ?_
      have hnodot : ∀ word ∈ ["true", "false", "null"], '.' ∉ word.toList := by decide
      have hdot := r.dot_mem
      rw [show r.chars = word.toList from h] at hdot
      exact hnodot word hword hdot
    have hbracket : literalShape r.chars = .value (expressionOf r.chars) := by
      have hquote : r.first.head ≠ '"' := ne_of_class hstart (by decide)
      have hopen : r.first.head ≠ '[' := ne_of_class hstart (by decide)
      have hbrace : r.first.head ≠ '\x7b' := ne_of_class hstart (by decide)
      simp [Reference.chars, Identifier.chars, literalShape, bracketShape, hquote, hopen, hbrace]
    have hplain : expressionOf r.chars = .expression (String.ofList r.chars) := by
      have : heredoc? r.chars = none := heredoc?_of_ne (ne_of_class hstart (by decide))
      rw [expressionOf, this]
    rw [source, hshape, hbracket, hplain, meaning]

end Scalar

end Groundplan.Hcl
