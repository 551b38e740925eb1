import Groundplan.Proofs.Hcl.Body
import Groundplan.Proofs.Hcl.Document

/-!
# Cutting out written blocks

A top-level block that is written as a word, labels and a passage in braces is cut out whole,
whatever follows it and whether or not a reader supports the word. A line that begins with anything
but a name or a comment is passed over.

## Main definitions

* `IsName`: a word that readers take for one name
* `blockText`: a block with its word, its labels and what stands between its braces
* `blockSection`: the section that it is cut out as
* `Heading.text`, `Heading.cutOut`: the same with the word and the labels of a heading

## Main results

* `readSection_blockText`, `sectionsFrom_blockText`: **a written block is cut out whole**
* `Heading.sectionsFrom_text`: the same for a heading
* `scannable_of_fits`: when a text can be cut into blocks at all
* `sectionsFrom_junk`: a line that begins with neither a name nor a comment is passed over
-/

namespace Groundplan.Hcl

open Text

theorem sectionsFrom_nil (line : Nat) (done : List TopLevel) :
    sectionsFrom line done [] = done.reverse := by
  rw [sectionsFrom]

/-- Blanks between blocks are passed over, line by line. -/
theorem sectionsFrom_blank (line : Nat) (done : List TopLevel) {c : Char} (h : isBlank c = true)
    (rest : List Char) :
    sectionsFrom line done (c :: rest) = sectionsFrom (line + lineFeeds [c]) done rest := by
  rw [sectionsFrom, if_pos h]

theorem lineFeeds_append (cs ds : List Char) : lineFeeds (cs ++ ds) = lineFeeds cs + lineFeeds ds :=
  List.count_append

/-- Any number of blanks is passed over. -/
theorem sectionsFrom_blanks (line : Nat) (done : List TopLevel) {blanks : List Char}
    (h : ∀ c ∈ blanks, isBlank c = true) (rest : List Char) :
    sectionsFrom line done (blanks ++ rest) =
      sectionsFrom (line + lineFeeds blanks) done rest := by
  induction blanks generalizing line with
  | nil => rfl
  | cons c blanks ih =>
    rw [List.forall_mem_cons] at h
    have hfeeds : lineFeeds (c :: blanks) = lineFeeds [c] + lineFeeds blanks :=
      lineFeeds_append [c] blanks
    rw [List.cons_append, sectionsFrom_blank line done h.1, ih _ h.2, hfeeds, Nat.add_assoc]

/-- A line that begins with neither a blank, a name nor a comment is passed over and reported. -/
theorem sectionsFrom_junk (line : Nat) (done : List TopLevel) {c : Char}
    (hblank : isBlank c = false) (hname : isNameStart c = false) (hhash : c ≠ '#')
    (hslash : c ≠ '/') (rest : List Char) :
    sectionsFrom line done (c :: rest) =
      sectionsFrom (line + 1) (.junk c line :: done) (nextLine (c :: rest)) := by
  have hcomment : afterComment? (c :: rest) = none := afterComment?_of_ne hhash hslash
  rw [sectionsFrom.eq_def]
  dsimp only
  rw [hblank, if_neg Bool.false_ne_true, hname, if_neg Bool.false_ne_true]
  split
  · rename_i hc
    rw [hcomment] at hc
    cases hc
  · rfl

/-- A section begins where a name does. -/
theorem sectionsFrom_name (line : Nat) (done : List TopLevel) {c : Char} (h : isNameStart c = true)
    (rest : List Char) :
    sectionsFrom line done (c :: rest) =
      sectionsFrom (readSection line (c :: rest)).1.lineAfter
        ((readSection line (c :: rest)).1 :: done) (readSection line (c :: rest)).2 := by
  have hblank : isBlank c = false := isBlank_eq_false_of_isWord (isWord_of_isNameStart h)
  have hcomment : afterComment? (c :: rest) = none :=
    afterComment?_of_ne (ne_of_class h (by decide)) (ne_of_class h (by decide))
  rw [sectionsFrom.eq_def]
  dsimp only
  rw [hblank, if_neg Bool.false_ne_true]
  split
  · rename_i hc
    rw [hcomment] at hc
    cases hc
  · rw [if_pos h]

/-! ## Templates in blocks -/

/-- No template stands in a block that is a passage. -/
theorem TopLevel.fits_block (levels : Nat) {s : Section} (h : Passage true s.raw) :
    TopLevel.fits levels (.block s) = true := by
  have hgo := h.literalsFit levels []
  rwa [List.append_nil, literalsFit.eq_def levels []] at hgo

/-- A text can be cut into blocks if no place of it has templates too deep inside one another. -/
theorem scannable_of_fits {cs : List Char}
    (h : ∀ t ∈ sections cs, TopLevel.fits maxTemplates t = true) :
    scannable (String.ofList cs) = .ok (String.ofList cs) := by
  have hfits : (sections cs).all (TopLevel.fits maxTemplates) = true := List.all_eq_true.2 h
  rw [scannable, isScannable, String.toList_ofList, hfits, Bool.or_true, if_pos rfl]

/-! ## Blocks of any word -/

/-- A word that readers take for one name. -/
structure IsName (word : List Char) : Prop where
  start : word.head?.any isNameStart = true
  parts : ∀ c ∈ word, isNamePart c = true

theorem Identifier.isName (n : Identifier) : IsName n.chars :=
  ⟨n.head_isNameStart, fun _ hc => isNamePart_of_mem hc⟩

/-- A block: a word, labels, and a text in braces. -/
def blockText (word : List Char) (labels : List PlainText) (inside : List Char) : List Char :=
  opening word labels ++ (inside ++ ['\x7d'])

/-- The block, cut out but not read, that begins on a line. -/
def blockSection (word : List Char) (labels : List PlainText) (inside : List Char) (line : Nat) :
    Section :=
  ⟨String.ofList word, labels.map PlainText.text, inside, true, line,
    line + lineFeeds (blockText word labels inside), blockText word labels inside⟩

/-- What follows the word of a block. -/
def afterWord (labels : List PlainText) (inside rest : List Char) : List Char :=
  labels.flatMap (fun l => ' ' :: l.literal) ++ ' ' :: '\x7b' :: (inside ++ '\x7d' :: rest)

section Block

variable {word : List Char} (labels : List PlainText) (inside : List Char)

theorem blockText_append (word rest : List Char) :
    blockText word labels inside ++ rest = word ++ afterWord labels inside rest := by
  simp [blockText, opening, afterWord]

/-- A space follows the word. -/
theorem head?_afterWord (rest : List Char) :
    (afterWord labels inside rest).head? = some ' ' := by
  rw [afterWord]
  cases labels <;> rfl

variable {inside}

/-- A written block is a passage. -/
theorem passage_blockText (hword : IsName word) (hinside : Passage true inside) :
    Passage true (blockText word labels inside) := by
  have hgroup : Passage true ('\x7b' :: (inside ++ ['\x7d'])) :=
    .group (.inr (.inr ⟨rfl, rfl⟩)) hinside
  have hname : Passage true word :=
    .of_forall fun c hc => isMark_eq_false_of_isNamePart (hword.parts c hc)
  rw [← List.append_nil (blockText word labels inside), blockText_append]
  exact .append hname (.append (passage_labels _) (.cons (by decide) (.inl rfl) hgroup))

/-- **A written block is cut out whole.** -/
theorem readSection_blockText (hword : IsName word) (hinside : Passage true inside) (line : Nat)
    (rest : List Char) :
    readSection line (blockText word labels inside ++ rest) =
      (.block (blockSection word labels inside line), rest) := by
  have hstop : ∀ c ∈ (afterWord labels inside rest).head?, isNamePart c = false := by
    rw [head?_afterWord]
    rintro c ⟨⟩
    decide
  have htake : (blockText word labels inside ++ rest).takeWhile isNamePart = word := by
    rw [blockText_append, List.takeWhile_append_of_pos hword.parts, takeWhile_eq_nil hstop,
      List.append_nil]
  have hdrop : (blockText word labels inside ++ rest).dropWhile isNamePart =
      afterWord labels inside rest := by
    rw [blockText_append, List.dropWhile_append_of_pos hword.parts, dropWhile_eq_self hstop]
  have hlabels := @readLabels_literals labels []
    (' ' :: '\x7b' :: (inside ++ '\x7d' :: rest)) rfl
  have hbrace : (' ' :: '\x7b' :: (inside ++ '\x7d' :: rest)).dropWhile isSpacing =
      '\x7b' :: (inside ++ '\x7d' :: rest) := rfl
  have hclose : closeBracket '\x7b' '\x7d' 0 (inside ++ '\x7d' :: rest) = some rest :=
    hinside.closeBracket_eq_some (.inr (.inr ⟨rfl, rfl⟩)) rest
  rw [readSection, htake, hdrop, afterWord]
  simp only [hlabels, hbrace, skipBlank_brace, hclose, dropLast_consumed, consumed_append,
    List.reverse_nil, List.nil_append]
  rfl

/-- The next section begins behind a written block. -/
theorem sectionsFrom_blockText (hword : IsName word) (hinside : Passage true inside) (line : Nat)
    (done : List TopLevel) (rest : List Char) :
    sectionsFrom line done (blockText word labels inside ++ rest) =
      sectionsFrom (line + lineFeeds (blockText word labels inside))
        (.block (blockSection word labels inside line) :: done) rest := by
  have hread := readSection_blockText labels hword hinside line rest
  obtain ⟨c, more, hcons, hstart⟩ : ∃ c more,
      blockText word labels inside ++ rest = c :: more ∧ isNameStart c = true := by
    have hstart := hword.start
    rw [blockText_append]
    cases word with
    | nil => cases hstart
    | cons c more => exact ⟨c, more ++ afterWord labels inside rest, rfl, by simpa using hstart⟩
  rw [hcons] at hread ⊢
  rw [sectionsFrom_name line done hstart, hread]
  rfl

end Block

/-! ## Blocks of a heading -/

namespace Heading

variable (h : Heading) (inside : List Char)

/-- Every heading begins with a name. -/
theorem isName_word : IsName h.word.toList := by
  rw [word]
  refine ⟨by cases h.keyword <;> decide, ?_⟩
  rw [← List.all_eq_true]
  cases h.keyword <;> decide +kernel

/-- A block: its heading, and a text in braces. -/
def text : List Char :=
  opening h.word.toList h.labels ++ (inside ++ ['\x7d'])

/-- The block, cut out but not read, that begins on a line. -/
def cutOut (line : Nat) : Section :=
  ⟨h.word, h.labels.map PlainText.text, inside, true, line, line + lineFeeds (h.text inside),
    h.text inside⟩

theorem cutOut_eq_blockSection (line : Nat) :
    h.cutOut inside line = blockSection h.word.toList h.labels inside line := by
  rw [cutOut, blockSection, String.ofList_toList]
  rfl

variable {inside}

/-- A written block is a passage. -/
theorem passage_text (hinside : Passage true inside) : Passage true (h.text inside) :=
  passage_blockText h.labels h.isName_word hinside

/-- **A written block is cut out whole**, and the next section begins behind it. -/
theorem sectionsFrom_text (hinside : Passage true inside) (line : Nat) (done : List TopLevel)
    (rest : List Char) :
    sectionsFrom line done (h.text inside ++ rest) =
      sectionsFrom (line + lineFeeds (h.text inside)) (.block (h.cutOut inside line) :: done)
        rest := by
  rw [cutOut_eq_blockSection]
  exact sectionsFrom_blockText h.labels h.isName_word hinside line done rest

end Heading

end Groundplan.Hcl
