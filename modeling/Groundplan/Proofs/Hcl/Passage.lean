import Groundplan.Proofs.Hcl.HereText

/-!
# Passages

The scanners of configuration text skip literals, comments and heredocs each in a loop of its own.
A passage is a text that all of them pass over alike: its brackets are balanced, its literals and
heredocs are complete, and it holds no comment. Outside brackets a strict passage moreover holds
nothing that could end a value or an item; a loose one may.

## Main definitions

* `Passage`: a strict or a loose passage

## Main results

* `Passage.closeBracket`, `Passage.afterValue`, `Passage.elementsFrom`, `Passage.literalsFit`: each
  scanner goes on behind a passage where it stood before it
-/

namespace Groundplan.Hcl

open Text

/-- An opening bracket and the closing one of its kind. -/
def IsPair (opener closer : Char) : Prop :=
  (opener = '(' ∧ closer = ')') ∨ (opener = '[' ∧ closer = ']') ∨
    (opener = '\x7b' ∧ closer = '\x7d')

/-- A character that begins or ends something that scanners know, whatever stands around it. -/
def isMark (c : Char) : Bool :=
  c == '"' || c == '#' || c == '/' || c == '<' || isOpener c || isCloser c

/-- A character that ends a value or an item outside brackets. -/
def isStop (c : Char) : Bool :=
  c == ',' || c == '\n'

/-- A text that scanners pass over; a strict one holds nothing outside brackets that could end a
value. -/
inductive Passage : Bool → List Char → Prop
  | nil {loose : Bool} : Passage loose []
  | char {loose : Bool} {c : Char} (hmark : isMark c = false)
      (hstop : loose = true ∨ isStop c = false) : Passage loose [c]
  | literal {loose : Bool} {inside : List Char} (h : Inside inside) :
      Passage loose ('"' :: (inside ++ ['"']))
  | heredoc (d : HereText) : Passage true (d.source ++ ['\n'])
  | group {loose : Bool} {opener closer : Char} {cs : List Char} (hpair : IsPair opener closer)
      (h : Passage true cs) : Passage loose (opener :: (cs ++ [closer]))
  | append {loose : Bool} {cs ds : List Char} (h₁ : Passage loose cs) (h₂ : Passage loose ds) :
      Passage loose (cs ++ ds)

/-! ## Single steps -/

section Steps

variable {c : Char} {rest : List Char}

theorem ne_of_isMark_eq_false (h : isMark c = false) :
    c ≠ '"' ∧ c ≠ '#' ∧ c ≠ '/' ∧ c ≠ '<' ∧ isOpener c = false ∧ isCloser c = false := by
  simpa only [isMark, Bool.or_eq_false_iff, beq_eq_false_iff_ne, ne_eq, and_assoc] using h

theorem afterComment?_of_ne (hhash : c ≠ '#') (hslash : c ≠ '/') :
    afterComment? (c :: rest) = none := by
  rw [afterComment?.eq_def]
  split
  · rename_i h; exact absurd (List.cons.inj h).1 hhash
  · rename_i h; exact absurd (List.cons.inj h).1 hslash
  · rename_i h; exact absurd (List.cons.inj h).1 hslash
  · rfl

theorem heredoc?_of_ne (h : c ≠ '<') : heredoc? (c :: rest) = none := by
  rw [heredoc?.eq_def]
  split
  · rename_i hc; exact absurd (List.cons.inj hc).1 h
  · rename_i hc; exact absurd (List.cons.inj hc).1 h
  · rfl

theorem afterIgnored?_of_ne (hhash : c ≠ '#') (hslash : c ≠ '/') (hless : c ≠ '<') :
    afterIgnored? (c :: rest) = none := by
  rw [afterIgnored?, afterComment?_of_ne hhash hslash, heredoc?_of_ne hless]
  rfl

theorem afterIgnored?_heredoc (d : HereText) (rest : List Char) :
    afterIgnored? (d.source ++ '\n' :: rest) = some ('\n' :: rest) := by
  have hcomment : afterComment? (d.source ++ '\n' :: rest) = none :=
    afterComment?_of_ne (by decide) (by decide)
  rw [afterIgnored?, hcomment, d.heredoc?_source]
  rfl

/-- A bracket of a pair is none of the other marks. -/
theorem IsPair.ne {opener closer : Char} (h : IsPair opener closer) :
    (opener ≠ '"' ∧ opener ≠ '#' ∧ opener ≠ '/' ∧ opener ≠ '<') ∧
    (closer ≠ '"' ∧ closer ≠ '#' ∧ closer ≠ '/' ∧ closer ≠ '<') := by
  rcases h with ⟨rfl, rfl⟩ | ⟨rfl, rfl⟩ | ⟨rfl, rfl⟩ <;> decide

theorem IsPair.isOpener {opener closer : Char} (h : IsPair opener closer) :
    isOpener opener = true ∧ isOpener closer = false ∧ isCloser closer = true := by
  rcases h with ⟨rfl, rfl⟩ | ⟨rfl, rfl⟩ | ⟨rfl, rfl⟩ <;> decide

theorem IsPair.closer_ne_opener {opener closer : Char} (h : IsPair opener closer) :
    closer ≠ opener := by
  rcases h with ⟨rfl, rfl⟩ | ⟨rfl, rfl⟩ | ⟨rfl, rfl⟩ <;> decide

/-- Pairs that share a bracket are the same. -/
theorem IsPair.eq_or_ne {o c o' c' : Char} (h : IsPair o c) (h' : IsPair o' c') :
    (o' = o ∧ c' = c) ∨ (o' ≠ o ∧ o' ≠ c ∧ c' ≠ o ∧ c' ≠ c) := by
  rcases h with ⟨rfl, rfl⟩ | ⟨rfl, rfl⟩ | ⟨rfl, rfl⟩ <;>
    rcases h' with ⟨rfl, rfl⟩ | ⟨rfl, rfl⟩ | ⟨rfl, rfl⟩ <;> decide

end Steps

/-! ## The closing bracket -/

section CloseBracket

variable {opener closer c : Char} (depth : Nat) (rest : List Char)

/-- Brackets are counted only where nothing is skipped. -/
theorem closeBracket_char (h : c ≠ '"' ∧ c ≠ '#' ∧ c ≠ '/' ∧ c ≠ '<') :
    closeBracket opener closer depth (c :: rest) =
      if c == opener then closeBracket opener closer (depth + 1) rest
      else if c == closer then
        match depth with
        | 0 => some rest
        | depth + 1 => closeBracket opener closer depth rest
      else closeBracket opener closer depth rest := by
  obtain ⟨h1, h2, h3, h4⟩ := h
  rw [closeBracket.eq_def]
  dsimp only
  rw [if_neg (by simpa using h1)]
  split
  · rename_i hr
    rw [afterIgnored?_of_ne h2 h3 h4] at hr
    cases hr
  · rfl

theorem closeBracket_literal {inside : List Char} (h : Inside inside) :
    closeBracket opener closer depth ('"' :: (inside ++ '"' :: rest)) =
      closeBracket opener closer depth rest := by
  rw [closeBracket.eq_def]
  dsimp only
  rw [if_pos (beq_self_eq_true _), skipString_inside h]

theorem closeBracket_heredoc (d : HereText) :
    closeBracket opener closer depth (d.source ++ '\n' :: rest) =
      closeBracket opener closer depth ('\n' :: rest) := by
  have hignored := afterIgnored?_heredoc d rest
  simp only [HereText.source, List.cons_append] at hignored ⊢
  rw [closeBracket.eq_def]
  dsimp only
  rw [if_neg (by decide)]
  split
  · rename_i hr
    rw [hignored] at hr
    cases hr
    rfl
  · rename_i hr
    rw [hignored] at hr
    cases hr

end CloseBracket

/-- **The closing bracket is looked for behind a passage.** -/
theorem Passage.closeBracket {opener closer : Char} (hpair : IsPair opener closer) {loose : Bool}
    {cs : List Char} (h : Passage loose cs) (depth : Nat) (rest : List Char) :
    closeBracket opener closer depth (cs ++ rest) = closeBracket opener closer depth rest := by
  -- Induction on the passage, one lemma above for each of its parts.
  induction h generalizing depth rest with
  | nil => rfl
  | @char _ c hmark _ =>
    -- neither bracket is such a character
    obtain ⟨h1, h2, h3, h4, h5, h6⟩ := ne_of_isMark_eq_false hmark
    have ho : c ≠ opener := (ne_of_class hpair.isOpener.1 h5).symm
    have hc : c ≠ closer := (ne_of_class hpair.isOpener.2.2 h6).symm
    rw [List.singleton_append, closeBracket_char depth rest ⟨h1, h2, h3, h4⟩,
      if_neg (by simpa using ho), if_neg (by simpa using hc)]
  | literal h =>
    rw [List.cons_append, List.append_assoc, List.singleton_append,
      closeBracket_literal depth rest h]
  | heredoc d =>
    have hfeed : '\n' ≠ opener ∧ '\n' ≠ closer := by
      rcases hpair with ⟨rfl, rfl⟩ | ⟨rfl, rfl⟩ | ⟨rfl, rfl⟩ <;> decide
    rw [List.append_assoc, List.singleton_append, closeBracket_heredoc,
      closeBracket_char depth rest (by decide), if_neg (by simpa using hfeed.1),
      if_neg (by simpa using hfeed.2)]
  | @group _ o c cs hpair' _ ih =>
    rw [List.cons_append, List.append_assoc, List.singleton_append,
      closeBracket_char depth _ hpair'.ne.1]
    rcases hpair.eq_or_ne hpair' with ⟨rfl, rfl⟩ | ⟨h1, h2, h3, h4⟩
    · -- brackets of the kind that is counted: one level down and up again
      rw [if_pos (by simp), ih, closeBracket_char _ rest hpair'.ne.2,
        if_neg (by simpa using hpair.closer_ne_opener), if_pos (by simp)]
    · -- brackets of another kind are not looked at
      rw [if_neg (by simpa using h1), if_neg (by simpa using h2), ih,
        closeBracket_char _ rest hpair'.ne.2, if_neg (by simpa using h3),
        if_neg (by simpa using h4)]
  | append _ _ ih₁ ih₂ => rw [List.append_assoc, ih₁, ih₂]

/-- The bracket that closes a passage is found. -/
theorem Passage.closeBracket_eq_some {opener closer : Char} (hpair : IsPair opener closer)
    {loose : Bool} {cs : List Char} (h : Passage loose cs) (rest : List Char) :
    Hcl.closeBracket opener closer 0 (cs ++ closer :: rest) = some rest := by
  rw [h.closeBracket hpair, closeBracket_char 0 rest hpair.ne.2,
    if_neg (by simpa using hpair.closer_ne_opener), if_pos (by simp)]

/-! ## The end of a value -/

section AfterValue

variable {c : Char} (commaEnds : Bool) (depth : Nat) (rest : List Char)

theorem afterValue_char (h : c ≠ '"' ∧ c ≠ '#' ∧ c ≠ '/' ∧ c ≠ '<') :
    afterValue commaEnds depth (c :: rest) =
      if isOpener c then afterValue commaEnds (depth + 1) rest
      else if isCloser c then
        match depth with
        | 0 => c :: rest
        | depth + 1 => afterValue commaEnds depth rest
      else if depth = 0 ∧ (c = '\n' ∨ (commaEnds ∧ c = ',')) then c :: rest
      else afterValue commaEnds depth rest := by
  obtain ⟨h1, h2, h3, h4⟩ := h
  rw [afterValue.eq_def]
  dsimp only
  rw [if_neg (by simpa using h1)]
  split
  · rename_i hr
    rw [afterComment?_of_ne h2 h3] at hr
    cases hr
  · split
    · rename_i hr
      simp [heredoc?_of_ne h4] at hr
    · cases depth <;> rfl

theorem afterValue_literal {inside : List Char} (h : Inside inside) :
    afterValue commaEnds depth ('"' :: (inside ++ '"' :: rest)) =
      afterValue commaEnds depth rest := by
  rw [afterValue.eq_def]
  dsimp only
  rw [if_pos (beq_self_eq_true _), skipString_inside h]

theorem afterValue_heredoc (d : HereText) (hdepth : depth ≠ 0) :
    afterValue commaEnds depth (d.source ++ '\n' :: rest) =
      afterValue commaEnds depth ('\n' :: rest) := by
  have hread := d.heredoc?_source rest
  simp only [HereText.source, List.cons_append] at hread ⊢
  rw [afterValue.eq_def]
  dsimp only
  rw [if_neg (by decide)]
  split
  · rename_i hr
    rw [afterComment?_of_ne (by decide) (by decide)] at hr
    cases hr
  · split
    · rename_i hr
      rw [if_neg hdepth, hread] at hr
      cases hr
      rfl
    · rename_i hr
      rw [if_neg hdepth, hread] at hr
      cases hr

end AfterValue

/-- **A value goes on behind a passage**; a loose one stands in brackets. -/
theorem Passage.afterValue {loose : Bool} {cs : List Char} (h : Passage loose cs)
    (commaEnds : Bool) (depth : Nat) (hdepth : loose = true → depth ≠ 0) (rest : List Char) :
    afterValue commaEnds depth (cs ++ rest) = afterValue commaEnds depth rest := by
  induction h generalizing depth rest with
  | nil => rfl
  | @char loose c hmark hstop =>
    obtain ⟨h1, h2, h3, h4, h5, h6⟩ := ne_of_isMark_eq_false hmark
    -- The character ends no value: it is none that does, or it stands in brackets.
    have hgo : ¬ (depth = 0 ∧ (c = '\n' ∨ (commaEnds ∧ c = ','))) := by
      rintro ⟨h0, hc⟩
      rcases hstop with hstop | hstop
      · exact hdepth hstop h0
      · simp only [isStop, Bool.or_eq_false_iff, beq_eq_false_iff_ne] at hstop
        exact hc.elim hstop.2 fun hc => hstop.1 hc.2
    rw [List.singleton_append, afterValue_char commaEnds depth rest ⟨h1, h2, h3, h4⟩, h5, h6,
      if_neg Bool.false_ne_true, if_neg Bool.false_ne_true, if_neg hgo]
  | literal h =>
    rw [List.cons_append, List.append_assoc, List.singleton_append,
      afterValue_literal commaEnds depth rest h]
  | heredoc d =>
    -- Its last line feed would end a value outside brackets.
    have h0 := hdepth rfl
    rw [List.append_assoc, List.singleton_append, afterValue_heredoc commaEnds depth rest d h0,
      afterValue_char commaEnds depth rest (by decide), if_neg (by decide), if_neg (by decide),
      if_neg fun h => h0 h.1]
  | group hpair _ ih =>
    obtain ⟨h1, h2, h3⟩ := hpair.isOpener
    rw [List.cons_append, List.append_assoc, List.singleton_append,
      afterValue_char commaEnds depth _ hpair.ne.1, if_pos h1, ih _ fun _ => Nat.succ_ne_zero _,
      afterValue_char commaEnds _ rest hpair.ne.2, h2, if_neg Bool.false_ne_true, if_pos h3]
  | append _ _ ih₁ ih₂ => rw [List.append_assoc, ih₁ depth hdepth, ih₂ depth hdepth]

/-! ## The items of a list -/

section Elements

variable {c : Char} (items : List (List Char)) (acc : List Char) (depth : Int) (rest : List Char)

theorem elementsFrom_char (h : c ≠ '"' ∧ c ≠ '#' ∧ c ≠ '/' ∧ c ≠ '<') :
    elementsFrom items acc depth (c :: rest) =
      if isOpener c then elementsFrom items (c :: acc) (depth + 1) rest
      else if isCloser c then elementsFrom items (c :: acc) (depth - 1) rest
      else if depth = 0 ∧ (c = ',' ∨ c = '\n') then
        elementsFrom (closeItem items acc) [] depth rest
      else elementsFrom items (c :: acc) depth rest := by
  obtain ⟨h1, h2, h3, h4⟩ := h
  rw [elementsFrom.eq_def]
  dsimp only
  rw [if_neg (by simpa using h1)]
  split
  · rename_i hr
    rw [afterComment?_of_ne h2 h3] at hr
    cases hr
  · split
    · rename_i hr
      rw [heredoc?_of_ne h4] at hr
      cases hr
    · rfl

theorem elementsFrom_literal {inside : List Char} (h : Inside inside) :
    elementsFrom items acc depth ('"' :: (inside ++ '"' :: rest)) =
      elementsFrom items (('"' :: (inside ++ ['"'])).reverse ++ acc) depth rest := by
  have hcut := consumed_append ('"' :: (inside ++ ['"'])) rest
  rw [List.cons_append, List.append_assoc, List.singleton_append] at hcut
  rw [elementsFrom.eq_def]
  dsimp only
  rw [if_pos (beq_self_eq_true _), skipString_inside h, hcut]

theorem elementsFrom_heredoc (d : HereText) :
    elementsFrom items acc depth (d.source ++ '\n' :: rest) =
      elementsFrom items (d.source.reverse ++ acc) depth ('\n' :: rest) := by
  have hread := d.heredoc?_source rest
  have hcut := consumed_append d.source ('\n' :: rest)
  rw [show d.source ++ '\n' :: rest = '<' :: ((d.source ++ '\n' :: rest).tail) from rfl] at *
  rw [elementsFrom.eq_def]
  dsimp only
  rw [if_neg (by decide)]
  split
  · rename_i hr
    rw [afterComment?_of_ne (by decide) (by decide)] at hr
    cases hr
  · split
    · rename_i hr
      rw [hread] at hr
      cases hr
      rw [hcut]
    · rename_i hr
      rw [hread] at hr
      cases hr

end Elements

/-- **An item takes up the whole of a passage**; a loose one stands in brackets. -/
theorem Passage.elementsFrom {loose : Bool} {cs : List Char} (h : Passage loose cs)
    (items : List (List Char)) (acc : List Char) (depth : Int) (hnonneg : 0 ≤ depth)
    (hdepth : loose = true → depth ≠ 0) (rest : List Char) :
    elementsFrom items acc depth (cs ++ rest) =
      elementsFrom items (cs.reverse ++ acc) depth rest := by
  induction h generalizing acc depth rest with
  | nil => rfl
  | @char loose c hmark hstop =>
    obtain ⟨h1, h2, h3, h4, h5, h6⟩ := ne_of_isMark_eq_false hmark
    -- The character ends no item either.
    have hgo : ¬ (depth = 0 ∧ (c = ',' ∨ c = '\n')) := by
      rintro ⟨h0, hc⟩
      rcases hstop with hstop | hstop
      · exact hdepth hstop h0
      · simp only [isStop, Bool.or_eq_false_iff, beq_eq_false_iff_ne] at hstop
        exact hc.elim hstop.1 hstop.2
    rw [List.singleton_append, elementsFrom_char items acc depth rest ⟨h1, h2, h3, h4⟩, h5, h6,
      if_neg Bool.false_ne_true, if_neg Bool.false_ne_true, if_neg hgo]
    rfl
  | literal h =>
    rw [List.cons_append, List.append_assoc, List.singleton_append,
      elementsFrom_literal items acc depth rest h]
  | heredoc d =>
    have h0 := hdepth rfl
    rw [List.append_assoc, List.singleton_append, elementsFrom_heredoc items acc depth rest d,
      elementsFrom_char items _ depth rest (by decide), if_neg (by decide), if_neg (by decide),
      if_neg fun h => h0 h.1]
    simp
  | group hpair _ ih =>
    obtain ⟨h1, h2, h3⟩ := hpair.isOpener
    rw [List.cons_append, List.append_assoc, List.singleton_append,
      elementsFrom_char items acc depth _ hpair.ne.1, if_pos h1,
      ih _ _ (by omega) (fun _ => by omega),
      elementsFrom_char items _ _ rest hpair.ne.2, h2, if_neg Bool.false_ne_true, if_pos h3,
      Int.add_sub_cancel]
    simp
  | append _ _ ih₁ ih₂ =>
    rw [List.append_assoc, ih₁ _ depth hnonneg hdepth, ih₂ _ depth hnonneg hdepth]
    simp

/-! ## Templates -/

section Templates

variable {c : Char} (levels : Nat) (rest : List Char)

theorem literalsFit_char (h : c ≠ '"' ∧ c ≠ '#' ∧ c ≠ '/' ∧ c ≠ '<') :
    literalsFit levels (c :: rest) = literalsFit levels rest := by
  obtain ⟨h1, h2, h3, h4⟩ := h
  rw [literalsFit.eq_def]
  dsimp only
  rw [if_neg (by simpa using h1)]
  split
  · rename_i hr
    rw [afterIgnored?_of_ne h2 h3 h4] at hr
    cases hr
  · rfl

theorem literalsFit_literal {inside : List Char} (h : Inside inside) :
    literalsFit levels ('"' :: (inside ++ '"' :: rest)) = literalsFit levels rest := by
  rw [literalsFit.eq_def]
  dsimp only
  rw [if_pos (beq_self_eq_true _), skipString_inside h, regionFits_inside h, Bool.true_and]

theorem literalsFit_heredoc (d : HereText) :
    literalsFit levels (d.source ++ '\n' :: rest) = literalsFit levels ('\n' :: rest) := by
  have hignored := afterIgnored?_heredoc d rest
  simp only [HereText.source, List.cons_append] at hignored ⊢
  rw [literalsFit.eq_def]
  dsimp only
  rw [if_neg (by decide)]
  split
  · rename_i hr
    rw [hignored] at hr
    cases hr
    rfl
  · rename_i hr
    rw [hignored] at hr
    cases hr

end Templates

/-- **No template stands in a passage.** -/
theorem Passage.literalsFit {loose : Bool} {cs : List Char} (h : Passage loose cs) (levels : Nat)
    (rest : List Char) : literalsFit levels (cs ++ rest) = literalsFit levels rest := by
  induction h generalizing rest with
  | nil => rfl
  | char hmark _ =>
    obtain ⟨h1, h2, h3, h4, -⟩ := ne_of_isMark_eq_false hmark
    exact literalsFit_char levels rest ⟨h1, h2, h3, h4⟩
  | literal h =>
    rw [List.cons_append, List.append_assoc, List.singleton_append,
      literalsFit_literal levels rest h]
  | heredoc d =>
    rw [List.append_assoc, List.singleton_append, literalsFit_heredoc,
      literalsFit_char levels rest (by decide)]
  | group hpair _ ih =>
    rw [List.cons_append, List.append_assoc, List.singleton_append,
      literalsFit_char levels _ hpair.ne.1, ih, literalsFit_char levels rest hpair.ne.2]
  | append _ _ ih₁ ih₂ => rw [List.append_assoc, ih₁, ih₂]

/-! ## Making passages -/

namespace Passage

/-- A strict passage may stand wherever a loose one may. -/
theorem loosen {loose : Bool} {cs : List Char} (h : Passage loose cs) : Passage true cs := by
  induction h with
  | nil => exact .nil
  | char hmark _ => exact .char hmark (.inl rfl)
  | literal h => exact .literal h
  | heredoc d => exact .heredoc d
  | group hpair h _ => exact .group hpair h
  | append _ _ ih₁ ih₂ => exact .append ih₁ ih₂

/-- The literal of a text without templates is a passage. -/
theorem plain {loose : Bool} (s : PlainText) : Passage loose s.literal :=
  .literal (inside_escaped s.plain)

theorem cons {loose : Bool} {c : Char} {cs : List Char} (hmark : isMark c = false)
    (hstop : loose = true ∨ isStop c = false) (h : Passage loose cs) : Passage loose (c :: cs) :=
  .append (.char hmark hstop) h

theorem of_forall {loose : Bool} {cs : List Char}
    (h : ∀ c ∈ cs, isMark c = false ∧ isStop c = false) : Passage loose cs := by
  induction cs with
  | nil => exact .nil
  | cons c cs ih =>
    rw [List.forall_mem_cons] at h
    exact .cons h.1.1 (.inr h.1.2) (ih h.2)

theorem flatMap {α : Type} {loose : Bool} {f : α → List Char} {xs : List α}
    (h : ∀ x ∈ xs, Passage loose (f x)) : Passage loose (xs.flatMap f) := by
  induction xs with
  | nil => exact .nil
  | cons x xs ih =>
    rw [List.forall_mem_cons] at h
    exact .append h.1 (ih h.2)

end Passage

end Groundplan.Hcl
