import Groundplan.Proofs.Hcl.Scalar

/-!
# Layout

What may stand between the items of a list or the statements of a body: blanks, commas and line
breaks, in any number. Readers find the same items, statements and values whatever stands there.

## Main definitions

* `isBreak`: whether a text may stand between two parts
* `Spaced`: parts that are kept apart by such texts; `Spaced.comma` puts a comma and a space there
* `CutsOut`: a text is cut out as a statement, whatever keeps it apart from the next one

## Main results

* `readRaw_follows`: a value is read up to its end, and the blanks around it do not count
* `elements_text`: **the items of a list are found again**, whatever stands between them
* `statements_text`: **so are the statements of a body**
* `isForExpression_text`: no list begins a `for` expression if none of its items does
-/

namespace Groundplan.Hcl

open Text

/-! ## Separators -/

/-- A blank that may stand behind a value on its line. -/
def isGap (c : Char) : Bool :=
  c == ' ' || c == '\t' || c == '\r'

/-- A character that ends a value: a line feed or, where commas separate, a comma. -/
def isEnd (commas : Bool) (c : Char) : Bool :=
  c == '\n' || (commas && c == ',')

/-- Whether a text may stand between two parts: blanks, an end of the first part, and any
separators. -/
def isBreak (commas : Bool) : List Char → Bool
  | [] => false
  | c :: cs => if isEnd commas c then cs.all isSeparator else isGap c && isBreak commas cs

/-- Whether parts are kept apart by what stands behind each of them. Behind the last one nothing but
blanks need stand. -/
def isApart {α : Type} (commas : Bool) : List (α × List Char) → Bool
  | [] => true
  | [p] => p.2.all isGap || isBreak commas p.2
  | p :: q :: ps => isBreak commas p.2 && isApart commas (q :: ps)

/-- Parts that are kept apart, each with what stands behind it, and what stands before the first. -/
structure Spaced (commas : Bool) (α : Type) where
  lead : List Char
  parts : List (α × List Char)
  lead_isSeparator : lead.all isSeparator = true
  parts_isApart : isApart commas parts = true

namespace Spaced

variable {commas : Bool} {α : Type}

/-- The parts themselves. -/
def items (s : Spaced commas α) : List α :=
  s.parts.map (·.1)

/-- The text of the parts with what stands between them. -/
def text (f : α → List Char) (s : Spaced commas α) : List Char :=
  s.lead ++ s.parts.flatMap fun p => f p.1 ++ p.2

end Spaced

/-- Whether a part is ended by what stands behind it and by what follows: by a break, or by the end
of the text. -/
def Follows (commas : Bool) (behind rest : List Char) : Prop :=
  isBreak commas behind = true ∨ (behind.all isGap = true ∧ rest = [])

section Separators

variable {commas : Bool} {c : Char} {cs : List Char}

theorem isGap_iff : isGap c = true ↔ c = ' ' ∨ c = '\t' ∨ c = '\r' := by
  simp [isGap, or_assoc]

theorem isEnd_iff : isEnd commas c = true ↔ c = '\n' ∨ (commas = true ∧ c = ',') := by
  simp [isEnd]

theorem isBlank_of_isGap (h : isGap c = true) : isBlank c = true := by
  rcases isGap_iff.1 h with rfl | rfl | rfl <;> decide

theorem isSeparator_of_isGap (h : isGap c = true) : isSeparator c = true := by
  rcases isGap_iff.1 h with rfl | rfl | rfl <;> decide

theorem isSeparator_of_isEnd (h : isEnd commas c = true) : isSeparator c = true := by
  rcases isEnd_iff.1 h with rfl | ⟨-, rfl⟩ <;> decide

/-- Separators are no marks. -/
theorem isMark_eq_false_of_isSeparator (h : isSeparator c = true) : isMark c = false := by
  simp only [isSeparator, Bool.or_eq_true, beq_iff_eq] at h
  rcases h with (((rfl | rfl) | rfl) | rfl) | rfl <;> decide

/-- A break is made of blanks, an end and separators. -/
theorem exists_of_isBreak (h : isBreak commas cs = true) : ∃ gap stop more,
    cs = gap ++ stop :: more ∧ gap.all isGap = true ∧ isEnd commas stop = true ∧
      more.all isSeparator = true := by
  induction cs with
  | nil => cases h
  | cons c cs ih =>
    rw [isBreak] at h
    split at h
    · rename_i hend
      exact ⟨[], c, cs, rfl, rfl, hend, h⟩
    · -- one blank more
      rw [Bool.and_eq_true] at h
      obtain ⟨gap, stop, more, rfl, hgap, hstop, hmore⟩ := ih h.2
      refine ⟨c :: gap, stop, more, rfl, ?_, hstop, hmore⟩
      rw [List.all_cons, h.1, hgap, Bool.and_self]

theorem all_isSeparator_of_isGap (h : cs.all isGap = true) : cs.all isSeparator = true :=
  List.all_eq_true.2 fun _ hc => isSeparator_of_isGap (List.all_eq_true.1 h _ hc)

theorem all_isSeparator_of_isBreak (h : isBreak commas cs = true) : cs.all isSeparator = true := by
  obtain ⟨gap, stop, more, rfl, hgap, hstop, hmore⟩ := exists_of_isBreak h
  rw [List.all_append, List.all_cons, all_isSeparator_of_isGap hgap, isSeparator_of_isEnd hstop,
    hmore, Bool.and_self, Bool.and_self]

theorem all_isSeparator_newline : ['\n'].all isSeparator = true := rfl

theorem Follows.all_isSeparator {behind rest : List Char} (h : Follows commas behind rest) :
    behind.all isSeparator = true :=
  h.elim all_isSeparator_of_isBreak fun h => all_isSeparator_of_isGap h.1

theorem passage_gap (h : cs.all isGap = true) : Passage false cs := by
  refine .of_forall fun c hc => ?_
  rcases isGap_iff.1 (List.all_eq_true.1 h c hc) with rfl | rfl | rfl <;> decide

theorem passage_separators (h : cs.all isSeparator = true) : Passage true cs := by
  induction cs with
  | nil => exact .nil
  | cons c cs ih =>
    rw [List.all_cons, Bool.and_eq_true] at h
    exact .cons (isMark_eq_false_of_isSeparator h.1) (.inl rfl) (ih h.2)

/-- Behind each part stands what follows it. -/
theorem isApart_cons {α : Type} {p : α × List Char} {ps : List (α × List Char)}
    (f : α → List Char) (h : isApart commas (p :: ps) = true) :
    Follows commas p.2 (ps.flatMap fun p => f p.1 ++ p.2) ∧ isApart commas ps = true := by
  cases ps with
  | nil =>
    rw [isApart, Bool.or_eq_true] at h
    exact ⟨h.elim (fun h => .inr ⟨h, rfl⟩) .inl, rfl⟩
  | cons q ps =>
    rw [isApart, Bool.and_eq_true] at h
    exact ⟨.inl h.1, h.2⟩

/-- Parts are kept apart if a break stands behind each of them. -/
theorem isApart_of_forall {α : Type} {ps : List (α × List Char)}
    (h : ∀ p ∈ ps, isBreak commas p.2 = true) : isApart commas ps = true := by
  induction ps with
  | nil => rfl
  | cons p ps ih =>
    rw [List.forall_mem_cons] at h
    cases ps with
    | nil => rw [isApart, h.1, Bool.or_true]
    | cons q ps => rw [isApart, h.1, ih h.2, Bool.and_self]

/-- Items with what stands behind each of them. -/
theorem passage_parts {α : Type} {f : α → List Char} {ps : List (α × List Char)}
    (hps : isApart commas ps = true) (hitems : ∀ p ∈ ps, Passage true (f p.1)) :
    Passage true (ps.flatMap fun p => f p.1 ++ p.2) := by
  induction ps with
  | nil => exact .nil
  | cons p ps ih =>
    rw [List.forall_mem_cons] at hitems
    obtain ⟨hbehind, hrest⟩ := isApart_cons f hps
    rw [List.flatMap_cons]
    exact .append (.append hitems.1 (passage_separators hbehind.all_isSeparator))
      (ih hrest hitems.2)

theorem Spaced.passage {α : Type} {f : α → List Char} (s : Spaced commas α)
    (h : ∀ a ∈ s.items, Passage true (f a)) : Passage true (s.text f) := by
  refine .append (passage_separators s.lead_isSeparator) (passage_parts s.parts_isApart ?_)
  intro p hp
  exact h p.1 (List.mem_map_of_mem hp)

end Separators

/-! ## Values with blanks around them -/

section Values

variable {commas : Bool} {cs : List Char}

theorem afterValue_nil : afterValue commas 0 [] = [] := by
  rw [afterValue.eq_def]

/-- Outside brackets a value ends at the end of its line. -/
theorem afterValue_feed (commas : Bool) (rest : List Char) :
    afterValue commas 0 ('\n' :: rest) = '\n' :: rest := by
  rw [afterValue_char commas 0 rest (by decide), if_neg (by decide), if_neg (by decide),
    if_pos ⟨rfl, .inl rfl⟩]

theorem afterValue_comma (rest : List Char) : afterValue true 0 (',' :: rest) = ',' :: rest := by
  rw [afterValue_char true 0 rest (by decide), if_neg (by decide), if_neg (by decide),
    if_pos ⟨rfl, .inr ⟨rfl, rfl⟩⟩]

theorem trim_padded (pad gap : List Char) (h : ValueText cs) (hpad : ∀ c ∈ pad, isBlank c = true)
    (hgap : ∀ c ∈ gap, isBlank c = true) : trim (pad ++ (cs ++ gap)) = cs := by
  obtain ⟨c, more, hcs⟩ := List.exists_cons_of_ne_nil h.nonempty
  have hfront : (pad ++ (cs ++ gap)).dropWhile isBlank = cs ++ gap := by
    rw [List.dropWhile_append_of_pos hpad, hcs]
    exact List.dropWhile_cons_of_neg (by simp [(h.head c (by simp [hcs])).1])
  have hback : ((cs ++ gap).reverse).dropWhile isBlank = cs.reverse := by
    rw [List.reverse_append, List.dropWhile_append_of_pos (by simpa using hgap)]
    refine dropWhile_eq_self fun c hc => h.last c ?_
    rwa [List.head?_reverse] at hc
  rw [trim, trimWith, hfront, trimEndWith, hback, List.reverse_reverse]

/-- Blanks behind a value belong to it until it ends. -/
theorem afterValue_gap {gap : List Char} (hgap : gap.all isGap = true) (rest : List Char) :
    afterValue commas 0 (gap ++ rest) = afterValue commas 0 rest :=
  (passage_gap hgap).afterValue commas 0 (by simp) rest

theorem afterValue_isEnd {stop : Char} (h : isEnd commas stop = true) (rest : List Char) :
    afterValue commas 0 (stop :: rest) = stop :: rest := by
  rcases isEnd_iff.1 h with rfl | ⟨rfl, rfl⟩
  · exact afterValue_feed commas rest
  · exact afterValue_comma rest

/-- The text of a value is read with the blanks around it, which do not count. -/
theorem readRaw_gap (lead gap : List Char) {rest : List Char} (h : ValueText cs)
    (hlead : ∀ c ∈ lead, isSpacing c = true) (hgap : gap.all isGap = true)
    (hstop : afterValue commas 0 rest = rest) :
    readRaw commas (lead ++ (cs ++ (gap ++ rest))) = (.source cs, rest) := by
  obtain ⟨c, more, hcs⟩ := List.exists_cons_of_ne_nil h.nonempty
  obtain ⟨hblank, hless⟩ := h.head c (by simp [hcs])
  have hspacing : isSpacing c = false := by
    rw [isSpacing, Bool.or_eq_false_iff, beq_eq_false_iff_ne, beq_eq_false_iff_ne]
    exact ⟨fun hc => by simp [hc, isBlank] at hblank, fun hc => by simp [hc, isBlank] at hblank⟩
  have hstart : (lead ++ (cs ++ (gap ++ rest))).dropWhile isSpacing = cs ++ (gap ++ rest) := by
    rw [List.dropWhile_append_of_pos hlead, hcs, List.cons_append,
      dropWhile_isSpacing_of_ne hspacing]
  have hread : heredoc? (cs ++ (gap ++ rest)) = none := by
    rw [hcs]
    exact heredoc?_of_ne hless
  have hend : afterValue commas 0 (cs ++ (gap ++ rest)) = rest := by
    rw [h.passage.afterValue commas 0 (by simp), afterValue_gap hgap, hstop]
  have htaken : trim (consumed (cs ++ (gap ++ rest)) rest) = cs := by
    rw [← List.append_assoc, consumed_append]
    exact trim_padded [] gap h (by simp) fun c hc =>
      isBlank_of_isGap (List.all_eq_true.1 hgap c hc)
  simp only [readRaw, hstart, hread, hend, htaken]

/-- A value is read up to its end, and the next statement is looked for behind the break. -/
theorem readRaw_follows {lead behind rest : List Char} (h : ValueText cs)
    (hlead : ∀ c ∈ lead, isSpacing c = true) (hbehind : Follows commas behind rest) :
    ∃ after, readRaw commas (lead ++ (cs ++ (behind ++ rest))) = (.source cs, after) ∧
      ∃ more, more.all isSeparator = true ∧ after = more ++ rest := by
  rcases hbehind with hbreak | ⟨hgap, rfl⟩
  · obtain ⟨gap, stop, more, rfl, hgap, hstop, hmore⟩ := exists_of_isBreak hbreak
    refine ⟨stop :: (more ++ rest), ?_, stop :: more, ?_, rfl⟩
    · rw [List.append_assoc]
      exact readRaw_gap lead gap h hlead hgap (afterValue_isEnd hstop _)
    · rw [List.all_cons, isSeparator_of_isEnd hstop, hmore, Bool.and_self]
  · -- nothing but blanks stands behind the last value
    exact ⟨[], readRaw_gap lead behind h hlead hgap afterValue_nil, [], rfl, rfl⟩

end Values

/-! ## Lists -/

section Lists

variable (items : List (List Char)) {cs : List Char} {c : Char}

theorem closeItem_padded (pad gap : List Char) (h : ValueText cs)
    (hpad : ∀ c ∈ pad, isBlank c = true) (hgap : ∀ c ∈ gap, isBlank c = true) :
    closeItem items (gap.reverse ++ (cs.reverse ++ pad.reverse)) = cs :: items := by
  have hacc : (gap.reverse ++ (cs.reverse ++ pad.reverse)).reverse = pad ++ (cs ++ gap) := by simp
  rw [closeItem, hacc, trim_padded pad gap h hpad hgap]
  simp [h.nonempty]

theorem closeItem_blank {acc : List Char} (h : ∀ c ∈ acc, isBlank c = true) : closeItem items acc = items := by
  have : trim acc.reverse = [] := trim_eq_nil_iff.2 (by simpa using h)
  rw [closeItem, this]
  rfl

theorem elementsFrom_gap (acc : List Char) {gap : List Char} (hgap : gap.all isGap = true) (rest : List Char) :
    elementsFrom items acc 0 (gap ++ rest) = elementsFrom items (gap.reverse ++ acc) 0 rest := by
  exact (passage_gap hgap).elementsFrom items acc 0 (by omega) (by simp) rest

theorem elementsFrom_isEnd (acc : List Char) (h : isEnd true c = true) (rest : List Char) :
    elementsFrom items acc 0 (c :: rest) = elementsFrom (closeItem items acc) [] 0 rest := by
  have hchar : (c ≠ '"' ∧ c ≠ '#' ∧ c ≠ '/' ∧ c ≠ '<') ∧ isOpener c = false ∧
      isCloser c = false ∧ (c = ',' ∨ c = '\n') := by
    rcases isEnd_iff.1 h with rfl | ⟨-, rfl⟩ <;> decide
  obtain ⟨hne, hopener, hcloser, hstop⟩ := hchar
  rw [elementsFrom_char items acc 0 rest hne, hopener, hcloser, if_neg Bool.false_ne_true,
    if_neg Bool.false_ne_true, if_pos ⟨rfl, hstop⟩]

/-- Where no item is open, separators open none. -/
theorem elementsFrom_separators {acc : List Char} (hacc : ∀ c ∈ acc, isBlank c = true)
    (h : cs.all isSeparator = true) : ∃ acc' : List Char, (∀ c ∈ acc', isBlank c = true) ∧
      ∀ rest, elementsFrom items acc 0 (cs ++ rest) = elementsFrom items acc'.reverse 0 rest := by
  induction cs generalizing acc with
  | nil => exact ⟨acc.reverse, by simpa using hacc, fun rest => by simp⟩
  | cons c cs ih =>
    rw [List.all_cons, Bool.and_eq_true] at h
    by_cases hgap : isGap c = true
    · -- a blank is kept, in front of the next item
      have hkept : ∀ d ∈ c :: acc, isBlank d = true :=
        List.forall_mem_cons.2 ⟨isBlank_of_isGap hgap, hacc⟩
      have hone : [c].all isGap = true := by simpa using hgap
      obtain ⟨acc', hblank, hgo⟩ := ih hkept h.2
      refine ⟨acc', hblank, fun rest => ?_⟩
      rw [List.cons_append, ← hgo rest]
      exact elementsFrom_gap items acc hone (cs ++ rest)
    · -- an end closes an item that is blank, which is none
      have hend : isEnd true c = true := by
        have := h.1
        simp only [isSeparator, isGap, isEnd, Bool.or_eq_true, beq_iff_eq, Bool.true_and] at *
        tauto
      obtain ⟨acc', hblank, hgo⟩ := ih (fun d (hd : d ∈ []) => by cases hd) h.2
      refine ⟨acc', hblank, fun rest => ?_⟩
      rw [List.cons_append, elementsFrom_isEnd items acc hend, closeItem_blank items hacc, hgo]

/-- The items are found one after another. -/
theorem elementsFrom_parts {α : Type} {f : α → List Char} {ps : List (α × List Char)}
    (hf : ∀ p ∈ ps, ValueText (f p.1)) (h : isApart true ps = true) {pad : List Char}
    (hpad : ∀ c ∈ pad, isBlank c = true) :
    elementsFrom items pad.reverse 0 (ps.flatMap fun p => f p.1 ++ p.2) =
      items.reverse ++ ps.map fun p => f p.1 := by
  -- What stands behind an item ends in the padding of the next one, so the padding changes.
  induction ps generalizing items pad with
  | nil =>
    rw [List.flatMap_nil, elementsFrom.eq_def]
    dsimp only
    rw [closeItem_blank items (by simpa using hpad), List.map_nil, List.append_nil]
  | cons p ps ih =>
    rw [List.forall_mem_cons] at hf
    obtain ⟨hbehind, hrest⟩ := isApart_cons f h
    have hitem (rest : List Char) := hf.1.passage.elementsFrom items pad.reverse 0 (by omega)
      (by simp) rest
    rw [List.flatMap_cons, List.append_assoc, hitem]
    rcases hbehind with hbreak | ⟨hgap, hnone⟩
    · obtain ⟨gap, stop, more, hp, hgap, hstop, hmore⟩ := exists_of_isBreak hbreak
      obtain ⟨acc', hblank, hgo⟩ := elementsFrom_separators (f p.1 :: items)
        (List.forall_mem_nil _) hmore
      have hclose := closeItem_padded items pad gap hf.1 hpad fun c hc =>
        isBlank_of_isGap (List.all_eq_true.1 hgap c hc)
      rw [hp, List.append_assoc, elementsFrom_gap items _ hgap, List.cons_append,
        elementsFrom_isEnd items _ hstop, hclose, hgo, ih _ hf.2 hrest hblank]
      simp
    · -- the last item ends with the text
      have hclose := closeItem_padded items pad p.2 hf.1 hpad fun c hc =>
        isBlank_of_isGap (List.all_eq_true.1 hgap c hc)
      have hps : ps = [] := by
        cases ps with
        | nil => rfl
        | cons q ps =>
          -- the text of an item is not empty
          rw [List.flatMap_cons, List.append_assoc, List.append_eq_nil_iff] at hnone
          exact absurd hnone.1 (hf.2 q List.mem_cons_self).nonempty
      rw [hps, List.flatMap_nil, elementsFrom_gap items _ hgap, elementsFrom.eq_def]
      dsimp only
      rw [hclose]
      simp

end Lists

/-- **The items of a list are found again**, whatever stands between them. -/
theorem elements_text {α : Type} {f : α → List Char} (s : Spaced true α)
    (hf : ∀ a ∈ s.items, ValueText (f a)) : elements (s.text f) = s.items.map f := by
  obtain ⟨acc', hblank, hgo⟩ := elementsFrom_separators [] (List.forall_mem_nil _)
    s.lead_isSeparator
  have hparts : ∀ p ∈ s.parts, ValueText (f p.1) := fun p hp => hf p.1 (List.mem_map_of_mem hp)
  rw [elements, Spaced.text, hgo, elementsFrom_parts [] hparts s.parts_isApart hblank,
    Spaced.items, List.map_map]
  rfl

/-! ## Statements -/

section Statements

variable (commas : Bool) (done : List Statement) {c : Char} {cs rest : List Char}

theorem statementsFrom_nil : statementsFrom commas done [] = done.reverse := by
  rw [statementsFrom]

theorem statementsFrom_separator (h : isSeparator c = true) :
    statementsFrom commas done (c :: rest) = statementsFrom commas done rest := by
  rw [statementsFrom, if_pos h]

/-- A statement begins with its key. -/
theorem statementsFrom_key {key : String} {after : List Char} (hsep : isSeparator c = false)
    (hcomment : c ≠ '#' ∧ c ≠ '/') (hkey : readKey? (c :: rest) = some (key, after)) :
    statementsFrom commas done (c :: rest) =
      statementsFrom commas ((keyedStatement commas key after).1 :: done)
        (keyedStatement commas key after).2 := by
  rw [statementsFrom, hsep, if_neg Bool.false_ne_true]
  split
  · -- no comment begins here
    rename_i hc
    rw [afterComment?_of_ne hcomment.1 hcomment.2] at hc
    cases hc
  · split
    · rename_i hk
      rw [hkey] at hk
      cases hk
      rfl
    · rename_i hk
      rw [hkey] at hk
      cases hk

/-- Separators between statements are passed over. -/
theorem statementsFrom_separators (h : cs.all isSeparator = true) (rest : List Char) :
    statementsFrom commas done (cs ++ rest) = statementsFrom commas done rest := by
  induction cs with
  | nil => rfl
  | cons c cs ih =>
    rw [List.all_cons, Bool.and_eq_true] at h
    rw [List.cons_append, statementsFrom_separator commas done h.1, ih h.2]

end Statements

/-- A text is cut out as a statement, whatever keeps it apart from the next one. -/
def CutsOut (commas : Bool) (cs : List Char) (st : Statement) : Prop :=
  ∀ (done : List Statement) (behind rest : List Char), Follows commas behind rest →
    statementsFrom commas done (cs ++ (behind ++ rest)) = statementsFrom commas (st :: done) rest

/-- Behind a text that gives a key the value that follows it, the value ends where it ends by
itself. -/
theorem cutsOut_assignment {commas : Bool} {name : String} {front lead value : List Char}
    (h : ValueText value) (hlead : ∀ c ∈ lead, isSpacing c = true)
    (hfront : ∀ done rest, statementsFrom commas done (front ++ (value ++ rest)) =
      statementsFrom commas (.assignment name (readRaw commas (lead ++ (value ++ rest))).1 :: done)
        (readRaw commas (lead ++ (value ++ rest))).2) :
    CutsOut commas (front ++ value) (.assignment name (.source value)) := by
  intro done behind rest hbehind
  obtain ⟨after, hread, more, hmore, rfl⟩ := readRaw_follows h hlead hbehind
  rw [List.append_assoc, hfront, hread]
  exact statementsFrom_separators commas _ hmore rest

/-- Statements are cut out one after another, each with what stands behind it. -/
theorem statementsFrom_parts {commas : Bool} {α : Type} {f : α → List Char} {st : α → Statement}
    {ps : List (α × List Char)} (hps : isApart commas ps = true)
    (hcut : ∀ p ∈ ps, CutsOut commas (f p.1) (st p.1)) (done : List Statement) :
    statementsFrom commas done (ps.flatMap fun p => f p.1 ++ p.2) =
      done.reverse ++ ps.map fun p => st p.1 := by
  induction ps generalizing done with
  | nil =>
    rw [List.flatMap_nil, statementsFrom_nil]
    simp
  | cons p ps ih =>
    rw [List.forall_mem_cons] at hcut
    obtain ⟨hbehind, hrest⟩ := isApart_cons f hps
    rw [List.flatMap_cons, List.append_assoc, hcut.1 done _ _ hbehind, ih hrest hcut.2]
    simp

/-- **The statements of a body are found again**, whatever stands between them. -/
theorem statements_text {commas : Bool} {α : Type} {f : α → List Char} {st : α → Statement}
    (s : Spaced commas α) (hcut : ∀ a ∈ s.items, CutsOut commas (f a) (st a)) :
    statements commas (s.text f) = s.items.map st := by
  have hitems : ∀ p ∈ s.parts, CutsOut commas (f p.1) (st p.1) := fun p hp =>
    hcut p.1 (List.mem_map_of_mem hp)
  rw [statements, Spaced.text, statementsFrom_separators commas [] s.lead_isSeparator,
    statementsFrom_parts s.parts_isApart hitems, Spaced.items, List.map_map]
  rfl

/-! ## Loops -/

/-- Behind separators a `for` expression begins only where it would without them. -/
theorem isForExpression_separators {cs rest : List Char} (h : cs.all isSeparator = true)
    (hrest : isForExpression rest = false) : isForExpression (cs ++ rest) = false := by
  induction cs with
  | nil => exact hrest
  | cons c cs ih =>
    rw [List.all_cons, Bool.and_eq_true] at h
    cases hblank : isBlank c with
    | true =>
      -- a blank is passed over
      rw [List.cons_append, isForExpression, List.dropWhile_cons_of_pos hblank]
      exact ih h.2
    | false => exact isForExpression_of_ne hblank (ne_of_class h.1 (by decide))

/-- Parts that begin no `for` expression begin none together. -/
theorem isForExpression_text {commas : Bool} {α : Type} {f : α → List Char}
    (s : Spaced commas α) (hf : ∀ a ∈ s.items, ∀ rest, isForExpression (f a ++ rest) = false) :
    isForExpression (s.text f) = false := by
  refine isForExpression_separators s.lead_isSeparator ?_
  rw [Spaced.items] at hf
  cases hparts : s.parts with
  | nil => rfl
  | cons p ps =>
    rw [List.flatMap_cons, List.append_assoc]
    exact hf p.1 (by simp [hparts]) _

/-! ## Commas -/

/-- Parts with a comma and a space behind each but the last. -/
def withCommas {α : Type} : List α → List (α × List Char)
  | [] => []
  | [x] => [(x, [])]
  | x :: y :: xs => (x, [',', ' ']) :: withCommas (y :: xs)

theorem isApart_withCommas {α : Type} (xs : List α) : isApart true (withCommas xs) = true := by
  fun_induction withCommas xs with
  | case1 => rfl
  | case2 => rfl
  | case3 x y xs ih =>
    cases xs with
    | nil => rfl
    | cons z xs => exact ih

namespace Spaced

variable {α : Type}

/-- Parts with a comma and a space between them. -/
def comma (xs : List α) : Spaced true α where
  lead := []
  parts := withCommas xs
  lead_isSeparator := rfl
  parts_isApart := isApart_withCommas xs

theorem items_comma (xs : List α) : (comma xs).items = xs := by
  show (withCommas xs).map (·.1) = xs
  fun_induction withCommas xs with
  | case1 => rfl
  | case2 => rfl
  | case3 x y xs ih => rw [List.map_cons, ih]

theorem text_comma (f : α → List Char) (xs : List α) :
    (comma xs).text f = commaSeparated (xs.map f) := by
  show (withCommas xs).flatMap (fun p => f p.1 ++ p.2) = _
  fun_induction withCommas xs with
  | case1 => rfl
  | case2 x => simp [commaSeparated]
  | case3 x y xs ih =>
    have hjoin : commaSeparated ((x :: y :: xs).map f) =
        f x ++ ([',', ' '] ++ commaSeparated ((y :: xs).map f)) := by
      rw [List.map_cons, List.map_cons, commaSeparated, List.intercalate_cons_cons,
        List.append_assoc]
      rfl
    rw [List.flatMap_cons, ih, hjoin, List.append_assoc]

end Spaced

end Groundplan.Hcl
