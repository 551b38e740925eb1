import Groundplan.Proofs.Hcl.Suffix

/-!
# Scanners and loops advance

A scanner that recognises something ends at a later place of its source, and a loop that goes on
does so at a later place of its text. So every loop is left, after no more turns than its text has
characters.

## Main definitions

* `Scanner`, `Scanner.stop?`: the scanners, by the places of a source
* `Turn`: what one turn of a loop does, and `Turn.run`: what some turns come to
* `IsLoop`: a function is what a loop of advancing turns comes to

## Main results

* `Scanner.lt_of_stop?`: **a scanner stops strictly behind its start and inside the source**
* `IsLoop.run_eq`: **a loop of advancing turns is left**
* `isLoop_sections`, `isLoop_statements`, `isLoop_value`, `isLoop_elements`, `isLoop_labels`,
  `isLoop_blank`: the loops of a reader
-/

namespace Groundplan.Hcl

open Text

/-! ## Scanners -/

/-- A scanner may be sent out over the whole of a text. -/
theorem length_le_whole (cs : List Char) : cs.length ≤ cs.length := Nat.le_refl _

/-- The text after a template whose opening brace has been read; a template that is not closed takes
up the rest of the text. -/
def afterTemplate (cs : List Char) : List Char :=
  ((skipRegion cs.length (.template 0) cs (length_le_whole cs)).map (·.val)).getD []

/-- The scanners, each by what it is sent out for. -/
inductive Scanner where
  /-- The quote that closes the literal that opens here. -/
  | quote
  /-- The end of the template whose inside begins here. -/
  | template
  /-- The end of the literal that opens here, closed or not. -/
  | literal
  /-- The end of the comment that begins here. -/
  | comment
  /-- The end of the heredoc that begins here. -/
  | heredoc
  /-- The bracket that closes the one that stands here. -/
  | bracket (opener closer : Char)

namespace Scanner

/-- The text from the place on at which a scanner stops. -/
def leave? : Scanner → List Char → Option (List Char)
  | _, [] => none
  | quote, _ :: rest => (closeQuote rest).map ('"' :: ·)
  | template, c :: rest => some (afterTemplate (c :: rest))
  | literal, _ :: rest => some (skipString rest)
  | comment, c :: rest => afterComment? (c :: rest)
  | heredoc, c :: rest => (heredoc? (c :: rest)).map (·.rest)
  | bracket opener closer, _ :: rest => (closeBracket opener closer 0 rest).map (closer :: ·)

/-- The place at which a scanner stops that starts at some place of a source. -/
def stop? (s : Scanner) (source : List Char) (i : Nat) : Option Nat :=
  (s.leave? (source.drop i)).map fun rest => source.length - rest.length

theorem afterTemplate_behind (c : Char) (cs : List Char) :
    Behind (afterTemplate (c :: cs)) (c :: cs) := by
  rw [afterTemplate]
  cases h : skipRegion (c :: cs).length (.template 0) (c :: cs) (Nat.le_refl _) with
  | none => exact ⟨List.nil_suffix, Nat.succ_pos _⟩
  | some r => exact behind_of_cons_suffix (closer_suffix_of_skipRegion h)

/-- What a scanner leaves is behind its start. -/
theorem behind_of_leave? {s : Scanner} {cs rest : List Char} (h : s.leave? cs = some rest) :
    Behind rest cs := by
  cases cs with
  | nil => cases s <;> cases h
  | cons c cs =>
    cases s with
    | quote =>
      obtain ⟨r, hr, rfl⟩ := Option.map_eq_some_iff.1 h
      exact behind_cons (quote_suffix_of_closeQuote hr)
    | template =>
      cases h
      exact afterTemplate_behind c cs
    | literal =>
      cases h
      exact behind_cons (skipString_suffix cs)
    | comment => exact behind_of_afterComment? h
    | heredoc =>
      obtain ⟨d, hd, rfl⟩ := Option.map_eq_some_iff.1 h
      exact behind_of_heredoc? hd
    | bracket opener closer =>
      obtain ⟨r, hr, rfl⟩ := Option.map_eq_some_iff.1 h
      exact behind_cons (closer_suffix_of_closeBracket hr)

/-- **A scanner stops strictly behind its start and inside the source**, and leaves the source from
there on. -/
theorem lt_of_stop? {s : Scanner} {source : List Char} {i j : Nat}
    (h : s.stop? source i = some j) :
    i < j ∧ j ≤ source.length ∧ s.leave? (source.drop i) = some (source.drop j) := by
  obtain ⟨rest, hrest, rfl⟩ := Option.map_eq_some_iff.1 h
  obtain ⟨hsuffix, hlt⟩ := behind_of_leave? hrest
  rw [List.length_drop] at hlt
  refine ⟨by omega, Nat.sub_le _ _, ?_⟩
  rw [hrest, List.suffix_iff_eq_drop.1 (hsuffix.trans (List.drop_suffix i source))]
  simp only [List.length_drop]
  congr 2
  omega

end Scanner

/-! ## Loops -/

/-- What one turn of a loop does: it leaves the loop with a result, or goes on. -/
inductive Turn (σ ρ : Type) where
  | leave (result : ρ)
  | again (s : σ)

/-- What a loop has come to after at most so many turns. -/
def Turn.run {σ ρ : Type} (turn : σ → Turn σ ρ) : Nat → σ → Option ρ
  | 0, _ => none
  | n + 1, s =>
    match turn s with
    | .leave r => some r
    | .again s => run turn n s

/-- A function is what a loop comes to, each turn of which leaves the loop or goes on at a later
place of the text. -/
structure IsLoop {σ ρ : Type} (text : σ → List Char) (turn : σ → Turn σ ρ) (f : σ → ρ) : Prop where
  eq : ∀ s, f s = match turn s with
    | .leave r => r
    | .again t => f t
  behind : ∀ s t, turn s = .again t → Behind (text t) (text s)

/-- **A loop of advancing turns is left** within one turn for each character and a last one. -/
theorem IsLoop.run_eq {σ ρ : Type} {text : σ → List Char} {turn : σ → Turn σ ρ} {f : σ → ρ}
    (h : IsLoop text turn f) (s : σ) : Turn.run turn ((text s).length + 1) s = some (f s) := by
  suffices hmore : ∀ n, (text s).length < n → Turn.run turn n s = some (f s) from
    hmore _ (Nat.lt_succ_self _)
  intro n
  induction n generalizing s with
  | zero => intro hn; exact absurd hn (Nat.not_lt_zero _)
  | succ n ih =>
    intro hn
    rw [Turn.run, h.eq]
    cases ht : turn s with
    | leave r => rfl
    | again t =>
      have hlt := (h.behind s t ht).2
      exact ih t (by omega)

/-! ## The loops of a reader -/

/-- One turn at the top level, at a line and with what has been found so far. -/
def sectionsTurn :
    Nat × List TopLevel × List Char → Turn (Nat × List TopLevel × List Char) (List TopLevel)
  | (_, done, []) => .leave done.reverse
  | (line, done, c :: rest) =>
    if isBlank c then .again (line + lineFeeds [c], done, rest)
    else
      match afterComment? (c :: rest) with
      | some r => .again (line + commentLines (c :: rest), done, r)
      | none =>
        if isNameStart c then
          let (found, r) := readSection line (c :: rest)
          .again (found.lineAfter, found :: done, r)
        else .again (line + 1, .junk c line :: done, nextLine (c :: rest))

theorem isLoop_sections :
    IsLoop (·.2.2) sectionsTurn fun s => sectionsFrom s.1 s.2.1 s.2.2 where
  eq := by
    rintro ⟨line, done, cs⟩
    dsimp only
    fun_cases sectionsFrom line done cs <;> simp [sectionsTurn, *]
  behind s t := by
    fun_cases sectionsTurn s with
    | case1 => rintro ⟨⟩
    | case2 line done c rest =>
      rintro ⟨⟩
      exact behind_cons List.suffix_rfl
    | case3 line done c rest _ r hr =>
      rintro ⟨⟩
      exact behind_of_afterComment? hr
    | case4 line done c rest _ _ _ found r hread =>
      rintro ⟨⟩
      have hbehind := behind_readSection line c rest
      rwa [hread] at hbehind
    | case5 line done c rest =>
      rintro ⟨⟩
      exact behind_cons (nextLine_cons_suffix c rest)

/-- One turn in a body, with the statements found so far. -/
def statementsTurn (inline : Bool) :
    List Statement × List Char → Turn (List Statement × List Char) (List Statement)
  | (done, []) => .leave done.reverse
  | (done, c :: rest) =>
    if isSeparator c then .again (done, rest)
    else
      match afterComment? (c :: rest) with
      | some r => .again (done, r)
      | none =>
        match readKey? (c :: rest) with
        | some (key, afterKey) =>
          let (st, r) := keyedStatement inline key afterKey
          .again (st :: done, r)
        | none =>
          let (value, r) := readRaw inline (c :: rest)
          .again (.unrecognized value ((trim (consumed (c :: rest) r)).take shownLength) :: done,
            afterUnrecognized inline c rest)

theorem isLoop_statements (inline : Bool) :
    IsLoop (·.2) (statementsTurn inline) fun s => statementsFrom inline s.1 s.2 where
  eq := by
    rintro ⟨done, cs⟩
    dsimp only
    fun_cases statementsFrom inline done cs with
    | case5 => simp [statementsTurn, *]; rfl
    | _ => simp [statementsTurn, *]
  behind s t := by
    fun_cases statementsTurn inline s with
    | case1 => rintro ⟨⟩
    | case2 done c rest =>
      rintro ⟨⟩
      exact behind_cons List.suffix_rfl
    | case3 done c rest _ r hr =>
      rintro ⟨⟩
      exact behind_of_afterComment? hr
    | case4 done c rest _ _ key afterKey hk st r hst =>
      rintro ⟨⟩
      have hsuffix := keyedStatement_suffix inline key afterKey
      rw [hst] at hsuffix
      exact behind_of_suffix_of_behind hsuffix (behind_of_readKey? hk)
    | case5 done c rest =>
      rintro ⟨⟩
      exact behind_afterUnrecognized inline c rest

/-- One turn in a value, with so many brackets open. -/
def valueTurn (commaEnds : Bool) : Nat × List Char → Turn (Nat × List Char) (List Char)
  | (_, []) => .leave []
  | (depth, c :: rest) =>
    if c == '"' then .again (depth, skipString rest)
    else
      match afterComment? (c :: rest) with
      | some r => if depth = 0 then .leave (c :: rest) else .again (depth, r)
      | none =>
        match if depth = 0 then none else heredoc? (c :: rest) with
        | some d => .again (depth, d.rest)
        | none =>
          if isOpener c then .again (depth + 1, rest)
          else if isCloser c then
            match depth with
            | 0 => .leave (c :: rest)
            | depth + 1 => .again (depth, rest)
          else if depth = 0 ∧ (c = '\n' ∨ (commaEnds ∧ c = ',')) then .leave (c :: rest)
          else .again (depth, rest)

theorem isLoop_value (commaEnds : Bool) :
    IsLoop (·.2) (valueTurn commaEnds) fun s => afterValue commaEnds s.1 s.2 where
  eq := by
    rintro ⟨depth, cs⟩
    dsimp only
    fun_cases afterValue commaEnds depth cs with
    | case8 _ _ _ _ _ _ _ _ hnone =>
      rw [if_neg (Nat.succ_ne_zero _)] at hnone
      simp [valueTurn, *]
    | _ => simp [valueTurn, *]
  behind s t := by
    fun_cases valueTurn commaEnds s with
    | case1 | case3 | case7 | case9 => rintro ⟨⟩
    | case2 depth c rest =>
      rintro ⟨⟩
      exact behind_cons (skipString_suffix rest)
    | case4 depth c rest _ r hr =>
      rintro ⟨⟩
      exact behind_of_afterComment? hr
    | case5 depth c rest _ _ d hd =>
      rintro ⟨⟩
      refine behind_of_heredoc? (d := d) ?_
      split at hd
      · cases hd
      · exact hd
    | case6 | case8 | case10 =>
      rintro ⟨⟩
      exact behind_cons List.suffix_rfl

/-- One turn in a list, with the items so far, the text of the open one and the depth. -/
def elementsTurn :
    List (List Char) × List Char × Int × List Char →
      Turn (List (List Char) × List Char × Int × List Char) (List (List Char))
  | (items, acc, _, []) => .leave (closeItem items acc).reverse
  | (items, acc, depth, c :: rest) =>
    if c == '"' then
      .again (items, (consumed (c :: rest) (skipString rest)).reverse ++ acc, depth,
        skipString rest)
    else
      match afterComment? (c :: rest) with
      | some r => .again (items, acc, depth, r)
      | none =>
        match heredoc? (c :: rest) with
        | some d => .again (items, (consumed (c :: rest) d.rest).reverse ++ acc, depth, d.rest)
        | none =>
          if isOpener c then .again (items, c :: acc, depth + 1, rest)
          else if isCloser c then .again (items, c :: acc, depth - 1, rest)
          else if depth = 0 ∧ (c = ',' ∨ c = '\n') then
            .again (closeItem items acc, [], depth, rest)
          else .again (items, c :: acc, depth, rest)

theorem isLoop_elements :
    IsLoop (·.2.2.2) elementsTurn fun s => elementsFrom s.1 s.2.1 s.2.2.1 s.2.2.2 where
  eq := by
    rintro ⟨items, acc, depth, cs⟩
    dsimp only
    fun_cases elementsFrom items acc depth cs with
    | case2 => simp [elementsTurn, *]; rfl
    | _ => simp [elementsTurn, *]
  behind s t := by
    fun_cases elementsTurn s with
    | case1 => rintro ⟨⟩
    | case2 items acc depth c rest =>
      rintro ⟨⟩
      exact behind_cons (skipString_suffix rest)
    | case3 items acc depth c rest _ r hr =>
      rintro ⟨⟩
      exact behind_of_afterComment? hr
    | case4 items acc depth c rest _ _ d hd =>
      rintro ⟨⟩
      exact behind_of_heredoc? hd
    | case5 | case6 | case7 | case8 =>
      -- Whatever one character does to the item, it is passed.
      rintro ⟨⟩
      exact behind_cons List.suffix_rfl

/-- One turn between labels, with those found so far. -/
def labelsTurn :
    List String × List Char → Turn (List String × List Char) (List String × List Char)
  | (done, cs) =>
    match readKey? (cs.dropWhile isSpacing) with
    | some (label, rest) => .again (label :: done, rest)
    | none => .leave (done.reverse, cs.dropWhile isSpacing)

theorem isLoop_labels : IsLoop (·.2) labelsTurn fun s => readLabels s.1 s.2 where
  eq := by
    rintro ⟨done, cs⟩
    dsimp only
    fun_cases readLabels done cs <;> simp [labelsTurn, *]
  behind s t := by
    fun_cases labelsTurn s with
    | case1 done cs label rest hk =>
      rintro ⟨⟩
      exact (behind_of_readKey? hk).trans_suffix (List.dropWhile_suffix _)
    | case2 => rintro ⟨⟩

/-- One turn among blanks and comments. -/
def blankTurn : List Char → Turn (List Char) (List Char)
  | [] => .leave []
  | c :: rest =>
    if isBlank c then .again rest
    else
      match afterComment? (c :: rest) with
      | some r => .again r
      | none => .leave (c :: rest)

theorem isLoop_blank : IsLoop id blankTurn skipBlank where
  eq cs := by fun_cases skipBlank cs <;> simp [blankTurn, *]
  behind cs t := by
    fun_cases blankTurn cs with
    | case1 | case4 => rintro ⟨⟩
    | case2 c rest =>
      rintro ⟨⟩
      exact behind_cons List.suffix_rfl
    | case3 c rest _ r hr =>
      rintro ⟨⟩
      exact behind_of_afterComment? hr

end Groundplan.Hcl
