import Groundplan.Text.Lines

/-!
# Scanning configuration text

The parts of a text whose brackets, quotes and commas do not count: string literals with their
templates, comments and heredocs. Every scanner takes the text from where it stands and answers with
the text that is left; a nested literal that does not end on its line is left at the line break.

## Main definitions

* `closeQuote`: the text after the quote that closes a string literal
* `skipString`: the text after a string literal, closed or not
* `afterComment?`, `commentLines`: the text after a comment, and the line feeds in it
* `heredoc?`: the lines of a heredoc and the text after it
* `closeBracket`: the text after the bracket that closes one already open
* `consumed`: the part of a text that a scanner has read

## Main results

* `closeQuote_length_le`, `skipString_length_le`, `afterComment?_length_lt`, `heredoc?_length_lt`,
  `closeBracket_length_lt`: what is left is never longer than what there was, and is shorter where
  something has been recognised
-/

namespace Groundplan.Hcl

open Text

/-- A character of the text that is not a line feed. -/
def inLine (c : Char) : Bool :=
  c != '\n'

/-- The text from the next line feed on. -/
def toLineEnd (cs : List Char) : List Char :=
  cs.dropWhile inLine

/-- The text after the next line feed. -/
def nextLine (cs : List Char) : List Char :=
  (toLineEnd cs).drop 1

/-- The part of a text that has been read when `rest` is left. -/
def consumed (cs rest : List Char) : List Char :=
  cs.take (cs.length - rest.length)

theorem toLineEnd_length_le (cs : List Char) : (toLineEnd cs).length ≤ cs.length :=
  (List.dropWhile_sublist _).length_le

theorem nextLine_length_le (cs : List Char) : (nextLine cs).length ≤ cs.length - 1 := by
  have := toLineEnd_length_le cs
  simp only [nextLine, List.length_drop]
  omega

theorem consumed_length_le (cs rest : List Char) : (consumed cs rest).length ≤ cs.length := by
  simp [consumed]

/-! ## String literals and templates -/

/-- Where a scanner stands: inside a string literal, or inside a template with so many inner braces
open. -/
inductive Region where
  | quoted
  | template (openBraces : Nat)
deriving DecidableEq, Repr

/-- The text after the end of a region. A literal ends at its quote and has no line feed of its own;
a backslash, a doubled dollar and a doubled percent sign hide the character after them; `${` and
`%{` open a template. A template ends at its brace and may hold literals. -/
def skipRegion (n : Nat) (region : Region) (cs : List Char) (h : cs.length ≤ n) :
    Option { r : List Char // r.length ≤ n } :=
  match cs with
  | [] => none
  | c :: rest =>
    have hrest : rest.length + 1 ≤ n := h
    match region with
    | .quoted =>
      if c == '\\' then
        -- Whatever the backslash hides is passed over with it.
        skipRegion n .quoted (rest.drop 1) (by simp only [List.length_drop]; omega)
      else if c == '"' then some ⟨rest, by omega⟩
      else if c == '\n' then none
      else if c == '$' || c == '%' then
        match rest with
        | [] => none
        | d :: more =>
          have hmore : more.length + 2 ≤ n := hrest
          -- A doubled sign opens nothing.
          if d == c then skipRegion n .quoted more (by omega)
          else if d == '\x7b' then
            match skipRegion more.length (.template 0) more (Nat.le_refl _) with
            | none => none
            | some ⟨r, hr⟩ => skipRegion n .quoted r (by omega)
          else skipRegion n .quoted (d :: more) (by simp only [List.length_cons]; omega)
      else skipRegion n .quoted rest (by omega)
    | .template depth =>
      if c == '"' then
        match skipRegion rest.length .quoted rest (Nat.le_refl _) with
        | some ⟨r, hr⟩ => skipRegion n (.template depth) r (by omega)
        | none =>
          -- The literal is not closed, and the template goes on at the end of its line.
          have := toLineEnd_length_le rest
          skipRegion n (.template depth) (toLineEnd rest) (by omega)
      else if c == '\x7b' then skipRegion n (.template (depth + 1)) rest (by omega)
      else if c == '\x7d' then
        match depth with
        | 0 => some ⟨rest, by omega⟩
        | depth + 1 => skipRegion n (.template depth) rest (by omega)
      else skipRegion n (.template depth) rest (by omega)
termination_by cs.length
decreasing_by
  all_goals (simp only [List.length_drop, List.length_cons]; omega)

/-- The text after the quote that closes a string literal, given the text after its opening quote;
`none` if the literal is not closed on its line. -/
def closeQuote (cs : List Char) : Option (List Char) :=
  (skipRegion cs.length .quoted cs (Nat.le_refl _)).map (·.val)

theorem closeQuote_length_le {cs r : List Char} (h : closeQuote cs = some r) :
    r.length ≤ cs.length := by
  simp only [closeQuote, Option.map_eq_some_iff] at h
  obtain ⟨p, -, rfl⟩ := h
  exact p.property

/-- The text after a string literal, given the text after its opening quote; a literal that is not
closed ends at the line break. -/
def skipString (cs : List Char) : List Char :=
  (closeQuote cs).getD (toLineEnd cs)

theorem skipString_length_le (cs : List Char) : (skipString cs).length ≤ cs.length := by
  unfold skipString
  cases h : closeQuote cs with
  | none => simpa using toLineEnd_length_le cs
  | some r => simpa using closeQuote_length_le h

/-! ## Comments -/

/-- The text after the end of a block comment; nothing if it does not end. -/
def afterBlockComment : List Char → List Char
  | '*' :: '/' :: rest => rest
  | _ :: rest => afterBlockComment rest
  | [] => []

theorem afterBlockComment_length_le (cs : List Char) :
    (afterBlockComment cs).length ≤ cs.length := by
  fun_induction afterBlockComment cs <;> simp only [List.length_cons, List.length_nil] <;> omega

/-- The text after the comment that starts here, if one does. A comment to the end of its line
leaves the line break. -/
def afterComment? : List Char → Option (List Char)
  | '#' :: rest => some (toLineEnd rest)
  | '/' :: '/' :: rest => some (toLineEnd rest)
  | '/' :: '*' :: rest => some (afterBlockComment rest)
  | _ => none

/-- The line feeds before the end of a block comment, on top of a number of them. -/
def blockCommentLines (n : Nat) : List Char → Nat
  | '*' :: '/' :: _ => n
  | c :: rest => blockCommentLines (if c == '\n' then n + 1 else n) rest
  | [] => n

/-- The line feeds in the comment that starts here; only a block comment has any. -/
def commentLines : List Char → Nat
  | '/' :: '*' :: rest => blockCommentLines 0 rest
  | _ => 0

theorem afterComment?_length_lt {cs r : List Char} (h : afterComment? cs = some r) :
    r.length < cs.length := by
  unfold afterComment? at h
  split at h
  · cases h; rename_i rest
    have := toLineEnd_length_le rest
    simp only [List.length_cons]; omega
  · cases h; rename_i rest
    have := toLineEnd_length_le rest
    simp only [List.length_cons]; omega
  · cases h; rename_i rest
    have := afterBlockComment_length_le rest
    simp only [List.length_cons]; omega
  · cases h

/-! ## Heredocs -/

/-- The body of a heredoc and the text after it, from the line break of its last line on. -/
structure Heredoc where
  body : List Char
  rest : List Char

/-- Lines joined by line feeds. -/
def joinLines (lines : List (List Char)) : List Char :=
  ['\n'].intercalate lines

/-- The lines up to the one that holds nothing but the marker and blanks, or to the end of the text,
and what is left. Carriage returns at line ends are dropped. -/
def heredocLines (marker : List Char) (done : List (List Char)) (cs : List Char) :
    List (List Char) × List Char :=
  match cs with
  | [] => (done.reverse, [])
  | c :: cs' =>
    let line := trimEndWith (· == '\r') ((c :: cs').takeWhile inLine)
    -- The line break behind the marker is left: it may end a statement.
    if trim line == marker then (done.reverse, toLineEnd (c :: cs'))
    else heredocLines marker (line :: done) (nextLine (c :: cs'))
termination_by cs.length
decreasing_by
  have := nextLine_length_le (c :: cs')
  simp only [List.length_cons] at *; omega

theorem heredocLines_length_le (marker : List Char) (done : List (List Char)) (cs : List Char) :
    (heredocLines marker done cs).2.length ≤ cs.length := by
  fun_induction heredocLines marker done cs with
  | case1 => exact Nat.le_refl _
  | case2 done c cs' line h => exact toLineEnd_length_le _
  | case3 done c cs' line h ih =>
    have := nextLine_length_le (c :: cs')
    omega

/-- The line break that ends the opening line of a heredoc, and the text after it. -/
def afterOpening? : List Char → Option (List Char)
  | '\n' :: rest => some rest
  | '\r' :: '\n' :: rest => some rest
  | _ => none

theorem afterOpening?_length_lt {cs r : List Char} (h : afterOpening? cs = some r) :
    r.length < cs.length := by
  unfold afterOpening? at h
  split at h
  · cases h; simp
  · cases h; simp only [List.length_cons]; omega
  · cases h

/-- The heredoc whose marker starts here. -/
def heredocFrom? (indented : Bool) (cs : List Char) : Option Heredoc :=
  match cs with
  | [] => none
  | c :: more =>
    if isNameStart c then
      -- Behind the marker only spaces and tabs may stand on its line.
      match afterOpening? ((more.dropWhile isWord).dropWhile isSpacing) with
      | none => none
      | some text =>
        let (lines, rest) := heredocLines (c :: more.takeWhile isWord) [] text
        some ⟨joinLines (if indented then dedent lines else lines), rest⟩
    else none

/-- The heredoc that starts here, if one does: `<<`, a hyphen if the common indentation is to be
removed, a marker, and the line break. -/
def heredoc? : List Char → Option Heredoc
  | '<' :: '<' :: '-' :: cs => heredocFrom? true cs
  | '<' :: '<' :: cs => heredocFrom? false cs
  | _ => none

theorem heredocFrom?_length_lt {indented : Bool} {cs : List Char} {d : Heredoc}
    (h : heredocFrom? indented cs = some d) : d.rest.length < cs.length := by
  unfold heredocFrom? at h
  split at h
  · cases h
  · rename_i c more
    split at h
    · split at h
      · cases h
      · rename_i text htext
        cases h
        have h1 := afterOpening?_length_lt htext
        have h2 := heredocLines_length_le (c :: more.takeWhile isWord) [] text
        have h3 := (List.dropWhile_sublist isSpacing (l := more.dropWhile isWord)).length_le
        have h4 := (List.dropWhile_sublist isWord (l := more)).length_le
        simp only [List.length_cons]
        omega
    · cases h

theorem heredoc?_length_lt {cs : List Char} {d : Heredoc} (h : heredoc? cs = some d) :
    d.rest.length < cs.length := by
  unfold heredoc? at h
  split at h
  · have := heredocFrom?_length_lt h
    simp only [List.length_cons]; omega
  · have := heredocFrom?_length_lt h
    simp only [List.length_cons]; omega
  · cases h

/-- The text after the comment or heredoc that starts here, if one does. -/
def afterIgnored? (cs : List Char) : Option (List Char) :=
  match afterComment? cs with
  | some r => some r
  | none => (heredoc? cs).map (·.rest)

theorem afterIgnored?_length_lt {cs r : List Char} (h : afterIgnored? cs = some r) :
    r.length < cs.length := by
  unfold afterIgnored? at h
  split at h
  · rename_i hc
    cases h
    exact afterComment?_length_lt hc
  · obtain ⟨d, hd, rfl⟩ := Option.map_eq_some_iff.1 h
    exact heredoc?_length_lt hd

/-! ## Brackets -/

/-- The text after the bracket that closes an open one, with `depth` more open inside it. Only
brackets of the same kind count. -/
def closeBracket (opener closer : Char) (depth : Nat) (cs : List Char) : Option (List Char) :=
  match cs with
  | [] => none
  | c :: rest =>
    -- Brackets in literals, comments and heredocs do not count.
    if c == '"' then closeBracket opener closer depth (skipString rest)
    else
      match _hr : afterIgnored? (c :: rest) with
      | some r => closeBracket opener closer depth r
      | none =>
        if c == opener then closeBracket opener closer (depth + 1) rest
        else if c == closer then
          match depth with
          | 0 => some rest
          | depth + 1 => closeBracket opener closer depth rest
        else closeBracket opener closer depth rest
termination_by cs.length
decreasing_by
  · have := skipString_length_le rest
    simp only [List.length_cons]; omega
  · have := afterIgnored?_length_lt _hr
    simpa using this
  all_goals simp

theorem closeBracket_length_lt {opener closer : Char} {depth : Nat} {cs r : List Char}
    (h : closeBracket opener closer depth cs = some r) : r.length < cs.length := by
  fun_induction closeBracket opener closer depth cs with
  | case1 => cases h
  | case2 depth c rest _ ih =>
    have := ih h
    have := skipString_length_le rest
    simp only [List.length_cons]; omega
  | case3 depth c rest _ r' hr ih =>
    have := ih h
    have := afterIgnored?_length_lt hr
    omega
  | case4 depth c rest _ _ _ ih => have := ih h; simp only [List.length_cons]; omega
  | case5 => cases h; simp
  | case6 c rest _ _ _ _ depth ih => have := ih h; simp only [List.length_cons]; omega
  | case7 depth c rest _ _ _ _ ih => have := ih h; simp only [List.length_cons]; omega

end Groundplan.Hcl
