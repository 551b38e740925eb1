import Groundplan.Hcl.Scan
import Groundplan.Text.Bytes

/-!
# Statements

The statements of a block body and the top-level sections of a text, cut out but not yet read: the
texts of values and nested bodies are left as they stand.

## Main definitions

* `RawValue`: the text of a value, or the body of a heredoc
* `Statement`, `statements`: the statements of a body
* `Section`, `sections`: the top-level blocks of a text, and the lines that are none
* `elements`: the texts of the items of a list
* `unescape`: the text that a literal stands for

## Main results

* `length_le_of_mem_elements`: an item is no longer than the list
* `size_le_of_mem_statements`: the texts inside a statement are no longer than the body; all but
  unrecognised ones are shorter
-/

namespace Groundplan.Hcl

open Text

/-! ## Literals -/

/-- The character that a backslash and this character stand for. -/
def simpleEscape? (c : Char) : Option Char :=
  if c == 'n' then some '\n'
  else if c == 't' then some '\t'
  else if c == 'r' then some '\r'
  else if c == '"' then some '"'
  else if c == '\\' then some '\\'
  else none

/-- The character of the four hexadecimal digits at the start of a text. -/
def unicodeEscape? (cs : List Char) : Option Char :=
  match cs with
  | a :: b :: c :: d :: _ =>
    match hexValue? a, hexValue? b, hexValue? c, hexValue? d with
    | some a, some b, some c, some d =>
      some (unpaired (((a * 16 + b) * 16 + c) * 16 + d))
    | _, _, _, _ => none
  | _ => none

/-- The text that the inside of a literal stands for; unknown escapes stay as they are. The text so
far is `done`, last character first. -/
def unescapeFrom (done : List Char) (cs : List Char) : List Char :=
  match cs with
  | [] => done.reverse
  | [c] => (c :: done).reverse
  | c :: d :: rest =>
    if c == '\\' then
      match simpleEscape? d with
      | some e => unescapeFrom (e :: done) rest
      | none =>
        if d == 'u' then
          match unicodeEscape? rest with
          | some e => unescapeFrom (e :: done) (rest.drop 4)
          -- Without four digits the backslash stays, and so does any other that is unknown.
          | none => unescapeFrom (c :: done) (d :: rest)
        else unescapeFrom (c :: done) (d :: rest)
    else unescapeFrom (c :: done) (d :: rest)
termination_by cs.length

/-- The text that the inside of a literal stands for. -/
def unescape (cs : List Char) : String :=
  String.ofList (unescapeFrom [] cs)

/-! ## Keys and labels -/

/-- The key at the start of a text, a literal or an identifier, and what follows. -/
def readKey? (cs : List Char) : Option (String × List Char) :=
  match cs with
  | [] => none
  | c :: rest =>
    if c == '"' then
      (closeQuote rest).map fun r => (unescape (consumed rest r).dropLast, r)
    else if isNameStart c then
      some (String.ofList (c :: rest.takeWhile isNamePart), rest.dropWhile isNamePart)
    else none

theorem readKey?_length_lt {cs r : List Char} {key : String} (h : readKey? cs = some (key, r)) :
    r.length < cs.length := by
  unfold readKey? at h
  split at h
  · cases h
  · rename_i c rest
    split at h
    · obtain ⟨r', hr, he⟩ := Option.map_eq_some_iff.1 h
      cases he
      have := closeQuote_length_le hr
      simp only [List.length_cons]; omega
    · split at h
      · cases h
        have := (List.dropWhile_sublist isNamePart (l := rest)).length_le
        simp only [List.length_cons]; omega
      · cases h

/-- The labels at the start of a text, literals and identifiers apart by spaces and tabs, and what
follows. The labels so far are `done`, last first. -/
def readLabels (done : List String) (cs : List Char) : List String × List Char :=
  match _h : readKey? (cs.dropWhile isSpacing) with
  | some (label, rest) => readLabels (label :: done) rest
  | none => (done.reverse, cs.dropWhile isSpacing)
termination_by cs.length
decreasing_by
  have h1 := readKey?_length_lt _h
  have h2 := (List.dropWhile_sublist isSpacing (l := cs)).length_le
  omega

theorem readLabels_length_le (done : List String) (cs : List Char) :
    (readLabels done cs).2.length ≤ cs.length := by
  fun_induction readLabels done cs with
  | case1 done cs label rest h ih =>
    have h1 := readKey?_length_lt h
    have h2 := (List.dropWhile_sublist isSpacing (l := cs)).length_le
    omega
  | case2 done cs h => exact (List.dropWhile_sublist _).length_le

/-- The text after blanks and comments. -/
def skipBlank (cs : List Char) : List Char :=
  match cs with
  | [] => []
  | c :: rest =>
    if isBlank c then skipBlank rest
    else
      match _h : afterComment? (c :: rest) with
      | some r => skipBlank r
      | none => c :: rest
termination_by cs.length
decreasing_by
  · simp
  · have := afterComment?_length_lt _h
    simpa using this

theorem skipBlank_length_le (cs : List Char) : (skipBlank cs).length ≤ cs.length := by
  fun_induction skipBlank cs with
  | case1 => exact Nat.le_refl _
  | case2 c rest _ ih => simp only [List.length_cons]; omega
  | case3 c rest _ r h ih =>
    have := afterComment?_length_lt h
    omega
  | case4 => exact Nat.le_refl _

/-! ## Values -/

/-- The text of a value, or the body of a heredoc. -/
inductive RawValue where
  | heredoc (body : List Char)
  | source (cs : List Char)
deriving DecidableEq, Repr, Inhabited

/-- The length of the text of a value; a heredoc body is not read further. -/
def RawValue.size : RawValue → Nat
  | .heredoc _ => 0
  | .source cs => cs.length

/-- An opening bracket of any kind. -/
def isOpener (c : Char) : Bool :=
  c == '(' || c == '[' || c == '\x7b'

/-- A closing bracket of any kind. -/
def isCloser (c : Char) : Bool :=
  c == ')' || c == ']' || c == '\x7d'

/-- What is left after a value that starts here or inside `depth` brackets: a value runs to the end
of its line, to a comment, to a bracket that closes something around it, or, where commas separate,
to a comma; inside brackets it runs on. -/
def afterValue (commaEnds : Bool) (depth : Nat) (cs : List Char) : List Char :=
  match cs with
  | [] => []
  | c :: rest =>
    if c == '"' then afterValue commaEnds depth (skipString rest)
    else
      match _hc : afterComment? (c :: rest) with
      -- A comment ends a value, but inside brackets the value runs on behind it.
      | some r => if depth = 0 then c :: rest else afterValue commaEnds depth r
      | none =>
        -- A value that is a heredoc itself is read elsewhere, so only those in brackets count.
        match _hd : (if depth = 0 then none else heredoc? (c :: rest)) with
        | some d => afterValue commaEnds depth d.rest
        | none =>
          if isOpener c then afterValue commaEnds (depth + 1) rest
          else if isCloser c then
            match depth with
            -- This bracket closes something around the value.
            | 0 => c :: rest
            | depth + 1 => afterValue commaEnds depth rest
          else if depth = 0 ∧ (c = '\n' ∨ (commaEnds ∧ c = ',')) then c :: rest
          else afterValue commaEnds depth rest
termination_by cs.length
decreasing_by
  · have := skipString_length_le rest
    simp only [List.length_cons]; omega
  · have := afterComment?_length_lt _hc
    simpa using this
  · split at _hd
    · cases _hd
    · have := heredoc?_length_lt _hd
      simpa using this
  all_goals simp

theorem afterValue_length_le (commaEnds : Bool) (depth : Nat) (cs : List Char) :
    (afterValue commaEnds depth cs).length ≤ cs.length := by
  fun_induction afterValue commaEnds depth cs with
  | case1 => exact Nat.le_refl _
  | case2 depth c rest _ ih =>
    have := skipString_length_le rest
    simp only [List.length_cons]; omega
  | case3 => exact Nat.le_refl _
  | case4 depth c rest _ r hr _ ih =>
    have := afterComment?_length_lt hr
    omega
  | case5 depth c rest _ _ d hd ih =>
    split at hd
    · cases hd
    · have := heredoc?_length_lt hd
      omega
  | case6 depth c rest _ _ _ _ ih => simp only [List.length_cons]; omega
  | case7 => exact Nat.le_refl _
  | case8 c rest _ _ _ _ depth _ ih => simp only [List.length_cons]; omega
  | case9 => exact Nat.le_refl _
  | case10 depth c rest _ _ _ _ _ _ ih => simp only [List.length_cons]; omega

/-- The value that starts here after spaces and tabs, and what is left after it. -/
def readRaw (commaEnds : Bool) (cs : List Char) : RawValue × List Char :=
  let start := cs.dropWhile isSpacing
  match heredoc? start with
  | some d => (.heredoc d.body, d.rest)
  | none =>
    let rest := afterValue commaEnds 0 start
    (.source (trim (consumed start rest)), rest)

theorem readRaw_length_le (commaEnds : Bool) (cs : List Char) :
    (readRaw commaEnds cs).2.length ≤ cs.length := by
  have h1 := (List.dropWhile_sublist isSpacing (l := cs)).length_le
  unfold readRaw
  simp only
  split
  · rename_i d hd
    have := heredoc?_length_lt hd
    simp only; omega
  · have := afterValue_length_le commaEnds 0 (cs.dropWhile isSpacing)
    simp only; omega

theorem readRaw_size_le (commaEnds : Bool) (cs : List Char) :
    (readRaw commaEnds cs).1.size ≤ cs.length := by
  have h1 := (List.dropWhile_sublist isSpacing (l := cs)).length_le
  unfold readRaw
  simp only
  split
  · simp [RawValue.size]
  · simp only [RawValue.size]
    exact Nat.le_trans (length_trim_le _) (Nat.le_trans (consumed_length_le _ _) h1)

/-! ## Items of a list -/

/-- The texts of the items so far, and of the one that ends here unless it is blank. -/
def closeItem (items : List (List Char)) (acc : List Char) : List (List Char) :=
  let item := trim acc.reverse
  -- Nothing stands between two commas, or behind the last.
  if item.isEmpty then items else item :: items

/-- The texts of the items of a list, from its inside: items end at commas and line breaks outside
brackets; comments are dropped. The items so far and the text of the open one are kept last
first. -/
def elementsFrom (items : List (List Char)) (acc : List Char) (depth : Int) (cs : List Char) :
    List (List Char) :=
  match cs with
  | [] => (closeItem items acc).reverse
  | c :: rest =>
    if c == '"' then
      -- A literal is part of its item, whatever it holds.
      let r := skipString rest
      elementsFrom items ((consumed (c :: rest) r).reverse ++ acc) depth r
    else
      match _hc : afterComment? (c :: rest) with
      | some r => elementsFrom items acc depth r
      | none =>
        match _hd : heredoc? (c :: rest) with
        | some d => elementsFrom items ((consumed (c :: rest) d.rest).reverse ++ acc) depth d.rest
        | none =>
          -- The depth is an integer: nothing stops a bracket that closes none.
          if isOpener c then elementsFrom items (c :: acc) (depth + 1) rest
          else if isCloser c then elementsFrom items (c :: acc) (depth - 1) rest
          else if depth = 0 ∧ (c = ',' ∨ c = '\n') then
            elementsFrom (closeItem items acc) [] depth rest
          else elementsFrom items (c :: acc) depth rest
termination_by cs.length
decreasing_by
  · have := skipString_length_le rest
    simp only [List.length_cons]; omega
  · have := afterComment?_length_lt _hc
    simpa using this
  · have := heredoc?_length_lt _hd
    simpa using this
  all_goals simp

/-- The texts of the items of a list, from its inside, without blank ones. -/
def elements (cs : List Char) : List (List Char) :=
  elementsFrom [] [] 0 cs

theorem length_consumed {cs rest : List Char} (_h : rest.length ≤ cs.length) :
    (consumed cs rest).length = cs.length - rest.length := by
  simp [consumed]

theorem mem_closeItem {items : List (List Char)} {acc item : List Char}
    (h : item ∈ closeItem items acc) : item ∈ items ∨ item.length ≤ acc.length := by
  unfold closeItem at h
  simp only at h
  split at h
  · exact .inl h
  · rcases List.mem_cons.1 h with rfl | h
    · exact .inr (by simpa using length_trim_le acc.reverse)
    · exact .inl h

theorem mem_elementsFrom {items : List (List Char)} {acc : List Char} {depth : Int}
    {cs item : List Char} (h : item ∈ elementsFrom items acc depth cs) :
    item ∈ items ∨ item.length ≤ acc.length + cs.length := by
  -- In each case the open item takes in no more than the rest loses.
  fun_induction elementsFrom items acc depth cs with
  | case1 items acc depth =>
    rcases mem_closeItem (List.mem_reverse.1 h) with h | h
    · exact .inl h
    · exact .inr (by simpa using h)
  | case2 items acc depth c rest _ r ih =>
    refine (ih h).imp_right fun h => ?_
    have h1 := skipString_length_le rest
    have h2 : r.length ≤ (c :: rest).length := by
      change (skipString rest).length ≤ _
      simp only [List.length_cons]; omega
    simp only [List.length_append, List.length_reverse, length_consumed h2] at h
    omega
  | case3 items acc depth c rest _ r hr ih =>
    refine (ih h).imp_right fun h => ?_
    have := afterComment?_length_lt hr
    omega
  | case4 items acc depth c rest _ _ d hd ih =>
    refine (ih h).imp_right fun h => ?_
    have h1 := heredoc?_length_lt hd
    simp only [List.length_append, List.length_reverse, length_consumed (Nat.le_of_lt h1)] at h
    omega
  | case5 items acc depth c rest _ _ _ _ ih =>
    refine (ih h).imp_right fun h => ?_
    simp only [List.length_cons] at h ⊢; omega
  | case6 items acc depth c rest _ _ _ _ _ ih =>
    refine (ih h).imp_right fun h => ?_
    simp only [List.length_cons] at h ⊢; omega
  | case7 items acc depth c rest _ _ _ _ _ _ ih =>
    rcases ih h with h | h
    · rcases mem_closeItem h with h | h
      · exact .inl h
      · exact .inr (by omega)
    · exact .inr (by simp only [List.length_cons, List.length_nil] at h ⊢; omega)
  | case8 items acc depth c rest _ _ _ _ _ _ ih =>
    refine (ih h).imp_right fun h => ?_
    simp only [List.length_cons] at h ⊢; omega

/-- An item is no longer than the list. -/
theorem length_le_of_mem_elements {cs item : List Char} (h : item ∈ elements cs) :
    item.length ≤ cs.length := by
  rcases mem_elementsFrom h with h | h
  · cases h
  · simpa using h

/-! ## Statements of a body -/

/-- A statement of a body, cut out but not read. -/
inductive Statement where
  /-- A value for a key. -/
  | assignment (key : String) (value : RawValue)
  /-- A nested block with its labels; `closed` is false if its brace is never closed. -/
  | block (key : String) (labels : List String) (body : List Char) (closed : Bool)
  /-- A value without a key, and the text that is reported of it. -/
  | unrecognized (value : RawValue) (shown : List Char)
  /-- A key without a value. -/
  | bare (key : String)
deriving Repr, Inhabited

/-- The length of the text inside a statement that is still to be read. -/
def Statement.size : Statement → Nat
  | .assignment _ v => v.size
  | .block _ _ body _ => body.length
  | .unrecognized v _ => v.size
  | .bare _ => 0

/-- Whether a statement has a value without a key. -/
def Statement.isUnrecognized : Statement → Bool
  | .unrecognized .. => true
  | _ => false

/-- The text after the sign that gives a key its value: an equals sign that is not doubled, or, in a
map literal, a colon. -/
def afterAssign? (inline : Bool) : List Char → Option (List Char)
  | '=' :: '=' :: _ => none
  | '=' :: rest => some rest
  | ':' :: rest => if inline then some rest else none
  | _ => none

theorem afterAssign?_length_lt {inline : Bool} {cs r : List Char}
    (h : afterAssign? inline cs = some r) : r.length < cs.length := by
  unfold afterAssign? at h
  split at h
  · cases h
  · cases h; simp
  · split at h
    · cases h; simp
    · cases h
  · cases h

/-- The number of characters of skipped text that a warning shows. -/
def shownLength : Nat := 60

/-- The statement that begins with a key, from the text after the key on, and what is left. -/
def keyedStatement (inline : Bool) (key : String) (afterKey : List Char) :
    Statement × List Char :=
  match afterAssign? inline (afterKey.dropWhile isSpacing) with
  | some v => ((.assignment key (readRaw inline v).1), (readRaw inline v).2)
  | none =>
    let (labels, afterLabels) := readLabels [] (afterKey.dropWhile isSpacing)
    match skipBlank afterLabels with
    | '\x7b' :: body =>
      match closeBracket '\x7b' '\x7d' 0 body with
      | some rest => (.block key labels (consumed body rest).dropLast true, rest)
      -- A brace that is never closed takes the rest of the body with it.
      | none => (.block key labels body false, [])
    | _ => (.bare key, nextLine afterKey)

theorem keyedStatement_length_le (inline : Bool) (key : String) (cs : List Char) :
    (keyedStatement inline key cs).2.length ≤ cs.length := by
  have h1 := (List.dropWhile_sublist isSpacing (l := cs)).length_le
  -- Behind a key stands an assignment or a block, or else the line is passed over.
  unfold keyedStatement
  split
  · rename_i v hv
    have := afterAssign?_length_lt hv
    have := readRaw_length_le inline v
    simp only; omega
  · have h2 := readLabels_length_le [] (cs.dropWhile isSpacing)
    have h3 := skipBlank_length_le (readLabels [] (cs.dropWhile isSpacing)).2
    simp only
    split
    · rename_i body hbody
      rw [hbody] at h3
      simp only [List.length_cons] at h3
      split
      · rename_i rest hrest
        have := closeBracket_length_lt hrest
        simp only; omega
      · simp
    · have := nextLine_length_le cs
      simp only; omega

theorem keyedStatement_size_le (inline : Bool) (key : String) (cs : List Char) :
    (keyedStatement inline key cs).1.size ≤ cs.length := by
  have h1 := (List.dropWhile_sublist isSpacing (l := cs)).length_le
  unfold keyedStatement
  split
  · rename_i v hv
    have := afterAssign?_length_lt hv
    have := readRaw_size_le inline v
    simp only [Statement.size]; omega
  · have h2 := readLabels_length_le [] (cs.dropWhile isSpacing)
    have h3 := skipBlank_length_le (readLabels [] (cs.dropWhile isSpacing)).2
    simp only
    split
    · rename_i body hbody
      rw [hbody] at h3
      simp only [List.length_cons] at h3
      split
      · rename_i rest hrest
        have := consumed_length_le body rest
        simp only [Statement.size, List.length_dropLast]; omega
      · simp only [Statement.size]; omega
    · simp [Statement.size]

theorem keyedStatement_isUnrecognized (inline : Bool) (key : String) (cs : List Char) :
    (keyedStatement inline key cs).1.isUnrecognized = false := by
  unfold keyedStatement
  split
  · rfl
  · simp only
    split
    · split <;> rfl
    · rfl

/-- A character that separates statements. -/
def isSeparator (c : Char) : Bool :=
  c == ' ' || c == '\t' || c == '\r' || c == '\n' || c == ','

/-- What is left after a value without a key; at least one character is passed over. -/
def afterUnrecognized (inline : Bool) (c : Char) (rest : List Char) : List Char :=
  let r := (readRaw inline (c :: rest)).2
  -- A value that begins with a closing bracket is empty.
  if r.length < (c :: rest).length then r else rest

theorem afterUnrecognized_length_lt (inline : Bool) (c : Char) (rest : List Char) :
    (afterUnrecognized inline c rest).length < (c :: rest).length := by
  simp only [afterUnrecognized]
  split
  · assumption
  · simp

/-- The statements of a body, or of the inside of a map literal, after those of `done`, which are
kept last first. -/
def statementsFrom (inline : Bool) (done : List Statement) (cs : List Char) : List Statement :=
  match cs with
  | [] => done.reverse
  | c :: rest =>
    if isSeparator c then statementsFrom inline done rest
    else
      match _hc : afterComment? (c :: rest) with
      | some r => statementsFrom inline done r
      | none =>
        match _hk : readKey? (c :: rest) with
        | some (key, afterKey) =>
          statementsFrom inline ((keyedStatement inline key afterKey).1 :: done)
            (keyedStatement inline key afterKey).2
        | none =>
          -- Something without a key: it is read as a value, for the warnings in it.
          let shown := trim (consumed (c :: rest) (readRaw inline (c :: rest)).2)
          statementsFrom inline
            (.unrecognized (readRaw inline (c :: rest)).1 (shown.take shownLength) :: done)
            (afterUnrecognized inline c rest)
termination_by cs.length
decreasing_by
  · simp
  · have := afterComment?_length_lt _hc
    simpa using this
  · have h1 := readKey?_length_lt _hk
    have h2 := keyedStatement_length_le inline key afterKey
    simp only [List.length_cons] at h1 ⊢; omega
  · exact afterUnrecognized_length_lt inline c rest

/-- The statements of a body, or of the inside of a map literal. -/
def statements (inline : Bool) (cs : List Char) : List Statement :=
  statementsFrom inline [] cs

theorem mem_statementsFrom {inline : Bool} {done : List Statement} {cs : List Char}
    {st : Statement} (h : st ∈ statementsFrom inline done cs) :
    st ∈ done ∨ (st.size ≤ cs.length ∧ (st.isUnrecognized = false → st.size < cs.length)) := by
  -- An unrecognized statement may be all of the text; any other is shorter by its key.
  fun_induction statementsFrom inline done cs with
  | case1 => exact .inl (List.mem_reverse.1 h)
  | case2 done c rest _ ih =>
    refine (ih h).imp_right fun ⟨h1, h2⟩ => ?_
    simp only [List.length_cons]
    exact ⟨by omega, fun _ => by omega⟩
  | case3 done c rest _ r hr ih =>
    refine (ih h).imp_right fun ⟨h1, h2⟩ => ?_
    have := afterComment?_length_lt hr
    exact ⟨by omega, fun _ => by omega⟩
  | case4 done c rest _ _ key afterKey hk ih =>
    have h3 := readKey?_length_lt hk
    have h4 := keyedStatement_length_le inline key afterKey
    have h5 := keyedStatement_size_le inline key afterKey
    rcases ih h with h | ⟨h1, h2⟩
    · rcases List.mem_cons.1 h with rfl | h
      · exact .inr ⟨by omega, fun _ => by omega⟩
      · exact .inl h
    · exact .inr ⟨by omega, fun _ => by omega⟩
  | case5 done c rest _ _ hk shown ih =>
    have h4 := readRaw_size_le inline (c :: rest)
    have h5 := afterUnrecognized_length_lt inline c rest
    rcases ih h with h | ⟨h1, h2⟩
    · rcases List.mem_cons.1 h with rfl | h
      · exact .inr ⟨h4, fun h => by simp [Statement.isUnrecognized] at h⟩
      · exact .inl h
    · exact .inr ⟨by omega, fun _ => by omega⟩

/-- The texts inside a statement are no longer than the body, and shorter unless it is
unrecognised. -/
theorem size_le_of_mem_statements {inline : Bool} {cs : List Char} {st : Statement}
    (h : st ∈ statements inline cs) :
    st.size ≤ cs.length ∧ (st.isUnrecognized = false → st.size < cs.length) := by
  rcases mem_statementsFrom h with h | h
  · cases h
  · exact h

/-! ## Sections of a text -/

/-- A top-level block, cut out but not read. Lines count from one; the end line is that of the
closing brace, or the last line if there is none. -/
structure Section where
  keyword : String
  labels : List String
  body : List Char
  closed : Bool
  startLine : Nat
  endLine : Nat
  raw : List Char
deriving Repr, Inhabited

/-- What stands at the top level of a text. -/
inductive TopLevel where
  | block (s : Section)
  /-- A line that begins with something other than an identifier. -/
  | junk (c : Char) (line : Nat)
  /-- An identifier that no opening brace follows. -/
  | headless (keyword : String) (line : Nat)
deriving Repr, Inhabited

/-- The line at which reading goes on: that of the closing brace, or the next one. -/
def TopLevel.lineAfter : TopLevel → Nat
  | .block s => s.endLine
  | .junk _ line => line + 1
  | .headless _ line => line + 1

/-- The number of line feeds of a text. -/
def lineFeeds (cs : List Char) : Nat :=
  cs.count '\n'

/-- The block or headless identifier that starts here, and what is left. -/
def readSection (line : Nat) (cs : List Char) : TopLevel × List Char :=
  let keyword := String.ofList (cs.takeWhile isNamePart)
  let (labels, afterLabels) := readLabels [] (cs.dropWhile isNamePart)
  match skipBlank afterLabels with
  | '\x7b' :: body =>
    match closeBracket '\x7b' '\x7d' 0 body with
    | some rest =>
      let raw := consumed cs rest
      (.block ⟨keyword, labels, (consumed body rest).dropLast, true, line, line + lineFeeds raw,
        raw⟩, rest)
    -- The block is not closed, and runs to the end of the text.
    | none => (.block ⟨keyword, labels, body, false, line, line + lineFeeds cs, cs⟩, [])
  | _ => (.headless keyword line, nextLine cs)

theorem readSection_length_lt (line : Nat) (cs : List Char) (h : cs ≠ []) :
    (readSection line cs).2.length < cs.length := by
  have h0 : 0 < cs.length := List.length_pos_iff.2 h
  have h1 := (List.dropWhile_sublist isNamePart (l := cs)).length_le
  have h2 := readLabels_length_le [] (cs.dropWhile isNamePart)
  have h3 := skipBlank_length_le (readLabels [] (cs.dropWhile isNamePart)).2
  unfold readSection
  simp only
  split
  · rename_i body hbody
    rw [hbody] at h3
    simp only [List.length_cons] at h3
    split
    · rename_i rest hrest
      have := closeBracket_length_lt hrest
      simp only; omega
    · simpa using h0
  · have := nextLine_length_le cs
    simp only; omega

/-- What stands at the top level of a text whose first line has the number `line`, after what is in
`done`, last first. Blanks and comments are passed over; after junk and headless identifiers the
next line is read. -/
def sectionsFrom (line : Nat) (done : List TopLevel) (cs : List Char) : List TopLevel :=
  match cs with
  | [] => done.reverse
  | c :: rest =>
    if isBlank c then sectionsFrom (line + lineFeeds [c]) done rest
    else
      match _hc : afterComment? (c :: rest) with
      | some r => sectionsFrom (line + commentLines (c :: rest)) done r
      | none =>
        if isNameStart c then
          sectionsFrom (readSection line (c :: rest)).1.lineAfter
            ((readSection line (c :: rest)).1 :: done) (readSection line (c :: rest)).2
        else sectionsFrom (line + 1) (.junk c line :: done) (nextLine (c :: rest))
termination_by cs.length
decreasing_by
  · simp
  · have := afterComment?_length_lt _hc
    simpa using this
  · exact readSection_length_lt line (c :: rest) (by simp)
  · have := nextLine_length_le (c :: rest)
    simp only [List.length_cons] at this ⊢; omega

/-- What stands at the top level of a text, in order. -/
def sections (cs : List Char) : List TopLevel :=
  sectionsFrom 1 [] cs

end Groundplan.Hcl
