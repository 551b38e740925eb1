import Groundplan.Proofs.Hcl.Gather
import Groundplan.Proofs.Hcl.Term
import Mathlib.Data.List.DropRight

/-!
# Reading bodies

The lines that a body is written as are cut into the statements of its clauses, and these are read
as the properties of the body, in every room that has space for its levels.

## Main definitions

* `Clause.statement`: the statement that a written clause is cut into

## Main results

* `Clause.passage`: written clauses are passages
* `Clause.statements_inside`: a written body is cut into the statements of its clauses
* `Clause.readBody_source`: **a written body reads as its properties**
-/

namespace Groundplan.Hcl

open Text

/-! ## Keys and openings -/

/-- A name is read as a key up to the first character that is no part of it. -/
theorem Identifier.readKey?_chars (n : Identifier) {rest : List Char}
    (h : ∀ c ∈ rest.head?, isNamePart c = false) :
    readKey? (n.chars ++ rest) = some (n.name, rest) := by
  have hquote : n.head ≠ '"' := ne_of_class n.head_isNameStart (by decide)
  have htake : (n.tail ++ rest).takeWhile isNamePart = n.tail := by
    rw [List.takeWhile_append_of_pos n.tail_isNamePart, takeWhile_eq_nil h, List.append_nil]
  have hdrop : (n.tail ++ rest).dropWhile isNamePart = rest := by
    rw [List.dropWhile_append_of_pos n.tail_isNamePart, dropWhile_eq_self h]
  simp only [chars, name, List.cons_append, readKey?, beq_iff_eq, hquote, ↓reduceIte,
    n.head_isNameStart, htake, hdrop]

theorem readLabels_dropWhile (done : List String) (cs : List Char) :
    readLabels done (cs.dropWhile isSpacing) = readLabels done cs := by
  rw [readLabels, readLabels, List.dropWhile_idempotent]

/-- An opening brace is no blank and begins no comment. -/
theorem skipBlank_brace (rest : List Char) : skipBlank ('\x7b' :: rest) = '\x7b' :: rest := by
  rw [skipBlank.eq_def]
  dsimp only
  rw [if_neg (by decide)]
  split
  · -- no comment begins with a brace
    rename_i hc
    rw [afterComment?_of_ne (by decide) (by decide)] at hc
    cases hc
  · rfl

/-- Behind a key with labels stands a nested block. -/
theorem keyedStatement_block (key : String) (labels : List PlainText) {body : List Char}
    (h : Passage true body) (rest : List Char) :
    keyedStatement false key (labels.flatMap (fun l => ' ' :: l.literal) ++
      ' ' :: '\x7b' :: (body ++ '\x7d' :: rest)) =
        (.block key (labels.map PlainText.text) body true, rest) := by
  have hassign : afterAssign? false ((labels.flatMap (fun l => ' ' :: l.literal) ++
      ' ' :: '\x7b' :: (body ++ '\x7d' :: rest)).dropWhile isSpacing) = none := by
    cases labels with
    | nil => rfl
    | cons l labels =>
      -- the first label begins with a quote, which is no equals sign
      rw [List.flatMap_cons, List.cons_append, List.cons_append,
        List.dropWhile_cons_of_pos (by decide)]
      rfl
  have hlabels := @readLabels_literals labels [] (' ' :: '\x7b' :: (body ++ '\x7d' :: rest)) rfl
  have hdrop : (' ' :: '\x7b' :: (body ++ '\x7d' :: rest)).dropWhile isSpacing =
      '\x7b' :: (body ++ '\x7d' :: rest) := rfl
  have hclose := h.closeBracket_eq_some (.inr (.inr ⟨rfl, rfl⟩)) rest
  rw [keyedStatement, hassign]
  simp only [readLabels_dropWhile, hlabels, hdrop, skipBlank_brace, hclose, dropLast_consumed,
    List.reverse_nil, List.nil_append]

/-- Behind an equals sign may stand a heredoc. -/
theorem keyedStatement_heredoc (key : String) (d : HereText) (rest : List Char) :
    keyedStatement false key (' ' :: '=' :: ' ' :: (d.source ++ '\n' :: rest)) =
      (.assignment key (.heredoc (joinLines d.lines)), '\n' :: rest) := by
  have hassign : afterAssign? false ((' ' :: '=' :: ' ' ::
      (d.source ++ '\n' :: rest)).dropWhile isSpacing) =
        some (' ' :: (d.source ++ '\n' :: rest)) := rfl
  have hstart : (' ' :: (d.source ++ '\n' :: rest)).dropWhile isSpacing =
      d.source ++ '\n' :: rest := rfl
  rw [keyedStatement, hassign]
  simp only [readRaw, hstart, d.heredoc?_source]

/-! ## Lines -/

/-- Spaces between statements are passed over. -/
theorem statementsFrom_spaces (inline : Bool) (done : List Statement) (n : Nat)
    (rest : List Char) :
    statementsFrom inline done (List.replicate n ' ' ++ rest) =
      statementsFrom inline done rest := by
  induction n with
  | zero => rfl
  | succ n ih =>
    rw [List.replicate_succ, List.cons_append, statementsFrom_separator inline done (by decide), ih]

/-- A statement begins with the name it gives something to. -/
theorem statementsFrom_chars (inline : Bool) (done : List Statement) (n : Identifier)
    {rest : List Char} (h : ∀ c ∈ rest.head?, isNamePart c = false) :
    statementsFrom inline done (n.chars ++ rest) =
      statementsFrom inline ((keyedStatement inline n.name rest).1 :: done)
        (keyedStatement inline n.name rest).2 := by
  have hne {d : Char} (hd : isNameStart d = false) : n.head ≠ d :=
    ne_of_class n.head_isNameStart hd
  -- A name is neither a separator nor the beginning of a comment.
  refine statementsFrom_key inline done ?_ ⟨hne (by decide), hne (by decide)⟩ (n.readKey?_chars h)
  simp only [isSeparator, Bool.or_eq_false_iff, beq_eq_false_iff_ne]
  exact ⟨⟨⟨⟨hne (by decide), hne (by decide)⟩, hne (by decide)⟩, hne (by decide)⟩, hne (by decide)⟩

theorem passage_spaces {loose : Bool} (n : Nat) : Passage loose (List.replicate n ' ') :=
  .of_forall fun c hc => by
    obtain rfl := List.eq_of_mem_replicate hc
    decide

theorem passage_name {loose : Bool} (n : Identifier) : Passage loose n.chars :=
  .of_forall fun _ hc => isMark_eq_false_of_isNamePart (Identifier.isNamePart_of_mem hc)

theorem passage_labels {loose : Bool} (labels : List PlainText) :
    Passage loose (labels.flatMap fun l => ' ' :: l.literal) :=
  .flatMap fun l _ => .cons (by decide) (.inr (by decide)) (.plain l)

namespace Clause

/-- Written clauses are passages. -/
theorem passage {c : Clause} (h : c.WellFormed) (step pad : Nat) :
    Passage true (c.source step pad) := by
  have hequals {cs : List Char} (hcs : Passage true cs) : Passage true (' ' :: '=' :: ' ' :: cs) :=
    .cons (by decide) (.inl rfl) (.cons (by decide) (.inl rfl) (.cons (by decide) (.inl rfl) hcs))
  -- The induction is over the body of a block, which is written further in.
  induction h generalizing pad with
  | assign key hv =>
    exact .append (passage_spaces pad) (.append (passage_name key) (hequals
      (.append (Term.valueText hv).passage.loosen (.char (by decide) (.inl rfl)))))
  | heredoc key d =>
    exact .append (passage_spaces pad) (.append (passage_name key) (hequals (.heredoc d)))
  | @block key labels body _ _ ih =>
    -- the braces of a block are a group around the lines of its body
    have hgroup : Passage true ('\x7b' :: (('\n' :: (bodySource step (pad + step) body ++
        List.replicate pad ' ')) ++ ['\x7d'])) := by
      refine .group (.inr (.inr ⟨rfl, rfl⟩)) (.cons (by decide) (.inl rfl) (.append ?_ ?_))
      · rw [bodySource_eq_flatMap]
        exact .flatMap fun c hc => ih c hc (pad + step)
      · exact passage_spaces pad
    have hsource : source step pad (.block key labels body) =
        List.replicate pad ' ' ++ (key.chars ++ (labels.flatMap (fun l => ' ' :: l.literal) ++
          (' ' :: ('\x7b' :: (('\n' :: (bodySource step (pad + step) body ++
            List.replicate pad ' ')) ++ ['\x7d']) ++ ['\n'])))) := by
      simp [source, opening]
    rw [hsource]
    exact .append (passage_spaces pad) (.append (passage_name key) (.append (passage_labels labels)
      (.cons (by decide) (.inl rfl) (.append hgroup (.char (by decide) (.inl rfl))))))

theorem passage_bodySource {body : List Clause} (h : ∀ c ∈ body, c.WellFormed) (step pad : Nat) :
    Passage true (bodySource step pad body) := by
  rw [bodySource_eq_flatMap]
  exact .flatMap fun c hc => passage (h c hc) step pad

/-- What stands between the braces of a written block: the lines of its body, and the spaces before
the closing brace. -/
def inside (step pad : Nat) (body : List Clause) : List Char :=
  '\n' :: (bodySource step (pad + step) body ++ List.replicate pad ' ')

theorem passage_inside {body : List Clause} (h : ∀ c ∈ body, c.WellFormed) (step pad : Nat) :
    Passage true (inside step pad body) :=
  .cons (by decide) (.inl rfl) (.append (passage_bodySource h step _) (passage_spaces pad))

/-- The statement that a written clause is cut into. -/
def statement (step pad : Nat) : Clause → Statement
  | .assign key v => .assignment key.name (.source v.source)
  | .heredoc key d => .assignment key.name (.heredoc (joinLines d.lines))
  | .block key labels body =>
    .block key.name (labels.map PlainText.text) (inside step pad body) true

/-- One written clause is cut out as its statement. -/
theorem statementsFrom_source {c : Clause} (h : c.WellFormed) (step pad : Nat)
    (done : List Statement) (rest : List Char) :
    statementsFrom false done (c.source step pad ++ rest) =
      statementsFrom false (c.statement step pad :: done) rest := by
  -- In each case: the spaces, the name, what stands behind the name, the break.
  cases h with
  | @assign key v hv =>
    rw [source, List.append_assoc, statementsFrom_spaces, List.append_assoc,
      statementsFrom_chars false done key (by simp; decide)]
    have hread := keyedStatement_assign false key.name (Term.valueText hv)
      (afterValue_feed false rest)
    simp only [List.cons_append, List.append_assoc, List.nil_append, hread]
    exact statementsFrom_separator false _ (by decide)
  | heredoc key d =>
    rw [source, List.append_assoc, statementsFrom_spaces, List.append_assoc,
      statementsFrom_chars false done key (by simp; decide)]
    have hread := keyedStatement_heredoc key.name d rest
    simp only [List.cons_append, List.append_assoc, List.nil_append, hread]
    exact statementsFrom_separator false _ (by decide)
  | @block key labels body hdistinct hbody =>
    have hread := keyedStatement_block key.name labels (passage_inside hbody step pad)
      ('\n' :: rest)
    have hhead : ∀ c ∈ (labels.flatMap (fun l => ' ' :: l.literal) ++ ' ' :: '\x7b' ::
        (inside step pad body ++ '\x7d' :: '\n' :: rest)).head?, isNamePart c = false := by
      -- A name ends at the space before the first label or the brace.
      intro c hc
      obtain rfl : ' ' = c := by
        cases labels with
        | nil => simpa using hc
        | cons l labels => simpa using hc
      decide
    have hsource : source step pad (.block key labels body) ++ rest =
        List.replicate pad ' ' ++ (key.chars ++ (labels.flatMap (fun l => ' ' :: l.literal) ++
          ' ' :: '\x7b' :: (inside step pad body ++ '\x7d' :: '\n' :: rest))) := by
      simp [source, opening, inside]
    rw [hsource, statementsFrom_spaces, statementsFrom_chars false done key hhead, hread]
    exact statementsFrom_separator false _ (by decide)

theorem statementsFrom_bodySource {body : List Clause} (h : ∀ c ∈ body, c.WellFormed)
    (step pad : Nat) (done : List Statement) (rest : List Char) :
    statementsFrom false done (bodySource step pad body ++ rest) =
      statementsFrom false ((body.map (statement step pad)).reverse ++ done) rest := by
  induction body generalizing done with
  | nil => rfl
  | cons c body ih =>
    rw [List.forall_mem_cons] at h
    rw [bodySource, List.append_assoc, statementsFrom_source h.1, ih h.2]
    simp

/-- **A written body is cut into the statements of its clauses.** -/
theorem statements_inside {body : List Clause} (h : ∀ c ∈ body, c.WellFormed) (step pad : Nat) :
    statements false (inside step pad body) = body.map (statement step (pad + step)) := by
  rw [statements, inside, statementsFrom_separator false [] (by decide),
    statementsFrom_bodySource h, List.append_nil, ← List.append_nil (List.replicate pad ' '),
    statementsFrom_spaces, statementsFrom_nil, List.reverse_reverse]

/-! ## Properties -/

theorem fits_bodyLevels (room : Room) (body : List Clause) :
    room.fits (bodyLevels body) = body.all fun c => room.fits c.levels := by
  induction body with
  | nil => rw [bodyLevels, Room.fits_zero, List.all_nil]
  | cons c body ih => rw [bodyLevels, Room.fits_max, ih, List.all_cons]

/-- A body is read if each of its statements is. -/
theorem readBody_of_run {body : List Clause} (hdistinct : Distinct body)
    (h : ∀ c ∈ body, c.WellFormed) (step pad : Nat) {room : Room}
    (hrun : ∀ c ∈ body, ∀ sc, (c.statement step (pad + step)).run room sc =
      .given (room.fits c.levels) (c.put sc)) :
    readBody room false (inside step pad body) =
      .given (room.fits (bodyLevels body)) (properties body) := by
  rw [readBody_eq, statements_inside h, List.foldlM_map, Reading.foldlM_given hrun,
    Reading.given_map, fits_bodyLevels, foldl_put hdistinct]

/-- The statement of a written clause does what the clause does. -/
theorem run_statement {c : Clause} (h : c.WellFormed) (step pad : Nat) (room : Room) (sc : Scope) :
    (c.statement step pad).run room sc = .given (room.fits c.levels) (c.put sc) := by
  -- A block needs its body to be read in any room, so the room changes with the clause.
  induction h generalizing pad room sc with
  | assign key hv =>
    rw [statement, Statement.run]
    refine Reading.within_given (fun room => ?_) room
    rw [Term.readValue_source hv, Reading.given_map]
    rfl
  | heredoc key d =>
    -- the text of a heredoc is given at once, without a level
    rw [levels, Room.fits_zero]
    rfl
  | @block key labels body hdistinct h ih =>
    have hbody (room : Room) := @readBody_of_run body hdistinct h step pad room
      fun c hc sc => ih c hc (pad + step) room sc
    rw [statement, Statement.run, if_pos rfl, Reading.ofValue_bind]
    refine Reading.within_given (fun room => ?_) room
    rw [hbody, Reading.given_map]
    rfl

/-- **A written body reads as its properties**, in every room that has space for its levels. -/
theorem readBody_source {body : List Clause} (hdistinct : Distinct body)
    (h : ∀ c ∈ body, c.WellFormed) (step pad : Nat) (room : Room) :
    readBody room false (inside step pad body) =
      .given (room.fits (bodyLevels body)) (properties body) :=
  readBody_of_run hdistinct h step pad fun c hc sc => run_statement (h c hc) step _ room sc

end Clause

end Groundplan.Hcl
