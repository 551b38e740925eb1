import Groundplan.Proofs.Hcl.Layout
import Groundplan.Proofs.Hcl.RoundTrip

/-!
# Spellings

Values, statements and blocks can be written in many ways: with keys bare or quoted, with equals
signs in a column or colons, on one line or on many. A text is held here together with what it is
read as and with the proof that it is, so that lists, maps, bodies and blocks are put together from
their parts, and nothing is proved of a part twice.

## Main definitions

* `Literal`, `Key`, `Sign`: string literals, keys, and what stands between a key and its value
* `Spelling`: a text that reads as a value; `Spelling.literal`, `Spelling.term`, `Spelling.list`,
  `Spelling.map`
* `StatementText`: a text that is cut out and read as a statement; `StatementText.assign`,
  `StatementText.block`, `StatementText.clause`
* `Body`: statements that are kept apart, with `Body.entries`, what they put together
* `InBlocks`, `InAttribute`: statements that give maps to a name, by one nested block for each map or
  by one attribute with the list of them
* `TopText`: a block of the top level with whatever stands in its braces

## Main results

* `Body.readBody_source`: **a body reads as what its statements put together**, in any layout
* `InBlocks.maps_entries`, `InAttribute.maps_entries`: the maps are found in both cases
* `TopText.resources_parseWithin`: **the resources of a text are those of its blocks**, one by one
-/

namespace Groundplan.Hcl

open Text

/-! ## Literals and keys -/

/-- A string literal as it stands in a text. -/
structure Literal where
  inside : List Char
  isInside : Inside inside

namespace Literal

/-- The characters of a literal. -/
def source (l : Literal) : List Char :=
  '"' :: (l.inside ++ ['"'])

/-- The text that a literal stands for. -/
def text (l : Literal) : String :=
  unescape l.inside

theorem source_append (l : Literal) (rest : List Char) :
    l.source ++ rest = '"' :: (l.inside ++ '"' :: rest) := by
  simp [source]

/-- A literal is read as a key that is its text. -/
theorem readKey?_source (l : Literal) (rest : List Char) :
    readKey? (l.source ++ rest) = some (l.text, rest) := by
  have hclose := closeQuote_inside l.isInside rest
  rw [source_append, readKey?]
  simp only [beq_self_eq_true, ↓reduceIte, hclose, Option.map_some, dropLast_consumed]
  rfl

/-- A literal begins and ends with its quotes. -/
theorem valueText (l : Literal) : ValueText l.source := by
  refine ⟨.literal l.isInside, fun c hc => ?_, fun c hc => ?_, by simp [source], fun rest => ?_⟩
  · obtain rfl : '"' = c := by simpa [source] using hc
    decide
  · rw [source, ← List.cons_append, List.getLast?_concat] at hc
    obtain rfl : '"' = c := by simpa using hc
    decide
  · exact isForExpression_of_ne (by decide) (by decide)

/-- A literal reads as its text. -/
theorem readValue_source (l : Literal) (room : Room) :
    readValue room l.source = .ofValue (.string l.text) := by
  have hshape : shapeOf l.source = literalShape l.source :=
    shapeOf_eq_literalShape (by decide) (by decide) (by simp)
  refine readValue_of_value l.valueText.nonempty ?_
  rw [hshape, source, literalShape, closeQuote_inside l.isInside, if_pos (by simp),
    List.dropLast_concat]
  rfl

end Literal

/-- The literal that a text is usually written as. -/
def PlainText.toLiteral (s : PlainText) : Literal :=
  ⟨escaped s.chars, inside_escaped s.plain⟩

theorem PlainText.text_toLiteral (s : PlainText) : s.toLiteral.text = s.text :=
  s.unescape_escaped

/-- A key as it stands in a text. -/
inductive Key where
  | bare (n : Identifier)
  | quoted (l : Literal)

namespace Key

/-- The characters of a key. -/
def source : Key → List Char
  | .bare n => n.chars
  | .quoted l => l.source

/-- The name that a key is. -/
def name : Key → String
  | .bare n => n.name
  | .quoted l => l.text

theorem passage (k : Key) : Passage true k.source := by
  cases k with
  | bare n => exact passage_name n
  | quoted l => exact .literal l.isInside

/-- A statement begins with its key, up to the first character that is no part of a name. -/
theorem statementsFrom_source (k : Key) (commas : Bool) (done : List Statement)
    {rest : List Char} (h : ∀ c ∈ rest.head?, isNamePart c = false) :
    statementsFrom commas done (k.source ++ rest) =
      statementsFrom commas ((keyedStatement commas k.name rest).1 :: done)
        (keyedStatement commas k.name rest).2 := by
  cases k with
  | bare n => exact statementsFrom_chars commas done n h
  | quoted l =>
    have hkey := l.readKey?_source rest
    rw [Literal.source_append] at hkey
    rw [source, Literal.source_append]
    exact statementsFrom_key commas done (by decide) (by decide) hkey

end Key

/-- What stands between a key and its value: an equals sign or, where commas separate, a colon, with
spaces around it. -/
structure Sign (commas : Bool) where
  pad : List Char
  char : Char
  lead : List Char
  pad_isSpacing : pad.all isSpacing = true
  lead_isSpacing : lead.all isSpacing = true
  char_isSign : char = '=' ∨ (commas = true ∧ char = ':')

namespace Sign

variable {commas : Bool}

/-- The characters between a key and its value. -/
def source (s : Sign commas) : List Char :=
  s.pad ++ s.char :: s.lead

/-- An equals sign with a space on both sides. -/
def equals : Sign commas :=
  ⟨[' '], '=', [' '], rfl, rfl, .inl rfl⟩

theorem passage_spacing {cs : List Char} (h : cs.all isSpacing = true) : Passage true cs := by
  refine (passage_gap (List.all_eq_true.2 fun c hc => ?_)).loosen
  rw [isGap, Bool.or_eq_true]
  exact .inl (List.all_eq_true.1 h c hc)

theorem passage (s : Sign commas) : Passage true s.source := by
  refine .append (passage_spacing s.pad_isSpacing) (.cons ?_ (.inl rfl)
    (passage_spacing s.lead_isSpacing))
  rcases s.char_isSign with h | ⟨-, h⟩ <;> rw [h] <;> decide

/-- A name ends where a sign begins. -/
theorem head?_source (s : Sign commas) (rest : List Char) :
    ∀ c ∈ (s.source ++ rest).head?, isNamePart c = false := by
  intro c hc
  cases hpad : s.pad with
  | nil =>
    obtain rfl : s.char = c := by simpa [source, hpad] using hc
    rcases s.char_isSign with h | ⟨-, h⟩ <;> rw [h] <;> decide +kernel
  | cons d pad =>
    obtain rfl : d = c := by simpa [source, hpad] using hc
    have hspacing := List.all_eq_true.1 s.pad_isSpacing d (by simp [hpad])
    simp only [isSpacing, Bool.or_eq_true, beq_iff_eq] at hspacing
    rcases hspacing with rfl | rfl <;> decide +kernel

/-- A sign gives its key the value behind it, as long as it is not doubled. -/
theorem afterAssign?_source (s : Sign commas) {rest : List Char}
    (hsingle : ∀ c ∈ (s.lead ++ rest).head?, c ≠ '=') :
    afterAssign? commas ((s.source ++ rest).dropWhile isSpacing) = some (s.lead ++ rest) := by
  have hstart : (s.source ++ rest).dropWhile isSpacing = s.char :: (s.lead ++ rest) := by
    rw [source, List.append_assoc,
      List.dropWhile_append_of_pos (List.all_eq_true.1 s.pad_isSpacing)]
    exact List.dropWhile_cons_of_neg (by
      rcases s.char_isSign with h | ⟨-, h⟩ <;> rw [h] <;> decide)
  rw [hstart]
  rcases s.char_isSign with h | ⟨rfl, h⟩
  · rw [h, afterAssign?.eq_def]
    split
    · -- a doubled sign gives no value
      rename_i hdouble
      simp only [List.cons.injEq, true_and] at hdouble
      exact absurd rfl (hsingle '=' (by simp [hdouble]))
    · rename_i heq
      rw [(List.cons.inj heq).2]
    · rename_i heq
      exact absurd (List.cons.inj heq).1 (by decide)
    · rename_i hne _
      exact absurd rfl (hne _)
  · rw [h]
    rfl

end Sign

/-! ## Levels -/

/-- The levels that parts take together, each of them so many levels in. -/
def deepest {α : Type} (n : Nat) (levels : α → Nat) (xs : List α) : Nat :=
  xs.foldr (fun x m => max (n + levels x) m) 0

theorem deepest_le {α : Type} {n m : Nat} {levels : α → Nat} {xs : List α}
    (h : ∀ x ∈ xs, n + levels x ≤ m) : deepest n levels xs ≤ m := by
  induction xs with
  | nil => exact Nat.zero_le m
  | cons x xs ih =>
    rw [List.forall_mem_cons] at h
    exact Nat.max_le.2 ⟨h.1, ih h.2⟩

theorem Room.fits_deepest {α : Type} (room : Room) (n : Nat) (levels : α → Nat) (xs : List α) :
    room.fits (deepest n levels xs) = xs.all fun x => room.fits (n + levels x) := by
  induction xs with
  | nil => exact room.fits_zero
  | cons x xs ih => rw [deepest, List.foldr_cons, Room.fits_max, List.all_cons, ← ih, deepest]

/-! ## Values -/

/-- A text that reads as a value, in every room that has space for its levels. -/
structure Spelling where
  source : List Char
  value : Value
  levels : Nat
  valueText : ValueText source
  readValue_source : ∀ room : Room, readValue room source = .given (room.fits levels) value

namespace Spelling

/-- A string literal. -/
def literal (l : Literal) : Spelling where
  source := l.source
  value := .string l.text
  levels := 0
  valueText := l.valueText
  readValue_source := fun room => by rw [l.readValue_source, Room.fits_zero, Reading.given_true]

/-- A term on one line. -/
def term {t : Term} (h : t.WellFormed) : Spelling where
  source := t.source
  value := t.meaning
  levels := t.levels
  valueText := Term.valueText h
  readValue_source := Term.readValue_source h

/-- An integer. -/
def int (i : ShortInteger) : Spelling :=
  term (.scalar (.int i))

/-- A list of texts on one line. -/
def texts (ts : List PlainText) : Spelling :=
  term (t := .list (ts.map fun t => .scalar (.string t))) (.list fun x hx => by
    obtain ⟨t, -, rfl⟩ := List.mem_map.1 hx
    exact .scalar _)

theorem value_texts (ts : List PlainText) :
    (texts ts).value = .list (ts.map fun t => .string t.text) := by
  show Term.meaning (.list (ts.map fun t => .scalar (.string t))) = _
  rw [Term.meaning, Term.itemMeanings_eq_map, List.map_map]
  rfl

theorem levels_texts_le (ts : List PlainText) : (texts ts).levels ≤ 2 := by
  show Term.itemLevels (ts.map fun t => .scalar (.string t)) ≤ 2
  induction ts with
  | nil => exact Nat.zero_le 2
  | cons t ts ih => exact Nat.max_le.2 ⟨Nat.le_refl 2, ih⟩

/-- A list of values that are kept apart. -/
def list (s : Spaced true Spelling) : Spelling where
  source := '[' :: (s.text source ++ [']'])
  value := .list (s.items.map value)
  levels := deepest 2 levels s.items
  valueText := valueText_group (.inr (.inl ⟨rfl, rfl⟩))
    (s.passage fun a _ => a.valueText.passage.loosen)
  readValue_source := fun room => by
    have hshape := shapeOf_list (s.passage fun a _ => a.valueText.passage.loosen)
      (isForExpression_text s fun a _ => a.valueText.loopless)
    have hread : (s.items.map source).mapM (fun item =>
        Reading.within 2 room fun room => readValue room item) =
          .given (room.fits (deepest 2 levels s.items)) (s.items.map value) := by
      rw [List.mapM_map, Room.fits_deepest]
      exact Reading.mapM_given fun x _ => Reading.within_given x.readValue_source room
    rw [readValue_of_list (by simp) hshape, elements_text s fun a _ => a.valueText, hread,
      Reading.given_map]

end Spelling

/-! ## Statements -/

/-- A text that is cut out as a statement, whatever keeps it apart from the next one, and what
reading the statement does to the properties so far. -/
structure StatementText (commas : Bool) where
  source : List Char
  statement : Statement
  levels : Nat
  put : Scope → Scope
  passage : Passage true source
  cutsOut : CutsOut commas source statement
  run_statement : ∀ (room : Room) (sc : Scope),
    statement.run room sc = .given (room.fits levels) (put sc)

/-- The statements of a body, kept apart. -/
abbrev Body (commas : Bool) := Spaced commas (StatementText commas)

namespace Body

variable {commas : Bool}

/-- The text of a body. -/
def source (b : Body commas) : List Char :=
  b.text StatementText.source

/-- The levels that reading a body takes. -/
def levels (b : Body commas) : Nat :=
  deepest 0 StatementText.levels b.items

/-- The properties that the statements of a body put together. -/
def entries (b : Body commas) : Properties :=
  (b.items.foldl (fun (sc : Scope) s => s.put sc) {}).entries

/-- Statements on lines of their own. -/
def lines (ss : List (StatementText commas)) : Body commas where
  lead := ['\n']
  parts := ss.map fun s => (s, ['\n'])
  lead_isSeparator := all_isSeparator_newline
  parts_isApart := isApart_of_forall fun p hp => by
    obtain ⟨s, -, rfl⟩ := List.mem_map.1 hp
    rfl

theorem items_lines (ss : List (StatementText commas)) : (lines ss).items = ss := by
  rw [Spaced.items, lines, List.map_map]
  exact List.map_id ss

theorem passage (b : Body commas) : Passage true b.source :=
  Spaced.passage b fun s _ => s.passage

/-- The statements of a body are found again, whatever stands between them. -/
theorem statements_source (b : Body commas) :
    statements commas b.source = b.items.map StatementText.statement :=
  statements_text b fun s _ => s.cutsOut

/-- **A body reads as what its statements put together**, in every room that has space for its
levels. -/
theorem readBody_source (b : Body commas) (room : Room) :
    readBody room commas b.source = .given (room.fits b.levels) b.entries := by
  have hrun (s : StatementText commas) (_ : s ∈ b.items) (sc : Scope) :
      Statement.run room sc s.statement = .given (room.fits (0 + s.levels)) (s.put sc) := by
    rw [s.run_statement, Nat.zero_add]
  rw [readBody_eq, statements_source, List.foldlM_map, Reading.foldlM_given hrun,
    Reading.given_map, levels, Room.fits_deepest, entries]

end Body

/-- A map literal, which may not begin like a `for` expression. -/
def Spelling.map (b : Body true) (hloop : isForExpression b.source = false) : Spelling where
  source := '\x7b' :: (b.source ++ ['\x7d'])
  value := .map b.entries
  levels := b.levels
  valueText := valueText_group (.inr (.inr ⟨rfl, rfl⟩)) b.passage
  readValue_source := fun room => by
    rw [readValue_of_map (by simp) (shapeOf_map b.passage hloop), b.readBody_source,
      Reading.given_map]

namespace StatementText

/-- A value for a key. -/
def assign {commas : Bool} (k : Key) (s : Sign commas) (v : Spelling)
    (hsingle : ∀ c ∈ (s.lead ++ v.source).head?, c ≠ '=') : StatementText commas where
  source := k.source ++ (s.source ++ v.source)
  statement := .assignment k.name (.source v.source)
  levels := 3 + v.levels
  put := fun sc => sc.assign k.name v.value
  passage := .append k.passage (.append s.passage v.valueText.passage.loosen)
  cutsOut := by
    rw [← List.append_assoc]
    refine cutsOut_assignment v.valueText (List.all_eq_true.1 s.lead_isSpacing)
      fun done rest => ?_
    -- what stands behind the value does not double the sign
    have hhead : ∀ c ∈ (s.lead ++ (v.source ++ rest)).head?, c ≠ '=' := by
      obtain ⟨d, ds, hd⟩ := List.exists_cons_of_ne_nil v.valueText.nonempty
      intro c hc
      refine hsingle c ?_
      cases hlead : s.lead with
      | nil => simpa [hlead, hd] using hc
      | cons e es => simpa [hlead] using hc
    have hkeyed : keyedStatement commas k.name (s.source ++ (v.source ++ rest)) =
        (.assignment k.name (readRaw commas (s.lead ++ (v.source ++ rest))).1,
          (readRaw commas (s.lead ++ (v.source ++ rest))).2) := by
      rw [keyedStatement, s.afterAssign?_source hhead]
    rw [List.append_assoc, k.statementsFrom_source commas done (s.head?_source _), hkeyed]
  run_statement := fun room sc => by
    rw [Statement.run]
    refine Reading.within_given (fun room => ?_) room
    rw [v.readValue_source, Reading.given_map]

/-- A value for a key, with an equals sign between two spaces. -/
def equals {commas : Bool} (k : Key) (v : Spelling) : StatementText commas :=
  assign k .equals v fun c hc => by
    obtain rfl : ' ' = c := by simpa [Sign.equals] using hc
    decide

/-- A nested block. -/
def block (n : Identifier) (labels : List PlainText) (b : Body false) : StatementText false where
  source := n.chars ++ (labels.flatMap (fun l => ' ' :: l.literal) ++
    ' ' :: '\x7b' :: (b.source ++ ['\x7d']))
  statement := .block n.name (labels.map PlainText.text) b.source true
  levels := 1 + b.levels
  put := fun sc => sc.addBlock n.name (blockValue (labels.map PlainText.text) b.entries)
  passage := .append (passage_name n) (.append (passage_labels labels)
    (.cons (by decide) (.inl rfl) (.group (.inr (.inr ⟨rfl, rfl⟩)) b.passage)))
  cutsOut := by
    intro done behind rest h
    have hread := keyedStatement_block n.name labels b.passage (behind ++ rest)
    have hhead : ∀ c ∈ (labels.flatMap (fun l => ' ' :: l.literal) ++
        ' ' :: '\x7b' :: (b.source ++ '\x7d' :: (behind ++ rest))).head?,
        isNamePart c = false := by
      -- a space follows the name
      intro c hc
      obtain rfl : ' ' = c := by
        cases labels with
        | nil => simpa using hc
        | cons l labels => simpa using hc
      decide
    have hsource : n.chars ++ (labels.flatMap (fun l => ' ' :: l.literal) ++
        ' ' :: '\x7b' :: (b.source ++ ['\x7d'])) ++ (behind ++ rest) =
          n.chars ++ (labels.flatMap (fun l => ' ' :: l.literal) ++
            ' ' :: '\x7b' :: (b.source ++ '\x7d' :: (behind ++ rest))) := by
      simp
    rw [hsource, statementsFrom_chars false done n hhead, hread]
    exact statementsFrom_separators false _ h.all_isSeparator rest
  run_statement := fun room sc => by
    rw [Statement.run, if_pos rfl, Reading.ofValue_bind]
    refine Reading.within_given (fun room => ?_) room
    rw [b.readBody_source, Reading.given_map]

/-- A clause in its own layout. -/
def clause {c : Clause} (h : c.WellFormed) (step pad : Nat) : StatementText false where
  source := c.source step pad
  statement := c.statement step pad
  levels := c.levels
  put := c.put
  passage := Clause.passage h step pad
  cutsOut := by
    intro done behind rest hbehind
    rw [Clause.statementsFrom_source h]
    exact statementsFrom_separators false _ hbehind.all_isSeparator rest
  run_statement := fun room sc => by
    have hput : c.put sc = Clause.put sc c := rfl
    rw [hput]
    exact Clause.run_statement h step pad room sc

end StatementText

/-! ## Maps under one name -/

namespace StatementText

variable {commas : Bool} {key : String}

/-- A statement leaves a name alone: what is given to the name stays, and so does whether nested
blocks have given it. -/
def Leaves (key : String) (s : StatementText commas) : Prop :=
  ∀ sc : Scope, Entries.get? key (s.put sc).entries = Entries.get? key sc.entries ∧
    (key ∈ (s.put sc).blockKeys ↔ key ∈ sc.blockKeys)

theorem leaves_of_assign {s : StatementText commas} {other : String} {v : Value} (h : key ≠ other)
    (hput : ∀ sc, s.put sc = sc.assign other v) : s.Leaves key := by
  intro sc
  rw [hput]
  refine ⟨Entries.get?_set_of_ne h _ _, ?_⟩
  simp [Scope.assign, h]

theorem leaves_of_addBlock {s : StatementText commas} {other : String} {v : Value} (h : key ≠ other)
    (hput : ∀ sc, s.put sc = sc.addBlock other v) : s.Leaves key := by
  intro sc
  rw [hput, Scope.addBlock]
  split
  · -- a further block of the other name changes the list under that name
    split
    · exact ⟨Entries.get?_set_of_ne h _ _, Iff.rfl⟩
    · exact ⟨Entries.get?_set_of_ne h _ _, Iff.rfl⟩
    · exact ⟨rfl, Iff.rfl⟩
  · refine ⟨Entries.get?_set_of_ne h _ _, ?_⟩
    simp [h]

theorem leaves_clause {c : Clause} (hc : c.WellFormed) (step pad : Nat) (h : key ≠ c.key.name) :
    (clause hc step pad).Leaves key := by
  cases hb : c.isBlock with
  | true =>
    refine leaves_of_addBlock (v := c.meaning) h fun sc => ?_
    show c.put sc = _
    rw [Clause.put, if_pos hb]
  | false =>
    refine leaves_of_assign (v := c.meaning) h fun sc => ?_
    show c.put sc = _
    rw [Clause.put, hb, if_neg Bool.false_ne_true]

end StatementText

/-- Statements that give maps to a name by one nested block for each of them, other statements
anywhere in between. -/
inductive InBlocks (n : Identifier) : List (StatementText false) → List Properties → Prop
  | nil : InBlocks n [] []
  | block (b : Body false) {ss : List (StatementText false)} {pss : List Properties}
      (h : InBlocks n ss pss) : InBlocks n (.block n [] b :: ss) (b.entries :: pss)
  | other {s : StatementText false} (hs : s.Leaves n.name) {ss : List (StatementText false)}
      {pss : List Properties} (h : InBlocks n ss pss) : InBlocks n (s :: ss) pss

/-- Statements that give maps to a name by one attribute with the list of them, other statements
before and behind it. -/
inductive InAttribute (n : Identifier) : List (StatementText false) → List Properties → Prop
  | intro {before after : List (StatementText false)} {sign : Sign false}
      {items : Spaced true Spelling} {pss : List Properties}
      (hbefore : ∀ s ∈ before, s.Leaves n.name) (hafter : ∀ s ∈ after, s.Leaves n.name)
      (hsingle : ∀ c ∈ (sign.lead ++ (Spelling.list items).source).head?, c ≠ '=')
      (hmaps : items.items.map Spelling.value = pss.map .map) :
      InAttribute n (before ++ .assign (.bare n) sign (.list items) hsingle :: after) pss

/-- So far nested blocks have given these maps to a name, and nothing else has given it anything. -/
def Scope.Collects (sc : Scope) (key : String) (pss : List Properties) : Prop :=
  Entries.get? key sc.entries = (if pss = [] then none else some (collected (pss.map .map))) ∧
    (key ∈ sc.blockKeys ↔ pss ≠ [])

namespace Scope

variable {sc : Scope} {key : String} {pss : List Properties}

/-- **One nested block more** goes behind those before it. -/
theorem Collects.addBlock (h : sc.Collects key pss) (ps : Properties) :
    (sc.addBlock key (.map ps)).Collects key (pss ++ [ps]) := by
  obtain ⟨hget, hkey⟩ := h
  have hne : pss ++ [ps] ≠ [] := by simp
  by_cases hpss : pss = []
  · -- the first block stands by itself
    have hcontains : ¬ sc.blockKeys.contains key = true := by
      rw [List.contains_iff_mem, hkey]
      exact fun hne => hne hpss
    rw [Scope.addBlock, if_neg hcontains]
    refine ⟨?_, ?_⟩
    · rw [Entries.get?_set_self, if_neg hne, hpss]
      rfl
    · simp
  · have hmem := hkey.2 hpss
    rw [if_neg hpss] at hget
    have hmaps : ∀ v ∈ pss.map Value.map, v.isMap = true := by
      intro v hv
      obtain ⟨ps, -, rfl⟩ := List.mem_map.1 hv
      rfl
    rw [addBlock_of_mem hmem hget (by simpa using hpss) hmaps]
    refine ⟨?_, ?_⟩
    · rw [Entries.get?_set_self, if_neg hne, List.map_append, List.map_singleton]
    · simp [hmem]

theorem Collects.leaves {s : StatementText false} (h : sc.Collects key pss) (hs : s.Leaves key) :
    (s.put sc).Collects key pss :=
  ⟨(hs sc).1.trans h.1, (hs sc).2.trans h.2⟩

theorem maps_of_collects (h : sc.Collects key pss) :
    Block.maps (Entries.get? key sc.entries) = pss := by
  rw [h.1]
  match pss with
  | [] => rfl
  | [ps] => rfl
  | ps :: qs :: pss =>
    show ((ps :: qs :: pss).map Value.map).filterMap Value.entries? = _
    rw [List.filterMap_map]
    exact List.filterMap_some

/-- The blocks are collected one after another. -/
theorem Collects.foldl {n : Identifier} {ss : List (StatementText false)} {qss : List Properties}
    (h : sc.Collects n.name pss) (hss : InBlocks n ss qss) :
    (ss.foldl (fun sc s => s.put sc) sc).Collects n.name (pss ++ qss) := by
  induction hss generalizing sc pss with
  | nil => rwa [List.append_nil]
  | @block b ss qss _ ih =>
    have hnext := ih (h.addBlock b.entries)
    rwa [List.append_assoc, List.singleton_append] at hnext
  | other hs _ ih => exact ih (h.leaves hs)

end Scope

/-- **The maps of nested blocks are found again**, whether there is none, one or many of them. -/
theorem InBlocks.maps_entries {n : Identifier} {b : Body false} {pss : List Properties}
    (h : InBlocks n b.items pss) : Block.maps (Entries.get? n.name b.entries) = pss := by
  have hnone : ({} : Scope).Collects n.name [] := ⟨rfl, by simp⟩
  exact Scope.maps_of_collects (hnone.foldl h)

/-- Statements that leave a name alone leave it alone together. -/
theorem get?_foldl_of_leaves {key : String} {ss : List (StatementText false)}
    (h : ∀ s ∈ ss, s.Leaves key) (sc : Scope) :
    Entries.get? key (ss.foldl (fun sc s => s.put sc) sc).entries =
      Entries.get? key sc.entries := by
  induction ss generalizing sc with
  | nil => rfl
  | cons s ss ih =>
    rw [List.forall_mem_cons] at h
    rw [List.foldl_cons, ih h.2]
    exact (h.1 sc).1

/-- **The maps of a list are found again** where one attribute gives it. -/
theorem InAttribute.maps_entries {n : Identifier} {b : Body false} {pss : List Properties}
    (h : InAttribute n b.items pss) : Block.maps (Entries.get? n.name b.entries) = pss := by
  rw [Body.entries]
  generalize b.items = ss at h
  obtain ⟨-, hafter, hsingle, hmaps⟩ := h
  rename_i before after sign items
  rw [List.foldl_append, List.foldl_cons, get?_foldl_of_leaves hafter]
  show Block.maps (Entries.get? n.name
    (Entries.set n.name (.list (items.items.map Spelling.value)) _)) = pss
  rw [Entries.get?_set_self, hmaps]
  show (pss.map Value.map).filterMap Value.entries? = pss
  rw [List.filterMap_map]
  exact List.filterMap_some

/-! ## Blocks of the top level -/

/-- A block of the top level, whatever stands between its braces, with the blanks before it. -/
structure TopText where
  lead : List Char
  heading : Heading
  inside : List Char
  lead_isBlank : ∀ c ∈ lead, isBlank c = true
  inside_passage : Passage true inside

namespace TopText

/-- The text of a block with the blanks before it. -/
def source (t : TopText) : List Char :=
  t.lead ++ t.heading.text t.inside

/-- The text of blocks, with what stands behind the last of them. -/
def text (ts : List TopText) (tail : List Char) : List Char :=
  ts.flatMap source ++ tail

/-- The line on which a block begins, if the blanks before it begin on a line. -/
def startLine (line : Nat) (t : TopText) : Nat :=
  line + lineFeeds t.lead

/-- The blocks with the lines on which they begin. -/
def placed (line : Nat) : List TopText → List (Nat × TopText)
  | [] => []
  | t :: ts => (t.startLine line, t) :: placed (line + lineFeeds t.source) ts

/-- The properties of a block; none if they cannot be read. -/
def properties (room : Room) (t : TopText) : Properties :=
  match (readBody room false t.inside).result with
  | .ok ps => ps
  | .error _ => []

/-- The resource that a block is, if it is one, from a line on. -/
def resource? (room : Room) (line : Nat) (t : TopText) : Option Block :=
  match t.heading with
  | .resource type name => some ⟨.resource, type.text, name.text, t.properties room, line,
      line + lineFeeds (t.heading.text t.inside), String.ofList (t.heading.text t.inside)⟩
  | _ => none

/-- The blocks are cut out one after another. -/
theorem sectionsFrom_text (ts : List TopText) {tail : List Char}
    (htail : ∀ c ∈ tail, isBlank c = true) (line : Nat) (done : List TopLevel) :
    sectionsFrom line done (text ts tail) =
      done.reverse ++ (placed line ts).map fun p => .block (p.2.heading.cutOut p.2.inside p.1) := by
  induction ts generalizing line done with
  | nil =>
    have hblanks := sectionsFrom_blanks line done htail []
    rw [List.append_nil, sectionsFrom_nil] at hblanks
    rw [text, List.flatMap_nil, List.nil_append, hblanks, placed, List.map_nil, List.append_nil]
  | cons t ts ih =>
    have hline : t.startLine line + lineFeeds (t.heading.text t.inside) =
        line + lineFeeds t.source := by
      rw [startLine, source, lineFeeds_append, Nat.add_assoc]
    have htext : text (t :: ts) tail =
        t.lead ++ (t.heading.text t.inside ++ text ts tail) := by
      simp [text, source]
    rw [htext, sectionsFrom_blanks line done t.lead_isBlank,
      t.heading.sectionsFrom_text t.inside_passage, ← startLine, hline, ih, placed]
    simp

/-- What a block contributes to the resources of a configuration. -/
theorem resource?_read (room : Room) (line : Nat) (t : TopText) :
    (((t.heading.cutOut t.inside line).read room).part.bind (Part.block? .resource)) =
      t.resource? room line := by
  have hword : Keyword.ofWord? t.heading.word = some t.heading.keyword :=
    t.heading.keyword.ofWord?_word
  have hpart : ((t.heading.cutOut t.inside line).read room).part =
      ((t.heading.cutOut t.inside line).part t.heading.keyword (t.properties room)).part := by
    rw [Section.read, Heading.cutOut, hword, properties]
    dsimp only
    cases (readBody room false t.inside).result <;> rfl
  rw [hpart, resource?, Heading.cutOut]
  cases t.heading <;> rfl

/-- **The resources of a text are those of its blocks**, one by one. -/
theorem resources_parseWithin (room : Room) (ts : List TopText) {tail : List Char}
    (htail : ∀ c ∈ tail, isBlank c = true) :
    (parseWithin room (String.ofList (text ts tail))).resources =
      (placed 1 ts).filterMap fun p => p.2.resource? room p.1 := by
  have hsections : sections (text ts tail) =
      (placed 1 ts).map fun p => .block (p.2.heading.cutOut p.2.inside p.1) :=
    sectionsFrom_text ts htail 1 []
  have hresources : (parseWithin room (String.ofList (text ts tail))).resources =
      ((outcomes room (text ts tail)).filterMap Outcome.part).filterMap
        (Part.block? .resource) := by
    rw [parseWithin, String.toList_ofList]
    rfl
  rw [hresources, outcomes, hsections, List.map_map, List.filterMap_map, List.filterMap_filterMap]
  refine List.filterMap_congr fun p _ => ?_
  exact p.2.resource?_read room p.1

end TopText

end Groundplan.Hcl
