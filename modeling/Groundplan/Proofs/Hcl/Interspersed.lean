import Groundplan.Proofs.Hcl.RoundTrip

/-!
# Documents with other text in between

Between the blocks of a document may stand lines that begin like nothing a reader knows, whatever
braces, quotes or markers they hold, and blocks that a reader does not support. They hide nothing:
the blocks of the document are read as they are without them, only further down, and each stray line
and each foreign block is reported once.

## Main definitions

* `StrayLine`, `ForeignBlock`: what may stand between the blocks of a document
* `Mixture`: blocks, stray lines and foreign blocks in any order
* `Mixture.document`: the blocks alone
* `Mixture.extraLines`: how much further down a line of the document stands in the mixture
* `Configuration.moved`: a configuration with its blocks on other lines
* `Mixture.notices`: one report for each stray line and each foreign block

## Main results

* `Mixture.sections_source`: the source is cut into its pieces
* `Mixture.parseWithin_source`: the mixture reads as its document does, in any room
* `Mixture.load_interspersed`: the usual room, and when there are no other reports
-/

namespace Groundplan.Hcl

open Text

/-! ## Pieces -/

/-- A line that begins with neither a name nor a comment, after blanks perhaps. -/
structure StrayLine where
  indent : List Char
  head : Char
  tail : List Char
  indent_isBlank : ∀ c ∈ indent, isBlank c = true
  head_isStray : isBlank head = false ∧ isNameStart head = false ∧ head ≠ '#' ∧ head ≠ '/'
  unbroken : '\n' ∉ indent ∧ '\n' ∉ tail

/-- A block with a word that begins no supported block. -/
structure ForeignBlock where
  word : Identifier
  labels : List PlainText
  body : List Clause
  isForeign : Keyword.ofWord? word.name = none
  clauses : ∀ c ∈ body, c.WellFormed

/-- The characters of the line. -/
def StrayLine.chars (s : StrayLine) : List Char :=
  s.indent ++ s.head :: s.tail

/-- The lines that the block is written as, up to its closing brace. -/
def ForeignBlock.source (step : Nat) (b : ForeignBlock) : List Char :=
  blockText b.word.chars b.labels (Clause.inside step 0 b.body)

/-- A piece of a text: a block of a document, or what stands between two of them. -/
inductive Piece where
  | declared (d : Declaration)
  | stray (s : StrayLine)
  | foreign (b : ForeignBlock)

namespace Piece

/-- The lines that a piece is written as, but for the last line break. -/
def source (step : Nat) : Piece → List Char
  | .declared d => d.source step
  | .stray s => s.chars
  | .foreign b => b.source step

/-- The line below a piece that begins on a line. -/
def lineBelow (step line : Nat) (p : Piece) : Nat :=
  line + lineFeeds (p.source step) + 1

/-- The block of a document that a piece is. -/
def declaration? : Piece → Option Declaration
  | .declared d => some d
  | _ => none

/-- What a piece is cut out as. -/
def topLevel (step line : Nat) : Piece → TopLevel
  | .declared d => .block (d.cutOut step line)
  | .stray s => .junk s.head line
  | .foreign b => .block (blockSection b.word.chars b.labels (Clause.inside step 0 b.body) line)

/-- The report on a piece that is no block of a document. -/
def notice? (line : Nat) : Piece → Option Warning
  | .declared _ => none
  | .stray s => some (.unexpectedCharacter s.head line)
  | .foreign b => some (.unsupportedBlock b.word.name line)

/-- What is reported of a piece that begins on a line. -/
def warnings (room : Room) (line : Nat) : Piece → List Warning
  | .declared d => d.warnings room line
  | p => (p.notice? line).toList

theorem notice?_ne_unreadable {keyword : String} {n : Nat} (line : Nat) (p : Piece) :
    p.notice? line ≠ some (.unreadableBlock keyword n) := by
  cases p <;> simp [notice?]

/-- What a piece contributes to a configuration. -/
def part? (step : Nat) (room : Room) (line : Nat) (p : Piece) : Option Part :=
  p.declaration?.map fun d => d.part step room line

end Piece

/-! ## Cutting out the pieces -/

theorem StrayLine.lineFeeds_chars (s : StrayLine) : lineFeeds s.chars = 0 := by
  refine List.count_eq_zero.2 fun hmem => ?_
  rw [chars, List.mem_append, List.mem_cons] at hmem
  rcases hmem with hmem | hmem | hmem
  · exact s.unbroken.1 hmem
  · exact ne_of_class (by decide) s.head_isStray.1 hmem
  · exact s.unbroken.2 hmem

/-- A stray line is passed over as a whole. -/
theorem StrayLine.sectionsFrom_chars (s : StrayLine) (line : Nat) (done : List TopLevel)
    (rest : List Char) :
    sectionsFrom line done (s.chars ++ '\n' :: rest) =
      sectionsFrom (line + 1) (.junk s.head line :: done) rest := by
  obtain ⟨hblank, hname, hhash, hslash⟩ := s.head_isStray
  have hbreak : '\n' ∉ s.head :: s.tail := by
    rw [List.mem_cons, not_or]
    exact ⟨ne_of_class (by decide) hblank, s.unbroken.2⟩
  have hnext : nextLine (s.head :: s.tail ++ '\n' :: rest) = rest := by
    rw [nextLine, toLineEnd_line hbreak]
    rfl
  rw [List.cons_append] at hnext
  have hfeeds : lineFeeds s.indent = 0 := List.count_eq_zero.2 s.unbroken.1
  rw [chars, List.append_assoc, sectionsFrom_blanks line done s.indent_isBlank, hfeeds,
    Nat.add_zero, List.cons_append, sectionsFrom_junk _ done hblank hname hhash hslash, hnext]

/-- **A piece is cut out whole**, and what follows it begins on the line below. -/
theorem Piece.sectionsFrom_source {p : Piece}
    (h : ∀ d ∈ p.declaration?, ∀ c ∈ d.body, c.WellFormed) (step line : Nat)
    (done : List TopLevel) (rest : List Char) :
    sectionsFrom line done (p.source step ++ '\n' :: rest) =
      sectionsFrom (p.lineBelow step line) (p.topLevel step line :: done) rest := by
  cases p with
  | declared d =>
    have hbody : ∀ c ∈ d.body, c.WellFormed := h d rfl
    have hblock := d.heading.sectionsFrom_text (Clause.passage_inside hbody step 0) line done
      ('\n' :: rest)
    rw [source, d.source_eq, Declaration.inside, hblock, sectionsFrom_blank _ _ (by decide),
      lineBelow, source, topLevel, d.cutOut_eq, d.source_eq]
    rfl
  | stray s =>
    rw [source, s.sectionsFrom_chars, lineBelow, source, s.lineFeeds_chars]
    rfl
  | foreign b =>
    have hblock := sectionsFrom_blockText b.labels b.word.isName
      (Clause.passage_inside b.clauses step 0) line done ('\n' :: rest)
    rw [source, ForeignBlock.source, hblock, sectionsFrom_blank _ _ (by decide)]
    rfl

/-- Blocks of a document, stray lines and foreign blocks in any order. -/
abbrev Mixture := List Piece

namespace Mixture

/-- The text of a mixture. -/
def source (step : Nat) (ps : Mixture) : List Char :=
  ps.flatMap fun p => p.source step ++ ['\n']

/-- The blocks of a mixture alone. -/
def document (ps : Mixture) : Document :=
  ps.filterMap Piece.declaration?

/-- The pieces with the lines on which they begin, the first of them on a line. -/
def placed (step line : Nat) : Mixture → List (Nat × Piece)
  | [] => []
  | p :: ps => (line, p) :: placed step (p.lineBelow step line) ps

/-- How much further down a line of the document stands in the mixture, if the first of the pieces
stands on `line` of the document. -/
def extraLines (step line : Nat) : Mixture → Nat → Nat
  | [], _ => 0
  | .declared d :: ps, l =>
    if l ≤ d.endLine step line then 0 else extraLines step (d.endLine step line + 1) ps l
  | .stray _ :: ps, l => 1 + extraLines step line ps l
  | .foreign b :: ps, l => lineFeeds (b.source step) + 1 + extraLines step line ps l

/-- One report for each piece that is no block of a document, in the order of the text, the first
piece standing on a line. -/
def notices (step line : Nat) (ps : Mixture) : List Warning :=
  (placed step line ps).filterMap fun p => p.2.notice? p.1

/-- What pieces contribute to a configuration, the first of them standing on a line. -/
def parts (step : Nat) (room : Room) (line : Nat) (ps : Mixture) : List Part :=
  (placed step line ps).filterMap fun p => p.2.part? step room p.1

/-- All that is reported of pieces, the first of them standing on a line. -/
def warnings (step : Nat) (room : Room) (line : Nat) (ps : Mixture) : List Warning :=
  (placed step line ps).flatMap fun p => p.2.warnings room p.1

variable {ps : Mixture} (step : Nat) (room : Room)

theorem snd_mem_of_mem_placed {line : Nat} {p : Nat × Piece} (h : p ∈ placed step line ps) :
    p.2 ∈ ps := by
  induction ps generalizing line with
  | nil => cases h
  | cons q ps ih =>
    rw [placed, List.mem_cons] at h
    rcases h with rfl | h
    · exact List.mem_cons_self
    · exact List.mem_cons_of_mem _ (ih h)

/-- The pieces of a mixture are cut out one after another. -/
theorem sectionsFrom_source (h : ∀ d ∈ ps.document, ∀ c ∈ d.body, c.WellFormed) (line : Nat)
    (done : List TopLevel) :
    sectionsFrom line done (source step ps) =
      done.reverse ++ (placed step line ps).map fun p => p.2.topLevel step p.1 := by
  induction ps generalizing line done with
  | nil =>
    rw [source, List.flatMap_nil, sectionsFrom_nil]
    simp [placed]
  | cons p ps ih =>
    have hhead : ∀ d ∈ p.declaration?, ∀ c ∈ d.body, c.WellFormed := fun d hd =>
      h d (List.mem_filterMap.2 ⟨p, List.mem_cons_self, hd⟩)
    have htail : ∀ d ∈ document ps, ∀ c ∈ d.body, c.WellFormed := fun d hd => by
      obtain ⟨q, hq, hdq⟩ := List.mem_filterMap.1 hd
      exact h d (List.mem_filterMap.2 ⟨q, List.mem_cons_of_mem _ hq, hdq⟩)
    have hsource : source step (p :: ps) = p.source step ++ '\n' :: source step ps := by
      simp [source]
    rw [hsource, Piece.sectionsFrom_source hhead, ih htail, placed]
    simp

/-- **The source of a mixture is cut into its pieces.** -/
theorem sections_source (h : ∀ d ∈ ps.document, ∀ c ∈ d.body, c.WellFormed) :
    sections (source step ps) = (placed step 1 ps).map fun p => p.2.topLevel step p.1 :=
  sectionsFrom_source step h 1 []

end Mixture

/-! ## Moving blocks -/

/-- A block that stands further down, by as many lines as `f` says of its first and last line. -/
def Block.moved (f : Nat → Nat) (b : Block) : Block :=
  { b with
    startLine := b.startLine + f b.startLine
    endLine := b.endLine + f b.endLine }

/-- A part with its block further down. -/
def Part.moved (f : Nat → Nat) : Part → Part
  | .block b => .block (b.moved f)
  | .provider name b => .provider name (b.moved f)
  | p => p

/-- **A configuration with its blocks further down**, and nothing else changed. -/
def Configuration.moved (f : Nat → Nat) (c : Configuration) : Configuration :=
  { c with
    resources := c.resources.map (Block.moved f)
    dataSources := c.dataSources.map (Block.moved f)
    modules := c.modules.map (Block.moved f)
    providerBlocks := c.providerBlocks.map (Block.moved f) }

theorem Part.block?_moved (f : Nat → Nat) (kind : BlockKind) (p : Part) :
    (p.moved f).block? kind = (p.block? kind).map (Block.moved f) := by
  have hkind (b : Block) : (if (b.moved f).kind = kind then some (b.moved f) else none) =
      (if b.kind = kind then some b else none).map (Block.moved f) := by
    rw [Block.moved]
    split <;> rfl
  cases p <;> first | rfl | exact hkind _

theorem Part.providerNames_moved (f : Nat → Nat) (p : Part) :
    (p.moved f).providerNames = p.providerNames := by
  cases p <;> rfl

/-- Parts that stand further down make up the configuration that stands further down. -/
theorem Configuration.ofParts_map_moved (f : Nat → Nat) (parts : List Part)
    (ws ws' : List Warning) :
    ofParts (parts.map (Part.moved f)) ws' =
      { (ofParts parts ws).moved f with warnings := ws' } := by
  have hblocks (kind : BlockKind) : (parts.map (Part.moved f)).filterMap (Part.block? kind) =
      (parts.filterMap (Part.block? kind)).map (Block.moved f) := by
    rw [List.filterMap_map, List.map_filterMap]
    congr 1
    funext p
    exact p.block?_moved f kind
  have hnames : (parts.map (Part.moved f)).flatMap Part.providerNames =
      parts.flatMap Part.providerNames := by
    rw [List.flatMap_map]
    congr 1
    funext p
    exact p.providerNames_moved f
  simp only [ofParts, moved, hblocks, hnames, List.foldl_map]
  -- What is merged by name reads the same from a part and from the part further down.
  congr 1 <;>
  · congr 1
    funext acc p
    cases p <;> rfl

/-- A block of a document contributes the same further down. -/
theorem Declaration.part_moved (d : Declaration) (step : Nat) (room : Room) {line n : Nat}
    {f : Nat → Nat} (hstart : f line = n) (hend : f (d.endLine step line) = n) :
    (d.part step room line).moved f = d.part step room (line + n) := by
  have hlast : d.endLine step (line + n) = d.endLine step line + n := by
    rw [endLine, endLine, Nat.add_right_comm]
  rw [part, part]
  cases d.heading <;> simp [Part.moved, Block.moved, hstart, hend, hlast]

/-! ## Reading mixtures -/

namespace Mixture

variable {ps : Mixture} (step : Nat) (room : Room)

theorem le_of_mem_placed {ds : Document} {line : Nat} {q : Nat × Declaration}
    (h : q ∈ Document.placed step line ds) : line ≤ q.1 := by
  induction ds generalizing line with
  | nil => cases h
  | cons d ds ih =>
    rw [Document.placed, List.mem_cons] at h
    rcases h with rfl | h
    · exact Nat.le_refl _
    · have := ih h
      rw [Declaration.endLine] at this
      omega

/-- The last line of a block stands as much further down as its first. -/
theorem extraLines_endLine {line : Nat} {q : Nat × Declaration}
    (h : q ∈ Document.placed step line ps.document) :
    extraLines step line ps (q.2.endLine step q.1) = extraLines step line ps q.1 := by
  induction ps generalizing line with
  | nil => rfl
  | cons p ps ih =>
    cases p with
    | declared d =>
      have hmem : q = (line, d) ∨
          q ∈ Document.placed step (d.endLine step line + 1) (document ps) := by
        simpa [document, Piece.declaration?, Document.placed] using h
      rw [extraLines, extraLines]
      -- Either it is the block here, or it stands below it, so both of its lines do.
      rcases hmem with rfl | hmem
      · rw [if_pos (Nat.le_refl _), if_pos (by rw [Declaration.endLine]; omega)]
      · have hbelow := le_of_mem_placed step hmem
        have hle : q.1 ≤ q.2.endLine step q.1 := by rw [Declaration.endLine]; omega
        rw [if_neg (by omega), if_neg (by omega), ih hmem]
    | stray s => rw [extraLines, extraLines, ih h]
    | foreign b => rw [extraLines, extraLines, ih h]

theorem parts_declared (line : Nat) (d : Declaration) (ps : Mixture) :
    parts step room line (.declared d :: ps) =
      d.part step room line :: parts step room (d.endLine step line + 1) ps :=
  rfl

theorem parts_stray (line : Nat) (s : StrayLine) (ps : Mixture) :
    parts step room line (.stray s :: ps) = parts step room (line + 1) ps := by
  rw [parts, placed, Piece.lineBelow, Piece.source, s.lineFeeds_chars]
  rfl

theorem parts_foreign (line : Nat) (b : ForeignBlock) (ps : Mixture) :
    parts step room line (.foreign b :: ps) =
      parts step room (line + lineFeeds (b.source step) + 1) ps :=
  rfl

/-- The blocks of a document contribute what they do alone, as much further down as there are extra
lines. -/
theorem parts_eq (line n : Nat) (ps : Mixture) :
    parts step room (line + n) ps = (Document.placed step line ps.document).map fun q =>
      q.2.part step room (q.1 + n + extraLines step line ps q.1) := by
  induction ps generalizing line n with
  | nil => rfl
  | cons p ps ih =>
    cases p with
    | declared d =>
      have hbelow : d.endLine step (line + n) + 1 = d.endLine step line + 1 + n := by
        rw [Declaration.endLine, Declaration.endLine]
        omega
      have hdocument : Document.placed step line (document (.declared d :: ps)) =
          (line, d) :: Document.placed step (d.endLine step line + 1) (document ps) := rfl
      have hfirst : extraLines step line (.declared d :: ps) line = 0 := by
        rw [extraLines, if_pos (by rw [Declaration.endLine]; omega)]
      rw [parts_declared, hbelow, ih, hdocument, List.map_cons, hfirst, Nat.add_zero]
      congr 1
      -- The lines of the other blocks are those below the first.
      refine List.map_congr_left fun q hq => ?_
      have hlater := le_of_mem_placed step hq
      rw [extraLines, if_neg (by omega)]
    | stray s =>
      rw [parts_stray, Nat.add_assoc, ih]
      refine List.map_congr_left fun q _ => ?_
      rw [extraLines]
      congr 1
      omega
    | foreign b =>
      rw [parts_foreign, Nat.add_assoc, Nat.add_assoc, ih]
      refine List.map_congr_left fun q _ => ?_
      rw [extraLines]
      congr 1
      omega

/-- A mixture contributes what its document contributes, moved down. -/
theorem parts_eq_moved :
    parts step room 1 ps =
      (ps.document.parts step room).map (Part.moved (ps.extraLines step 1)) := by
  have hparts := parts_eq step room 1 0 ps
  rw [Nat.add_zero] at hparts
  rw [hparts, Document.parts, List.map_map]
  refine List.map_congr_left fun q hq => ?_
  exact (q.2.part_moved step room rfl (extraLines_endLine step hq)).symm

/-- What a reader makes of the pieces, one by one. -/
theorem outcomes_source (hdistinct : ∀ d ∈ ps.document, Clause.Distinct d.body)
    (h : ∀ d ∈ ps.document, ∀ c ∈ d.body, c.WellFormed) :
    outcomes room (ps.source step) = (placed step 1 ps).map fun p =>
      ⟨p.2.warnings room p.1, p.2.part? step room p.1⟩ := by
  rw [outcomes, sections_source step h, List.map_map]
  refine List.map_congr_left fun q hq => ?_
  have hmem : q.2 ∈ ps := snd_mem_of_mem_placed step hq
  obtain ⟨line, p⟩ := q
  cases p with
  | declared d =>
    have hd : d ∈ ps.document := List.mem_filterMap.2 ⟨_, hmem, rfl⟩
    exact Declaration.read_cutOut (hdistinct d hd) (h d hd) step room line
  | stray s => rfl
  | foreign b =>
    have hword : Keyword.ofWord? (String.ofList b.word.chars) = none := b.isForeign
    simp [Piece.topLevel, TopLevel.read, Section.read, blockSection, hword, Piece.warnings,
      Piece.notice?, Piece.part?, Piece.declaration?, Identifier.name]

/-- **A mixture reads as its document does, further down**, and with its own reports. -/
theorem parseWithin_source (hdistinct : ∀ d ∈ ps.document, Clause.Distinct d.body)
    (h : ∀ d ∈ ps.document, ∀ c ∈ d.body, c.WellFormed) :
    parseWithin room (String.ofList (ps.source step)) =
      { (parseWithin room (String.ofList (ps.document.source step))).moved (ps.extraLines step 1)
        with warnings := ps.warnings step room 1 } := by
  have houtcomes := outcomes_source step room hdistinct h
  have hparts : (outcomes room (ps.source step)).filterMap Outcome.part =
      parts step room 1 ps := by
    rw [houtcomes, List.filterMap_map]
    rfl
  have hwarnings : (outcomes room (ps.source step)).flatMap Outcome.warnings =
      ps.warnings step room 1 := by
    rw [houtcomes, List.flatMap_map]
    rfl
  rw [parseWithin, String.toList_ofList, hparts, hwarnings, parts_eq_moved,
    Document.parseWithin_source step room hdistinct h]
  exact Configuration.ofParts_map_moved _ _ _ _

/-- No template stands in the blocks of a mixture, so it can be cut into pieces. -/
theorem scannable_source (h : ∀ d ∈ ps.document, ∀ c ∈ d.body, c.WellFormed) :
    scannable (String.ofList (ps.source step)) = .ok (String.ofList (ps.source step)) := by
  refine scannable_of_fits fun t ht => ?_
  rw [sections_source step h] at ht
  obtain ⟨⟨line, p⟩, hp, rfl⟩ := List.mem_map.1 ht
  cases p with
  | declared d =>
    have hd : d ∈ ps.document := List.mem_filterMap.2 ⟨_, snd_mem_of_mem_placed step hp, rfl⟩
    exact TopLevel.fits_block _ (Declaration.passage (h d hd) step)
  | stray s => rfl
  | foreign b =>
    exact TopLevel.fits_block _
      (passage_blockText b.labels b.word.isName (Clause.passage_inside b.clauses step 0))

theorem notices_declared (line : Nat) (d : Declaration) (ps : Mixture) :
    notices step line (.declared d :: ps) = notices step (d.endLine step line + 1) ps :=
  rfl

theorem warnings_declared (line : Nat) (d : Declaration) (ps : Mixture) :
    warnings step room line (.declared d :: ps) =
      d.warnings room line ++ warnings step room (d.endLine step line + 1) ps :=
  rfl

/-- Nothing but stray lines and foreign blocks is reported exactly where every block has room. -/
theorem warnings_eq_notices_iff (line : Nat) (ps : Mixture) :
    ps.warnings step room line = ps.notices step line ↔
      ∀ d ∈ ps.document, room.fits d.levels = true := by
  induction ps generalizing line with
  | nil => simp [document, warnings, notices, placed]
  | cons p ps ih =>
    cases p with
    | declared d =>
      have hdocument : document (.declared d :: ps) = d :: document ps := rfl
      rw [hdocument, List.forall_mem_cons, ← ih (d.endLine step line + 1), warnings_declared,
        notices_declared, Declaration.warnings]
      cases hfits : room.fits d.levels with
      | true => simp
      | false =>
        -- The block is reported as no stray line and no foreign block is.
        simp only [Bool.false_eq_true, if_false, false_and, iff_false]
        intro h
        have hmem := h ▸ List.mem_append_left _ (List.mem_singleton_self _)
        obtain ⟨q, -, hq⟩ := List.mem_filterMap.1 hmem
        exact Piece.notice?_ne_unreadable q.1 q.2 hq
    | stray s => exact (List.append_right_inj [_]).trans (ih _)
    | foreign b => exact (List.append_right_inj [_]).trans (ih _)

/-- **Nothing between the blocks of a document hides one of them.** With stray lines and foreign
blocks anywhere between its blocks, a document is read as it is without them, its blocks as much
further down as lines stand before them. Without bound on the room, one thing is reported of each
stray line and each foreign block, in order, and nothing else. With the usual room the same holds of
all that is read, and of the reports exactly where no block takes more levels than there are. -/
theorem load_interspersed (hdistinct : ∀ d ∈ ps.document, Clause.Distinct d.body)
    (h : ∀ d ∈ ps.document, ∀ c ∈ d.body, c.WellFormed) :
    parseWithin none (String.ofList (ps.source step)) =
      { (parseWithin none (String.ofList (ps.document.source step))).moved (ps.extraLines step 1)
        with warnings := ps.notices step 1 } ∧
    load (String.ofList (ps.document.source step)) =
      .ok (parse (String.ofList (ps.document.source step))) ∧
    load (String.ofList (ps.source step)) =
      .ok { (parse (String.ofList (ps.document.source step))).moved (ps.extraLines step 1)
        with warnings := ps.warnings step (some maxLevels) 1 } ∧
    (ps.warnings step (some maxLevels) 1 = ps.notices step 1 ↔
      ∀ d ∈ ps.document, d.levels ≤ maxLevels) := by
  have hquiet : ps.warnings step none 1 = ps.notices step 1 :=
    (warnings_eq_notices_iff step none 1 ps).2 fun _ _ => rfl
  refine ⟨?_, ?_, ?_, ?_⟩
  · rw [parseWithin_source step none hdistinct h, hquiet]
  · rw [load, Document.scannable_source step h]
    rfl
  · rw [load, scannable_source step h, parse, ← parseWithin_source step _ hdistinct h]
    rfl
  · rw [warnings_eq_notices_iff]
    simp [Room.fits]

/-- Before every block a line that opens more than it closes, and behind it a block of a word that
is not supported. -/
def sample : Mixture :=
  let brace : StrayLine :=
    ⟨[' '], '\x7d', " \"$\x7b <<EOF (".toList, List.forall_mem_singleton.2 rfl, by decide,
      by decide +kernel⟩
  let moved : ForeignBlock :=
    ⟨⟨'m', "oved".toList, by decide, List.all_eq_true.1 (by decide +kernel)⟩, [],
      [.assign ⟨'f', "rom".toList, by decide, List.all_eq_true.1 (by decide +kernel)⟩
        (.scalar .null)],
      by decide +kernel, List.forall_mem_singleton.2 (.assign _ (.scalar _))⟩
  Document.sample.flatMap fun d => [.stray brace, .declared d, .foreign moved]

theorem load_interspersed_sample :
    ((∀ d ∈ sample.document, Clause.Distinct d.body) ∧
      ∀ d ∈ sample.document, ∀ c ∈ d.body, c.WellFormed) ∧
    load (String.ofList (sample.source 2)) =
      .ok { (parse (String.ofList (Document.sample.source 2))).moved (sample.extraLines 2 1)
        with warnings := [.unexpectedCharacter '\x7d' 1, .unsupportedBlock "moved" 5,
          .unexpectedCharacter '\x7d' 8, .unsupportedBlock "moved" 23] } := by
  have hwell : sample.document.WellFormed := Document.wellFormed_sample
  obtain ⟨-, -, hload, hquiet⟩ := load_interspersed 2 hwell.distinct hwell.clauses
  refine ⟨⟨hwell.distinct, hwell.clauses⟩, ?_⟩
  rw [hload, hquiet.2 (by decide)]
  rfl

end Mixture

end Groundplan.Hcl
