import Groundplan.Proofs.Hcl.RoundTrip
import Groundplan.Proofs.Hcl.Suffix

/-!
# Where blocks stand

A reader gives every block the piece of the text that it was read from, with its lines. Whatever the
text is, these are the pieces between offsets that go up from block to block: no piece is given to
two blocks and none out of order. A block that is never closed is the last one.

## Main definitions

* `Section.CutFrom`: a block cut out of the start of a text
* `Layout`: what stands at the top level of a text, each section behind the one before
* `Counted`: a place of a text with the number of its line
* `Standing`: labelled blocks with their offsets

## Main results

* `readSection_cases`: a block is cut out whole, or its first line is passed over
* `layout_sectionsFrom`: the sections of a text stand one behind the other
* `labelled?_eq_some`: a labelled block is read from a section, and an open section is reported
* `blocks_standing`: **blocks stand where they say**
-/

namespace Groundplan.Hcl

open Text

/-! ## Counting lines -/

theorem lineFeeds_toLineEnd (cs : List Char) : lineFeeds (toLineEnd cs) = lineFeeds cs := by
  induction cs with
  | nil => rfl
  | cons c cs ih =>
    rw [toLineEnd, List.dropWhile_cons]
    split
    · rename_i h
      have hc : c ≠ '\n' := by simpa [inLine] using h
      rw [← toLineEnd, ih, lineFeeds, lineFeeds, List.count_cons_of_ne hc]
    · rfl

/-- The next line begins behind one line feed. -/
theorem lineFeeds_nextLine {cs : List Char} (h : nextLine cs ≠ []) :
    lineFeeds (nextLine cs) + 1 = lineFeeds cs := by
  rw [← lineFeeds_toLineEnd cs]
  rw [nextLine] at h ⊢
  cases hend : toLineEnd cs with
  | nil => simp [hend] at h
  | cons c rest =>
    -- The first character that is not in the line is the line feed.
    have hc : c = '\n' := by
      have := List.head?_dropWhile_not inLine cs
      rw [toLineEnd] at hend
      rw [hend] at this
      simpa [inLine] using this
    rw [hc]
    simp [lineFeeds]

theorem blockCommentLines_add (n : Nat) (cs : List Char) :
    blockCommentLines n cs + lineFeeds (afterBlockComment cs) = n + lineFeeds cs := by
  fun_induction blockCommentLines n cs with
  | case1 n rest => simp [afterBlockComment, lineFeeds]
  | case2 n c rest hopen ih =>
    have hnext : afterBlockComment (c :: rest) = afterBlockComment rest := by
      rw [afterBlockComment]
      exact hopen
    rw [hnext, ih, lineFeeds, lineFeeds, List.count_cons]
    split <;> simp_all [Nat.add_comm, Nat.add_left_comm]
  | case3 n => rfl

/-- The line feeds of a comment and those behind it are all that there are. -/
theorem commentLines_add {cs r : List Char} (h : afterComment? cs = some r) :
    commentLines cs + lineFeeds r = lineFeeds cs := by
  rw [afterComment?.eq_def] at h
  split at h
  · cases h
    rw [lineFeeds_toLineEnd]
    simp [commentLines, lineFeeds]
  · cases h
    rw [lineFeeds_toLineEnd]
    simp [commentLines, lineFeeds]
  · rename_i rest
    cases h
    rw [commentLines, blockCommentLines_add]
    simp [lineFeeds]
  · cases h

/-! ## Cutting out one block -/

/-- A block that is cut out of the start of a text: its text is what is read, it begins on the line
given and ends as many lines further as it has line feeds, its keyword comes first, and it ends with
a brace unless it takes up all that there is. -/
structure Section.CutFrom (s : Section) (line : Nat) (cs rest : List Char) : Prop where
  behind : Behind rest cs
  raw_eq : s.raw = consumed cs rest
  startLine_eq : s.startLine = line
  endLine_eq : s.endLine = line + lineFeeds s.raw
  keyword_isPrefix : s.keyword.toList <+: s.raw
  ends : if s.closed then s.raw.getLast? = some '\x7d' else rest = []

/-- **A block is cut out whole, or the line is passed over.** -/
theorem readSection_cases (line : Nat) (c : Char) (cs : List Char) :
    (∃ s rest, readSection line (c :: cs) = (.block s, rest) ∧ s.CutFrom line (c :: cs) rest) ∨
    ∃ keyword, readSection line (c :: cs) = (.headless keyword line, nextLine (c :: cs)) := by
  have hbehind := behind_readSection line c cs
  have hword := List.takeWhile_append_dropWhile (p := isNamePart) (l := c :: cs)
  generalize c :: cs = text at *
  rw [readSection] at hbehind ⊢
  dsimp only at hbehind ⊢
  split at hbehind
  · rename_i body hbody
    left
    have hbrace := body_suffix_of_skipBlank hbody
    split at hbehind
    · -- the block is closed: between the keyword and the closing brace is all of it
      rename_i rest hrest
      have hclose := (closer_suffix_of_closeBracket hrest).trans (suffix_of_cons_suffix hbrace)
      obtain ⟨inner, hinner⟩ := hclose
      have hraw : consumed text rest = text.takeWhile isNamePart ++ inner ++ ['\x7d'] := by
        have htext : text = (text.takeWhile isNamePart ++ inner ++ ['\x7d']) ++ rest := by
          rw [List.append_assoc, List.append_assoc, List.singleton_append, hinner, hword]
        conv_lhs => rw [htext]
        exact consumed_append _ rest
      refine ⟨_, _, rfl, hbehind, rfl, rfl, rfl, ?_, ?_⟩
      · simp only [hraw, String.toList_ofList, List.append_assoc]
        exact List.prefix_append _ _
      · simp [hraw]
    · -- the block is not closed, and takes up the rest of the text
      rename_i hrest
      refine ⟨_, _, rfl, hbehind, by simp [consumed], rfl, rfl, ?_, rfl⟩
      rw [String.toList_ofList]
      exact List.takeWhile_prefix _
  · right
    exact ⟨String.ofList (text.takeWhile isNamePart), rfl⟩

/-! ## Where sections stand -/

section Offsets

variable {text cs r : List Char}

/-- What is read between two later places of a text is what stands between their offsets. -/
theorem consumed_eq_between (hcs : cs <:+ text) (hr : r <:+ cs) :
    consumed cs r = (text.take (text.length - r.length)).drop (text.length - cs.length) := by
  obtain ⟨before, rfl⟩ := hcs
  obtain ⟨read, rfl⟩ := hr
  have hlength : (before ++ (read ++ r)).length - r.length = (before ++ read).length := by
    simp only [List.length_append]
    omega
  rw [hlength, ← List.append_assoc, List.take_left]
  simp [consumed]

theorem take_offset (hcs : cs <:+ text) : text.take (text.length - cs.length) ++ cs = text :=
  consumed_append_of_suffix hcs

end Offsets

/-- A section stands in a text from one offset up to another: its text and its lines are those of
this place. -/
structure Section.StandsAt (s : Section) (text : List Char) (start stop : Nat) : Prop where
  start_lt_stop : start < stop
  stop_le_length : stop ≤ text.length
  raw_eq : s.raw = (text.take stop).drop start
  startLine_eq : s.startLine = 1 + lineFeeds (text.take start)
  endLine_eq : s.endLine = s.startLine + lineFeeds s.raw
  keyword_isPrefix : s.keyword.toList <+: s.raw
  ends : if s.closed then s.raw.getLast? = some '\x7d' else stop = text.length

/-- The section at a place of the top level. -/
def TopLevel.section? : TopLevel → Option Section
  | .block s => some s
  | _ => none

/-- What stands at the top level of a text from an offset on: each section behind the one before. -/
inductive Layout (text : List Char) : Nat → List TopLevel → Prop
  | nil (n : Nat) : Layout text n []
  | other {n : Nat} {t : TopLevel} {ts : List TopLevel} (ht : t.section? = none)
      (hts : Layout text n ts) : Layout text n (t :: ts)
  | block {n start stop : Nat} {s : Section} {ts : List TopLevel} (hn : n ≤ start)
      (hs : s.StandsAt text start stop) (hts : Layout text stop ts) :
      Layout text n (.block s :: ts)

theorem Layout.mono {text : List Char} {m n : Nat} {ts : List TopLevel} (h : Layout text n ts)
    (hmn : m ≤ n) : Layout text m ts := by
  induction h with
  | nil => exact .nil m
  | other ht _ ih => exact .other ht (ih hmn)
  | block hn hs hts _ => exact .block (Nat.le_trans hmn hn) hs hts

/-- A place of a text with the number of its line: the lines up to it and those from it on are all
lines of the text. Nothing is asked of the number at the very end. -/
structure Counted (text : List Char) (line : Nat) (cs : List Char) : Prop where
  suffix : cs <:+ text
  lines : cs ≠ [] → line + lineFeeds cs = 1 + lineFeeds text

namespace Counted

variable {text : List Char} {line : Nat} {c : Char} {cs rest : List Char}

theorem line_eq (h : Counted text line (c :: cs)) :
    line = 1 + lineFeeds (text.take (text.length - (c :: cs).length)) := by
  have hall := h.lines (List.cons_ne_nil c cs)
  have hsplit := congrArg lineFeeds (take_offset h.suffix)
  rw [lineFeeds_append] at hsplit
  omega

/-- The next line is counted by one. -/
theorem nextLine (h : Counted text line (c :: cs)) :
    Counted text (line + 1) (Hcl.nextLine (c :: cs)) := by
  refine ⟨(nextLine_suffix _).trans h.suffix, fun hne => ?_⟩
  have hall := h.lines (List.cons_ne_nil c cs)
  have hnext := lineFeeds_nextLine hne
  omega

/-- A block is counted by its line feeds. -/
theorem block (h : Counted text line (c :: cs)) {s : Section} (hs : s.CutFrom line (c :: cs) rest) :
    Counted text s.endLine rest := by
  refine ⟨hs.behind.1.trans h.suffix, fun _ => ?_⟩
  have hall := h.lines (List.cons_ne_nil c cs)
  have hsplit := congrArg lineFeeds (consumed_append_of_suffix hs.behind.1)
  rw [lineFeeds_append, ← hs.raw_eq] at hsplit
  rw [hs.endLine_eq]
  omega

/-- A block that is cut out of a place of a text stands there. -/
theorem standsAt (h : Counted text line (c :: cs)) {s : Section}
    (hs : s.CutFrom line (c :: cs) rest) :
    s.StandsAt text (text.length - (c :: cs).length) (text.length - rest.length) := by
  have hcs := h.suffix.length_le
  have hrest := hs.behind.2
  refine ⟨by omega, Nat.sub_le _ _, ?_, ?_, ?_, hs.keyword_isPrefix, ?_⟩
  · rw [hs.raw_eq, consumed_eq_between h.suffix hs.behind.1]
  · rw [hs.startLine_eq, h.line_eq]
  · rw [hs.endLine_eq, hs.startLine_eq]
  · have hends := hs.ends
    split at hends
    · rwa [if_pos ‹_›]
    · rw [if_neg ‹_›, hends]
      rfl

end Counted

/-- **The sections of a text stand one behind the other**, from wherever they are looked for. -/
theorem layout_sectionsFrom {text cs : List Char} {line : Nat} (h : Counted text line cs)
    (done : List TopLevel) :
    ∃ ts, sectionsFrom line done cs = done.reverse ++ ts ∧
      Layout text (text.length - cs.length) ts := by
  have sooner {cs rest : List Char} {ts : List TopLevel} (hle : rest.length ≤ cs.length)
      (hts : Layout text (text.length - rest.length) ts) :
      Layout text (text.length - cs.length) ts :=
    hts.mono (by omega)
  -- One case for each thing that can stand next; the rest is counted from behind it.
  fun_induction sectionsFrom line done cs with
  | case1 line done => exact ⟨[], by simp, .nil _⟩
  | case2 line done c rest hblank ih =>
    have hall := h.lines (List.cons_ne_nil c rest)
    have hrest : Counted text (line + lineFeeds [c]) rest := by
      refine ⟨suffix_of_cons_suffix h.suffix, fun _ => ?_⟩
      rw [← List.singleton_append, lineFeeds_append] at hall
      omega
    obtain ⟨ts, heq, hts⟩ := ih hrest
    exact ⟨ts, heq, sooner (Nat.le_succ _) hts⟩
  | case3 line done c rest hblank r hr ih =>
    have hall := h.lines (List.cons_ne_nil c rest)
    have hlines := commentLines_add hr
    have hbehind := behind_of_afterComment? hr
    have hrest : Counted text (line + commentLines (c :: rest)) r :=
      ⟨hbehind.1.trans h.suffix, fun _ => by omega⟩
    obtain ⟨ts, heq, hts⟩ := ih hrest
    exact ⟨ts, heq, sooner hbehind.1.length_le hts⟩
  | case4 line done c rest hblank hcomment hstart ih =>
    rcases readSection_cases line c rest with ⟨s, r, hread, hs⟩ | ⟨keyword, hread⟩
    · rw [hread] at ih ⊢
      obtain ⟨ts, heq, hts⟩ := ih (h.block hs)
      refine ⟨.block s :: ts, ?_, .block (Nat.le_refl _) (h.standsAt hs) hts⟩
      rw [heq]
      simp
    · rw [hread] at ih ⊢
      obtain ⟨ts, heq, hts⟩ := ih h.nextLine
      refine ⟨.headless keyword line :: ts, ?_,
        .other rfl (sooner (nextLine_suffix _).length_le hts)⟩
      rw [heq]
      simp
  | case5 line done c rest hblank hcomment hstart ih =>
    obtain ⟨ts, heq, hts⟩ := ih h.nextLine
    refine ⟨.junk c line :: ts, ?_, .other rfl (sooner (nextLine_suffix _).length_le hts)⟩
    rw [heq]
    simp

theorem layout_sections (text : List Char) : Layout text 0 (sections text) := by
  have hstart : Counted text 1 text := ⟨List.suffix_rfl, fun _ => rfl⟩
  obtain ⟨ts, heq, hts⟩ := layout_sectionsFrom hstart []
  rw [sections, heq]
  simpa using hts

/-! ## Labelled blocks -/

/-- The labelled block that a part is. -/
def Part.labelled? : Part → Option Block
  | .block b => some b
  | .provider _ b => some b
  | _ => none

theorem Part.block?_eq (kind : BlockKind) (p : Part) :
    p.block? kind = p.labelled?.filter (·.kind = kind) := by
  cases p <;> simp [Part.block?, Part.labelled?, Option.filter]

/-- The labelled block that is read at a place of the top level. -/
def TopLevel.labelled? (room : Room) (t : TopLevel) : Option Block :=
  (t.read room).part.bind Part.labelled?

theorem Keyword.word_of_ofWord? {word : String} {k : Keyword} (h : Keyword.ofWord? word = some k) :
    k.word = word := by
  rw [Keyword.ofWord?] at h
  repeat' split at h
  all_goals cases h
  all_goals exact (eq_of_beq ‹_›).symm

/-- A block is the part of its section, of a kind with the same word. -/
structure Block.IsOf (b : Block) (s : Section) : Prop where
  word_kind : b.kind.word = s.keyword
  startLine_eq : b.startLine = s.startLine
  endLine_eq : b.endLine = s.endLine
  raw_eq : b.raw = String.ofList s.raw

theorem Section.isOf_part {s : Section} {keyword : Keyword} (hword : keyword.word = s.keyword)
    {properties : Properties} {b : Block}
    (h : (s.part keyword properties).part.bind Part.labelled? = some b) : b.IsOf s := by
  simp only [Section.part] at h
  -- One case for each keyword with enough labels or with too few of them.
  split at h
  all_goals cases h
  all_goals exact ⟨hword, rfl, rfl, rfl⟩

/-- **A labelled block is read from a section**, which is reported if it is not closed. -/
theorem labelled?_eq_some {room : Room} {t : TopLevel} {b : Block}
    (h : t.labelled? room = some b) :
    ∃ s, t = .block s ∧ b.IsOf s ∧
      (s.closed = false → .unbalancedBlock s.keyword s.startLine ∈ (t.read room).warnings) := by
  rw [TopLevel.labelled?] at h
  cases t with
  | junk c line => cases h
  | headless keyword line => cases h
  | block s =>
    refine ⟨s, rfl, ?_, ?_⟩
    · rw [TopLevel.read, Section.read] at h
      dsimp only at h
      split at h
      · cases h
      · rename_i keyword hkeyword
        split at h <;> exact Section.isOf_part (Keyword.word_of_ofWord? hkeyword) h
    · intro hopen
      rw [TopLevel.read, Section.read]
      dsimp only
      split
      · simp [hopen]
      · split <;> simp [hopen]

/-! ## Positions -/

/-- A labelled block with the part of a text in which it stands: from one offset up to another. -/
structure Placed where
  start : Nat
  stop : Nat
  block : Block

/-- The text and the lines of a block are those of the place where it stands, which begins with the
word of its kind. -/
structure Placed.Exact (p : Placed) (text : List Char) : Prop where
  start_lt_stop : p.start < p.stop
  stop_le_length : p.stop ≤ text.length
  raw_eq : p.block.raw.toList = (text.take p.stop).drop p.start
  startLine_eq : p.block.startLine = 1 + lineFeeds (text.take p.start)
  endLine_eq : p.block.endLine = p.block.startLine + lineFeeds p.block.raw.toList
  word_isPrefix : p.block.kind.word.toList <+: p.block.raw.toList

/-- Blocks stand in a text, one behind the other. Each ends with a brace; only the last one may run
to the end of the text instead, and then there is a warning. -/
structure Standing (text : List Char) (warnings : List Warning) (ps : List Placed) : Prop where
  isExact : ∀ p ∈ ps, p.Exact text
  ordered : ps.Pairwise fun p q => p.stop ≤ q.start
  ends : ∀ p ∈ ps, p.block.raw.toList.getLast? = some '\x7d' ∨
    (ps.getLast? = some p ∧ p.stop = text.length ∧
      Warning.unbalancedBlock p.block.kind.word p.block.startLine ∈ warnings)

theorem Section.StandsAt.isExact {s : Section} {text : List Char} {start stop : Nat}
    (h : s.StandsAt text start stop) {b : Block} (hb : b.IsOf s) :
    Placed.Exact ⟨start, stop, b⟩ text where
  start_lt_stop := h.start_lt_stop
  stop_le_length := h.stop_le_length
  raw_eq := by rw [hb.raw_eq, String.toList_ofList, h.raw_eq]
  startLine_eq := by rw [hb.startLine_eq, h.startLine_eq]
  endLine_eq := by
    rw [hb.endLine_eq, hb.startLine_eq, hb.raw_eq, String.toList_ofList, h.endLine_eq]
  word_isPrefix := by
    rw [hb.raw_eq, hb.word_kind, String.toList_ofList]
    exact h.keyword_isPrefix

theorem Standing.mono {text : List Char} {ws ws' : List Warning} {ps : List Placed}
    (h : Standing text ws ps) (hws : ∀ w ∈ ws, w ∈ ws') : Standing text ws' ps :=
  ⟨h.isExact, h.ordered, fun p hp =>
    (h.ends p hp).imp_right fun ⟨hlast, hstop, hw⟩ => ⟨hlast, hstop, hws _ hw⟩⟩

/-- A block may stand before others. If it is not closed, there are no others. -/
theorem Standing.cons {text : List Char} {ws : List Warning} {ps : List Placed}
    (h : Standing text ws ps) {p : Placed} (hp : p.Exact text)
    (hbefore : ∀ q ∈ ps, p.stop ≤ q.start)
    (hends : p.block.raw.toList.getLast? = some '\x7d' ∨ (p.stop = text.length ∧
      Warning.unbalancedBlock p.block.kind.word p.block.startLine ∈ ws)) :
    Standing text ws (p :: ps) := by
  refine ⟨List.forall_mem_cons.2 ⟨hp, h.isExact⟩, List.pairwise_cons.2 ⟨hbefore, h.ordered⟩, ?_⟩
  refine List.forall_mem_cons.2 ⟨?_, fun q hq => ?_⟩
  · refine hends.imp_right fun ⟨hstop, hw⟩ => ⟨?_, hstop, hw⟩
    cases ps with
    | nil => rfl
    | cons q ps =>
      -- a further block would begin behind the end of the text
      have hq := h.isExact q List.mem_cons_self
      have := hbefore q List.mem_cons_self
      have := hq.start_lt_stop
      have := hq.stop_le_length
      omega
  · refine (h.ends q hq).imp_right fun ⟨hlast, hstop, hw⟩ => ⟨?_, hstop, hw⟩
    rw [List.getLast?_cons, hlast]
    rfl

/-- The labelled blocks of a layout stand in the text. -/
theorem Layout.exists_standing {text : List Char} {n : Nat} {ts : List TopLevel}
    (h : Layout text n ts) (room : Room) :
    ∃ ps : List Placed, ps.map (·.block) = ts.filterMap (TopLevel.labelled? room) ∧
      (∀ p ∈ ps, n ≤ p.start) ∧
      Standing text (ts.flatMap fun t => (t.read room).warnings) ps := by
  -- What stands behind a section is placed already; of sections only labelled blocks are placed.
  induction h with
  | nil n => exact ⟨[], rfl, by simp, by simp, .nil, by simp⟩
  | @other n t ts ht _ ih =>
    obtain ⟨ps, hps, hfrom, hstand⟩ := ih
    have hnone : t.labelled? room = none := by
      cases t with
      | block s => cases ht
      | junk c line => rfl
      | headless keyword line => rfl
    refine ⟨ps, ?_, hfrom, hstand.mono fun w hw => List.mem_append_right _ hw⟩
    rw [hps, List.filterMap_cons_none hnone]
  | @block n start stop s ts hn hs _ ih =>
    obtain ⟨ps, hps, hfrom, hstand⟩ := ih
    have hstand' : Standing text
        ((TopLevel.block s :: ts).flatMap fun t => (t.read room).warnings) ps :=
      hstand.mono fun w hw => List.mem_append_right _ hw
    have hlater : ∀ p ∈ ps, n ≤ p.start := fun p hp =>
      Nat.le_trans hn (Nat.le_trans (Nat.le_of_lt hs.start_lt_stop) (hfrom p hp))
    cases hb : (TopLevel.block s).labelled? room with
    | none =>
      refine ⟨ps, ?_, hlater, hstand'⟩
      rw [hps, List.filterMap_cons_none hb]
    | some b =>
      obtain ⟨s', heq, hof, hopen⟩ := labelled?_eq_some hb
      cases heq
      refine ⟨⟨start, stop, b⟩ :: ps, ?_, List.forall_mem_cons.2 ⟨hn, hlater⟩,
        hstand'.cons (hs.isExact hof) hfrom ?_⟩
      · rw [List.filterMap_cons_some hb, List.map_cons, hps]
      · have hends := hs.ends
        split at hends
        · left
          rw [hof.raw_eq, String.toList_ofList, hends]
        · rename_i hclosed
          right
          refine ⟨hends, List.mem_append_left _ ?_⟩
          rw [hof.word_kind, hof.startLine_eq]
          exact hopen (by simpa using hclosed)

/-- The blocks of a configuration that are of a kind. -/
def Configuration.ofKind (c : Configuration) : BlockKind → List Block
  | .resource => c.resources
  | .data => c.dataSources
  | .module => c.modules
  | .provider => c.providerBlocks

theorem ofKind_ofParts (parts : List Part) (warnings : List Warning) (kind : BlockKind) :
    (Configuration.ofParts parts warnings).ofKind kind =
      (parts.filterMap Part.labelled?).filter (·.kind = kind) := by
  rw [List.filter_filterMap]
  have hall : (Configuration.ofParts parts warnings).ofKind kind =
      parts.filterMap (Part.block? kind) := by
    cases kind <;> rfl
  rw [hall]
  congr 1
  funext p
  exact p.block?_eq kind

theorem labelled_blocks_of_outcomes (room : Room) (cs : List Char) :
    ((outcomes room cs).filterMap Outcome.part).filterMap Part.labelled? =
      (sections cs).filterMap (TopLevel.labelled? room) := by
  rw [List.filterMap_filterMap, outcomes, List.filterMap_map]
  rfl

/-- **Blocks stand where they say**, in every text and in any room. The labelled blocks of a text
can be given offsets such that each begins where or after the one before ends; their texts and lines
are those between their offsets; each begins with the word of its kind and ends with a brace, but
for a last one that may run to the end of the text with a warning. The blocks of each kind are
listed in this order, and no provider is named twice. -/
theorem blocks_standing (room : Room) (text : String) :
    ∃ ps : List Placed,
      Standing text.toList (parseWithin room text).warnings ps ∧
      (∀ kind, (parseWithin room text).ofKind kind =
        (ps.map (·.block)).filter (·.kind = kind)) ∧
      (parseWithin room text).providers.Nodup := by
  obtain ⟨ps, hps, -, hstand⟩ := (layout_sections text.toList).exists_standing room
  refine ⟨ps, ?_, fun kind => ?_, ?_⟩
  · have hwarnings : (parseWithin room text).warnings =
        (sections text.toList).flatMap fun t => (t.read room).warnings := by
      show (outcomes room text.toList).flatMap Outcome.warnings = _
      rw [outcomes, List.flatMap_map]
    rw [hwarnings]
    exact hstand
  · rw [parseWithin, ofKind_ofParts, labelled_blocks_of_outcomes, hps]
  · show List.Nodup (List.foldl addName [] _)
    rw [foldl_addName]
    exact nodup_eraseDups _

end Groundplan.Hcl
