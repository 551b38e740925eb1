import Groundplan.Proofs.Patch.Reading

/-!
# Patches as texts

A patch is written as one text, its lines one behind the other with the line breaks that they have
in the texts they come from. Whoever reads it cuts it at line feeds. That gives the same lines only
where line feeds end the lines of both texts, and where no line without one stands before another
line of the patch: the last line of the old text, if lines of the new text are put in its place.

## Main definitions

* `cutLines`: a text cut at line feeds
* `applyPatch?`: **what a patch makes of a text**
* `HasFeed`, `EndsInFeeds`: line feeds at the ends of lines, the last line apart
* `Joins`: lines that cutting at line feeds does not tell apart

## Main results

* `cutLines_flatten`: lines that end in line feeds are found again
* `lines_of_shown`: which line of a patch can be without a line feed
* `applyPatch?_unified`: what a patch makes of the old text, when its lines end in line feeds
* `unified_correct`: **patches are right** as far as their lines can be told apart
-/

namespace Groundplan.Patch

open Text

/-! ## Cutting at line feeds -/

/-- The lines of a text, cut at line feeds only, each with its line feed. -/
def cutLines : List Char → List Line
  | [] => []
  | c :: cs =>
    if c = '\n' then [c] :: cutLines cs
    else
      match cutLines cs with
      | [] => [[c]]
      | l :: ls => (c :: l) :: ls

/-- A line feed ends the line. -/
def HasFeed (line : Line) : Prop :=
  line.getLast? = some '\n'

instance : DecidablePred HasFeed := fun line =>
  inferInstanceAs (Decidable (line.getLast? = some '\n'))

/-- A line with something in it and no line feed before its end. -/
def IsLine (line : Line) : Prop :=
  line ≠ [] ∧ '\n' ∉ line.dropLast

section Cutting

variable {line : Line} {ls : List Line} {cs : List Char}

theorem HasFeed.eq_concat (h : HasFeed line) : line = line.dropLast ++ ['\n'] :=
  (List.dropLast_append_getLast? '\n' h).symm

theorem IsLine.notMem (h : IsLine line) (hfeed : ¬ HasFeed line) : '\n' ∉ line := by
  rcases List.eq_nil_or_concat line with rfl | ⟨b, c, rfl⟩
  · exact List.not_mem_nil
  · rw [List.concat_eq_append] at *
    have hb : '\n' ∉ b := by simpa using h.2
    have hc : c ≠ '\n' := by simpa [HasFeed] using hfeed
    simp [hb, hc.symm]

theorem cutLines_append_cons (h : '\n' ∉ line) {l : Line} (hcut : cutLines cs = l :: ls) :
    cutLines (line ++ cs) = (line ++ l) :: ls := by
  induction line with
  | nil => exact hcut
  | cons c line ih =>
    obtain ⟨hc, hline⟩ : '\n' ≠ c ∧ '\n' ∉ line := by simpa using h
    rw [List.cons_append, cutLines, if_neg hc.symm, ih hline]
    rfl

theorem cutLines_of_notMem (h : '\n' ∉ line) (hne : line ≠ []) : cutLines line = [line] := by
  induction line with
  | nil => exact absurd rfl hne
  | cons c line ih =>
    obtain ⟨hc, hline⟩ : '\n' ≠ c ∧ '\n' ∉ line := by simpa using h
    rw [cutLines, if_neg hc.symm]
    cases line with
    | nil => rfl
    | cons d line => rw [ih hline (by simp)]

/-- A line with its line feed is cut off. -/
theorem cutLines_append (h : IsLine line) (hfeed : HasFeed line) (cs : List Char) :
    cutLines (line ++ cs) = line :: cutLines cs := by
  have hfirst : cutLines ('\n' :: cs) = ['\n'] :: cutLines cs := by rw [cutLines, if_pos rfl]
  rw [hfeed.eq_concat, List.append_assoc]
  exact cutLines_append_cons h.2 hfirst

theorem cutLines_flatten_append (hline : ∀ l ∈ ls, IsLine l) (hfeed : ∀ l ∈ ls, HasFeed l)
    (cs : List Char) : cutLines (ls.flatten ++ cs) = ls ++ cutLines cs := by
  induction ls with
  | nil => rfl
  | cons l ls ih =>
    rw [List.forall_mem_cons] at hline hfeed
    rw [List.flatten_cons, List.append_assoc, cutLines_append hline.1 hfeed.1, ih hline.2 hfeed.2,
      List.cons_append]

/-- **Lines that end in line feeds are found again**; the last may lack one. -/
theorem cutLines_flatten (hline : ∀ l ∈ ls, IsLine l) (hfeed : ∀ l ∈ ls.dropLast, HasFeed l) :
    cutLines ls.flatten = ls := by
  rcases List.eq_nil_or_concat ls with rfl | ⟨ls, l, rfl⟩
  · rfl
  · rw [List.concat_eq_append] at *
    rw [List.dropLast_concat] at hfeed
    have hl : IsLine l := hline l (by simp)
    have hlast : cutLines l = [l] := by
      by_cases hend : HasFeed l
      · have hcut := cutLines_append hl hend []
        rwa [List.append_nil] at hcut
      · exact cutLines_of_notMem (hl.notMem hend) hl.1
    rw [List.flatten_append, List.flatten_singleton,
      cutLines_flatten_append (fun l' hl' => hline l' (by simp [hl'])) hfeed, hlast]

/-! ## The lines of a text -/

theorem isLine_of_mem_rawLinesFrom {done : List (List Char)} {acc : List Char}
    (hdone : ∀ l ∈ done, IsLine l) (hacc : '\n' ∉ acc) :
    ∀ l ∈ rawLinesFrom done acc cs, IsLine l := by
  fun_induction rawLinesFrom done acc cs with
  | case1 done acc =>
    intro l hl
    rcases acc with _ | ⟨c, acc⟩
    · exact hdone l (by simpa using hl)
    · rcases (by simpa using hl : l ∈ done ∨ l = acc.reverse ++ [c]) with hl | rfl
      · exact hdone l hl
      · refine ⟨by simp, ?_⟩
        rw [List.dropLast_concat, List.mem_reverse]
        exact fun hmem => hacc (List.mem_cons_of_mem c hmem)
  | case2 done acc rest ih =>
    refine ih (List.forall_mem_cons.mpr ⟨⟨by simp, ?_⟩, hdone⟩) List.not_mem_nil
    rw [List.reverse_cons, List.dropLast_concat]
    simpa using hacc
  | case3 done acc c rest hcr hc ih =>
    refine ih (List.forall_mem_cons.mpr ⟨⟨by simp, ?_⟩, hdone⟩) List.not_mem_nil
    rw [List.reverse_cons, List.dropLast_concat]
    simpa using hacc
  | case4 done acc c rest hcr hc ih =>
    refine ih hdone ?_
    have hne : c ≠ '\n' := by
      rintro rfl
      exact hc (by decide)
    simp [hne.symm, hacc]

theorem isLine_of_mem_rawLines (h : line ∈ rawLines cs) : IsLine line :=
  isLine_of_mem_rawLinesFrom (fun _ hl => absurd hl List.not_mem_nil) List.not_mem_nil line h

end Cutting

/-! ## The lines of a patch -/

/-- What a patch makes of a text: both are cut at line feeds. -/
def applyPatch? (patch old : String) : Option String :=
  (applyLines? (cutLines patch.toList) (cutLines old.toList)).map fun ls =>
    String.ofList ls.flatten

/-- Line feeds end the lines of a text, all but the last. A carriage return may stand before them;
no other line break counts. -/
def EndsInFeeds (ls : List Line) : Prop :=
  ∀ l ∈ ls.dropLast, HasFeed l

instance (ls : List Line) : Decidable (EndsInFeeds ls) :=
  inferInstanceAs (Decidable (∀ l ∈ ls.dropLast, HasFeed l))

/-- The lines of a text that line feeds end. -/
structure Fed (ls : List Line) : Prop where
  lines : ∀ l ∈ ls, IsLine l
  feeds : EndsInFeeds ls

theorem EndsInFeeds.append {ls ls' : List Line} (h : ∀ l ∈ ls, HasFeed l) (h' : EndsInFeeds ls') :
    EndsInFeeds (ls ++ ls') := by
  intro l hl
  rcases eq_or_ne ls' [] with rfl | hne
  · rw [List.append_nil] at hl
    exact h l (List.dropLast_subset _ hl)
  · rw [List.dropLast_append_of_ne_nil hne] at hl
    rcases List.mem_append.mp hl with hl | hl
    · exact h l hl
    · exact h' l hl

/-- If the text as a whole ends in a line feed, so does its last line. -/
theorem hasFeed_of_mem_rawLines {cs : List Char} (hfeeds : EndsInFeeds (rawLines cs))
    (hend : cs = [] ∨ HasFeed cs) : ∀ l ∈ rawLines cs, HasFeed l := by
  have hflatten := flatten_rawLines cs
  rcases List.eq_nil_or_concat (rawLines cs) with hnil | ⟨ls, l, hconcat⟩
  · rw [hnil]
    exact fun _ hl => absurd hl List.not_mem_nil
  · rw [List.concat_eq_append] at hconcat
    have hmem : l ∈ rawLines cs := by
      rw [hconcat]
      simp
    have hl : l ≠ [] := (isLine_of_mem_rawLines hmem).1
    rw [EndsInFeeds, hconcat, List.dropLast_concat] at hfeeds
    rw [hconcat, List.flatten_append, List.flatten_singleton] at hflatten
    -- The text ends as its last line does.
    have hlast : HasFeed l := by
      rcases hend with rfl | hend
      · exact absurd (List.append_eq_nil_iff.mp hflatten).2 hl
      · rwa [← hflatten, HasFeed, List.getLast?_append_of_ne_nil _ hl] at hend
    rw [hconcat]
    intro l' hl'
    rcases List.mem_append.mp hl' with hl' | hl'
    · exact hfeeds l' hl'
    · rwa [List.mem_singleton.mp hl']

section Lines

variable {old new ls : List Line} {i j m n a b : Nat} {e e' : Edit} {es : List Edit}
  {line : Line} {mark : Char}

theorem mem_slice (h : line ∈ slice ls a b) : ∃ x, x < b ∧ ls[x]? = some line := by
  obtain ⟨x, hx⟩ := List.mem_iff_getElem?.mp h
  rw [slice, List.getElem?_take, List.getElem?_drop] at hx
  split at hx
  · exact ⟨a + x, by omega, hx⟩
  · cases hx

theorem mem_of_mem_slice (h : line ∈ slice ls a b) : line ∈ ls := by
  obtain ⟨_, -, hline⟩ := mem_slice h
  exact List.mem_of_getElem? hline

/-- Lines before the last end in line feeds. -/
theorem EndsInFeeds.of_mem_slice (hfeeds : EndsInFeeds ls) (hb : b < ls.length)
    (h : line ∈ slice ls a b) : HasFeed line := by
  obtain ⟨x, hx, hline⟩ := mem_slice h
  refine hfeeds line (List.mem_iff_getElem?.mpr ⟨x, ?_⟩)
  rw [List.getElem?_dropLast, if_pos (by omega), hline]

/-- A range of lines ends in line feeds as the whole does. -/
theorem EndsInFeeds.slice (hfeeds : EndsInFeeds ls) (hb : b ≤ ls.length) :
    EndsInFeeds (slice ls a b) := by
  intro l hl
  rw [List.dropLast_eq_take, length_slice hb] at hl
  by_cases hab : a < b
  · rw [take_slice (by omega)] at hl
    exact hfeeds.of_mem_slice (by omega) hl
  · rw [Nat.sub_eq_zero_of_le (by omega), List.take_zero] at hl
    cases hl

/-! ## Marked lines -/

theorem IsLine.cons (h : IsLine line) (hmark : mark ≠ '\n') : IsLine (mark :: line) := by
  refine ⟨by simp, ?_⟩
  rw [List.dropLast_cons_of_ne_nil h.1]
  simp [hmark.symm, h.2]

theorem hasFeed_cons_iff (h : IsLine line) : HasFeed (mark :: line) ↔ HasFeed line := by
  rw [HasFeed, HasFeed, List.getLast?_cons_of_ne_nil h.1]

theorem hasFeed_of_mem_map (hline : ∀ l ∈ ls, IsLine l) (hfeed : ∀ l ∈ ls, HasFeed l) :
    ∀ l ∈ ls.map (mark :: ·), HasFeed l := by
  intro l hl
  obtain ⟨l, hmem, rfl⟩ := List.mem_map.mp hl
  exact (hasFeed_cons_iff (hline l hmem)).mpr (hfeed l hmem)

theorem EndsInFeeds.map (hline : ∀ l ∈ ls, IsLine l) (h : EndsInFeeds ls) :
    EndsInFeeds (ls.map (mark :: ·)) := by
  rw [EndsInFeeds, ← List.map_dropLast]
  exact hasFeed_of_mem_map (fun l hl => hline l (List.dropLast_subset _ hl)) h

theorem header_eq_concat (h : Hunk) : ∃ cs, Hunk.header h = cs ++ ['\n'] ∧ '\n' ∉ cs := by
  have hrange (a b : Nat) : '\n' ∉ (rangeText a b).toList :=
    notMem_rangeText (by decide) (by decide) a b
  refine ⟨('@' :: '@' :: ' ' :: '-' :: (rangeText ((h.head?.map Edit.oldFrom).getD 0)
    ((h.getLast?.map Edit.oldTo).getD 0)).toList) ++ (' ' :: '+' ::
      (rangeText ((h.head?.map Edit.newFrom).getD 0)
        ((h.getLast?.map Edit.newTo).getD 0)).toList) ++ [' ', '@', '@'], ?_, ?_⟩
  · simp [Hunk.header]
  · simp [hrange]

theorem hasFeed_header (h : Hunk) : HasFeed (Hunk.header h) := by
  obtain ⟨cs, heq, -⟩ := header_eq_concat h
  rw [HasFeed, heq, List.getLast?_concat]

theorem isLine_header (h : Hunk) : IsLine (Hunk.header h) := by
  obtain ⟨cs, heq, hcs⟩ := header_eq_concat h
  rw [IsLine, heq, List.dropLast_concat]
  exact ⟨by simp, hcs⟩

/-- The lines of a step are lines, if those of the texts are. -/
theorem isLine_of_mem_lines (hold : ∀ l ∈ old, IsLine l) (hnew : ∀ l ∈ new, IsLine l)
    (h : line ∈ e.lines old new) : IsLine line := by
  have hmarked {ls : List Line} (hls : ∀ l ∈ ls, IsLine l) {mark : Char} (hmark : mark ≠ '\n')
      {x y : Nat} (hmem : line ∈ (slice ls x y).map (mark :: ·)) : IsLine line := by
    obtain ⟨l, hl, rfl⟩ := List.mem_map.mp hmem
    exact (hls l (mem_of_mem_slice hl)).cons hmark
  rw [Edit.lines] at h
  split at h
  · exact hmarked hold (by decide) h
  · rcases List.mem_append.mp h with h | h
    · exact hmarked hold (by decide) h
    · exact hmarked hnew (by decide) h

/-- The lines of a patch are lines. -/
theorem isLine_of_mem_hunks (hold : ∀ l ∈ old, IsLine l) (hnew : ∀ l ∈ new, IsLine l)
    {hs : List Hunk} (h : line ∈ hs.flatMap (Hunk.lines old new)) : IsLine line := by
  obtain ⟨k, -, hk⟩ := List.mem_flatMap.mp h
  rcases List.mem_cons.mp hk with rfl | hk
  · exact isLine_header k
  · obtain ⟨e, -, he⟩ := List.mem_flatMap.mp hk
    exact isLine_of_mem_lines hold hnew he

/-! ## Where a line feed can be missing -/

/-- A step that keeps lines before the end of one of the texts has line feeds. -/
theorem hasFeed_of_same (hold : Fed old) (hnew : Fed new) (fits : e.Fits old new) (hsame : e.same)
    (h : e.oldTo < old.length ∨ e.newTo < new.length) : ∀ l ∈ e.lines old new, HasFeed l := by
  rw [Edit.lines, if_pos hsame]
  refine hasFeed_of_mem_map (fun l hl => hold.lines l (mem_of_mem_slice hl)) fun l hl => ?_
  rcases h with h | h
  · exact hold.feeds.of_mem_slice h hl
  · rw [fits.same_lines hsame] at hl
    exact hnew.feeds.of_mem_slice h hl

/-- So has any step before the ends of both. -/
theorem hasFeed_of_inside (hold : Fed old) (hnew : Fed new) (h : e.oldTo < old.length)
    (h' : e.newTo < new.length) : ∀ l ∈ e.lines old new, HasFeed l := by
  have hremoved {mark : Char} :
      ∀ l ∈ (slice old e.oldFrom e.oldTo).map (mark :: ·), HasFeed l :=
    hasFeed_of_mem_map (fun l hl => hold.lines l (mem_of_mem_slice hl))
      fun l hl => hold.feeds.of_mem_slice h hl
  have hadded : ∀ l ∈ (slice new e.newFrom e.newTo).map ('+' :: ·), HasFeed l :=
    hasFeed_of_mem_map (fun l hl => hnew.lines l (mem_of_mem_slice hl))
      fun l hl => hnew.feeds.of_mem_slice h' hl
  rw [Edit.lines]
  split
  · exact hremoved
  · exact List.forall_mem_append.mpr ⟨hremoved, hadded⟩

/-- Steps before the last have line feeds: behind a change stand lines of both texts, behind lines
that are kept those of one. -/
theorem hasFeed_of_leads (hold : Fed old) (hnew : Fed new)
    (h : Leads old new i j (es ++ [e]) m n) (hchain : (es ++ [e]).IsChain Follows) :
    ∀ l ∈ es.flatMap (Edit.lines old new), HasFeed l := by
  induction es generalizing i j with
  | nil => exact fun _ hl => absurd hl List.not_mem_nil
  | cons x es ih =>
    rw [List.cons_append] at h hchain
    obtain ⟨hx, -, -, hlater⟩ := Leads.cons_iff.mp h
    obtain ⟨hfollows, hchain⟩ := List.isChain_cons.mp hchain
    rw [List.flatMap_cons]
    refine List.forall_mem_append.mpr ⟨?_, ih hlater hchain⟩
    -- The step behind this one tells how far this one can reach.
    obtain ⟨y, rest, hnext⟩ : ∃ y rest, es ++ [e] = y :: rest :=
      List.exists_cons_of_ne_nil (by simp)
    rw [hnext] at hfollows hlater
    have hy := hfollows y rfl
    obtain ⟨fits, hfrom, hfrom', -⟩ := Leads.cons_iff.mp hlater
    have hle := fits.old_le_length
    have hle' := fits.new_le_length
    rw [Follows] at hy
    split at hy
    · rename_i hsame
      exact hasFeed_of_same hold hnew hx hsame (by omega)
    · exact hasFeed_of_inside hold hnew (by omega) (by omega)

/-- Where a patch cut at line feeds is not read as it was written: after some lines with line feeds
it takes away a line of the old text that has none, and lines of the new text come next. -/
structure Joins (old : List Line) (p : Progress) (ls before : List Line) (line : Line)
    (added : List Line) : Prop where
  eq : ls = before ++ ('-' :: line) :: added.map ('+' :: ·)
  nonempty : added ≠ []
  feeds : ∀ l ∈ before, HasFeed l
  mem : line ∈ old
  unfed : ¬ HasFeed line
  read : ∃ done rest made, before.foldlM Progress.read p =
    some ⟨done, line :: rest, made, 1, added.length⟩

theorem Joins.prepend {p p' : Progress} {ls' before added : List Line}
    (h : Joins old p' ls before line added) (hfeeds : ∀ l ∈ ls', HasFeed l)
    (hread : ls'.foldlM Progress.read p = some p') :
    Joins old p (ls' ++ ls) (ls' ++ before) line added where
  eq := by rw [h.eq, List.append_assoc]
  nonempty := h.nonempty
  feeds := List.forall_mem_append.mpr ⟨hfeeds, h.feeds⟩
  mem := h.mem
  unfed := h.unfed
  read := by
    rw [List.foldlM_append, hread]
    exact h.read

/-- The last step ends in line feeds, or joins lines. -/
theorem lines_of_fits (hold : Fed old) (hnew : Fed new) (fits : e.Fits old new) :
    EndsInFeeds (e.lines old new) ∨ ∃ before line added,
      Joins old (.at old new e.oldFrom e.newFrom (e.oldTo - e.oldFrom) (e.newTo - e.newFrom))
        (e.lines old new) before line added := by
  have hremoved := hold.feeds.slice (a := e.oldFrom) fits.old_le_length
  have hadded := hnew.feeds.slice (a := e.newFrom) fits.new_le_length
  have hlines : ∀ l ∈ slice old e.oldFrom e.oldTo, IsLine l :=
    fun l hl => hold.lines l (mem_of_mem_slice hl)
  have hlines' : ∀ l ∈ slice new e.newFrom e.newTo, IsLine l :=
    fun l hl => hnew.lines l (mem_of_mem_slice hl)
  rw [Edit.lines]
  split
  · exact .inl (hremoved.map hlines)
  rcases eq_or_ne (slice new e.newFrom e.newTo) [] with hnil | hne
  · rw [hnil, List.map_nil, List.append_nil]
    exact .inl (hremoved.map hlines)
  by_cases hall : ∀ l ∈ slice old e.oldFrom e.oldTo, HasFeed l
  · exact .inl (.append (hasFeed_of_mem_map hlines hall) (hadded.map hlines'))
  -- Only the last line that is taken away can be without a line feed.
  obtain ⟨before, line, hconcat⟩ :
      ∃ before line, slice old e.oldFrom e.oldTo = before ++ [line] := by
    rcases List.eq_nil_or_concat (slice old e.oldFrom e.oldTo) with hnil | ⟨before, line, hconcat⟩
    · rw [hnil] at hall
      exact absurd (fun _ hl => absurd hl List.not_mem_nil) hall
    · exact ⟨before, line, by rw [hconcat, List.concat_eq_append]⟩
  have hrest := slice_append_drop old fits.old_le
  have hlength := length_slice (a := e.oldFrom) fits.old_le_length
  have hlength' := length_slice (a := e.newFrom) fits.new_le_length
  have hmem : line ∈ old := mem_of_mem_slice (a := e.oldFrom) (b := e.oldTo) (by simp [hconcat])
  rw [hconcat] at hrest hlength hall hremoved hlines
  rw [EndsInFeeds, List.dropLast_concat] at hremoved
  refine .inr ⟨before.map ('-' :: ·), line, slice new e.newFrom e.newTo, ?_, hne, ?_, hmem, ?_, ?_⟩
  · rw [hconcat, List.map_append, List.append_assoc]
    rfl
  · exact hasFeed_of_mem_map (fun l hl => hlines l (by simp [hl])) hremoved
  · exact fun hfeed => hall (List.forall_mem_append.mpr ⟨hremoved, by simpa using hfeed⟩)
  · have hread := Progress.foldlM_remove e.oldFrom (new.take e.newFrom) before
      (line :: old.drop e.oldTo) 1 (e.newTo - e.newFrom)
    rw [Progress.at, ← hrest, ← hlength, hlength', List.append_assoc, List.length_append,
      List.length_singleton, Nat.add_comm before.length]
    exact ⟨_, _, _, hread⟩

/-- No step of a hunk goes beyond its end. -/
theorem Leads.le_of_mem (h : Leads old new i j es m n) (he : e ∈ es) :
    e.oldTo ≤ m ∧ e.newTo ≤ n := by
  induction h with
  | nil => cases he
  | cons _ later ih =>
    rcases List.mem_cons.mp he with rfl | he
    · exact later.le
    · exact ih he

/-- No line feed is missing in a hunk before its last step. -/
theorem lines_of_hunk (hold : Fed old) (hnew : Fed new) {h : Hunk} {i' j' : Nat}
    (gap : Alike old new i j i' j') (leads : Leads old new i' j' h m n) (nonempty : h ≠ [])
    (chain : h.IsChain Follows) :
    EndsInFeeds (Hunk.lines old new h) ∨ ∃ before line added,
      Joins old (.at old new i j 0 0) (Hunk.lines old new h) before line added := by
  obtain ⟨es, e, rfl⟩ := (List.eq_nil_or_concat h).resolve_left nonempty
  rw [List.concat_eq_append] at *
  have hheader := read_header gap leads nonempty
  have hes := hasFeed_of_leads hold hnew leads chain
  obtain ⟨m, n, hsteps, hlast⟩ := leads.of_append
  obtain ⟨fits, rfl, rfl, hend⟩ := Leads.cons_iff.mp hlast
  obtain ⟨rfl, rfl⟩ := Leads.nil_iff.mp hend
  have hle := hsteps.le
  have hle' := fits.old_le
  have hle'' := fits.new_le
  -- Behind the header and the steps before the last, what is left is that of the last.
  have hread := foldlM_leads hsteps (e.oldTo - e.oldFrom) (e.newTo - e.newFrom)
  rw [show e.oldTo - e.oldFrom + (e.oldFrom - i') = e.oldTo - i' by omega,
    show e.newTo - e.newFrom + (e.newFrom - j') = e.newTo - j' by omega] at hread
  have hlines : Hunk.lines old new (es ++ [e]) =
      (Hunk.header (es ++ [e]) :: es.flatMap (Edit.lines old new)) ++ e.lines old new := by
    rw [Hunk.lines, List.flatMap_append, List.flatMap_singleton, List.cons_append]
  have hfeeds : ∀ l ∈ Hunk.header (es ++ [e]) :: es.flatMap (Edit.lines old new), HasFeed l :=
    List.forall_mem_cons.mpr ⟨hasFeed_header _, hes⟩
  rw [hlines]
  rcases lines_of_fits hold hnew fits with hends | ⟨before, line, added, hjoins⟩
  · exact .inl (.append hfeeds hends)
  · refine .inr ⟨_, line, added, hjoins.prepend hfeeds ?_⟩
    rw [List.foldlM_cons, hheader]
    exact hread

/-- **Where a line feed can be missing**: in the last line of the hunks, or they join lines. -/
theorem lines_of_shown (hold : Fed old) (hnew : Fed new) {hs : List Hunk}
    (h : Shown old new i j hs) :
    EndsInFeeds (hs.flatMap (Hunk.lines old new)) ∨ ∃ before line added,
      Joins old (.at old new i j 0 0) (hs.flatMap (Hunk.lines old new)) before line added := by
  induction h with
  | done => exact .inl fun _ hl => absurd hl List.not_mem_nil
  | @hunk _ _ _ _ _ _ h hs gap leads nonempty chain inside later ih =>
    rw [List.flatMap_cons]
    -- A hunk is the last one, or it ends before either text does.
    rcases inside with rfl | ⟨hinside, hinside'⟩
    · rw [List.flatMap_nil, List.append_nil]
      exact lines_of_hunk hold hnew gap leads nonempty chain
    · have hfeeds : ∀ l ∈ Hunk.lines old new h, HasFeed l := by
        refine List.forall_mem_cons.mpr ⟨hasFeed_header h, fun l hl => ?_⟩
        obtain ⟨e, he, hl⟩ := List.mem_flatMap.mp hl
        obtain ⟨hle, hle'⟩ := leads.le_of_mem he
        exact hasFeed_of_inside hold hnew (by omega) (by omega) l hl
      rcases ih with hends | ⟨before, line, added, hjoins⟩
      · exact .inl (.append hfeeds hends)
      · exact .inr ⟨_, line, added, hjoins.prepend hfeeds (foldlM_hunk gap leads nonempty)⟩

end Lines

/-! ## Reading joined lines -/

section Joined

variable {old : List Line} {p : Progress} {ls before added : List Line} {line : Line}

/-- Lines that are joined are not in line feeds. -/
theorem Joins.not_endsInFeeds (h : Joins old p ls before line added) (hline : IsLine line)
    (first : List Line) : ¬ EndsInFeeds (first ++ ls) := by
  intro hends
  obtain ⟨l, rest, rfl⟩ := List.exists_cons_of_ne_nil h.nonempty
  have hmem : '-' :: line ∈ (first ++ ls).dropLast := by
    rw [h.eq, ← List.append_assoc, List.map_cons,
      List.dropLast_append_of_ne_nil (by simp), List.dropLast_cons_of_ne_nil (by simp)]
    simp
  exact h.unfed ((hasFeed_cons_iff hline).mp (hends _ hmem))

theorem exists_cutLines_cons {c : Char} (hc : c ≠ '\n') (cs : List Char) :
    ∃ l rest, cutLines (c :: cs) = (c :: l) :: rest := by
  rw [cutLines, if_neg hc]
  cases cutLines cs with
  | nil => exact ⟨[], [], rfl⟩
  | cons l rest => exact ⟨l, rest, rfl⟩

/-- Two lines in one are no line of the text. -/
theorem withoutFeed_append_ne (hfeed : ¬ HasFeed line) (rest : List Char) :
    withoutFeed (line ++ '+' :: rest) ≠ withoutFeed line := by
  intro heq
  have hlength := congrArg List.length heq
  rw [withoutFeed, withoutFeed, if_neg (show ¬ line.getLast? = some '\n' from hfeed)] at hlength
  split at hlength
  · rename_i hend
    rcases rest with _ | ⟨c, rest⟩
    · rw [List.getLast?_concat] at hend
      cases hend
    · simp at hlength
  · simp at hlength

theorem hasFeed_fileLines : ∀ l ∈ fileLines, IsLine l ∧ HasFeed l := by
  unfold IsLine
  decide

/-- **Joined lines are not read**: cut at line feeds they are one line, and the old text has no such
line. -/
theorem Joins.applyLines?_eq_none {new : List Line}
    (h : Joins old (.at old new 0 0 0 0) ls before line added) (hls : ∀ l ∈ ls, IsLine l)
    (hold : ∀ l ∈ old, IsLine l) : applyLines? (cutLines (fileLines ++ ls).flatten) old = none := by
  obtain ⟨heq, hne, hfeeds, hmem, hunfed, done, rest, made, hread⟩ := h
  obtain ⟨l, added, rfl⟩ := List.exists_cons_of_ne_nil hne
  have hnotMem : '\n' ∉ '-' :: line := by simpa using (hold line hmem).notMem hunfed
  -- What is joined goes on with a plus sign, up to wherever it is cut.
  obtain ⟨x, more, hcut⟩ := exists_cutLines_cons (c := '+') (by decide)
    (l ++ (added.map ('+' :: ·)).flatten)
  have htext : (fileLines ++ ls).flatten = (fileLines ++ before).flatten ++
      (('-' :: line) ++ '+' :: (l ++ (added.map ('+' :: ·)).flatten)) := by
    simp [heq]
  have hlines : cutLines (fileLines ++ ls).flatten =
      fileLines ++ (before ++ ('-' :: (line ++ '+' :: x)) :: more) := by
    have hfirst : ∀ l ∈ fileLines ++ before, IsLine l := fun l' hl' => by
      rcases List.mem_append.mp hl' with hl' | hl'
      · exact (hasFeed_fileLines l' hl').1
      · exact hls l' (by rw [heq]; exact List.mem_append_left _ hl')
    have hfirst' : ∀ l ∈ fileLines ++ before, HasFeed l :=
      List.forall_mem_append.mpr ⟨fun l' hl' => (hasFeed_fileLines l' hl').2, hfeeds⟩
    rw [htext, cutLines_flatten_append hfirst hfirst', cutLines_append_cons hnotMem hcut,
      List.append_assoc]
    rfl
  -- The joined line is longer than the one that it is to take away.
  have hstop : (⟨done, line :: rest, made, 1, (l :: added).length⟩ : Progress).read
      ('-' :: (line ++ '+' :: x)) = none := by
    simp [Progress.read, Progress.pass, withoutFeed_append_ne hunfed]
  rw [hlines, applyLines?_fileLines, List.foldlM_append, hread]
  show (List.foldlM Progress.read _ (('-' :: (line ++ '+' :: x)) :: more)).bind _ = none
  rw [List.foldlM_cons, hstop]
  rfl

end Joined

/-! ## Patches as texts -/

section Texts

variable {old new : String}

/-- The lines of a text, every kind of line break counting. -/
def linesOf (text : String) : List Line :=
  rawLines text.toList

theorem linesOf_injective {s t : String} (h : linesOf s = linesOf t) : s = t := by
  have hflatten := congrArg List.flatten h
  rw [linesOf, linesOf, flatten_rawLines, flatten_rawLines] at hflatten
  exact String.toList_inj.mp hflatten

theorem fed_linesOf (h : EndsInFeeds (linesOf old)) : Fed (linesOf old) :=
  ⟨fun _ hl => isLine_of_mem_rawLines hl, h⟩

/-- Cut at line feeds, such a text has the same lines. -/
theorem cutLines_toList (h : EndsInFeeds (linesOf old)) : cutLines old.toList = linesOf old := by
  have hcut := cutLines_flatten (fed_linesOf h).lines h
  rwa [linesOf, flatten_rawLines] at hcut

theorem toList_unified (old new : String) :
    (unified old new).toList = (patchLines (linesOf old) (linesOf new)).flatten :=
  String.toList_ofList

/-- **A patch is empty exactly if nothing changes.** -/
theorem unified_eq_empty_iff : unified old new = "" ↔ old = new := by
  rw [← String.toList_inj, toList_unified]
  constructor
  · intro hempty
    by_contra hne
    rw [patchLines_eq fun h => hne (linesOf_injective h)] at hempty
    cases hempty
  · rintro rfl
    rw [patchLines, hunks_self]
    rfl

/-- **What a patch makes of the old text**: the new one if no line but the last is without a line
feed, else nothing. -/
theorem applyPatch?_unified (hold : EndsInFeeds (linesOf old)) (hnew : EndsInFeeds (linesOf new))
    (hne : old ≠ new) :
    applyPatch? (unified old new) old =
      if EndsInFeeds (patchLines (linesOf old) (linesOf new)) then some new else none := by
  have hlines : linesOf old ≠ linesOf new := fun h => hne (linesOf_injective h)
  have hbody : ∀ l ∈ (hunks (edits (linesOf old) (linesOf new))).flatMap
      (Hunk.lines (linesOf old) (linesOf new)), IsLine l :=
    fun l hl => isLine_of_mem_hunks (fed_linesOf hold).lines (fed_linesOf hnew).lines hl
  rw [applyPatch?, toList_unified, cutLines_toList hold]
  -- Either every line but the last has its line feed, or two lines are joined.
  rcases lines_of_shown (fed_linesOf hold) (fed_linesOf hnew)
    (shown_hunks (linesOf old) (linesOf new)) with hends | ⟨before, line, added, hjoins⟩
  · have hfeeds : EndsInFeeds (patchLines (linesOf old) (linesOf new)) := by
      rw [patchLines_eq hlines]
      exact .append (fun l hl => (hasFeed_fileLines l hl).2) hends
    have hall : ∀ l ∈ patchLines (linesOf old) (linesOf new), IsLine l := by
      rw [patchLines_eq hlines]
      exact List.forall_mem_append.mpr ⟨fun l hl => (hasFeed_fileLines l hl).1, hbody⟩
    rw [if_pos hfeeds, cutLines_flatten hall hfeeds, applyLines?_patchLines hlines, Option.map_some,
      linesOf, flatten_rawLines, String.ofList_toList]
  · have hline := (fed_linesOf hold).lines line hjoins.mem
    have hragged := hjoins.not_endsInFeeds hline fileLines
    rw [← patchLines_eq hlines] at hragged
    rw [if_neg hragged, patchLines_eq hlines,
      hjoins.applyLines?_eq_none hbody (fed_linesOf hold).lines, Option.map_none]

/-- No line feed is missing if the old text is empty or ends in one. -/
theorem endsInFeeds_patchLines (hold : EndsInFeeds (linesOf old)) (hnew : EndsInFeeds (linesOf new))
    (hend : old = "" ∨ HasFeed old.toList) :
    EndsInFeeds (patchLines (linesOf old) (linesOf new)) := by
  by_cases hlines : linesOf old = linesOf new
  · rw [hlines, patchLines, hunks_self]
    exact fun _ hl => absurd hl List.not_mem_nil
  rw [patchLines_eq hlines]
  refine .append (fun l hl => (hasFeed_fileLines l hl).2) ?_
  rcases lines_of_shown (fed_linesOf hold) (fed_linesOf hnew)
    (shown_hunks (linesOf old) (linesOf new)) with hends | ⟨before, line, added, hjoins⟩
  · exact hends
  · have hall := hasFeed_of_mem_rawLines hold (hend.imp_left fun h => by rw [h]; rfl)
    exact absurd (hall line hjoins.mem) hjoins.unfed

/-- **Patches are right** as far as their lines can be told apart. For all texts, a patch is empty
exactly if nothing changes, and otherwise its lines make the lines of the new text of those of the
old. As a text, cut at line feeds, it makes the new text of the old, for texts whose lines end in
line feeds, exactly if each line of the patch but the last ends in one; so it does if the old text
is empty or ends in a line feed. -/
theorem unified_correct (old new : String) :
    (unified old new = "" ↔ old = new) ∧
    (old ≠ new → applyLines? (patchLines (linesOf old) (linesOf new)) (linesOf old) =
      some (linesOf new)) ∧
    (EndsInFeeds (linesOf old) → EndsInFeeds (linesOf new) → old ≠ new →
      (applyPatch? (unified old new) old = some new ↔
        EndsInFeeds (patchLines (linesOf old) (linesOf new))) ∧
      (old = "" ∨ HasFeed old.toList → applyPatch? (unified old new) old = some new)) := by
  refine ⟨unified_eq_empty_iff, fun hne => ?_, fun hold hnew hne => ?_⟩
  · exact applyLines?_patchLines fun h => hne (linesOf_injective h)
  have hmade := applyPatch?_unified hold hnew hne
  constructor
  · rw [hmade]
    simp
  · intro hend
    rw [hmade, if_pos (endsInFeeds_patchLines hold hnew hend)]

/-- A patch of a text that ends in a line feed makes the new text, though that does not; one of a
text without line feeds joins its two lines, and makes nothing. -/
theorem unified_correct_sample :
    applyPatch? (unified "a\nb\n" "a\nc") "a\nb\n" = some "a\nc" ∧
    applyPatch? (unified "a" "b") "a" ≠ some "b" := by
  have hfed : ∀ s ∈ ["a\nb\n", "a\nc", "a", "b"], EndsInFeeds (linesOf s) := by decide +kernel
  constructor
  · exact ((unified_correct "a\nb\n" "a\nc").2.2 (hfed _ (by simp)) (hfed _ (by simp))
      (by decide)).2 (.inr (by decide +kernel))
  · rw [Ne, ((unified_correct "a" "b").2.2 (hfed _ (by simp)) (hfed _ (by simp)) (by decide)).1]
    decide +kernel

/-- A line break of another kind joins lines too: the vertical tab ends a line of the text, and the
line of the patch goes on behind it. -/
example : applyPatch? (unified "a\x0bb\n" "a\x0bc\n") "a\x0bb\n" = none := by
  decide +kernel

end Texts

end Groundplan.Patch
