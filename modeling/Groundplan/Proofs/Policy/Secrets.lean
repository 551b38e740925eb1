import Groundplan.Policy.Audit
import Groundplan.Proofs.Hcl.CutOut
import Groundplan.Proofs.Policy.References

/-!
# Secrets by line

The search for secrets cuts a text at every line break there is, and the reader of configurations
counts line feeds only. A literal may hold any of the other breaks. Such a stray break makes a line
of the search that the reader does not count: a secret with a stray break in it is in two pieces and
is missed, and the secrets behind a stray break are reported one line too far down. Where a text has
no stray breaks, the lines of both are the same, but for carriage returns in front of line feeds,
which are blanks at the end of a line. There each line that gives a secret away has one finding,
under the number that the reader gives to the line.

## Main definitions

* `Occurrence.Between`: **a line**, as a stretch of a text between breaks of some kind
* `strayBreaks`: how many lines of the search the reader does not count
* `Assignment`: a place where a line gives a name a literal
* `GivesAway`: **a line that gives a secret away**, with the kind of the secret

## Main results

* `mem_numbered_iff`: where the lines of the search stand, and under which numbers
* `exists_line_iff`: without stray breaks they are the lines of the reader
* `assignsLiteral_iff`, `secretLabel?_eq_some_iff`: what the search finds in a line
* `secrets_reported`: **which secrets are reported**, and at which lines
-/

namespace Groundplan

namespace Text

/-! ## Stretches of a text -/

section Stretches

variable {p : Char → Bool} {line cs a rest : List Char} {c : Char}

/-- **A stretch between characters of a class**: it holds none of them, and at either side is one or
the end of the text. -/
structure Occurrence.Between (p : Char → Bool) (o : Occurrence line cs) : Prop where
  clean : ∀ c ∈ line, p c = false
  before : ∀ c ∈ o.before.getLast?, p c = true
  after : ∀ c ∈ o.after.head?, p c = true

/-- A stretch ends at the first character of the class. -/
theorem takeWhile_of_clean (hclean : ∀ c ∈ line, p c = false)
    (hrest : ∀ c ∈ rest.head?, p c = true) : (line ++ rest).takeWhile (fun c => !p c) = line := by
  rw [List.takeWhile_append_of_pos fun c hc => by rw [hclean c hc, Bool.not_false],
    takeWhile_eq_nil fun c hc => by rw [hrest c hc, Bool.not_true], List.append_nil]

/-- What stands before a stretch does not end within another. -/
theorem eq_nil_of_subset (ha : ∀ c ∈ a, p c = false) {before : List Char}
    (hbefore : ∀ c ∈ before.getLast?, p c = true) (h : ∀ c ∈ before, c ∈ a) : before = [] := by
  rcases List.eq_nil_or_concat before with rfl | ⟨b, d, rfl⟩
  · rfl
  · have hd : p d = true := hbefore d (by simp)
    rw [ha d (h d (by simp))] at hd
    cases hd

/-- In a text without characters of a class, the only stretch between them is the text. -/
theorem exists_between_clean (ha : ∀ c ∈ a, p c = false) {P : List Char → Prop} :
    (∃ o : Occurrence line a, o.Between p ∧ P o.before) ↔ line = a ∧ P [] := by
  constructor
  · rintro ⟨⟨before, after, rfl⟩, ho, hP⟩
    obtain rfl : before = [] := eq_nil_of_subset ha ho.before fun c hc => by simp [hc]
    cases after with
    | nil => exact ⟨by simp, hP⟩
    | cons d after =>
      have hd : p d = true := ho.after d rfl
      rw [ha d (by simp)] at hd
      cases hd
  · rintro ⟨rfl, hP⟩
    exact ⟨⟨[], [], by simp⟩, ⟨ha, nofun, nofun⟩, hP⟩

/-- Two stretches at the start of a text are the same. -/
theorem eq_of_clean (hline : ∀ c ∈ line, p c = false) (ha : ∀ c ∈ a, p c = false)
    {after : List Char} (hafter : ∀ c ∈ after.head?, p c = true)
    (hrest : ∀ c ∈ rest.head?, p c = true) (h : line ++ after = a ++ rest) : line = a := by
  rw [← takeWhile_of_clean hline hafter, h, takeWhile_of_clean ha hrest]

/-- What stands before a later stretch passes over the first one and the character that ends it. -/
theorem eq_append_of_ends (ha : ∀ c ∈ a, p c = false) {before b : List Char} (hnil : before ≠ [])
    (hbefore : ∀ c ∈ before.getLast?, p c = true) (h : before ++ b = a ++ c :: rest) :
    ∃ b', before = a ++ c :: b' ∧ b' ++ b = rest := by
  rcases List.append_eq_append_iff.1 h with ⟨d, rfl, -⟩ | ⟨d, rfl, hd⟩
  · exact absurd (eq_nil_of_subset ha hbefore fun e he => by simp [he]) hnil
  · cases d with
    | nil => exact absurd (eq_nil_of_subset ha hbefore fun e he => by simpa using he) hnil
    | cons e d =>
      obtain ⟨rfl, htail⟩ := List.cons.inj hd
      exact ⟨d, rfl, htail.symm⟩

/-- **The stretches of a text** are the first one, and those behind the character that ends it. -/
theorem exists_between_iff (ha : ∀ c ∈ a, p c = false) (hc : p c = true) {P : List Char → Prop} :
    (∃ o : Occurrence line (a ++ c :: rest), o.Between p ∧ P o.before) ↔
      line = a ∧ P [] ∨ ∃ o : Occurrence line rest, o.Between p ∧ P (a ++ c :: o.before) := by
  have hhead : ∀ d ∈ (c :: rest).head?, p d = true := by simp [hc]
  constructor
  · rintro ⟨⟨before, after, hparts⟩, ⟨hclean, hbefore, hafter⟩, hP⟩
    dsimp only at hbefore hafter hP
    rw [List.append_assoc] at hparts
    by_cases hnil : before = []
    · subst hnil
      exact .inl ⟨eq_of_clean hclean ha hafter hhead hparts, hP⟩
    · obtain ⟨b, rfl, hrest⟩ := eq_append_of_ends ha hnil hbefore hparts
      refine .inr ⟨⟨b, after, (List.append_assoc ..).trans hrest⟩, ⟨hclean, fun d hd => ?_, hafter⟩,
        hP⟩
      -- If something stands before it in the rest, that ends as what stands before it in the text.
      refine hbefore d ?_
      cases b with
      | nil => cases hd
      | cons e b => simpa [List.getLast?_append, List.getLast?_cons_cons] using hd
  · rintro (⟨rfl, hP⟩ | ⟨o, ho, hP⟩)
    · exact ⟨⟨[], c :: rest, rfl⟩, ⟨ha, nofun, hhead⟩, hP⟩
    · refine ⟨⟨a ++ c :: o.before, o.after, ?_⟩, ⟨ho.clean, fun d hd => ?_, ho.after⟩, hP⟩
      · have hparts := o.parts_eq
        simp [← hparts]
      · by_cases hnil : o.before = []
        · obtain rfl : c = d := by simpa [hnil] using hd
          exact hc
        · rw [List.getLast?_append_of_ne_nil _ (List.cons_ne_nil _ _),
            List.getLast?_cons_of_ne_nil hnil] at hd
          exact ho.before d hd

end Stretches

/-! ## Lines of the search -/

section Lines

open Hcl

variable {line acc cs a b : List Char} {c : Char} {n i : Nat}

/-- Whether a character is a line break that the reader does not count; a carriage return in front
of a line feed belongs to it. -/
def isStray (c : Char) (next : Option Char) : Bool :=
  isLineBreak c && c != '\n' && !(c == '\r' && next == some '\n')

/-- How many line breaks of a text the reader does not count. -/
def strayBreaks : List Char → Nat
  | [] => 0
  | c :: cs => (if isStray c cs.head? then 1 else 0) + strayBreaks cs

theorem strayBreaks_append (h : b.head? ≠ some '\n') :
    strayBreaks (a ++ b) = strayBreaks a + strayBreaks b := by
  induction a with
  | nil => simp [strayBreaks]
  | cons c a ih =>
    have hstray : isStray c (a ++ b).head? = isStray c a.head? := by
      cases a with
      | nil => simp [isStray, h]
      | cons d a => rfl
    rw [List.cons_append, strayBreaks, strayBreaks, hstray, ih, Nat.add_assoc]

/-- A text without stray breaks has none at any place. -/
theorem isStray_eq_false (h : strayBreaks (a ++ c :: b) = 0) : isStray c b.head? = false := by
  induction a with
  | nil =>
    rw [List.nil_append, strayBreaks, Nat.add_eq_zero_iff] at h
    simpa using h.1
  | cons d a ih =>
    rw [List.cons_append, strayBreaks, Nat.add_eq_zero_iff] at h
    exact ih h.2

/-- Line breaks of either kind are counted behind a stretch without any. -/
theorem breaks_append (ha : ∀ c ∈ a, isLineBreak c = false) (cs : List Char) :
    lineFeeds (a ++ cs) + strayBreaks (a ++ cs) = lineFeeds cs + strayBreaks cs := by
  induction a with
  | nil => rfl
  | cons c a ih =>
    rw [List.forall_mem_cons] at ha
    have hc : c ≠ '\n' := by
      rintro rfl
      cases ha.1
    have hstray : isStray c (a ++ cs).head? = false := by simp [isStray, ha.1]
    rw [List.cons_append, strayBreaks, hstray, lineFeeds, List.count_cons_of_ne hc, ← lineFeeds]
    simpa using ih ha.2

/-- A line break counts once, a carriage return in front of a line feed together with it. -/
theorem breaks_cons (hc : isLineBreak c = true) (h : c = '\r' → cs.head? ≠ some '\n') :
    lineFeeds (c :: cs) + strayBreaks (c :: cs) = 1 + (lineFeeds cs + strayBreaks cs) := by
  rw [strayBreaks, lineFeeds]
  by_cases hfeed : c = '\n'
  · subst hfeed
    have hstray : isStray '\n' cs.head? = false := rfl
    rw [hstray, List.count_cons_self, lineFeeds]
    simp only [Bool.false_eq_true, if_false]
    omega
  · have hstray : isStray c cs.head? = true := by
      simpa [isStray, hc, hfeed, ← imp_iff_not_or] using h
    rw [hstray, if_pos rfl, List.count_cons_of_ne hfeed, lineFeeds]
    omega

/-! ### Where they stand -/

/-- The lines so far are put in front of the others. -/
theorem rawLinesFrom_append (done done' : List (List Char)) (acc cs : List Char) :
    rawLinesFrom (done ++ done') acc cs = done'.reverse ++ rawLinesFrom done acc cs := by
  fun_induction rawLinesFrom done acc cs with
  | case1 done acc =>
    rw [rawLinesFrom]
    split <;> simp
  | case2 done acc rest ih => rw [rawLinesFrom, ← List.cons_append, ih]
  | case3 done acc c rest hne hc ih =>
    rw [rawLinesFrom, if_pos hc, ← List.cons_append, ih]
    exact hne
  | case4 done acc c rest hne hc ih =>
    rw [rawLinesFrom, if_neg hc, ih]
    exact hne

theorem dropBreak_clean (h : ∀ c ∈ acc, isLineBreak c = false) :
    dropBreak acc.reverse = acc.reverse := by
  rw [dropBreak, List.reverse_reverse]
  split
  · cases h '\n' (by simp)
  · rename_i c rest _
    rw [if_neg (by simp [h c])]
  · rfl

/-- The break is taken from the end of a line. -/
theorem dropBreak_break (h : ∀ c ∈ acc, isLineBreak c = false) (hc : isLineBreak c = true) :
    dropBreak (c :: acc).reverse = acc.reverse := by
  rw [dropBreak, List.reverse_reverse]
  split
  · rename_i heq
    obtain ⟨-, rfl⟩ := List.cons.inj heq
    cases h '\r' (by simp)
  · rename_i heq
    obtain ⟨rfl, rfl⟩ := List.cons.inj heq
    rw [if_pos hc]
  · rename_i heq
    cases heq

theorem rawLinesFrom_singleton (l cs : List Char) :
    rawLinesFrom [l] [] cs = l :: rawLinesFrom [] [] cs :=
  rawLinesFrom_append [] [l] [] cs

/-- Behind a line break of one character the numbers go up by one. -/
theorem exists_numbered_break (ha : ∀ c ∈ a, isLineBreak c = false) (hc : isLineBreak c = true)
    (h : c = '\r' → b.head? ≠ some '\n') :
    (∃ o : Occurrence line (a ++ c :: b), o.Between isLineBreak ∧
        i = n + (lineFeeds o.before + strayBreaks o.before)) ↔
      line = a ∧ i = n ∨ ∃ o : Occurrence line b, o.Between isLineBreak ∧
        i = n + 1 + (lineFeeds o.before + strayBreaks o.before) := by
  rw [exists_between_iff ha hc
    (P := fun before => i = n + (lineFeeds before + strayBreaks before))]
  refine or_congr Iff.rfl (exists_congr fun o => and_congr_right fun _ => ?_)
  have hhead : c = '\r' → o.before.head? ≠ some '\n' := by
    intro hreturn hfeed
    obtain ⟨before, hbefore⟩ := List.head?_eq_some_iff.1 hfeed
    refine h hreturn ?_
    rw [← o.parts_eq, hbefore]
    rfl
  rw [breaks_append ha, breaks_cons hc hhead, Nat.add_assoc]

/-- So they do behind a carriage return and a line feed: between the two is an empty stretch, which
is no line of the search. -/
theorem exists_numbered_return (ha : ∀ c ∈ a, isLineBreak c = false) (hline : line ≠ []) :
    (∃ o : Occurrence line (a ++ '\r' :: '\n' :: b), o.Between isLineBreak ∧
        i = n + (lineFeeds o.before + strayBreaks o.before)) ↔
      line = a ∧ i = n ∨ ∃ o : Occurrence line b, o.Between isLineBreak ∧
        i = n + 1 + (lineFeeds o.before + strayBreaks o.before) := by
  have hinner (P : List Char → Prop) :
      (∃ o : Occurrence line ('\n' :: b), o.Between isLineBreak ∧ P o.before) ↔
        ∃ o : Occurrence line b, o.Between isLineBreak ∧ P ('\n' :: o.before) :=
    (exists_between_iff (a := []) nofun (by decide)).trans (or_iff_right fun h => hline h.1)
  rw [exists_between_iff ha (by decide)
    (P := fun before => i = n + (lineFeeds before + strayBreaks before)),
    hinner fun before =>
      i = n + (lineFeeds (a ++ '\r' :: before) + strayBreaks (a ++ '\r' :: before))]
  refine or_congr Iff.rfl (exists_congr fun o => and_congr_right fun _ => ?_)
  have hbreaks : lineFeeds ('\r' :: '\n' :: o.before) + strayBreaks ('\r' :: '\n' :: o.before) =
      1 + (lineFeeds o.before + strayBreaks o.before) := by
    simp [lineFeeds, strayBreaks, isStray]
    omega
  rw [breaks_append ha, hbreaks, Nat.add_assoc]

/-- The lines of the search, from an open line on. -/
theorem mem_numberedFrom_iff (done : List (List Char)) (acc cs : List Char) (hline : line ≠ [])
    (hacc : ∀ c ∈ acc, isLineBreak c = false) :
    (line, i) ∈ ((rawLinesFrom [] acc cs).map dropBreak).zipIdx n ↔
      ∃ o : Occurrence line (acc.reverse ++ cs), o.Between isLineBreak ∧
        i = n + (lineFeeds o.before + strayBreaks o.before) := by
  have hreverse {acc : List Char} (h : ∀ c ∈ acc, isLineBreak c = false) :
      ∀ c ∈ acc.reverse, isLineBreak c = false := fun c hc => h c (List.mem_reverse.1 hc)
  -- One case for each way in which the search goes on; the lines done before do not matter.
  fun_induction rawLinesFrom done acc cs generalizing n with
  | case1 done acc =>
    rw [List.append_nil, exists_between_clean (hreverse hacc)
      (P := fun before => i = n + (lineFeeds before + strayBreaks before)), rawLinesFrom]
    split
    · rename_i hempty
      obtain rfl : acc = [] := List.isEmpty_iff.1 hempty
      simp [hline]
    · simp [dropBreak_clean hacc, lineFeeds, strayBreaks]
  | case2 done acc rest ih =>
    have hdrop : dropBreak ('\n' :: '\r' :: acc).reverse = acc.reverse := by simp [dropBreak]
    have hrest : _ ↔ _ := ih (n := n + 1) nofun
    rw [rawLinesFrom, rawLinesFrom_singleton, List.map_cons, List.zipIdx_cons, List.mem_cons, hdrop,
      hrest, exists_numbered_return (hreverse hacc) hline, Prod.mk.injEq]
    rfl
  | case3 done acc c rest hne hc ih =>
    have hhead : c = '\r' → rest.head? ≠ some '\n' := by
      rintro rfl hfeed
      obtain ⟨cs, hrest⟩ := List.head?_eq_some_iff.1 hfeed
      exact hne cs rfl hrest
    have hrest : _ ↔ _ := ih (n := n + 1) nofun
    rw [rawLinesFrom, if_pos hc, rawLinesFrom_singleton, List.map_cons, List.zipIdx_cons,
      List.mem_cons, dropBreak_break hacc hc, hrest, exists_numbered_break (hreverse hacc) hc hhead,
      Prod.mk.injEq]
    · rfl
    · exact hne
  | case4 done acc c rest hne hc ih =>
    have hacc' : ∀ d ∈ c :: acc, isLineBreak d = false :=
      List.forall_mem_cons.2 ⟨Bool.eq_false_iff.2 hc, hacc⟩
    have hrest : _ ↔ _ := ih (n := n) hacc'
    rw [rawLinesFrom, if_neg hc, hrest, List.reverse_cons, List.append_assoc]
    · rfl
    · exact hne

/-- **The lines of the search with their numbers.** A line that is not empty stands between line
breaks, and its number goes up with each break before it. -/
theorem mem_numbered_iff (hline : line ≠ []) : (line, i) ∈ (plainLines cs).zipIdx n ↔
    ∃ o : Occurrence line cs, o.Between isLineBreak ∧
      i = n + (lineFeeds o.before + strayBreaks o.before) :=
  mem_numberedFrom_iff [] [] cs hline nofun

/-! ### Lines without stray breaks -/

theorem trim_concat (h : isBlank c = true) (cs : List Char) : trim (cs ++ [c]) = trim cs := by
  rw [trim, trim, trimWith, trimWith, List.dropWhile_append]
  split
  · rename_i hempty
    rw [List.isEmpty_iff.1 hempty]
    simp [trimEndWith, h]
  · simp [trimEndWith, h]

/-- In a text without stray breaks, a break is a line feed, or a carriage return in front of one. -/
theorem eq_of_strayBreaks (h : strayBreaks (a ++ c :: b) = 0) (hc : isLineBreak c = true) :
    c = '\n' ∨ c = '\r' ∧ b.head? = some '\n' := by
  have hstray := isStray_eq_false h
  rw [isStray, hc, Bool.true_and, Bool.and_eq_false_iff] at hstray
  simpa using hstray

/-- Without stray breaks in a text, no stretch between line feeds has a break in it, but for a
carriage return at its end. -/
theorem isLineBreak_eq_false {l : List Char} {e : Char}
    (h : strayBreaks (a ++ (l ++ [e]) ++ b) = 0) (hfeed : '\n' ∉ l ++ [e]) :
    ∀ c ∈ l, isLineBreak c = false := by
  intro c hc
  by_contra hbreak
  rw [Bool.not_eq_false] at hbreak
  obtain ⟨l₁, l₂, rfl⟩ := List.append_of_mem hc
  have hat : strayBreaks ((a ++ l₁) ++ c :: (l₂ ++ [e] ++ b)) = 0 := by simpa using h
  rcases eq_of_strayBreaks hat hbreak with rfl | ⟨-, hnext⟩
  · exact hfeed (by simp)
  · -- The character behind it belongs to the stretch as well.
    cases l₂ with
    | nil =>
      obtain rfl : e = '\n' := by simpa using hnext
      exact hfeed (by simp)
    | cons d l₂ =>
      obtain rfl : d = '\n' := by simpa using hnext
      exact hfeed (by simp)

/-- Nor are there any before a line that has something in it and no line feed. -/
theorem strayBreaks_before (h : strayBreaks cs = 0) (o : Occurrence line cs) (hne : line ≠ [])
    (hfeed : '\n' ∉ line) : strayBreaks o.before = 0 := by
  obtain ⟨before, after, rfl⟩ := o
  obtain ⟨d, l, rfl⟩ := List.exists_cons_of_ne_nil hne
  have hhead : (d :: l ++ after).head? ≠ some '\n' := by
    rintro ⟨⟩
    exact hfeed List.mem_cons_self
  rw [List.append_assoc, strayBreaks_append hhead, Nat.add_eq_zero_iff] at h
  exact h.1

/-- A line of the search is a line of the reader, or the beginning of one before its carriage
return. -/
theorem exists_feedLine (h : strayBreaks cs = 0) (hne : line ≠ []) (o : Occurrence line cs)
    (ho : o.Between isLineBreak) :
    ∃ line', trim line' = trim line ∧
      ∃ o' : Occurrence line' cs, o'.Between (· == '\n') ∧ o'.before = o.before := by
  obtain ⟨before, after, rfl⟩ := o
  obtain ⟨hclean, hbefore, hafter⟩ := ho
  dsimp only at hbefore hafter
  have hfeed : '\n' ∉ line := fun hmem => by cases hclean _ hmem
  have hline : ∀ c ∈ line, (c == '\n') = false := beq_eq_false_of_notMem hfeed
  have hbefore' : ∀ c ∈ before.getLast?, (c == '\n') = true := by
    intro c hc
    obtain ⟨b, rfl⟩ := List.getLast?_eq_some_iff.1 hc
    have hat : strayBreaks (b ++ c :: (line ++ after)) = 0 := by simpa using h
    rcases eq_of_strayBreaks hat (hbefore c hc) with rfl | ⟨-, hnext⟩
    · rfl
    · obtain ⟨d, l, rfl⟩ := List.exists_cons_of_ne_nil hne
      cases hnext
      exact absurd List.mem_cons_self hfeed
  cases after with
  | nil => exact ⟨line, rfl, ⟨before, [], rfl⟩, ⟨hline, hbefore', nofun⟩, rfl⟩
  | cons e after =>
    rcases eq_of_strayBreaks h (hafter e rfl) with rfl | ⟨rfl, hnext⟩
    · refine ⟨line, rfl, ⟨before, '\n' :: after, rfl⟩, ⟨hline, hbefore', ?_⟩, rfl⟩
      rintro _ ⟨⟩
      rfl
    · -- The carriage return belongs to the line of the reader, at its end.
      refine ⟨line ++ ['\r'], trim_concat (by decide) line, ⟨before, after, by simp⟩,
        ⟨?_, hbefore', ?_⟩, rfl⟩
      · rw [List.forall_mem_append]
        exact ⟨hline, List.forall_mem_singleton.2 rfl⟩
      · show ∀ c ∈ after.head?, _
        rw [hnext]
        rintro _ ⟨⟩
        rfl

/-- A line of the reader is a line of the search, but for a carriage return at its end. -/
theorem exists_breakLine (h : strayBreaks cs = 0) (hne : line ≠ []) (o : Occurrence line cs)
    (ho : o.Between (· == '\n')) :
    ∃ line', trim line' = trim line ∧
      ∃ o' : Occurrence line' cs, o'.Between isLineBreak ∧ o'.before = o.before := by
  obtain ⟨before, after, rfl⟩ := o
  obtain ⟨hclean, hbefore, hafter⟩ := ho
  dsimp only at hbefore hafter
  have hfeed : '\n' ∉ line := fun hmem => by cases hclean _ hmem
  have hbreak {e : Char} (he : (e == '\n') = true) : isLineBreak e = true := by
    rw [beq_iff_eq.1 he]
    rfl
  rcases List.eq_nil_or_concat line with rfl | ⟨l, c, rfl⟩
  · exact absurd rfl hne
  rw [List.concat_eq_append] at *
  have hl : ∀ d ∈ l, isLineBreak d = false := isLineBreak_eq_false h hfeed
  -- A carriage return at the end of the line belongs to the break for the search.
  by_cases hc : isLineBreak c = true
  · have hat : strayBreaks ((before ++ l) ++ c :: after) = 0 := by simpa using h
    rcases eq_of_strayBreaks hat hc with rfl | ⟨rfl, -⟩
    · exact absurd (by simp) hfeed
    · refine ⟨l, (trim_concat (by decide) l).symm, ⟨before, '\r' :: after, by simp⟩,
        ⟨hl, fun d hd => hbreak (hbefore d hd), ?_⟩, rfl⟩
      rintro _ ⟨⟩
      rfl
  · refine ⟨l ++ [c], rfl, ⟨before, after, rfl⟩,
      ⟨?_, fun d hd => hbreak (hbefore d hd), fun d hd => hbreak (hafter d hd)⟩, rfl⟩
    rw [List.forall_mem_append, List.forall_mem_singleton]
    exact ⟨hl, Bool.eq_false_iff.2 hc⟩

/-- **Without stray breaks the lines of the search are those of the reader**, trimmed, as far as
there is something in them. -/
theorem exists_line_iff (h : strayBreaks cs = 0) {P : List Char → Prop} (hP : ¬ P []) :
    (∃ line, ∃ o : Occurrence line cs, o.Between isLineBreak ∧
        n = 1 + (lineFeeds o.before + strayBreaks o.before) ∧ P (trim line)) ↔
      ∃ line, ∃ o : Occurrence line cs, o.Between (· == '\n') ∧
        n = 1 + lineFeeds o.before ∧ P (trim line) := by
  have hne {line : List Char} (hline : P (trim line)) : line ≠ [] := by
    rintro rfl
    exact hP hline
  constructor
  · rintro ⟨line, o, ho, hn, hline⟩
    have hfeed : '\n' ∉ line := fun hmem => by cases ho.clean _ hmem
    obtain ⟨line', htrim, o', ho', hbefore⟩ := exists_feedLine h (hne hline) o ho
    rw [strayBreaks_before h o (hne hline) hfeed, Nat.add_zero] at hn
    exact ⟨line', o', ho', by rw [hbefore, hn], by rwa [htrim]⟩
  · rintro ⟨line, o, ho, hn, hline⟩
    have hfeed : '\n' ∉ line := fun hmem => by cases ho.clean _ hmem
    obtain ⟨line', htrim, o', ho', hbefore⟩ := exists_breakLine h (hne hline) o ho
    refine ⟨line', o', ho', ?_, by rwa [htrim]⟩
    rw [hbefore, strayBreaks_before h o (hne hline) hfeed, Nat.add_zero, hn]

end Lines

end Text

namespace Policy

open Hcl Text

variable {name line cs : List Char} {label : String} {n : Nat}

/-! ## Secrets in a line -/

/-- **A place where a line gives a name a literal**: blanks may stand around the equals sign, and
the literal holds something, and neither quotes nor interpolations. -/
structure Assignment (name line : List Char) where
  before : List Char
  gap : List Char
  gap' : List Char
  literal : List Char
  after : List Char
  parts_eq : before ++ (name ++ gap ++ '=' :: gap' ++ '"' :: literal ++ '"' :: after) = line
  blank : ∀ c ∈ gap ++ gap', isBlank c = true
  literal_ne : literal ≠ []
  plain : ∀ c ∈ literal, c ≠ '"' ∧ c ≠ '$'

/-- **A line that gives a secret away**: it is no comment, nothing in it is harmless, and the label
is the first of the names of secrets to which it gives a literal. -/
structure GivesAway (line : List Char) (label : String) : Prop where
  noComment : ∀ start ∈ commentStarts, ¬ start.toList <+: line
  notHarmless : ∀ part ∈ harmlessParts, ¬ part.toList <:+: line
  first : ∃ before after, secretNames = before ++ label :: after ∧
    Nonempty (Assignment label.toList line) ∧
      ∀ other ∈ before, ¬ Nonempty (Assignment other.toList line)

theorem isSecretChar_iff {c : Char} : isSecretChar c = true ↔ c ≠ '"' ∧ c ≠ '$' := by
  rw [isSecretChar, Bool.and_eq_true, bne_iff_ne, bne_iff_ne]

/-- A character behind a stretch of a class ends it. -/
theorem dropWhile_append_cons {p : Char → Bool} {a rest : List Char} {c : Char}
    (ha : ∀ d ∈ a, p d = true) (hc : p c = false) : (a ++ c :: rest).dropWhile p = c :: rest := by
  rw [List.dropWhile_append_of_pos ha, List.dropWhile_cons_of_neg (by simp [hc])]

/-- What is written as a literal is found to begin here. -/
theorem startsLiteral_append {gap gap' literal : List Char}
    (hblank : ∀ c ∈ gap ++ gap', isBlank c = true) (hne : literal ≠ [])
    (hplain : ∀ c ∈ literal, c ≠ '"' ∧ c ≠ '$') (after : List Char) :
    startsLiteral (gap ++ '=' :: gap' ++ '"' :: literal ++ '"' :: after) = true := by
  rw [List.forall_mem_append] at hblank
  have hliteral : ∀ c ∈ literal, isSecretChar c = true :=
    fun c hc => isSecretChar_iff.2 (hplain c hc)
  have htake : (literal ++ '"' :: after).takeWhile isSecretChar = literal := by
    rw [List.takeWhile_append_of_pos hliteral, List.takeWhile_cons_of_neg (by decide),
      List.append_nil]
  have hgap : (gap ++ '=' :: gap' ++ '"' :: literal ++ '"' :: after).dropWhile isBlank =
      '=' :: (gap' ++ '"' :: (literal ++ '"' :: after)) := by
    rw [List.append_assoc, List.append_assoc, List.cons_append, List.cons_append,
      dropWhile_append_cons hblank.1 (by decide)]
  have hgap' : (gap' ++ '"' :: (literal ++ '"' :: after)).dropWhile isBlank =
      '"' :: (literal ++ '"' :: after) :=
    dropWhile_append_cons hblank.2 (by decide)
  have hdrop : (literal ++ '"' :: after).dropWhile isSecretChar = '"' :: after :=
    dropWhile_append_cons hliteral (by decide)
  obtain ⟨d, ds, rfl⟩ := List.exists_cons_of_ne_nil hne
  simp only [startsLiteral, hgap, hgap', htake, hdrop]

/-- A literal begins here. -/
theorem startsLiteral_iff : startsLiteral cs = true ↔
    ∃ gap gap' literal after, gap ++ '=' :: gap' ++ '"' :: literal ++ '"' :: after = cs ∧
      (∀ c ∈ gap ++ gap', isBlank c = true) ∧ literal ≠ [] ∧ ∀ c ∈ literal, c ≠ '"' ∧ c ≠ '$' := by
  constructor
  · fun_cases startsLiteral cs with
    | case1 afterSign hsign afterQuote hquote d ds after hafter hliteral =>
      -- Each part is what the search drops or takes at its place.
      intro _
      have hgap := List.takeWhile_append_dropWhile (p := isBlank) (l := cs)
      have hgap' := List.takeWhile_append_dropWhile (p := isBlank) (l := afterSign)
      have hrest := List.takeWhile_append_dropWhile (p := isSecretChar) (l := afterQuote)
      rw [hsign] at hgap
      rw [hquote] at hgap'
      rw [hliteral, hafter] at hrest
      refine ⟨cs.takeWhile isBlank, afterSign.takeWhile isBlank, d :: ds, after, ?_, ?_, nofun, ?_⟩
      · rw [List.append_assoc, List.append_assoc, List.cons_append, List.cons_append, hrest, hgap',
          hgap]
      · exact List.forall_mem_append.2
          ⟨fun c hc => List.mem_takeWhile_imp hc, fun c hc => List.mem_takeWhile_imp hc⟩
      · rw [← hliteral]
        exact fun c hc => isSecretChar_iff.1 (List.mem_takeWhile_imp hc)
    | case2 | case3 | case4 => nofun
  · rintro ⟨gap, gap', literal, after, rfl, hblank, hne, hplain⟩
    exact startsLiteral_append hblank hne hplain after

/-- A line gives a name a literal exactly where the search finds it. -/
theorem assignsLiteral_iff : assignsLiteral name line = true ↔ Nonempty (Assignment name line) := by
  induction line with
  | nil =>
    refine iff_of_false Bool.false_ne_true ?_
    rintro ⟨a⟩
    have hnil := a.parts_eq
    simp at hnil
  | cons c line ih =>
    rw [assignsLiteral, Bool.or_eq_true, Bool.and_eq_true, List.isPrefixOf_iff_prefix, ih,
      startsLiteral_iff]
    constructor
    · rintro (⟨⟨rest, hrest⟩, gap, gap', literal, after, hparts, hblank, hne, hplain⟩ | h)
      · rw [← hrest, List.drop_left] at hparts
        refine ⟨⟨[], gap, gap', literal, after, ?_, hblank, hne, hplain⟩⟩
        rw [← hrest, ← hparts]
        simp
      · obtain ⟨a⟩ := h
        exact ⟨{ a with before := c :: a.before, parts_eq := by simp [← a.parts_eq] }⟩
    · rintro ⟨⟨before, gap, gap', literal, after, hparts, hblank, hne, hplain⟩⟩
      cases before with
      | nil =>
        left
        have hline :
            name ++ (gap ++ '=' :: gap' ++ '"' :: literal ++ '"' :: after) = c :: line := by
          simpa using hparts
        refine ⟨⟨_, hline⟩, gap, gap', literal, after, ?_, hblank, hne, hplain⟩
        rw [← hline, List.drop_left]
      | cons d before =>
        obtain ⟨rfl, htail⟩ := List.cons.inj hparts
        exact .inr ⟨⟨before, gap, gap', literal, after, htail, hblank, hne, hplain⟩⟩

theorem isPart_iff {part : List Char} : isPart part line = true ↔ part <:+: line := by
  induction line with
  | nil => rw [isPart, List.isEmpty_iff, List.infix_nil]
  | cons c line ih =>
    rw [isPart, Bool.or_eq_true, List.isPrefixOf_iff_prefix, ih, List.infix_cons_iff]

theorem isSuspect_iff : isSuspect line = true ↔
    (∀ start ∈ commentStarts, ¬ start.toList <+: line) ∧
      ∀ part ∈ harmlessParts, ¬ part.toList <:+: line := by
  simp only [isSuspect, Bool.and_eq_true, Bool.not_eq_true', List.any_eq_false, startsWith,
    List.isPrefixOf_iff_prefix, isPart_iff]

/-- **What the search finds in a line.** -/
theorem secretLabel?_eq_some_iff : secretLabel? line = some label ↔ GivesAway line label := by
  rw [secretLabel?]
  constructor
  · intro h
    split at h
    · rename_i hsuspect
      obtain ⟨hcomment, hharmless⟩ := isSuspect_iff.1 hsuspect
      obtain ⟨hlabel, before, after, hnames, hbefore⟩ := List.find?_eq_some_iff_append.1 h
      refine ⟨hcomment, hharmless, before, after, hnames, assignsLiteral_iff.1 hlabel, ?_⟩
      intro other hother
      rw [← assignsLiteral_iff]
      simpa using hbefore other hother
    · cases h
  · rintro ⟨hcomment, hharmless, before, after, hnames, hlabel, hbefore⟩
    rw [if_pos (isSuspect_iff.2 ⟨hcomment, hharmless⟩), List.find?_eq_some_iff_append]
    refine ⟨assignsLiteral_iff.2 hlabel, before, after, hnames, ?_⟩
    intro other hother
    have hnone := hbefore other hother
    rw [← assignsLiteral_iff] at hnone
    simpa using hnone

/-- Nothing is given away by a line with nothing in it. -/
theorem not_givesAway_nil : ¬ GivesAway [] label := by
  rintro ⟨-, -, before, after, -, ⟨a⟩, -⟩
  have hnil := a.parts_eq
  simp at hnil

/-! ## Findings -/

/-- The secrets of numbered lines. -/
def secretsOf (numbered : List (List Char × Nat)) : List (Nat × String) :=
  numbered.filterMap fun l => (secretLabel? (trim l.1)).map (l.2, ·)

theorem secretFindings_eq (n : Nat) (lines : List (List Char)) :
    secretFindings n lines =
      (secretsOf (lines.zipIdx n)).map fun f => secretFinding f.1 f.2 := by
  induction lines generalizing n with
  | nil => rfl
  | cons line lines ih =>
    rw [secretFindings, List.zipIdx_cons, secretsOf, List.filterMap_cons, ← secretsOf]
    cases secretLabel? (trim line) with
    | none => exact ih (n + 1)
    | some label => exact congrArg (secretFinding n label :: ·) (ih (n + 1))

theorem mem_secretsOf_iff {numbered : List (List Char × Nat)} :
    (n, label) ∈ secretsOf numbered ↔
      ∃ line, (line, n) ∈ numbered ∧ GivesAway (trim line) label := by
  rw [secretsOf, List.mem_filterMap]
  constructor
  · rintro ⟨⟨line, m⟩, hmem, hlabel⟩
    obtain ⟨other, hother, heq⟩ := Option.map_eq_some_iff.1 hlabel
    obtain ⟨rfl, rfl⟩ := Prod.mk.inj heq
    exact ⟨line, hmem, secretLabel?_eq_some_iff.1 hother⟩
  · rintro ⟨line, hmem, haway⟩
    exact ⟨(line, n), hmem, by rw [secretLabel?_eq_some_iff.2 haway]; rfl⟩

/-- No two secrets stand in one line. -/
theorem pairwise_secretsOf (n : Nat) (lines : List (List Char)) :
    (secretsOf (lines.zipIdx n)).Pairwise fun f g => f.1 < g.1 := by
  have hnumbers : (lines.zipIdx n).Pairwise fun l m => l.2 < m.2 := by
    have hmap := (List.zipIdx_map_snd n lines).symm ▸ List.pairwise_lt_range'
    exact List.pairwise_map.1 hmap
  refine hnumbers.filterMap _ fun l m hlm f hf g hg => ?_
  obtain ⟨_, -, rfl⟩ := Option.map_eq_some_iff.1 hf
  obtain ⟨_, -, rfl⟩ := Option.map_eq_some_iff.1 hg
  exact hlm

/-- **Which secrets are reported.** There is one finding for each line of the search that gives a
secret away, in the order of the lines, and it tells the first kind of secret in the line. The
number that it gives is the reader's number of the line, and one more for each stray break before
it. So if no break is stray, there is one finding for each line of the reader that gives a secret
away, under the reader's number of the line. -/
theorem secrets_reported (s : Subject) :
    ∃ found : List (Nat × String),
      noSecrets.check s = .ok (found.map fun f => secretFinding f.1 f.2) ∧
      found.Pairwise (fun f g => f.1 < g.1) ∧
      (∀ n label, (n, label) ∈ found ↔
        ∃ line, ∃ o : Occurrence line s.text.toList, o.Between isLineBreak ∧
          n = 1 + (lineFeeds o.before + strayBreaks o.before) ∧ GivesAway (trim line) label) ∧
      (strayBreaks s.text.toList = 0 → ∀ n label, (n, label) ∈ found ↔
        ∃ line, ∃ o : Occurrence line s.text.toList, o.Between (· == '\n') ∧
          n = 1 + lineFeeds o.before ∧ GivesAway (trim line) label) := by
  have hmem (n : Nat) (label : String) :
      (n, label) ∈ secretsOf ((plainLines s.text.toList).zipIdx 1) ↔
        ∃ line, ∃ o : Occurrence line s.text.toList, o.Between isLineBreak ∧
          n = 1 + (lineFeeds o.before + strayBreaks o.before) ∧ GivesAway (trim line) label := by
    rw [mem_secretsOf_iff]
    refine exists_congr fun line => ?_
    have hne (haway : GivesAway (trim line) label) : line ≠ [] := by
      rintro rfl
      exact not_givesAway_nil haway
    constructor
    · rintro ⟨hline, haway⟩
      obtain ⟨o, ho, hn⟩ := (mem_numbered_iff (hne haway)).1 hline
      exact ⟨o, ho, hn, haway⟩
    · rintro ⟨o, ho, hn, haway⟩
      exact ⟨(mem_numbered_iff (hne haway)).2 ⟨o, ho, hn⟩, haway⟩
  refine ⟨secretsOf ((plainLines s.text.toList).zipIdx 1), ?_, pairwise_secretsOf 1 _, hmem, ?_⟩
  · exact congrArg Except.ok (secretFindings_eq 1 _)
  · intro hstrays n label
    rw [hmem]
    exact exists_line_iff hstrays (P := fun line => GivesAway line label) not_givesAway_nil

/-- A text whose lines end in carriage returns and line feeds. -/
def breaksSample : String :=
  "locals \x7b\r\n  password = \"hunter22\"\r\n\x7d\r\n"

theorem secrets_reported_sample :
    strayBreaks breaksSample.toList = 0 ∧ ∃ found : List (Nat × String),
      noSecrets.check (subject breaksSample "aws" none) =
        .ok (found.map fun f => secretFinding f.1 f.2) ∧
      ((2, "password") ∈ found ↔
        ∃ line, ∃ o : Occurrence line breaksSample.toList, o.Between (· == '\n') ∧
          2 = 1 + lineFeeds o.before ∧ GivesAway (trim line) "password") := by
  have hstrays : strayBreaks breaksSample.toList = 0 := by decide
  obtain ⟨found, hcheck, -, -, hlines⟩ := secrets_reported (subject breaksSample "aws" none)
  exact ⟨hstrays, found, hcheck, hlines hstrays 2 "password"⟩

-- A vertical tab in a literal hides one secret and moves the next one down.
example : secretsOf ((plainLines
    "password = \"hun\x0bter22\"\ntoken = \"hunter33\"\n".toList).zipIdx 1) = [(3, "token")] := by
  decide

end Policy

end Groundplan
