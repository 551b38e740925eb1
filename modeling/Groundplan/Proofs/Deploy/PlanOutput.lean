import Groundplan.Deploy.PlanOutput
import Groundplan.Proofs.Number.Integer
import Groundplan.Proofs.Text.Bytes

/-!
# The counts in the output of a plan

A summary is a word and three counts, each of them digits with blanks around them in front of what
is counted. The counts of a plan are those of the first summary in its output. No summary reaches
from a text into the line that follows, since the letter that the line begins with stands nowhere
else in a summary; so what is put out in front of the line matters only if it holds a whole summary
itself.

## Main definitions

* `IsCount`, `IsSummary`: what a count and a summary look like
* `HasSummary`: a text that a summary is part of
* `summaryCounts`, `summaryLine`: how the tool sums up a plan

## Main results

* `summaryDigits?_eq_some_iff`, `findSummary?_eq_none_iff`: the search finds summaries, and finds
  them all
* `findSummary?_append`: **a text without a summary is passed over**
* `planSummary_of_line`: what is read from an output that is cut behind the line or later
-/

namespace Groundplan.Deploy

open Text

variable {part digits : String} {cs rest form : List Char} {add change destroy : String}

/-! ## Counts -/

/-- **A count**: digits with blanks around them, and a part behind. -/
structure IsCount (part digits : String) (cs : List Char) : Prop where
  ne_nil : digits.toList ≠ []
  decimal : ∀ c ∈ digits.toList, isDecimal c = true
  spaced : ∃ before after, (∀ c ∈ before, isBlank c = true) ∧ (∀ c ∈ after, isBlank c = true) ∧
    cs = before ++ (digits.toList ++ (after ++ part.toList))

theorem dropStart?_eq_some_iff : dropStart? part cs = some rest ↔ cs = part.toList ++ rest := by
  rw [dropStart?, Option.ite_none_right_eq_some, List.isPrefixOf_iff_prefix, Option.some_inj]
  constructor
  · rintro ⟨⟨tail, rfl⟩, rfl⟩
    rw [List.drop_left]
  · rintro rfl
    exact ⟨List.prefix_append .., List.drop_left⟩

/-- No decimal digit is a blank. -/
theorem isBlank_eq_false_of_isDecimal {c : Char} (h : isDecimal c = true) : isBlank c = false :=
  isBlank_eq_false_of_isDigit (by rw [isDigit, h, Bool.true_or])

theorem isDecimal_eq_false_of_isBlank {c : Char} (h : isBlank c = true) : isDecimal c = false := by
  by_contra hc
  rw [isBlank_eq_false_of_isDecimal (by simpa using hc)] at h
  cases h

/-- A count at the start of a text is read, if its part begins with this letter. -/
theorem countedPart?_append (hpart : part.toList.head? = some 't') (h : IsCount part digits cs)
    (rest : List Char) : countedPart? part (cs ++ rest) = some (digits, rest) := by
  obtain ⟨hne, hdecimal, before, after, hbefore, hafter, rfl⟩ := h
  have hletter : ∀ c ∈ (part.toList ++ rest).head?, isBlank c = false ∧ isDecimal c = false := by
    intro c hc
    rw [List.head?_append, hpart] at hc
    cases hc
    exact ⟨by decide, by decide⟩
  -- The blanks end at the first digit, the digits at a blank or at the letter.
  have hdigit : ∀ c ∈ (digits.toList ++ (after ++ (part.toList ++ rest))).head?,
      isBlank c = false := by
    intro c hc
    rw [List.head?_append_of_ne_nil _ hne] at hc
    exact isBlank_eq_false_of_isDecimal (hdecimal c (List.mem_of_mem_head? hc))
  have hend : ∀ c ∈ (after ++ (part.toList ++ rest)).head?, isDecimal c = false := by
    cases after with
    | nil => exact fun c hc => (hletter c hc).2
    | cons d after =>
      rintro c ⟨⟩
      exact isDecimal_eq_false_of_isBlank (hafter d List.mem_cons_self)
  have htake : (digits.toList ++ (after ++ (part.toList ++ rest))).takeWhile isDecimal =
      digits.toList := by
    rw [List.takeWhile_append_of_pos hdecimal, takeWhile_eq_nil hend, List.append_nil]
  rw [List.append_assoc, List.append_assoc, List.append_assoc, countedPart?]
  rw [List.dropWhile_append_of_pos hbefore, dropWhile_eq_self hdigit, htake]
  split
  · rename_i hnil
    exact absurd hnil hne
  · rw [List.drop_left, List.dropWhile_append_of_pos hafter,
      dropWhile_eq_self fun c hc => (hletter c hc).1, dropStart?_eq_some_iff.2 rfl, Option.map_some,
      String.ofList_toList]

/-- What is read is a count. -/
theorem isCount_of_countedPart? (h : countedPart? part cs = some (digits, rest)) :
    ∃ xs, IsCount part digits xs ∧ cs = xs ++ rest := by
  rw [countedPart?] at h
  split at h
  · cases h
  · rename_i ds hne
    obtain ⟨tail, htail, heq⟩ := Option.map_eq_some_iff.1 h
    obtain ⟨rfl, rfl⟩ := Prod.mk.inj heq
    rw [dropStart?_eq_some_iff] at htail
    -- Blanks, digits, blanks and the part are put together again.
    have hcs : cs.takeWhile isBlank ++ cs.dropWhile isBlank = cs := List.takeWhile_append_dropWhile
    generalize cs.dropWhile isBlank = behind at hne htail hcs ⊢
    have hdecimal : ∀ c ∈ behind.takeWhile isDecimal, isDecimal c = true :=
      fun c => List.mem_takeWhile_imp
    have hbehind := List.prefix_iff_eq_append.1 (List.takeWhile_prefix isDecimal (l := behind))
    generalize behind.takeWhile isDecimal = ds at hne htail hdecimal hbehind ⊢
    have hlast : (behind.drop ds.length).takeWhile isBlank ++ (part.toList ++ tail) =
        behind.drop ds.length := by
      rw [← htail, List.takeWhile_append_dropWhile]
    refine ⟨_, ⟨by simpa using hne, by simpa using hdecimal, cs.takeWhile isBlank,
      (behind.drop ds.length).takeWhile isBlank, fun c => List.mem_takeWhile_imp,
      fun c => List.mem_takeWhile_imp, rfl⟩, ?_⟩
    simp only [List.append_assoc, String.toList_ofList]
    rw [hlast, hbehind, hcs]

/-- The letter that a summary begins with is in no count. -/
theorem IsCount.notMem (h : IsCount part digits cs) (hpart : 'P' ∉ part.toList) : 'P' ∉ cs := by
  obtain ⟨-, hdecimal, before, after, hbefore, hafter, rfl⟩ := h
  have hblank : isBlank 'P' ≠ true := by decide
  have hdigit : isDecimal 'P' ≠ true := by decide
  simp only [List.mem_append, not_or]
  exact ⟨fun hc => hblank (hbefore _ hc), fun hc => hdigit (hdecimal _ hc),
    fun hc => hblank (hafter _ hc), hpart⟩

/-! ## Summaries -/

/-- **A summary**, with the digits of its counts. -/
def IsSummary : String × String × String → List Char → Prop
  | (add, change, destroy), form => ∃ xs ys zs, IsCount "to add," add xs ∧
      IsCount "to change," change ys ∧ IsCount "to destroy" destroy zs ∧
      form = "Plan:".toList ++ (xs ++ (ys ++ zs))

/-- **The counts that are read** from the start of a text are those of a summary there. -/
theorem summaryDigits?_eq_some_iff {counts : String × String × String} :
    summaryDigits? cs = some counts ↔ ∃ form rest, IsSummary counts form ∧ cs = form ++ rest := by
  obtain ⟨add, change, destroy⟩ := counts
  rw [summaryDigits?]
  constructor
  · intro h
    obtain ⟨cs₁, hword, h⟩ := Option.bind_eq_some_iff.1 h
    obtain ⟨⟨add', cs₂⟩, hadd, h⟩ := Option.bind_eq_some_iff.1 h
    obtain ⟨⟨change', cs₃⟩, hchange, h⟩ := Option.bind_eq_some_iff.1 h
    obtain ⟨⟨destroy', rest⟩, hdestroy, h⟩ := Option.bind_eq_some_iff.1 h
    cases h
    obtain rfl := dropStart?_eq_some_iff.1 hword
    obtain ⟨xs, hxs, rfl⟩ := isCount_of_countedPart? hadd
    obtain ⟨ys, hys, rfl⟩ := isCount_of_countedPart? hchange
    obtain ⟨zs, hzs, rfl⟩ := isCount_of_countedPart? hdestroy
    exact ⟨_, rest, ⟨xs, ys, zs, hxs, hys, hzs, rfl⟩, by simp only [List.append_assoc]⟩
  · rintro ⟨_, rest, ⟨xs, ys, zs, hxs, hys, hzs, rfl⟩, rfl⟩
    rw [List.append_assoc, List.append_assoc, List.append_assoc, dropStart?_eq_some_iff.2 rfl]
    show (countedPart? "to add," (xs ++ _)).bind _ = _
    rw [countedPart?_append (by decide) hxs]
    show (countedPart? "to change," (ys ++ _)).bind _ = _
    rw [countedPart?_append (by decide) hys]
    show (countedPart? "to destroy" (zs ++ _)).bind _ = _
    rw [countedPart?_append (by decide) hzs]
    rfl

/-- The letter that a summary begins with stands nowhere else in it. -/
theorem IsSummary.eq_cons {counts : String × String × String} (h : IsSummary counts form) :
    ∃ tail, form = 'P' :: tail ∧ 'P' ∉ tail := by
  obtain ⟨xs, ys, zs, hxs, hys, hzs, rfl⟩ := h
  have hword : 'P' ∉ "lan:".toList := by decide
  refine ⟨"lan:".toList ++ (xs ++ (ys ++ zs)), rfl, ?_⟩
  simp only [List.mem_append, not_or]
  exact ⟨hword, hxs.notMem (by decide), hys.notMem (by decide), hzs.notMem (by decide)⟩

/-- A text that a summary is part of. -/
def HasSummary (cs : List Char) : Prop :=
  ∃ counts form, IsSummary counts form ∧ form <:+: cs

/-- **The search finds a summary where there is one.** -/
theorem findSummary?_eq_none_iff : findSummary? cs = none ↔ ¬ HasSummary cs := by
  rw [HasSummary]
  induction cs with
  | nil =>
    refine iff_of_true rfl ?_
    rintro ⟨counts, form, hform, hpart⟩
    obtain rfl := List.infix_nil.1 hpart
    obtain ⟨_, h, -⟩ := hform.eq_cons
    cases h
  | cons c cs ih =>
    rw [findSummary?]
    cases h : summaryDigits? (c :: cs) with
    | some counts =>
      obtain ⟨form, rest, hform, heq⟩ := summaryDigits?_eq_some_iff.1 h
      exact iff_of_false nofun fun hnone => hnone ⟨counts, form, hform, [], rest, heq.symm⟩
    | none =>
      -- A summary begins with the first character, or is part of the other ones.
      dsimp only
      rw [ih, not_iff_not]
      refine exists_congr fun counts => exists_congr fun form => and_congr_right fun hform => ?_
      rw [List.infix_cons_iff, or_iff_right]
      rintro ⟨rest, hrest⟩
      rw [summaryDigits?_eq_some_iff.2 ⟨form, rest, hform, hrest.symm⟩] at h
      cases h

/-- **A text without a summary is passed over** if the letter follows that a summary begins with. -/
theorem findSummary?_append (h : ¬ HasSummary cs) (rest : List Char) :
    findSummary? (cs ++ 'P' :: rest) = findSummary? ('P' :: rest) := by
  induction cs with
  | nil => rfl
  | cons c cs ih =>
    have hcs : ¬ HasSummary cs := fun ⟨counts, form, hform, hpart⟩ =>
      h ⟨counts, form, hform, hpart.trans (List.suffix_cons c cs).isInfix⟩
    have hnone : summaryDigits? (c :: (cs ++ 'P' :: rest)) = none := by
      by_contra hsome
      obtain ⟨counts, hcounts⟩ := Option.ne_none_iff_exists'.1 hsome
      obtain ⟨form, behind, hform, heq⟩ := summaryDigits?_eq_some_iff.1 hcounts
      obtain ⟨tail, rfl, hletter⟩ := hform.eq_cons
      -- A summary that began here would end in front of the letter.
      obtain ⟨rfl, htail⟩ : c = 'P' ∧ cs ++ 'P' :: rest = tail ++ behind := List.cons.inj heq
      rcases List.append_eq_append_iff.1 htail with ⟨more, rfl, hmore⟩ | ⟨more, rfl, -⟩
      · cases more with
        | nil => exact h ⟨counts, _, hform, by simp⟩
        | cons d more =>
          obtain ⟨rfl, -⟩ := List.cons.inj hmore
          exact hletter (by simp)
      · exact h ⟨counts, _, hform, [], more, rfl⟩
    rw [List.cons_append, findSummary?, hnone]
    exact ih hcs

/-! ## The line of the tool -/

variable {a b c : Nat}

/-- The counts as the tool puts them out. -/
def summaryCounts (a b c : Nat) : String :=
  "Plan: " ++ toString a ++ " to add, " ++ toString b ++ " to change, " ++ toString c ++
    " to destroy"

/-- **The line in which the tool sums up a plan.** -/
def summaryLine (a b c : Nat) : String :=
  summaryCounts a b c ++ "."

/-- A natural in decimal digits, between two blanks. -/
theorem isCount_toString (part : String) (n : Nat) :
    IsCount part (toString n) (' ' :: ((toString n).toList ++ ' ' :: part.toList)) where
  ne_nil := by
    rw [Nat.toString_eq_repr, Nat.toList_repr]
    exact Nat.toDigits_ne_nil
  decimal d hd := by
    rw [Nat.toString_eq_repr, Nat.toList_repr] at hd
    exact isDecimal_of_mem_toDigits hd
  spaced := ⟨[' '], [' '], List.forall_mem_singleton.2 rfl, List.forall_mem_singleton.2 rfl, rfl⟩

theorem isSummary_counts (a b c : Nat) :
    IsSummary (toString a, toString b, toString c) (summaryCounts a b c).toList := by
  refine ⟨_, _, _, isCount_toString _ a, isCount_toString _ b, isCount_toString _ c, ?_⟩
  simp [summaryCounts]

/-- **The counts of a line** behind a text without a summary, whatever follows. -/
theorem planSummary_of_line {output : String} (ha : IsShort a) (hb : IsShort b) (hc : IsShort c)
    (hbefore : ¬ HasSummary cs)
    (houtput : output.toList = cs ++ ((summaryCounts a b c).toList ++ rest)) :
    planSummary output = .ok ⟨a, b, c⟩ := by
  have hsummary := isSummary_counts a b c
  obtain ⟨tail, htail, -⟩ := hsummary.eq_cons
  have hfound : findSummary? output.toList = some (toString a, toString b, toString c) := by
    have hread : summaryDigits? ('P' :: (tail ++ rest)) = some _ :=
      summaryDigits?_eq_some_iff.2 ⟨_, rest, hsummary, by rw [htail, List.cons_append]⟩
    rw [houtput, htail, List.cons_append, findSummary?_append hbefore, findSummary?, hread]
  rw [planSummary, hfound]
  dsimp only
  rw [integerOf_toString ha, integerOf_toString hb, integerOf_toString hc]
  rfl

end Groundplan.Deploy
