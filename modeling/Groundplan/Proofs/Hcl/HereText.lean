import Groundplan.Proofs.Text.Classes
import Groundplan.Proofs.Hcl.Literal

/-!
# Heredocs

A body of lines, written as a heredoc under a marker that none of them strips to, reads as itself.

## Main definitions

* `HereText`: lines and a marker for them
* `HereText.source`: the heredoc that holds the lines

## Main results

* `HereText.heredoc?_source`: the heredoc stands for the lines and ends at its own marker
-/

namespace Groundplan.Hcl

open Text

/-- Lines that hold no line breaks of their own, and a marker that none of them strips to. -/
structure HereText where
  head : Char
  tail : List Char
  lines : List (List Char)
  head_isNameStart : isNameStart head = true
  tail_isWord : ∀ c ∈ tail, isWord c = true
  unbroken : ∀ line ∈ lines, '\n' ∉ line ∧ '\r' ∉ line
  unmarked : ∀ line ∈ lines, trim line ≠ head :: tail

namespace HereText

/-- The marker that ends the body. -/
def marker (d : HereText) : List Char :=
  d.head :: d.tail

/-- The heredoc that holds the lines, up to its marker. -/
def source (d : HereText) : List Char :=
  '<' :: '<' :: (d.marker ++ '\n' :: (d.lines.flatMap (· ++ ['\n']) ++ d.marker))

/-- The body as one text. -/
def body (d : HereText) : String :=
  String.ofList (joinLines d.lines)

variable (d : HereText)

theorem isWord_of_mem_marker {c : Char} (h : c ∈ d.marker) : isWord c = true := by
  rcases List.mem_cons.1 h with rfl | h
  · exact isWord_of_isNameStart d.head_isNameStart
  · exact d.tail_isWord c h

theorem unbroken_marker : '\n' ∉ d.marker ∧ '\r' ∉ d.marker :=
  ⟨fun h => absurd (d.isWord_of_mem_marker h) (by decide),
    fun h => absurd (d.isWord_of_mem_marker h) (by decide)⟩

theorem trim_marker : trim d.marker = d.marker := by
  refine trim_eq_self (fun c hc => ?_) fun c hc => ?_
  · exact isBlank_eq_false_of_isWord (d.isWord_of_mem_marker (List.mem_of_mem_head? hc))
  · exact isBlank_eq_false_of_isWord (d.isWord_of_mem_marker (List.mem_of_mem_getLast? hc))

end HereText

/-! ## Reading lines -/

/-- A line without line breaks is the text up to the next line feed. -/
theorem takeWhile_inLine {line : List Char} (h : '\n' ∉ line) (rest : List Char) :
    (line ++ '\n' :: rest).takeWhile inLine = line := by
  rw [List.takeWhile_append_of_pos, List.takeWhile_cons_of_neg (by decide), List.append_nil]
  exact fun c hc => bne_iff_ne.2 (ne_of_mem_of_not_mem hc h)

theorem toLineEnd_line {line : List Char} (h : '\n' ∉ line) (rest : List Char) :
    toLineEnd (line ++ '\n' :: rest) = '\n' :: rest := by
  rw [toLineEnd, List.dropWhile_append_of_pos, List.dropWhile_cons_of_neg (by decide)]
  exact fun c hc => bne_iff_ne.2 (ne_of_mem_of_not_mem hc h)

/-- One line of a heredoc is kept as it is, or ends the heredoc. -/
theorem heredocLines_line (marker : List Char) (done : List (List Char)) {line : List Char}
    (h : '\n' ∉ line ∧ '\r' ∉ line) (rest : List Char) :
    heredocLines marker done (line ++ '\n' :: rest) =
      if trim line == marker then (done.reverse, '\n' :: rest)
      else heredocLines marker (line :: done) rest := by
  -- No carriage return is cut off the end of the line.
  have hend : trimEndWith (· == '\r') line = line := by
    rw [trimEndWith, dropWhile_eq_self, List.reverse_reverse]
    intro c hc
    rw [List.head?_reverse] at hc
    exact beq_eq_false_iff_ne.2 (ne_of_mem_of_not_mem (List.mem_of_mem_getLast? hc) h.2)
  have htake := takeWhile_inLine h.1 rest
  have hdrop := toLineEnd_line h.1 rest
  obtain ⟨c, cs, hcs⟩ : ∃ c cs, line ++ '\n' :: rest = c :: cs :=
    List.exists_cons_of_ne_nil (by simp)
  rw [hcs] at htake hdrop ⊢
  rw [heredocLines]
  simp only [htake, hend, nextLine, hdrop, List.drop_one, List.tail_cons]

/-- The lines before the marker are the lines of the heredoc. -/
theorem heredocLines_source {marker : List Char} (hmarker : '\n' ∉ marker ∧ '\r' ∉ marker)
    (htrim : trim marker = marker) {lines : List (List Char)}
    (hlines : ∀ line ∈ lines, '\n' ∉ line ∧ '\r' ∉ line)
    (hother : ∀ line ∈ lines, trim line ≠ marker) (done : List (List Char)) (rest : List Char) :
    heredocLines marker done (lines.flatMap (· ++ ['\n']) ++ (marker ++ '\n' :: rest)) =
      (done.reverse ++ lines, '\n' :: rest) := by
  induction lines generalizing done with
  | nil =>
    -- the marker is next, and ends the body
    rw [List.flatMap_nil, List.nil_append, heredocLines_line marker done hmarker, htrim]
    simp
  | cons line lines ih =>
    -- a line that is not the marker goes to the lines so far
    rw [List.forall_mem_cons] at hlines hother
    rw [List.flatMap_cons, List.append_assoc, List.append_assoc, List.singleton_append,
      heredocLines_line marker done hlines.1, if_neg (by simpa using hother.1),
      ih hlines.2 hother.2]
    simp

/-- **A heredoc stands for its lines and ends at its own marker.** -/
theorem HereText.heredoc?_source (d : HereText) (rest : List Char) :
    heredoc? (d.source ++ '\n' :: rest) = some ⟨joinLines d.lines, '\n' :: rest⟩ := by
  -- A hyphen after the angles would make it a heredoc of another kind.
  have hhyphen : d.head ≠ '-' := ne_of_class d.head_isNameStart (by decide)
  -- What is read from the marker on, whatever stands below it.
  have hfrom (more : List Char) : heredocFrom? false (d.marker ++ '\n' :: more) =
      some ⟨joinLines (heredocLines d.marker [] more).1, (heredocLines d.marker [] more).2⟩ := by
    have htake : (d.tail ++ '\n' :: more).takeWhile isWord = d.tail := by
      rw [List.takeWhile_append_of_pos d.tail_isWord, List.takeWhile_cons_of_neg (by decide),
        List.append_nil]
    have hdrop : ((d.tail ++ '\n' :: more).dropWhile isWord).dropWhile isSpacing =
        '\n' :: more := by
      rw [List.dropWhile_append_of_pos d.tail_isWord, List.dropWhile_cons_of_neg (by decide),
        List.dropWhile_cons_of_neg (by decide)]
    simp only [marker, List.cons_append, heredocFrom?, d.head_isNameStart, ↓reduceIte, hdrop,
      htake, afterOpening?, Bool.false_eq_true]
  have hsource : d.source ++ '\n' :: rest = '<' :: '<' :: (d.marker ++ '\n' ::
      (d.lines.flatMap (· ++ ['\n']) ++ (d.marker ++ '\n' :: rest))) := by
    simp [source]
  have hread : heredoc? (d.source ++ '\n' :: rest) = heredocFrom? false (d.marker ++ '\n' ::
      (d.lines.flatMap (· ++ ['\n']) ++ (d.marker ++ '\n' :: rest))) := by
    rw [hsource, heredoc?.eq_def]
    split
    · rename_i h
      simp [marker, hhyphen] at h
    · rename_i h
      simp only [List.cons.injEq, true_and] at h
      rw [h]
    · rename_i h
      exact absurd rfl (h _)
  rw [hread, hfrom, heredocLines_source d.unbroken_marker d.trim_marker d.unbroken d.unmarked]
  simp

end Groundplan.Hcl
