import Groundplan.Proofs.Patch.Hunks
import Groundplan.Proofs.Text.Classes

/-!
# Reading a patch

What a unified patch says to somebody who has the old text: two header lines, and hunks, each with a
line that gives its ranges in both texts and as many marked lines as these have. Nothing here knows
how a patch was made. A reader goes through the lines of the old text once, copies those before a
hunk and behind the last, and stops where a line is not what the patch says.

## Main definitions

* `Extent`, `extents?`: the ranges in the first line of a hunk
* `Progress`, `Progress.read`: **one line of a patch**, read at some place of the old text
* `applyLines?`: what the lines of a patch make of the lines of a text

## Main results

* `extents?_header`: the ranges of a hunk are read from its first line
* `foldlM_lines`, `foldlM_leads`, `foldlM_hunk`, `foldlM_shown`: reading a step, steps, a hunk and
  all hunks
* `applyLines?_patchLines`: **the lines of a patch make the new lines of the old**
-/

namespace Groundplan.Patch

open Text

/-! ## Ranges -/

/-- The natural that decimal digits stand for. -/
def natural? (cs : List Char) : Option Nat :=
  if !cs.isEmpty && cs.all Char.isDigit then some (digitsValue cs) else none

/-- A range of lines: how many lines stand before it, and how many it has. -/
structure Extent where
  before : Nat
  size : Nat
deriving DecidableEq, Repr

/-- The range with a first line and a size. An empty range names the line before it. -/
def Extent.of? (first size : Nat) : Option Extent :=
  if size = 0 then some ⟨first, 0⟩
  else if first = 0 then none
  else some ⟨first - 1, size⟩

/-- The range that a text stands for; without a size it is one line. -/
def extent? (cs : List Char) : Option Extent :=
  match splitOn ',' cs with
  | [first] => do Extent.of? (← natural? first) 1
  | [first, size] => do Extent.of? (← natural? first) (← natural? size)
  | _ => none

/-- The ranges in the old and the new text from the first line of a hunk. -/
def extents? (line : Line) : Option (Extent × Extent) :=
  match splitOn ' ' line with
  | [['@', '@'], '-' :: old, '+' :: new, ['@', '@', '\n']] => do
    return (← extent? old, ← extent? new)
  | _ => none

section Ranges

variable {sep : Char} {cs rest : List Char}

theorem natural?_toDigits (n : Nat) : natural? (Nat.toDigits 10 n) = some n := by
  have hall : (Nat.toDigits 10 n).all Char.isDigit = true :=
    List.all_eq_true.mpr fun c hc => isDigit_of_mem_toDigits hc
  rw [natural?, hall, digitsValue_toDigits]
  simp [Nat.toDigits_ne_nil]

/-- The text of a range, as it is written. -/
theorem toList_rangeText (start stop : Nat) :
    (rangeText start stop).toList =
      if stop - start = 1 then Nat.toDigits 10 (start + 1)
      else if stop - start = 0 then Nat.toDigits 10 start ++ [',', '0']
      else Nat.toDigits 10 (start + 1) ++ ',' :: Nat.toDigits 10 (stop - start) := by
  simp only [rangeText]
  split
  · rw [toList_toString]
  split
  · rw [String.toList_append, toList_toString]
    rfl
  · rw [String.toList_append, String.toList_append, toList_toString, toList_toString,
      List.append_assoc]
    rfl

/-- **A range is read from its text.** -/
theorem extent?_rangeText (start stop : Nat) :
    extent? (rangeText start stop).toList = some ⟨start, stop - start⟩ := by
  have hcomma (n : Nat) : ',' ∉ Nat.toDigits 10 n := notMem_toDigits (by decide) n
  rw [extent?, toList_rangeText]
  by_cases hone : stop - start = 1
  · rw [if_pos hone, splitOn_of_notMem (hcomma _)]
    simp [natural?_toDigits, Extent.of?, hone]
  rw [if_neg hone]
  by_cases hzero : stop - start = 0
  · rw [if_pos hzero, splitOn_append_cons (hcomma _), splitOn_of_notMem (by decide)]
    simp [natural?_toDigits, Extent.of?, hzero, show natural? ['0'] = some 0 by decide]
  · rw [if_neg hzero, splitOn_append_cons (hcomma _), splitOn_of_notMem (hcomma _)]
    simp [natural?_toDigits, Extent.of?, hzero]

theorem notMem_rangeText (h : sep.isDigit = false) (hcomma : sep ≠ ',') (start stop : Nat) :
    sep ∉ (rangeText start stop).toList := by
  have hdigits := notMem_toDigits h
  rw [toList_rangeText]
  split
  · exact hdigits _
  split
  · have hzero : sep ≠ '0' := by
      rintro rfl
      cases h
    simp [hdigits, hcomma, hzero]
  · simp [hdigits, hcomma]

end Ranges

/-! ## Lines of a patch -/

/-- A line without the line feed at its end. -/
def withoutFeed (line : Line) : Line :=
  if line.getLast? = some '\n' then line.dropLast else line

/-- How far a patch is read: how many lines of the old text are done, those that are not, the lines
of the new text so far, and how many lines of the open hunk are left in either text. -/
structure Progress where
  done : Nat
  rest : List Line
  made : List Line
  oldLeft : Nat
  newLeft : Nat
deriving DecidableEq, Repr

namespace Progress

/-- A hunk begins: the lines before it are copied, and have to be as many as the ranges say. -/
def enter (p : Progress) (old new : Extent) : Option Progress :=
  let copied := old.before - p.done
  if p.done ≤ old.before ∧ copied ≤ p.rest.length ∧ p.made.length + copied = new.before then
    some ⟨old.before, p.rest.drop copied, p.made ++ p.rest.take copied, old.size, new.size⟩
  else none

/-- The next line of the old text, which has to be a line of the patch; a line feed at the end of a
line may be missing in either. -/
def pass (p : Progress) (line : Line) : Option (Line × Progress) :=
  match p.rest, p.oldLeft with
  | l :: rest, left + 1 =>
    if withoutFeed line = withoutFeed l then
      some (l, { p with done := p.done + 1, rest := rest, oldLeft := left })
    else none
  | _, _ => none

/-- A line of the new text. -/
def add (p : Progress) (line : Line) : Option Progress :=
  match p.newLeft with
  | left + 1 => some { p with made := p.made ++ [line], newLeft := left }
  | 0 => none

/-- **One line of a patch**: a first line of a hunk when none is open, else a line with its mark. -/
def read (p : Progress) (line : Line) : Option Progress :=
  if p.oldLeft = 0 ∧ p.newLeft = 0 then do
    let (old, new) ← extents? line
    p.enter old new
  else
    match line with
    | ' ' :: line => do
      let (l, p) ← p.pass line
      p.add l
    | '-' :: line => do
      let (_, p) ← p.pass line
      return p
    | '+' :: line => p.add line
    | _ => none

/-- Behind the last hunk the rest of the old text is copied. -/
def finish (p : Progress) : Option (List Line) :=
  if p.oldLeft = 0 ∧ p.newLeft = 0 then some (p.made ++ p.rest) else none

end Progress

/-- **What the lines of a patch make of the lines of a text**, if the patch is one for the text. -/
def applyLines? (patch old : List Line) : Option (List Line) :=
  match patch with
  | before :: behind :: body =>
    if startsWith "--- ".toList before && startsWith "+++ ".toList behind then do
      (← body.foldlM Progress.read ⟨0, old, [], 0, 0⟩).finish
    else none
  | _ => none

/-! ## Reading marked lines -/

namespace Progress

variable {done a b : Nat} {rest made : List Line}

@[simp] theorem read_keep (line : Line) :
    read ⟨done, line :: rest, made, a + 1, b + 1⟩ (' ' :: line) =
      some ⟨done + 1, rest, made ++ [line], a, b⟩ := by
  simp [read, pass, add]

@[simp] theorem read_remove (line : Line) :
    read ⟨done, line :: rest, made, a + 1, b⟩ ('-' :: line) =
      some ⟨done + 1, rest, made, a, b⟩ := by
  simp [read, pass]

@[simp] theorem read_add (line : Line) :
    read ⟨done, rest, made, a, b + 1⟩ ('+' :: line) = some ⟨done, rest, made ++ [line], a, b⟩ := by
  simp [read, add]

theorem foldlM_keep (done : Nat) (made ls rest : List Line) (a b : Nat) :
    (ls.map (' ' :: ·)).foldlM read ⟨done, ls ++ rest, made, a + ls.length, b + ls.length⟩ =
      some ⟨done + ls.length, rest, made ++ ls, a, b⟩ := by
  induction ls generalizing done made with
  | nil => simp
  | cons l ls ih =>
    rw [List.map_cons, List.foldlM_cons, List.cons_append, List.length_cons, ← Nat.add_assoc,
      ← Nat.add_assoc, read_keep]
    simpa [Nat.add_assoc, Nat.add_comm 1] using ih (done + 1) (made ++ [l])

theorem foldlM_remove (done : Nat) (made ls rest : List Line) (a b : Nat) :
    (ls.map ('-' :: ·)).foldlM read ⟨done, ls ++ rest, made, a + ls.length, b⟩ =
      some ⟨done + ls.length, rest, made, a, b⟩ := by
  induction ls generalizing done with
  | nil => simp
  | cons l ls ih =>
    rw [List.map_cons, List.foldlM_cons, List.cons_append, List.length_cons, ← Nat.add_assoc,
      read_remove]
    simpa [Nat.add_assoc, Nat.add_comm 1] using ih (done + 1)

theorem foldlM_add (done : Nat) (made ls rest : List Line) (a b : Nat) :
    (ls.map ('+' :: ·)).foldlM read ⟨done, rest, made, a, b + ls.length⟩ =
      some ⟨done, rest, made ++ ls, a, b⟩ := by
  induction ls generalizing made with
  | nil => simp
  | cons l ls ih =>
    rw [List.map_cons, List.foldlM_cons, List.length_cons, ← Nat.add_assoc, read_add]
    simpa using ih (made ++ [l])

end Progress

/-! ## Reading steps and hunks -/

section Steps

variable {old new : List Line} {i j i' j' m n a b : Nat} {e : Edit} {es : List Edit}

/-- What is read when some lines of both texts are done. -/
def Progress.at (old new : List Line) (i j a b : Nat) : Progress :=
  ⟨i, old.drop i, new.take j, a, b⟩

/-- **Reading a step** leads from where it begins to where it ends. -/
theorem foldlM_lines (h : e.Fits old new) (a b : Nat) :
    (e.lines old new).foldlM Progress.read (.at old new e.oldFrom e.newFrom
      (a + (e.oldTo - e.oldFrom)) (b + (e.newTo - e.newFrom))) =
        some (.at old new e.oldTo e.newTo a b) := by
  have hold := length_slice (a := e.oldFrom) h.old_le_length
  have hnew := length_slice (a := e.newFrom) h.new_le_length
  have hdone : e.oldFrom + (e.oldTo - e.oldFrom) = e.oldTo := Nat.add_sub_cancel' h.old_le
  rw [Progress.at, ← slice_append_drop old h.old_le, Edit.lines]
  -- What is kept is passed over in both texts; a change removes lines and then adds others.
  split
  · rename_i hsame
    have hkeep := Progress.foldlM_keep e.oldFrom (new.take e.newFrom)
      (slice old e.oldFrom e.oldTo) (old.drop e.oldTo) a b
    rw [hold, hdone] at hkeep
    rw [← h.length_eq hsame, hkeep, h.same_lines hsame, take_append_slice h.new_le, Progress.at]
  · have hremove := Progress.foldlM_remove e.oldFrom (new.take e.newFrom)
      (slice old e.oldFrom e.oldTo) (old.drop e.oldTo) a (b + (e.newTo - e.newFrom))
    have hadd := Progress.foldlM_add e.oldTo (new.take e.newFrom)
      (slice new e.newFrom e.newTo) (old.drop e.oldTo) a b
    rw [hold, hdone] at hremove
    rw [hnew, take_append_slice h.new_le] at hadd
    rw [List.foldlM_append, hremove]
    exact hadd

theorem Leads.le (h : Leads old new i j es m n) : i ≤ m ∧ j ≤ n := by
  induction h with
  | nil => exact ⟨Nat.le_refl _, Nat.le_refl _⟩
  | cons fits _ ih => exact ⟨Nat.le_trans fits.old_le ih.1, Nat.le_trans fits.new_le ih.2⟩

/-- **Reading steps.** -/
theorem foldlM_leads (h : Leads old new i j es m n) (a b : Nat) :
    (es.flatMap (Edit.lines old new)).foldlM Progress.read
      (.at old new i j (a + (m - i)) (b + (n - j))) = some (.at old new m n a b) := by
  induction h with
  | nil i j => simp [pure]
  | @cons e es m n fits later ih =>
    obtain ⟨hm, hn⟩ := later.le
    have hold := fits.old_le
    have hnew := fits.new_le
    have hstep := foldlM_lines fits (a + (m - e.oldTo)) (b + (n - e.newTo))
    rw [show a + (m - e.oldTo) + (e.oldTo - e.oldFrom) = a + (m - e.oldFrom) by omega,
      show b + (n - e.newTo) + (e.newTo - e.newFrom) = b + (n - e.newFrom) by omega] at hstep
    rw [List.flatMap_cons, List.foldlM_append, hstep]
    exact ih

theorem Leads.head_eq (h : Leads old new i j (e :: es) m n) : e.oldFrom = i ∧ e.newFrom = j := by
  obtain ⟨-, hi, hj, -⟩ := Leads.cons_iff.mp h
  exact ⟨hi, hj⟩

theorem Leads.last_eq (h : Leads old new i j (es ++ [e]) m n) : e.oldTo = m ∧ e.newTo = n := by
  obtain ⟨_, _, -, hlast⟩ := h.of_append
  obtain ⟨-, -, -, hend⟩ := Leads.cons_iff.mp hlast
  exact Leads.nil_iff.mp hend

/-- **The ranges of a hunk** are read from its first line. -/
theorem extents?_header {h : Hunk} (hleads : Leads old new i j h m n) (hne : h ≠ []) :
    extents? (Hunk.header h) = some (⟨i, m - i⟩, ⟨j, n - j⟩) := by
  have hhead : (h.head?.map Edit.oldFrom).getD 0 = i ∧ (h.head?.map Edit.newFrom).getD 0 = j := by
    cases h with
    | nil => exact absurd rfl hne
    | cons e es => exact hleads.head_eq
  have hlast : (h.getLast?.map Edit.oldTo).getD 0 = m ∧ (h.getLast?.map Edit.newTo).getD 0 = n := by
    obtain ⟨es, e, rfl⟩ := List.eq_nil_or_concat h |>.resolve_left hne
    rw [List.concat_eq_append] at hleads ⊢
    rw [List.getLast?_concat]
    exact hleads.last_eq
  -- The line is cut at its three spaces, since there is none inside a range.
  have hblank (a b : Nat) : ' ' ∉ (rangeText a b).toList :=
    notMem_rangeText (by decide) (by decide) a b
  have hline : Hunk.header h = ['@', '@'] ++ ' ' :: (('-' :: (rangeText i m).toList) ++ ' ' ::
      (('+' :: (rangeText j n).toList) ++ ' ' :: ['@', '@', '\n'])) := by
    rw [Hunk.header, hhead.1, hhead.2, hlast.1, hlast.2]
    simp
  rw [extents?, hline, splitOn_append_cons (by decide), splitOn_append_cons (by simp [hblank]),
    splitOn_append_cons (by simp [hblank]), splitOn_of_notMem (by decide)]
  simp [extent?_rangeText]

/-- A hunk begins where the lines before it are the same. -/
theorem enter_at (hgap : Alike old new i j i' j') (a b : Nat) :
    (Progress.at old new i j 0 0).enter ⟨i', a⟩ ⟨j', b⟩ = some (.at old new i' j' a b) := by
  obtain ⟨hi, hi', hj, hj', hlength⟩ := hgap.bounds
  have hcopied : (old.drop i).take (i' - i) = slice new j j' := hgap.slice_eq
  have hrest : i' - i ≤ (old.drop i).length := by
    rw [List.length_drop]
    omega
  have hmade : (new.take j).length + (i' - i) = j' := by
    rw [List.length_take]
    omega
  unfold Progress.enter Progress.at
  dsimp only
  rw [if_pos ⟨hi, hrest, hmade⟩, hcopied, take_append_slice hj, List.drop_drop,
    Nat.add_sub_cancel' hi]

/-- Reading the first line of a hunk copies the lines before it. -/
theorem read_header {h : Hunk} (hgap : Alike old new i j i' j') (hleads : Leads old new i' j' h m n)
    (hne : h ≠ []) : (Progress.at old new i j 0 0).read (Hunk.header h) =
      some (.at old new i' j' (m - i') (n - j')) := by
  unfold Progress.read
  rw [if_pos ⟨rfl, rfl⟩, extents?_header hleads hne]
  exact enter_at hgap _ _

/-- **Reading a hunk** reads its steps after that. -/
theorem foldlM_hunk {h : Hunk} (hgap : Alike old new i j i' j') (hleads : Leads old new i' j' h m n)
    (hne : h ≠ []) :
    (Hunk.lines old new h).foldlM Progress.read (.at old new i j 0 0) =
      some (.at old new m n 0 0) := by
  have hsteps := foldlM_leads hleads 0 0
  rw [Nat.zero_add, Nat.zero_add] at hsteps
  rw [Hunk.lines, List.foldlM_cons, read_header hgap hleads hne]
  exact hsteps

/-- **Reading all hunks**: what is left behind them is the same. -/
theorem foldlM_shown {hs : List Hunk} (h : Shown old new i j hs) :
    ∃ m n, (hs.flatMap (Hunk.lines old new)).foldlM Progress.read (.at old new i j 0 0) =
      some (.at old new m n 0 0) ∧ old.drop m = new.drop n := by
  induction h with
  | @done i j rest => exact ⟨i, j, rfl, rest⟩
  | hunk gap leads nonempty _ _ _ ih =>
    obtain ⟨m, n, hlater, hrest⟩ := ih
    refine ⟨m, n, ?_, hrest⟩
    rw [List.flatMap_cons, List.foldlM_append, foldlM_hunk gap leads nonempty]
    exact hlater

theorem patchLines_eq (h : old ≠ new) :
    patchLines old new = fileLines ++ (hunks (edits old new)).flatMap (Hunk.lines old new) := by
  rw [patchLines]
  split
  · rename_i hnil
    exact absurd (hunks_eq_nil_iff.mp hnil) h
  · rfl

/-- Behind its first two lines, a patch is read from the beginning of the old text. -/
theorem applyLines?_fileLines (body old : List Line) :
    applyLines? (fileLines ++ body) old =
      (body.foldlM Progress.read (.at old new 0 0 0 0)).bind Progress.finish :=
  rfl

/-- **The lines of a patch make the new lines of the old**, whatever the lines are. -/
theorem applyLines?_patchLines (h : old ≠ new) :
    applyLines? (patchLines old new) old = some new := by
  obtain ⟨m, n, hread, hrest⟩ := foldlM_shown (shown_hunks old new)
  rw [patchLines_eq h, applyLines?_fileLines, hread, Option.bind_some, Progress.finish,
    if_pos ⟨rfl, rfl⟩, Progress.at, hrest, List.take_append_drop]

end Steps

end Groundplan.Patch
