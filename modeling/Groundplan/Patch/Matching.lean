import Groundplan.Text.Lines

/-!
# Matching lines

Which lines of two texts are taken for the same. The longest common run of lines is found first, the
earliest of equally long ones, and then the runs before and after it. In a text of two hundred lines
or more, lines that stand in more than a hundredth of it begin no run, but can extend one.

## Main definitions

* `Run`: a common run of lines
* `longestRun`: the longest common run within ranges of both texts
* `commonRuns`: all common runs in order
* `Edit`, `edits`: what turns one list of lines into the other
-/

namespace Groundplan.Patch

/-- A line of a text. -/
abbrev Line := List Char

/-- `size` lines that are the same from line `old` of the one text and line `new` of the other. -/
structure Run where
  old : Nat
  new : Nat
  size : Nat
deriving DecidableEq, Repr, Inhabited

/-- The positions of a line in a list of lines, ascending, counted from `start`. -/
def positionsFrom (line : Line) (start : Nat) : List Line → List Nat
  | [] => []
  | l :: ls =>
    if l == line then start :: positionsFrom line (start + 1) ls
    else positionsFrom line (start + 1) ls

/-- How many times a line may stand in a text of `n` lines and still begin a run. -/
def popularLimit (n : Nat) : Nat :=
  if n < 200 then n else n / 100 + 1

/-- For each line of the old text, where it stands in the new one; nowhere if it is too common
there. -/
def occurrences (old new : List Line) : Array (List Nat) :=
  (old.map fun line =>
    let ps := positionsFrom line 0 new
    if popularLimit new.length < ps.length then [] else ps).toArray

/-- Two texts and the positions of the lines of the old one in the new one. -/
structure Texts where
  old : Array Line
  new : Array Line
  seen : Array (List Nat)

/-- The texts of two lists of lines. -/
def Texts.ofLines (old new : List Line) : Texts :=
  ⟨old.toArray, new.toArray, occurrences old new⟩

/-- Goes through the positions of one old line: the lengths of the runs that end there, given those
that end at the line before, and the longest run so far. -/
def scanRow (i newFrom newTo : Nat) (before : List (Nat × Nat)) :
    List Nat → List (Nat × Nat) → Run → List (Nat × Nat) × Run
  | [], row, best => (row, best)
  | j :: js, row, best =>
    if j < newFrom then scanRow i newFrom newTo before js row best
    else if newTo ≤ j then (row, best)
    else
      let k := (if j = 0 then 0 else (before.lookup (j - 1)).getD 0) + 1
      let best := if best.size < k then ⟨i + 1 - k, j + 1 - k, k⟩ else best
      scanRow i newFrom newTo before js ((j, k) :: row) best

/-- Goes through `count` old lines from line `i` on. -/
def scanRows (t : Texts) (newFrom newTo : Nat) : Nat → Nat → List (Nat × Nat) → Run → Run
  | 0, _, _, best => best
  | count + 1, i, before, best =>
    let (row, best) := scanRow i newFrom newTo before (t.seen[i]?.getD []) [] best
    scanRows t newFrom newTo count (i + 1) row best

/-- Whether a line of the old text is the same as one of the new. -/
def Texts.sameAt (t : Texts) (i j : Nat) : Bool :=
  match t.old[i]?, t.new[j]? with
  | some a, some b => a == b
  | _, _ => false

/-- Extends a run to the left while the lines before it are the same, at most `count` times. -/
def extendLeft (t : Texts) (oldFrom newFrom : Nat) : Nat → Run → Run
  | 0, r => r
  | count + 1, r =>
    if oldFrom < r.old ∧ newFrom < r.new ∧ t.sameAt (r.old - 1) (r.new - 1) then
      extendLeft t oldFrom newFrom count ⟨r.old - 1, r.new - 1, r.size + 1⟩
    else r

/-- Extends a run to the right while the lines after it are the same, at most `count` times. -/
def extendRight (t : Texts) (oldTo newTo : Nat) : Nat → Run → Run
  | 0, r => r
  | count + 1, r =>
    if r.old + r.size < oldTo ∧ r.new + r.size < newTo ∧
        t.sameAt (r.old + r.size) (r.new + r.size) then
      extendRight t oldTo newTo count ⟨r.old, r.new, r.size + 1⟩
    else r

/-- The longest common run within ranges of both texts; its size is zero if there is none. -/
def longestRun (t : Texts) (oldFrom oldTo newFrom newTo : Nat) : Run :=
  let best := scanRows t newFrom newTo (oldTo - oldFrom) oldFrom [] ⟨oldFrom, newFrom, 0⟩
  extendRight t oldTo newTo (oldTo - oldFrom) (extendLeft t oldFrom newFrom best.old best)

/-- The common runs within ranges of both texts, in order. -/
def runsWithin (t : Texts) (oldFrom oldTo newFrom newTo : Nat) : List Run :=
  let r := longestRun t oldFrom oldTo newFrom newTo
  if _h : 0 < r.size ∧ oldFrom ≤ r.old ∧ r.old + r.size ≤ oldTo then
    runsWithin t oldFrom r.old newFrom r.new ++
      r :: runsWithin t (r.old + r.size) oldTo (r.new + r.size) newTo
  else []
termination_by oldTo - oldFrom
decreasing_by
  all_goals
    simp only [r] at *
    omega

/-- Joins runs that follow one another without a gap. -/
def joinRuns : List Run → List Run
  | r :: s :: rest =>
    if r.old + r.size = s.old ∧ r.new + r.size = s.new then
      joinRuns (⟨r.old, r.new, r.size + s.size⟩ :: rest)
    else r :: joinRuns (s :: rest)
  | rs => rs
termination_by rs => rs.length

/-- The common runs of two lists of lines, in order. -/
def commonRuns (old new : List Line) : List Run :=
  joinRuns (runsWithin (.ofLines old new) 0 old.length 0 new.length)

/-! ## Edits -/

/-- A step from the old lines to the new: ranges of both, and whether they are the same. -/
structure Edit where
  same : Bool
  oldFrom : Nat
  oldTo : Nat
  newFrom : Nat
  newTo : Nat
deriving DecidableEq, Repr, Inhabited

/-- The steps from given positions on. -/
def editsFrom (i j oldEnd newEnd : Nat) : List Run → List Edit
  | [] => if i < oldEnd ∨ j < newEnd then [⟨false, i, oldEnd, j, newEnd⟩] else []
  | r :: rs =>
    let change : List Edit :=
      if i < r.old ∨ j < r.new then [⟨false, i, r.old, j, r.new⟩] else []
    change ++ ⟨true, r.old, r.old + r.size, r.new, r.new + r.size⟩ ::
      editsFrom (r.old + r.size) (r.new + r.size) oldEnd newEnd rs

/-- The steps from the old lines to the new. -/
def edits (old new : List Line) : List Edit :=
  editsFrom 0 0 old.length new.length (commonRuns old new)

end Groundplan.Patch
