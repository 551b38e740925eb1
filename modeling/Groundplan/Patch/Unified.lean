import Groundplan.Patch.Matching

/-!
# Unified patches

The change from one text to another as a patch: two header lines, then hunks, each with its line
ranges and its lines marked by a space, a minus or a plus. Three lines are shown around a change.

## Main definitions

* `hunks`: the steps that are shown, grouped
* `Hunk.lines`: the lines of a hunk
* `unified`: the patch
-/

namespace Groundplan.Patch

open Text

/-- Lines shown around a change. -/
def contextLines : Nat := 3

/-- Steps that are shown together. -/
abbrev Hunk := List Edit

/-- The end of a step that is kept before a change. -/
def Edit.keepEnd (e : Edit) : Edit :=
  { e with
    oldFrom := max e.oldFrom (e.oldTo - contextLines)
    newFrom := max e.newFrom (e.newTo - contextLines) }

/-- The beginning of a step that is kept after a change. -/
def Edit.keepStart (e : Edit) : Edit :=
  { e with
    oldTo := min e.oldTo (e.oldFrom + contextLines)
    newTo := min e.newTo (e.newFrom + contextLines) }

/-- The first step is cut to its end if nothing changes in it. -/
def cutFirst : List Edit → List Edit
  | e :: es => (if e.same then e.keepEnd else e) :: es
  | [] => []

/-- The last step is cut to its beginning if nothing changes in it. -/
def cutLast : List Edit → List Edit
  | [e] => [if e.same then e.keepStart else e]
  | e :: es => e :: cutLast es
  | [] => []

/-- Whether steps show a change. -/
def showsChange : Hunk → Bool
  | [] => false
  | [e] => !e.same
  | _ => true

/-- Groups steps into hunks: a long stretch without change ends a hunk and begins the next. The open
hunk is `acc`, last step first. -/
def groupFrom (acc : List Edit) : List Edit → List Hunk
  | [] => if showsChange acc.reverse then [acc.reverse] else []
  | e :: es =>
    if e.same ∧ 2 * contextLines < e.oldTo - e.oldFrom then
      (e.keepStart :: acc).reverse :: groupFrom [e.keepEnd] es
    else groupFrom (e :: acc) es

/-- The hunks of a change; none if nothing changes. -/
def hunks (es : List Edit) : List Hunk :=
  groupFrom [] (cutLast (cutFirst es))

/-- A range of lines: the first line and the number of lines, which is left out if it is one. An
empty range names the line before it. -/
def rangeText (start stop : Nat) : String :=
  let length := stop - start
  if length = 1 then toString (start + 1)
  else if length = 0 then toString start ++ ",0"
  else toString (start + 1) ++ "," ++ toString length

/-- The lines of a range. -/
def slice (lines : List Line) (start stop : Nat) : List Line :=
  (lines.drop start).take (stop - start)

/-- The lines of a step with their marks. -/
def Edit.lines (old new : List Line) (e : Edit) : List Line :=
  if e.same then (slice old e.oldFrom e.oldTo).map (' ' :: ·)
  else (slice old e.oldFrom e.oldTo).map ('-' :: ·) ++ (slice new e.newFrom e.newTo).map ('+' :: ·)

/-- The line that gives the ranges of a hunk. -/
def Hunk.header (h : Hunk) : Line :=
  let oldFrom := (h.head?.map Edit.oldFrom).getD 0
  let newFrom := (h.head?.map Edit.newFrom).getD 0
  let oldTo := (h.getLast?.map Edit.oldTo).getD 0
  let newTo := (h.getLast?.map Edit.newTo).getD 0
  ("@@ -" ++ rangeText oldFrom oldTo ++ " +" ++ rangeText newFrom newTo ++ " @@\n").toList

/-- The lines of a hunk. -/
def Hunk.lines (old new : List Line) (h : Hunk) : List Line :=
  Hunk.header h :: h.flatMap (Edit.lines old new)

/-- The two lines before the hunks. -/
def fileLines : List Line :=
  ["--- Current Version\n".toList, "+++ New Version\n".toList]

/-- The lines of the patch from some lines to others. -/
def patchLines (old new : List Line) : List Line :=
  match hunks (edits old new) with
  | [] => []
  | hs => fileLines ++ hs.flatMap (Hunk.lines old new)

/-- **The patch from one text to another**; empty if no line changes. -/
def unified (old new : String) : String :=
  String.ofList (patchLines (rawLines old.toList) (rawLines new.toList)).flatten

end Groundplan.Patch
