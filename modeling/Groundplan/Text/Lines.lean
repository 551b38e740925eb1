import Groundplan.Text.CharClass

/-!
# Trimming, lines and search

Operations on texts as lists of characters: trimming blanks, cutting a text into lines by either of
two rules (line feeds only, or every line break), searching for a part, and taking the indentation
from lines that all have it.

## Main definitions

* `trim`, `trimWith`: a text without the blanks (or other characters) at both ends
* `splitOn`: the parts between occurrences of a separator character
* `rawLines`: the lines of a text with their breaks, every kind of line break counting
* `plainLines`: the same lines without their breaks
* `unifyBreaks`: every carriage return, alone or before a line feed, becomes one line feed
* `isPart`, `startsWith`, `endsWith`: search
* `indentOf`, `commonIndent`, `dedent`: the spaces and tabs that all lines begin with, and the lines
  without them

## Main results

* `flatten_rawLines`: the lines of a text concatenate to the text
-/

namespace Groundplan.Text

/-! ## Trimming -/

/-- The text without the characters of a class at its end. -/
def trimEndWith (p : Char → Bool) (cs : List Char) : List Char :=
  (cs.reverse.dropWhile p).reverse

/-- The text without the characters of a class at both ends. -/
def trimWith (p : Char → Bool) (cs : List Char) : List Char :=
  trimEndWith p (cs.dropWhile p)

/-- The text without blanks at both ends. -/
def trim (cs : List Char) : List Char :=
  trimWith isBlank cs

theorem length_trimEndWith_le (p : Char → Bool) (cs : List Char) :
    (trimEndWith p cs).length ≤ cs.length := by
  simpa [trimEndWith] using (List.dropWhile_sublist p (l := cs.reverse)).length_le

theorem length_trimWith_le (p : Char → Bool) (cs : List Char) :
    (trimWith p cs).length ≤ cs.length :=
  Nat.le_trans (length_trimEndWith_le p _) (List.dropWhile_sublist p).length_le

/-- Trimming never lengthens a text. -/
theorem length_trim_le (cs : List Char) : (trim cs).length ≤ cs.length :=
  length_trimWith_le isBlank cs

/-! ## Parts -/

/-- Whether `t` begins with `s`. -/
def startsWith (s t : List Char) : Bool :=
  s.isPrefixOf t

/-- Whether `t` ends with `s`. -/
def endsWith (s t : List Char) : Bool :=
  s.isSuffixOf t

/-- Whether `s` occurs in `t`. -/
def isPart (s : List Char) : List Char → Bool
  | [] => s.isEmpty
  | c :: t => s.isPrefixOf (c :: t) || isPart s t

/-- The parts of a text between the occurrences of a character. -/
def splitOn (sep : Char) (cs : List Char) : List (List Char) :=
  cs.splitOn sep

/-! ## Lines -/

/-- A character that ends a line: a line feed, a carriage return, or one of the rarer breaks. -/
def isLineBreak (c : Char) : Bool :=
  let n := c.toNat
  (10 ≤ n && n ≤ 13) || (28 ≤ n && n ≤ 30) || n == 0x85 || n == 0x2028 || n == 0x2029

/-- The lines of a text whose complete lines so far are `done` and whose open line is `acc`, both
last first. -/
def rawLinesFrom (done : List (List Char)) (acc : List Char) : List Char → List (List Char)
  | [] => (if acc.isEmpty then done else acc.reverse :: done).reverse
  | '\r' :: '\n' :: rest => rawLinesFrom (('\n' :: '\r' :: acc).reverse :: done) [] rest
  | c :: rest =>
    if isLineBreak c then rawLinesFrom ((c :: acc).reverse :: done) [] rest
    else rawLinesFrom done (c :: acc) rest

/-- The lines of a text, each with its line break. -/
def rawLines (cs : List Char) : List (List Char) :=
  rawLinesFrom [] [] cs

theorem flatten_rawLinesFrom (done : List (List Char)) (acc cs : List Char) :
    (rawLinesFrom done acc cs).flatten = done.reverse.flatten ++ (acc.reverse ++ cs) := by
  fun_induction rawLinesFrom done acc cs with
  | case1 done acc => by_cases h : acc = [] <;> simp [h]
  | case2 done acc rest ih => rw [ih]; simp
  | case3 done acc c rest _ hc ih => rw [ih]; simp
  | case4 done acc c rest _ hc ih => rw [ih]; simp

/-- **Nothing is lost.** The lines of a text concatenate to the text. -/
theorem flatten_rawLines (cs : List Char) : (rawLines cs).flatten = cs := by
  simp [rawLines, flatten_rawLinesFrom]

/-- A line without the break at its end. -/
def dropBreak (line : List Char) : List Char :=
  match line.reverse with
  | '\n' :: '\r' :: rest => rest.reverse
  | c :: rest => if isLineBreak c then rest.reverse else line
  | [] => []

/-- The lines of a text without their breaks. -/
def plainLines (cs : List Char) : List (List Char) :=
  (rawLines cs).map dropBreak

/-- Every carriage return, alone or before a line feed, becomes one line feed. -/
def unifyBreaks (cs : List Char) : List Char :=
  go [] cs
where
  /-- The text so far is `done`, last character first. -/
  go (done : List Char) : List Char → List Char
    | [] => done.reverse
    | '\r' :: '\n' :: rest => go ('\n' :: done) rest
    | c :: rest => go ((if c == '\r' then '\n' else c) :: done) rest

/-! ## Common indentation -/

/-- The spaces and tabs at the start of a line. -/
def indentOf (line : List Char) : List Char :=
  line.takeWhile isSpacing

/-- A line that holds spaces and tabs only. -/
def isEmptyLine (line : List Char) : Bool :=
  line.all isSpacing

/-- The longest common beginning of two texts. -/
def commonStart : List Char → List Char → List Char
  | c :: s, d :: t => if c = d then c :: commonStart s t else []
  | _, _ => []

/-- The longest indentation that all lines with other characters share. -/
def commonIndent (lines : List (List Char)) : List Char :=
  match (lines.filter (!isEmptyLine ·)).map indentOf with
  | [] => []
  | first :: rest => rest.foldl commonStart first

/-- The lines without their common indentation; lines of spaces and tabs become empty. -/
def dedent (lines : List (List Char)) : List (List Char) :=
  let n := (commonIndent lines).length
  lines.map fun line => if isEmptyLine line then [] else line.drop n

end Groundplan.Text
