import Groundplan.Failure
import Groundplan.Hcl.Statement

/-!
# Nested templates

A string literal may hold templates, a template may hold literals, and so on. A text in which
templates stand too deep inside one another is refused before it is read: unlike a block that nests
too deep, it cannot even be cut into blocks.

## Main definitions

* `regionFits`, `literalsFit`: whether templates stand inside one another to some depth at most
* `scannable`: a text that can be cut into blocks
-/

namespace Groundplan.Hcl

/-- Whether templates stand at most `levels` deep inside one another in the rest of a literal or of
a template, which itself does not count. -/
def regionFits (levels : Nat) (region : Region) (cs : List Char) : Bool :=
  match cs with
  | [] => true
  | c :: rest =>
    match region with
    | .quoted =>
      if c == '\\' then regionFits levels .quoted (rest.drop 1)
      else if c == '"' || c == '\n' then true
      else if c == '$' || c == '%' then
        match rest with
        | [] => true
        | d :: more =>
          if d == c then regionFits levels .quoted more
          else if d == '\x7b' then
            match levels with
            | 0 => false
            | fewer + 1 =>
              -- The template stands a level further in; what follows it does not.
              regionFits fewer (.template 0) more &&
                match skipRegion more.length (.template 0) more (Nat.le_refl _) with
                | none => true
                | some ⟨r, _⟩ => regionFits (fewer + 1) .quoted r
          else regionFits levels .quoted (d :: more)
      else regionFits levels .quoted rest
    | .template openBraces =>
      if c == '"' then
        have := skipString_length_le rest
        regionFits levels .quoted rest && regionFits levels (.template openBraces) (skipString rest)
      else if c == '\x7b' then regionFits levels (.template (openBraces + 1)) rest
      else if c == '\x7d' then
        match openBraces with
        | 0 => true
        | openBraces + 1 => regionFits levels (.template openBraces) rest
      else regionFits levels (.template openBraces) rest
termination_by cs.length
decreasing_by
  all_goals (simp only [List.length_drop, List.length_cons]; omega)

/-- Whether templates stand at most `levels` deep inside one another in the literals of a text. -/
def literalsFit (levels : Nat) (cs : List Char) : Bool :=
  match cs with
  | [] => true
  | c :: rest =>
    if c == '"' then regionFits levels .quoted rest && literalsFit levels (skipString rest)
    else
      match _hr : afterIgnored? (c :: rest) with
      | some r => literalsFit levels r
      | none => literalsFit levels rest
termination_by cs.length
decreasing_by
  · have := skipString_length_le rest
    simp only [List.length_cons]; omega
  · have := afterIgnored?_length_lt _hr
    simpa using this
  · simp

/-- Whether templates stand at most `levels` deep inside one another in what stands at one place of
the top level. -/
def TopLevel.fits (levels : Nat) : TopLevel → Bool
  | .block s => literalsFit levels s.raw
  | .junk .. => true
  | .headless .. => true

/-- The number of templates that may stand inside one another. -/
def maxTemplates : Nat := 330

/-- The number of places where a template may begin, on top of those before. -/
def templateOpeners (n : Nat) : List Char → Nat
  | c :: d :: rest =>
    templateOpeners (if (c == '$' || c == '%') && d == '\x7b' then n + 1 else n) (d :: rest)
  | _ => n

/-- Whether no templates of a text stand too deep inside one another. A text with few openers has no
room for as many. -/
def isScannable (cs : List Char) : Bool :=
  templateOpeners 0 cs ≤ maxTemplates || (sections cs).all (TopLevel.fits maxTemplates)

/-- **A text that can be cut into blocks**, refused if templates stand too deep inside one another
in it. -/
def scannable (text : String) : Answer String :=
  if isScannable text.toList then .ok text else .error (.mismatch .depth)

end Groundplan.Hcl
