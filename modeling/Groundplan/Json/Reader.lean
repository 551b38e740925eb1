import Groundplan.Data
import Groundplan.Text.Bytes

/-!
# Reading JSON

A reader of JSON texts. Numbers with a point or an exponent are binary64, others integers of any
size up to a limit of digits; the words for nan and the infinities are accepted; a repeated key
keeps its first place and takes its last value.

## Main definitions

* `Json.Fault`: why a text is refused
* `Json.read`: the value of a text

The recursion on values is bounded by a count that grows with the text: every value, item and entry
uses one unit and at least every second unit uses up a character, so the count of `read` never runs
out.
-/

namespace Groundplan.Json

open Text

/-- Why a text is refused: it is no JSON, an integer in it is too long, or it is nested too
deeply. -/
inductive Fault where
  | malformed
  | longInteger (digits : Nat)
  | tooDeep
deriving DecidableEq, Repr

/-- How deeply lists and maps may be nested. -/
def maxDepth : Nat := 950

/-- JSON white space. -/
def isSpace (c : Char) : Bool :=
  c == ' ' || c == '\t' || c == '\n' || c == '\r'

/-- The text after leading white space. -/
def skipSpace (cs : List Char) : List Char :=
  cs.dropWhile isSpace

/-- The value of four hexadecimal digits at the start of a text, and what follows. -/
def hexUnit? (cs : List Char) : Option (Nat × List Char) :=
  match cs with
  | a :: b :: c :: d :: rest =>
    match hexValue? a, hexValue? b, hexValue? c, hexValue? d with
    | some a, some b, some c, some d => some (((a * 16 + b) * 16 + c) * 16 + d, rest)
    | _, _, _, _ => none
  | _ => none

/-- The character of a `\u` escape whose digits start here, a pair of surrogates being joined, and
what follows. -/
def unicodeEscape? (cs : List Char) : Option (Char × List Char) :=
  match hexUnit? cs with
  | none => none
  | some (u, rest) =>
    if 0xd800 ≤ u && u < 0xdc00 then
      match rest with
      | '\\' :: 'u' :: more =>
        match hexUnit? more with
        | some (v, after) =>
          if 0xdc00 ≤ v && v < 0xe000 then
            some (Char.ofNat (0x10000 + (u - 0xd800) * 0x400 + (v - 0xdc00)), after)
          else some (unpaired u, rest)
        | none => some (unpaired u, rest)
      | _ => some (unpaired u, rest)
    else some (unpaired u, rest)

theorem hexUnit?_length {cs rest : List Char} {u : Nat} (h : hexUnit? cs = some (u, rest)) :
    rest.length < cs.length := by
  unfold hexUnit? at h
  split at h
  · split at h
    · cases h
      simp only [List.length_cons]
      omega
    · cases h
  · cases h

theorem unicodeEscape?_length {cs rest : List Char} {c : Char}
    (h : unicodeEscape? cs = some (c, rest)) : rest.length < cs.length := by
  unfold unicodeEscape? at h
  split at h
  · cases h
  · rename_i u r hu
    have h₁ := hexUnit?_length hu
    split at h
    · split at h
      · split at h
        · rename_i v after hv
          have h₂ := hexUnit?_length hv
          simp only [List.length_cons] at h₁
          split at h
          · simp only [Option.some.injEq, Prod.mk.injEq] at h
            rw [← h.2]
            omega
          · simp only [Option.some.injEq, Prod.mk.injEq] at h
            rw [← h.2, List.length_cons, List.length_cons]
            exact h₁
        · simp only [Option.some.injEq, Prod.mk.injEq] at h
          exact h.2 ▸ h₁
      · simp only [Option.some.injEq, Prod.mk.injEq] at h
        exact h.2 ▸ h₁
    · simp only [Option.some.injEq, Prod.mk.injEq] at h
      exact h.2 ▸ h₁

/-- The character that a letter after a backslash stands for. -/
def plainEscape? (c : Char) : Option Char :=
  if c == '"' || c == '\\' || c == '/' then some c
  else if c == 'b' then some '\x08'
  else if c == 'f' then some '\x0c'
  else if c == 'n' then some '\n'
  else if c == 'r' then some '\r'
  else if c == 't' then some '\t'
  else none

/-- The character of an escape after its backslash, and what follows. -/
def escape? : List Char → Option (Char × List Char)
  | [] => none
  | c :: rest => if c == 'u' then unicodeEscape? rest else (plainEscape? c).map (·, rest)

theorem escape?_length {cs rest : List Char} {c : Char} (h : escape? cs = some (c, rest)) :
    rest.length < cs.length := by
  unfold escape? at h
  split at h
  · cases h
  · split at h
    · exact Nat.lt_succ_of_lt (unicodeEscape?_length h)
    · obtain ⟨_, _, h⟩ := Option.map_eq_some_iff.1 h
      cases h
      exact Nat.lt_succ_self _

/-- The characters of a string after its opening quote, and what follows the closing one; the
characters so far are `done`, last first. -/
def stringFrom (done cs : List Char) : Except Fault (String × List Char) :=
  match cs with
  | [] => .error .malformed
  | c :: rest =>
    if c == '"' then .ok (String.ofList done.reverse, rest)
    else if c == '\\' then
      match _h : escape? rest with
      | some (e, after) => stringFrom (e :: done) after
      | none => .error .malformed
    else if c.toNat < 0x20 then .error .malformed
    else stringFrom (c :: done) rest
termination_by cs.length
decreasing_by
  · exact Nat.lt_succ_of_lt (escape?_length _h)
  · exact Nat.lt_succ_self _

/-- The characters of a string whose opening quote has been read, and what follows. -/
def readString (cs : List Char) : Except Fault (String × List Char) :=
  stringFrom [] cs

/-- A number at the start of a text, and what follows. -/
def readNumber (cs : List Char) : Except Fault (Data × List Char) :=
  let (negative, body) :=
    match cs with
    | '-' :: rest => (true, rest)
    | _ => (false, cs)
  let whole :=
    match body with
    | '0' :: _ => ['0']
    | _ => body.takeWhile Char.isDigit
  let rest := body.drop whole.length
  if whole.isEmpty then .error .malformed
  else
    let (places, afterPlaces) :=
      match rest with
      | '.' :: r =>
        let ds := r.takeWhile Char.isDigit
        if ds.isEmpty then ([], rest) else (ds, r.drop ds.length)
      | _ => ([], rest)
    let (hasExponent, exponent, after) : Bool × Int × List Char :=
      match afterPlaces with
      | c :: r =>
        if c == 'e' || c == 'E' then
          let (down, digits) := splitSign r
          let ds := digits.takeWhile Char.isDigit
          if ds.isEmpty then (false, 0, afterPlaces)
          else
            let n : Int := digitsValue ds
            (true, if down then -n else n, digits.drop ds.length)
        else (false, 0, afterPlaces)
      | [] => (false, 0, afterPlaces)
    if places.isEmpty && !hasExponent then
      if maxIntegerDigits < whole.length then .error (.longInteger whole.length)
      else
        let n : Int := digitsValue whole
        .ok (.int (if negative then -n else n), after)
    else
      .ok (.float (Binary64.ofDecimal negative (digitsValue (whole ++ places))
        (exponent - places.length)), after)

/-- The words that stand for a value. -/
def words : List (String × Data) :=
  [("null", .null), ("true", .bool true), ("false", .bool false), ("NaN", .float .nan),
    ("Infinity", .float (.infinite false)), ("-Infinity", .float (.infinite true))]

/-- The value of a word at the start of a text, and what follows. -/
def readWord? (cs : List Char) : Option (Data × List Char) :=
  words.findSome? fun w =>
    if startsWith w.1.toList cs then some (w.2, cs.drop w.1.length) else none

mutual

/-- The value at the start of a text, nested at most so deeply, and what follows. -/
def readValue (fuel depth : Nat) (cs : List Char) : Except Fault (Data × List Char) :=
  match fuel with
  | 0 => .error .malformed
  | fuel + 1 =>
    match cs with
    | '"' :: rest =>
      match readString rest with
      | .ok (s, after) => .ok (.text s, after)
      | .error e => .error e
    | '[' :: rest =>
      match skipSpace rest with
      | ']' :: after => .ok (.list [], after)
      | more =>
        match depth with
        | 0 => .error .tooDeep
        | depth + 1 => readItems fuel depth [] more
    | '\x7b' :: rest =>
      match skipSpace rest with
      | '\x7d' :: after => .ok (.map [], after)
      | more =>
        match depth with
        | 0 => .error .tooDeep
        | depth + 1 => readEntries fuel depth [] more
    | _ =>
      match readWord? cs with
      | some r => .ok r
      | none => readNumber cs
termination_by structural fuel

/-- The items of a list up to its closing bracket; the items so far are `done`, last first. -/
def readItems (fuel depth : Nat) (done : List Data) (cs : List Char) :
    Except Fault (Data × List Char) :=
  match fuel with
  | 0 => .error .malformed
  | fuel + 1 =>
    match readValue fuel depth cs with
    | .error e => .error e
    | .ok (v, rest) =>
      match skipSpace rest with
      | ',' :: more => readItems fuel depth (v :: done) (skipSpace more)
      | ']' :: after => .ok (.list (v :: done).reverse, after)
      | _ => .error .malformed
termination_by structural fuel

/-- The entries of a map up to its closing brace. -/
def readEntries (fuel depth : Nat) (done : Entries Data) (cs : List Char) :
    Except Fault (Data × List Char) :=
  match fuel with
  | 0 => .error .malformed
  | fuel + 1 =>
    match cs with
    | '"' :: rest =>
      match readString rest with
      | .error e => .error e
      | .ok (key, afterKey) =>
        match skipSpace afterKey with
        | ':' :: more =>
          match readValue fuel depth (skipSpace more) with
          | .error e => .error e
          | .ok (v, afterValue) =>
            match skipSpace afterValue with
            | ',' :: next => readEntries fuel depth (done.set key v) (skipSpace next)
            | '\x7d' :: after => .ok (.map (done.set key v), after)
            | _ => .error .malformed
        | _ => .error .malformed
    | _ => .error .malformed
termination_by structural fuel

end

/-- The value of a text, with white space around it. -/
def readChars (cs : List Char) : Except Fault Data :=
  match readValue (2 * cs.length + 2) maxDepth (skipSpace cs) with
  | .error e => .error e
  | .ok (v, rest) => if (skipSpace rest).isEmpty then .ok v else .error .malformed

/-- The value of a text. -/
def read (s : String) : Except Fault Data :=
  readChars s.toList

end Groundplan.Json
