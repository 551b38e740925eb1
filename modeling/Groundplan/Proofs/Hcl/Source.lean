import Groundplan.Hcl.Reader
import Groundplan.Proofs.Hcl.HereText

/-!
# Configurations as syntax trees

The trees of the configurations that this library can write: labelled blocks of attributes, heredocs
and nested blocks to any depth. Each tree has a source, which writes one statement on a line, a
meaning, which is what a reader should make of the source, and a number of levels, which is the room
that reading the source takes.

## Main definitions

* `Identifier`, `ShortInteger`, `Reference`, `Scalar`: the leaves
* `Term`: a value, with `Term.source`, `Term.meaning` and `Term.levels`
* `Clause`: a statement of a body, with the same three
* `Clause.WellFormed`: attributes and map keys are not written twice
-/

namespace Groundplan.Hcl

open Text

/-! ## Leaves -/

/-- A name as readers take it. -/
structure Identifier where
  head : Char
  tail : List Char
  head_isNameStart : isNameStart head = true
  tail_isNamePart : ∀ c ∈ tail, isNamePart c = true
deriving DecidableEq

/-- The characters of a name. -/
def Identifier.chars (n : Identifier) : List Char :=
  n.head :: n.tail

/-- The name as a text. -/
def Identifier.name (n : Identifier) : String :=
  String.ofList n.chars

/-- An integer of no more digits than readers take. -/
structure ShortInteger where
  value : Int
  short : (Nat.toDigits 10 value.natAbs).length ≤ maxIntegerDigits
deriving DecidableEq

/-- A dotted reference of two or more names. -/
structure Reference where
  first : Identifier
  second : Identifier
  more : List Identifier
deriving DecidableEq

/-- The names of a reference with dots between them. -/
def Reference.chars (r : Reference) : List Char :=
  r.first.chars ++ (r.second :: r.more).flatMap fun n => '.' :: n.chars

/-- A value without parts. -/
inductive Scalar where
  | null
  | bool (b : Bool)
  | int (i : ShortInteger)
  | string (s : PlainText)
  | reference (r : Reference)
deriving DecidableEq

/-- The text that a scalar is written as. -/
def Scalar.source : Scalar → List Char
  | .null => "null".toList
  | .bool true => "true".toList
  | .bool false => "false".toList
  | .int i => (decimalText i.value).toList
  | .string s => s.literal
  | .reference r => r.chars

/-- The value of a scalar; a reference is not evaluated. -/
def Scalar.meaning : Scalar → Value
  | .null => .null
  | .bool b => .bool b
  | .int i => .int i.value
  | .string s => .string s.text
  | .reference r => .expression (String.ofList r.chars)

/-! ## Terms -/

/-- A value: a scalar, a list or a map with literal keys. -/
inductive Term where
  | scalar (s : Scalar)
  | list (items : List Term)
  | map (entries : List (PlainText × Term))

/-- Texts with a comma and a space between them. -/
def commaSeparated (parts : List (List Char)) : List Char :=
  [',', ' '].intercalate parts

/-- The text of one entry of a map. -/
def entryText (key : PlainText) (value : List Char) : List Char :=
  key.literal ++ ' ' :: '=' :: ' ' :: value

namespace Term

mutual

/-- The text that a term is written as, on one line. -/
def source : Term → List Char
  | .scalar s => s.source
  | .list xs => '[' :: (commaSeparated (itemSources xs) ++ [']'])
  | .map es => '\x7b' :: (commaSeparated (entrySources es) ++ ['\x7d'])

/-- The texts of the items of a list. -/
def itemSources : List Term → List (List Char)
  | [] => []
  | x :: xs => source x :: itemSources xs

/-- The texts of the entries of a map. -/
def entrySources : List (PlainText × Term) → List (List Char)
  | [] => []
  | (k, v) :: es => entryText k (source v) :: entrySources es

end

mutual

/-- The value of a term. -/
def meaning : Term → Value
  | .scalar s => s.meaning
  | .list xs => .list (itemMeanings xs)
  | .map es => .map (entryMeanings es)

/-- The values of the items of a list. -/
def itemMeanings : List Term → List Value
  | [] => []
  | x :: xs => meaning x :: itemMeanings xs

/-- The entries of the value of a map. -/
def entryMeanings : List (PlainText × Term) → List (String × Value)
  | [] => []
  | (k, v) :: es => (k.text, meaning v) :: entryMeanings es

end

mutual

/-- The levels that reading a term takes. -/
def levels : Term → Nat
  | .scalar _ => 0
  | .list xs => itemLevels xs
  | .map es => entryLevels es

/-- The levels that reading the items of a list takes. -/
def itemLevels : List Term → Nat
  | [] => 0
  | x :: xs => max (2 + levels x) (itemLevels xs)

/-- The levels that reading the entries of a map takes. -/
def entryLevels : List (PlainText × Term) → Nat
  | [] => 0
  | (_, v) :: es => max (3 + levels v) (entryLevels es)

end

@[simp] theorem itemSources_eq_map (xs : List Term) : itemSources xs = xs.map source := by
  induction xs with
  | nil => rfl
  | cons x xs ih => rw [itemSources, ih, List.map_cons]

@[simp] theorem entrySources_eq_map (es : List (PlainText × Term)) :
    entrySources es = es.map fun e => entryText e.1 (source e.2) := by
  induction es with
  | nil => rfl
  | cons e es ih => rw [entrySources, ih, List.map_cons]

@[simp] theorem itemMeanings_eq_map (xs : List Term) : itemMeanings xs = xs.map meaning := by
  induction xs with
  | nil => rfl
  | cons x xs ih => rw [itemMeanings, ih, List.map_cons]

@[simp] theorem entryMeanings_eq_map (es : List (PlainText × Term)) :
    entryMeanings es = es.map fun e => (e.1.text, meaning e.2) := by
  induction es with
  | nil => rfl
  | cons e es ih => rw [entryMeanings, ih, List.map_cons]

/-- No map of a term has a key twice. -/
inductive WellFormed : Term → Prop
  | scalar (s : Scalar) : WellFormed (.scalar s)
  | list {xs : List Term} (h : ∀ x ∈ xs, WellFormed x) : WellFormed (.list xs)
  | map {es : List (PlainText × Term)} (hkeys : (es.map fun e => e.1.text).Nodup)
      (h : ∀ e ∈ es, WellFormed e.2) : WellFormed (.map es)

end Term

/-! ## Clauses -/

/-- A statement of a body: an attribute with a value, an attribute with a heredoc, or a nested block
with its labels. -/
inductive Clause where
  | assign (key : Identifier) (value : Term)
  | heredoc (key : Identifier) (body : HereText)
  | block (key : Identifier) (labels : List PlainText) (body : List Clause)

/-- The line that opens a block, up to its brace. -/
def opening (word : List Char) (labels : List PlainText) : List Char :=
  word ++ (labels.flatMap (fun l => ' ' :: l.literal) ++ [' ', '\x7b'])

/-- The values that stand under one key: the value itself, or a list of several. -/
def collected : List Value → Value
  | [v] => v
  | vs => .list vs

/-- The values that are given to a name, one after another. -/
def valuesOf (key : String) (es : List (String × Value)) : List Value :=
  (es.filter (·.1 == key)).map (·.2)

/-- Named values with one entry for each name, in order of first appearance. -/
def gathered (es : List (String × Value)) : Properties :=
  (es.map (·.1)).eraseDups.map fun key => (key, collected (valuesOf key es))

namespace Clause

/-- The name that a clause gives something to. -/
def key : Clause → Identifier
  | .assign key _ => key
  | .heredoc key _ => key
  | .block key _ _ => key

/-- Whether a clause is a nested block. -/
def isBlock : Clause → Bool
  | .block .. => true
  | _ => false

mutual

/-- The lines that a clause is written as, `pad` spaces in; each nested body stands another `step`
spaces in. -/
def source (step pad : Nat) : Clause → List Char
  | .assign key v =>
    List.replicate pad ' ' ++ (key.chars ++ ' ' :: '=' :: ' ' :: (v.source ++ ['\n']))
  | .heredoc key d =>
    List.replicate pad ' ' ++ (key.chars ++ ' ' :: '=' :: ' ' :: (d.source ++ ['\n']))
  | .block key labels body =>
    List.replicate pad ' ' ++ (opening key.chars labels ++ '\n' ::
      (bodySource step (pad + step) body ++ (List.replicate pad ' ' ++ ['\x7d', '\n'])))

/-- The lines that the clauses of a body are written as. -/
def bodySource (step pad : Nat) : List Clause → List Char
  | [] => []
  | c :: cs => source step pad c ++ bodySource step pad cs

end

mutual

/-- The value that a clause gives to its name. -/
def meaning : Clause → Value
  | .assign _ v => v.meaning
  | .heredoc _ d => .expression d.body
  | .block _ labels body => blockValue (labels.map PlainText.text) (gathered (bodyEntries body))

/-- The names and values of the clauses of a body, one by one. -/
def bodyEntries : List Clause → List (String × Value)
  | [] => []
  | c :: cs => (c.key.name, meaning c) :: bodyEntries cs

end

mutual

/-- The levels that reading a clause takes. -/
def levels : Clause → Nat
  | .assign _ v => 3 + v.levels
  | .heredoc _ _ => 0
  | .block _ _ body => 1 + bodyLevels body

/-- The levels that reading the clauses of a body takes. -/
def bodyLevels : List Clause → Nat
  | [] => 0
  | c :: cs => max (levels c) (bodyLevels cs)

end

@[simp] theorem bodySource_eq_flatMap (step pad : Nat) (cs : List Clause) :
    bodySource step pad cs = cs.flatMap (source step pad) := by
  induction cs with
  | nil => rfl
  | cons c cs ih => rw [bodySource, ih, List.flatMap_cons]

@[simp] theorem bodyEntries_eq_map (cs : List Clause) :
    bodyEntries cs = cs.map fun c => (c.key.name, meaning c) := by
  induction cs with
  | nil => rfl
  | cons c cs ih => rw [bodyEntries, ih, List.map_cons]

/-- The names of the attributes of a body. -/
def attributeNames (body : List Clause) : List String :=
  (body.filter (!isBlock ·)).map (·.key.name)

/-- The names of the nested blocks of a body. -/
def blockNames (body : List Clause) : List String :=
  (body.filter isBlock).map (·.key.name)

/-- No attribute of a body has a name that another attribute or a nested block of it has. -/
def Distinct (body : List Clause) : Prop :=
  (attributeNames body).Nodup ∧ ∀ name ∈ attributeNames body, name ∉ blockNames body

/-- Names are given once, in every body and in every map of a clause. -/
inductive WellFormed : Clause → Prop
  | assign (key : Identifier) {v : Term} (h : v.WellFormed) : WellFormed (.assign key v)
  | heredoc (key : Identifier) (d : HereText) : WellFormed (.heredoc key d)
  | block (key : Identifier) (labels : List PlainText) {body : List Clause}
      (hdistinct : Distinct body) (h : ∀ c ∈ body, WellFormed c) :
      WellFormed (.block key labels body)

/-- The properties that a body stands for. -/
def properties (body : List Clause) : Properties :=
  gathered (bodyEntries body)

end Clause

end Groundplan.Hcl
