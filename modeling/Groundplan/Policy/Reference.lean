import Groundplan.Policy.Evaluator

/-!
# References between blocks

When a property value points at a block: by naming it as a traversal, or by carrying the literal
that is the block's own name.

## Main definitions

* `names`: whether a text holds a traversal that starts at a block
* `carries`: whether a text is the literal name of a block
* `refersTo`: whether a value points at a block
* `isCompanion`: whether a block points at another by a property
-/

namespace Groundplan.Policy

open Hcl Text

/-- The words of a block that other blocks reach it by. -/
def traversal (b : Block) : List Char :=
  b.type.toList ++ '.' :: b.name.toList

/-- Whether a word may end between a last character and what follows: at a point, or where word
characters meet others. -/
def endsHere (last : Option Char) (rest : List Char) : Bool :=
  match rest with
  | [] => (last.map isWord).getD false
  | c :: _ => c == '.' || (last.map isWord).getD false != isWord c

/-- Whether a text starts with a traversal that ends there. -/
def startsTraversal (target cs : List Char) : Bool :=
  target.isPrefixOf cs && endsHere target.getLast? (cs.drop target.length)

/-- A character that a traversal cannot follow: a word character or a point. -/
def blocksTraversal (c : Char) : Bool :=
  isWord c || c == '.'

/-- Whether a traversal occurs after the start of a text. -/
def occursAfter (target : List Char) : List Char → Bool
  | [] => false
  | c :: rest =>
    (!blocksTraversal c && startsTraversal target rest) || occursAfter target rest

/-- Whether a text holds a traversal as a whole. -/
def names (target cs : List Char) : Bool :=
  startsTraversal target cs || occursAfter target cs

/-- The properties by which a block is known outside. -/
def identityProperties : List String := ["bucket", "name", "id"]

/-- How the texts of references to variables begin. -/
def variableStarts : List String := ["var.", "local."]

/-- Whether a text begins like a reference to a variable. -/
def isVariable (s : String) : Bool :=
  variableStarts.any fun p => startsWith p.toList s.toList

/-- Whether a text is the literal name of a block. -/
def carries (target : Block) (s : String) : Bool :=
  identityProperties.any fun key =>
    match (target.property? key).map Value.toData with
    | some (.text literal) => !isVariable literal && s == literal
    | _ => false

/-- **Whether a value points at a block.** -/
def refersTo (target : Block) (v : Data) : Bool :=
  (listOf v).any fun d =>
    match d with
    | .text s => names (traversal target) s.toList || carries target s
    | _ => false

/-- Whether a property of a block points at another. -/
def isCompanion (target : Block) (property : String) (b : Block) : Bool :=
  refersTo target (((b.property? property).map Value.toData).getD .null)

/-- Whether a property of some block points at a block. -/
def hasCompanion (target : Block) (property : String) (blocks : List Block) : Bool :=
  blocks.any (isCompanion target property)

end Groundplan.Policy
