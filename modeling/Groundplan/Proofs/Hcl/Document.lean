import Groundplan.Proofs.Hcl.Scalar
import Groundplan.Proofs.Hcl.Source

/-!
# Documents

A document is a list of top-level blocks. Its source writes them one below the other; its meaning is
the configuration that they declare. Where reading is given some room only, a block that takes more
levels declares no properties and is reported.

## Main definitions

* `Heading`, `Declaration`, `Document`: the top-level blocks
* `Document.source`: the text of a document
* `Document.meaning`, `Document.meaningWithin`: the configuration that it declares
* `Document.WellFormed`: nothing is declared twice
-/

namespace Groundplan.Hcl

/-- What a top-level block declares, with the labels that it takes. -/
inductive Heading where
  | resource (type name : PlainText)
  | data (type name : PlainText)
  | module (name : PlainText)
  | provider (name : PlainText)
  | variable (name : PlainText)
  | output (name : PlainText)
  | terraform
  | locals
deriving DecidableEq

/-- The word for a keyword. -/
def Keyword.word : Keyword → String
  | .resource => "resource"
  | .data => "data"
  | .module => "module"
  | .variable => "variable"
  | .output => "output"
  | .provider => "provider"
  | .terraform => "terraform"
  | .locals => "locals"

/-- The keyword that begins the block. -/
def Heading.keyword : Heading → Keyword
  | .resource .. => .resource
  | .data .. => .data
  | .module _ => .module
  | .provider _ => .provider
  | .variable _ => .variable
  | .output _ => .output
  | .terraform => .terraform
  | .locals => .locals

/-- The word that begins the block. -/
def Heading.word (h : Heading) : String :=
  h.keyword.word

/-- The labels behind the word. -/
def Heading.labels : Heading → List PlainText
  | .resource type name => [type, name]
  | .data type name => [type, name]
  | .module name => [name]
  | .provider name => [name]
  | .variable name => [name]
  | .output name => [name]
  | .terraform => []
  | .locals => []

/-- A top-level block. -/
structure Declaration where
  heading : Heading
  body : List Clause

namespace Declaration

/-- The lines that a block is written as, up to its closing brace. -/
def source (step : Nat) (d : Declaration) : List Char :=
  opening d.heading.word.toList d.heading.labels ++
    ('\n' :: (Clause.bodySource step step d.body ++ ['\x7d']))

/-- The levels that reading the block takes. -/
def levels (d : Declaration) : Nat :=
  Clause.bodyLevels d.body

/-- The properties of a block; none if it takes more levels than there are. -/
def properties (room : Room) (d : Declaration) : Properties :=
  if room.fits d.levels then Clause.properties d.body else []

/-- The line of the closing brace of a block that begins on a line. -/
def endLine (step line : Nat) (d : Declaration) : Nat :=
  line + lineFeeds (d.source step)

/-- The labelled block that stands on a line. -/
def block? (step : Nat) (room : Room) (line : Nat) (d : Declaration) : Option Block :=
  let block (kind : BlockKind) (type name : String) : Block :=
    ⟨kind, type, name, d.properties room, line, d.endLine step line, String.ofList (d.source step)⟩
  match d.heading with
  | .resource type name => some (block .resource type.text name.text)
  | .data type name => some (block .data type.text name.text)
  | .module name => some (block .module "module" name.text)
  | .provider name =>
    some (block .provider name.text (providerName name.text (d.properties room)))
  | _ => none

/-- The variable that a block declares. -/
def input? (room : Room) (d : Declaration) : Option (String × Properties) :=
  match d.heading with
  | .variable name => some (name.text, d.properties room)
  | _ => none

/-- The output that a block declares. -/
def output? (room : Room) (d : Declaration) : Option (String × Properties) :=
  match d.heading with
  | .output name => some (name.text, d.properties room)
  | _ => none

/-- The local values that a block declares. -/
def locals (room : Room) (d : Declaration) : Properties :=
  match d.heading with
  | .locals => d.properties room
  | _ => []

/-- The settings that a block declares. -/
def settings (room : Room) (d : Declaration) : Properties :=
  match d.heading with
  | .terraform => d.properties room
  | _ => []

/-- The providers that a block names: its own, or those that its settings require. -/
def providerNames (room : Room) (d : Declaration) : List String :=
  match d.heading with
  | .provider name => [name.text]
  | .terraform =>
    match (d.properties room).get? "required_providers" with
    | some (.map es) => (es.map (·.1)).filter (· != "_labels")
    | _ => []
  | _ => []

/-- What is reported of a block that begins on a line. -/
def warnings (room : Room) (line : Nat) (d : Declaration) : List Warning :=
  if room.fits d.levels then [] else [.unreadableBlock d.heading.word line]

end Declaration

/-- The top-level blocks of a text. -/
abbrev Document := List Declaration

namespace Document

/-- The text of a document. -/
def source (step : Nat) (ds : Document) : List Char :=
  ds.flatMap fun d => d.source step ++ ['\n']

/-- The blocks with the lines on which they begin, the first of them on a line. -/
def placed (step line : Nat) : Document → List (Nat × Declaration)
  | [] => []
  | d :: ds => (line, d) :: placed step (d.endLine step line + 1) ds

/-- The labelled blocks. -/
def blocks (step : Nat) (room : Room) (ds : Document) : List Block :=
  (placed step 1 ds).filterMap fun p => p.2.block? step room p.1

/-- **The configuration that a document declares** to a reader with some room. -/
def meaningWithin (step : Nat) (room : Room) (ds : Document) : Configuration where
  resources := (ds.blocks step room).filter (·.kind = .resource)
  dataSources := (ds.blocks step room).filter (·.kind = .data)
  modules := (ds.blocks step room).filter (·.kind = .module)
  providerBlocks := (ds.blocks step room).filter (·.kind = .provider)
  inputs := ds.filterMap (·.input? room)
  outputs := ds.filterMap (·.output? room)
  locals := ds.flatMap (·.locals room)
  terraform := ds.flatMap (·.settings room)
  providers := (ds.flatMap (·.providerNames room)).eraseDups
  warnings := (placed step 1 ds).flatMap fun p => p.2.warnings room p.1

/-- **The configuration that a document declares**, all blocks with their properties. -/
def meaning (step : Nat) (ds : Document) : Configuration :=
  ds.meaningWithin step none

/-- Nothing is declared twice: no attribute of a body, no key of a map, no variable, output, local
value or setting. -/
structure WellFormed (ds : Document) : Prop where
  distinct : ∀ d ∈ ds, Clause.Distinct d.body
  clauses : ∀ d ∈ ds, ∀ c ∈ d.body, c.WellFormed
  inputs : ((ds.filterMap (·.input? none)).map (·.1)).Nodup
  outputs : ((ds.filterMap (·.output? none)).map (·.1)).Nodup
  locals : ((ds.flatMap (·.locals none)).map (·.1)).Nodup
  settings : ((ds.flatMap (·.settings none)).map (·.1)).Nodup

end Document

end Groundplan.Hcl
