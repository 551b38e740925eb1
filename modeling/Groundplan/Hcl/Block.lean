import Groundplan.Hcl.Value

/-!
# Blocks and configurations

The labelled blocks of a configuration and everything else that reading one yields.

## Main definitions

* `Block`: a resource, data source, module or provider with its place in the text
* `Block.find?`, `Block.get`, `Block.has`, `Block.nested`: looking into its properties
* `Warning`: what a reader passes over, with `Warning.message`
* `Configuration`: the result of reading a text
-/

namespace Groundplan.Hcl

/-- The kinds of labelled block. -/
inductive BlockKind where
  | resource
  | data
  | module
  | provider
deriving DecidableEq, Repr, Inhabited

/-- The word for a kind of block. -/
def BlockKind.word : BlockKind → String
  | .resource => "resource"
  | .data => "data"
  | .module => "module"
  | .provider => "provider"

/-- A labelled block. Lines count from one and include both ends. -/
structure Block where
  kind : BlockKind
  type : String
  name : String
  properties : Properties
  startLine : Nat
  endLine : Nat
  raw : String
deriving Repr, Inhabited

namespace Block

/-- The name by which other blocks refer to a block. -/
def fullName (b : Block) : String :=
  match b.kind with
  | .data => "data." ++ b.type ++ "." ++ b.name
  | .module => "module." ++ b.name
  | .resource => b.type ++ "." ++ b.name
  | .provider => b.type ++ "." ++ b.name

/-- The value at a dotted path. -/
def find? (b : Block) (path : String) : Answer (Option Value) :=
  b.properties.find? path

/-- The plain value at a dotted path, or a default. -/
def get (b : Block) (path : String) (default : Data) : Answer Data :=
  (b.find? path).map fun v => (v.map Value.toData).getD default

/-- Whether there is a value at a dotted path. -/
def has (b : Block) (path : String) : Answer Bool :=
  (b.find? path).map Option.isSome

/-- The value of a property. -/
def property? (b : Block) (name : String) : Option Value :=
  Entries.get? name b.properties

/-- The maps of a list, or a map alone. -/
def maps : Option Value → List Properties
  | some (.map es) => [es]
  | some (.list xs) => xs.filterMap Value.entries?
  | _ => []

/-- The nested blocks of a name, whether it appears once or many times. -/
def nested (b : Block) (name : String) : List Properties :=
  maps (b.property? name)

/-- The fields that all views of a block share. -/
def headData (b : Block) : Entries Data :=
  [("block_type", .text b.kind.word), ("type", .text b.type), ("name", .text b.name),
    ("full_name", .text b.fullName)]

/-- The public view of a block. -/
def toData (b : Block) : Data :=
  .map (b.headData ++ [("properties", b.properties.toData), ("start_line", .ofNat b.startLine),
    ("end_line", .ofNat b.endLine)])

/-- The view of a block that names the kind of every value and shows its text. -/
def tagged (b : Block) : Data :=
  .map (b.headData ++ [("properties", b.properties.tagged), ("start_line", .ofNat b.startLine),
    ("end_line", .ofNat b.endLine), ("raw", .text b.raw)])

end Block

/-! ## Warnings -/

/-- What a reader passes over or makes up for. -/
inductive Warning where
  | unexpectedCharacter (c : Char) (line : Nat)
  | missingBrace (keyword : String) (line : Nat)
  | unbalancedBlock (keyword : String) (line : Nat)
  | unsupportedBlock (keyword : String) (line : Nat)
  | unreadableBlock (keyword : String) (line : Nat)
  | missingLabels (keyword : String) (line : Nat)
  | missingLabel (keyword : String) (line : Nat)
  | unrecognized (shown : String)
  | unbalancedNested (key : String)
  | missingValue (key : String)
deriving DecidableEq, Repr, Inhabited

/-- The text of a warning. -/
def Warning.message : Warning → String
  | .unexpectedCharacter c line =>
    "Unexpected character " ++ Text.quoted c.toString ++ " on line " ++ toString line
  | .missingBrace keyword line =>
    "Expected '\x7b' after '" ++ keyword ++ "' on line " ++ toString line
  | .unbalancedBlock keyword line =>
    "Unbalanced braces in '" ++ keyword ++ "' block starting on line " ++ toString line
  | .unsupportedBlock keyword line =>
    "Skipped unsupported top-level block '" ++ keyword ++ "' on line " ++ toString line
  | .unreadableBlock keyword line =>
    "Could not parse '" ++ keyword ++ "' block on line " ++ toString line
  | .missingLabels keyword line =>
    "'" ++ keyword ++ "' block on line " ++ toString line ++ " needs a type and a name"
  | .missingLabel keyword line =>
    "'" ++ keyword ++ "' block on line " ++ toString line ++ " needs a name"
  | .unrecognized shown => "Skipped unrecognized content: " ++ shown
  | .unbalancedNested key => "Unbalanced braces in nested block '" ++ key ++ "'"
  | .missingValue key => "Property '" ++ key ++ "' has no value"

/-! ## Configurations -/

/-- What reading a text yields; each list is in the order of the text. -/
structure Configuration where
  resources : List Block
  dataSources : List Block
  modules : List Block
  providerBlocks : List Block
  inputs : Entries Properties
  outputs : Entries Properties
  locals : Properties
  terraform : Properties
  providers : List String
  warnings : List Warning
deriving Repr, Inhabited

namespace Configuration

/-- The resources of some types. -/
def ofTypes (c : Configuration) (types : List String) : List Block :=
  c.resources.filter fun r => types.contains r.type

/-- The texts of the warnings. -/
def warningTexts (c : Configuration) : Data :=
  .ofTexts (c.warnings.map Warning.message)

/-- The public view of a configuration. -/
def toData (c : Configuration) : Data :=
  .map [("resources", .list (c.resources.map Block.toData)),
    ("data_sources", .list (c.dataSources.map Block.toData)),
    ("modules", .list (c.modules.map Block.toData)),
    ("variables", .map (c.inputs.map fun v => (v.1, v.2.toData))),
    ("outputs", .map (c.outputs.map fun v => (v.1, v.2.toData))),
    ("locals", c.locals.toData),
    ("providers", .ofTexts c.providers),
    ("parse_warnings", c.warningTexts)]

/-- The view of a configuration that names the kind of every value. -/
def tagged (c : Configuration) : Data :=
  .map [("resources", .list (c.resources.map Block.tagged)),
    ("data_sources", .list (c.dataSources.map Block.tagged)),
    ("modules", .list (c.modules.map Block.tagged)),
    ("provider_blocks", .list (c.providerBlocks.map Block.tagged)),
    ("variables", .map (c.inputs.map fun v => (v.1, v.2.tagged))),
    ("outputs", .map (c.outputs.map fun v => (v.1, v.2.tagged))),
    ("locals", c.locals.tagged),
    ("terraform", c.terraform.tagged),
    ("providers", .ofTexts c.providers),
    ("parse_warnings", c.warningTexts)]

end Configuration

end Groundplan.Hcl
