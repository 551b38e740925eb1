import Groundplan.Hcl.Block
import Groundplan.Hcl.Nesting

/-!
# Reading configurations

The values, bodies and blocks of a configuration text. Reading never fails: what is not understood
becomes an expression or is passed over with a warning. Two things stop a block, and cost it its
properties: an integer of too many digits, and nesting beyond the levels that there is room for.

## Main definitions

* `Obstacle`, `Room`: what stops a block, and how much deeper a text may nest
* `Reading`: a result with the warnings on the way, or the end of the block
* `readValue`, `readBody`: the value of a text and the properties of a body
* `Part`, `TopLevel.read`: what a top-level block contributes
* `Configuration.ofParts`: the configuration that parts make up
* `parseWithin`, `parse`: the configuration of a text, within some room and within the usual room
* `load`: the same for texts that can be cut into blocks at all

## Main results

* `readBody_eq`: a body is read statement by statement
-/

namespace Groundplan.Hcl

open Text

/-! ## Results with warnings -/

/-- Why the properties of a block cannot be read. -/
inductive Obstacle where
  /-- An integer literal has too many digits. -/
  | longInteger
  /-- Blocks, lists and maps stand too deep inside one another. -/
  | deepNesting
deriving DecidableEq, Repr, Inhabited

/-- How much deeper a text may nest: by so many levels, or by any number where there is no bound.
A nested block takes one level, an item of a list two and the value of a key three. -/
abbrev Room := Option Nat

/-- A result and the warnings on the way to it; no result if an obstacle ended the block. -/
structure Reading (α : Type) where
  warnings : List Warning
  result : Except Obstacle α

namespace Reading

variable {α β : Type}

/-- A result without warnings. -/
def ofValue (a : α) : Reading α :=
  ⟨[], .ok a⟩

/-- Goes on with the result; the warnings come one after another. -/
def andThen (r : Reading α) (f : α → Reading β) : Reading β :=
  match r.result with
  | .ok a => ⟨r.warnings ++ (f a).warnings, (f a).result⟩
  | .error e => ⟨r.warnings, .error e⟩

instance : Monad Reading where
  pure := ofValue
  bind := andThen

theorem map_ofValue (r : Reading α) : r.andThen (fun a => ofValue a) = r := by
  obtain ⟨w, r⟩ := r
  cases r <;> simp [andThen, ofValue]

theorem andThen_assoc {γ : Type} (r : Reading α) (f : α → Reading β) (g : β → Reading γ) :
    (r.andThen f).andThen g = r.andThen fun a => (f a).andThen g := by
  obtain ⟨w, r⟩ := r
  cases r with
  | error e => rfl
  | ok a =>
    simp only [andThen]
    cases (f a).result <;> simp

instance : LawfulMonad Reading :=
  LawfulMonad.mk' Reading map_ofValue (fun _ _ => by simp [bind, andThen, pure, ofValue])
    andThen_assoc

/-- A warning. -/
def warn (w : Warning) : Reading Unit :=
  ⟨[w], .ok ()⟩

/-- The end of the block. -/
def stop (o : Obstacle) : Reading α :=
  ⟨[], .error o⟩

/-- What is read so many levels further in, with the room that is left there. -/
def within (levels : Nat) (room : Room) (f : Room → Reading α) : Reading α :=
  match room with
  | none => f none
  | some n => if levels ≤ n then f (some (n - levels)) else stop .deepNesting

end Reading

/-! ## Scalars -/

/-- The digits of an integer literal, and whether a hyphen precedes them. -/
def integerLiteral? (cs : List Char) : Option (Bool × List Char) :=
  let (negative, digits) :=
    match cs with
    | '-' :: rest => (true, rest)
    | _ => (false, cs)
  if !digits.isEmpty && digits.all isDecimal then some (negative, digits) else none

/-- The exponent of a number literal, the whole text being `e`, a sign perhaps, and digits. -/
def exponentLiteral? (cs : List Char) : Option Int :=
  match cs with
  | c :: rest =>
    if c == 'e' || c == 'E' then
      let (negative, digits) := splitSign rest
      if !digits.isEmpty && digits.all isDecimal then
        let n : Int := digitsValue digits
        some (if negative then -n else n)
      else none
    else none
  | [] => none

/-- The number of a literal with a point, an exponent, or both. -/
def numberLiteral? (cs : List Char) : Option Binary64 :=
  let (negative, body) :=
    match cs with
    | '-' :: rest => (true, rest)
    | _ => (false, cs)
  let whole := body.takeWhile isDecimal
  if whole.isEmpty then none
  else
    match body.dropWhile isDecimal with
    | '.' :: rest =>
      let places := rest.takeWhile isDecimal
      if places.isEmpty then none
      else
        let value (e : Int) : Binary64 :=
          Binary64.ofDecimal negative (digitsValue (whole ++ places)) (e - places.length)
        -- Behind the places may stand an exponent, and nothing else.
        match rest.dropWhile isDecimal with
        | [] => some (value 0)
        | tail => (exponentLiteral? tail).map value
    | tail => (exponentLiteral? tail).map fun e => Binary64.ofDecimal negative (digitsValue whole) e

/-- The value of an integer literal, unless it has too many digits. -/
def integerValue (negative : Bool) (digits : List Char) : Reading Value :=
  if maxIntegerDigits < digits.length then .stop .longInteger
  else
    let n : Int := digitsValue digits
    .ofValue (.int (if negative then -n else n))

/-- Whether the inside of brackets is a `for` expression. -/
def isForExpression (inner : List Char) : Bool :=
  match inner.dropWhile isBlank with
  | 'f' :: 'o' :: 'r' :: c :: _ => isBlank c
  | _ => false

/-- The shapes that the text of a value can have. -/
inductive Shape where
  | value (v : Value)
  | integer (negative : Bool) (digits : List Char)
  | list (inner : List Char)
  | map (inner : List Char)
deriving Repr, Inhabited

/-- The inside of brackets that close at the very end of the text. -/
def inside? (opener closer : Char) (afterOpener : List Char) : Option (List Char) :=
  -- What is left behind the bracket is nothing.
  if closeBracket opener closer 0 afterOpener == some [] then some afterOpener.dropLast else none

/-- The text of a value that is no other literal: the body of a heredoc, or the text itself. -/
def expressionOf (cs : List Char) : Value :=
  match heredoc? cs with
  | some d => .expression (String.ofList d.body)
  | none => .expression (String.ofList cs)

/-- The value in brackets, or the expression that the text is. -/
def bracketShape (cs : List Char) : Shape :=
  match cs with
  | '[' :: rest =>
    match inside? '[' ']' rest with
    | some inner =>
      if isForExpression inner then .value (.expression (String.ofList cs)) else .list inner
    | none => .value (expressionOf cs)
  | '\x7b' :: rest =>
    match inside? '\x7b' '\x7d' rest with
    | some inner =>
      if isForExpression inner then .value (.expression (String.ofList cs)) else .map inner
    | none => .value (expressionOf cs)
  | _ => .value (expressionOf cs)

/-- The value of a literal that ends where the text ends, or what the text is otherwise. -/
def literalShape (cs : List Char) : Shape :=
  match cs with
  | '"' :: rest =>
    if closeQuote rest == some [] then .value (.string (unescape rest.dropLast))
    else .value (expressionOf cs)
  | _ => bracketShape cs

/-- What the text of a value is: nothing or `null`, a truth value, an integer, a number, a string, a
list, a map, or else an expression. -/
def shapeOf (cs : List Char) : Shape :=
  if cs.isEmpty then .value .null
  else if cs == "true".toList then .value (.bool true)
  else if cs == "false".toList then .value (.bool false)
  else if cs == "null".toList then .value .null
  else
    match integerLiteral? cs with
    | some (negative, digits) => .integer negative digits
    | none =>
      match numberLiteral? cs with
      | some x => .value (.float x)
      | none => literalShape cs

/-- The length of the text inside a shape that is still to be read. -/
def Shape.size : Shape → Nat
  | .value _ => 0
  | .integer _ _ => 0
  | .list inner => inner.length
  | .map inner => inner.length

theorem inside?_length_le {opener closer : Char} {cs inner : List Char}
    (h : inside? opener closer cs = some inner) : inner.length ≤ cs.length := by
  unfold inside? at h
  split at h
  · cases h; simp
  · cases h

theorem bracketShape_size_lt {cs : List Char} (h : cs ≠ []) :
    (bracketShape cs).size < cs.length := by
  have h0 : 0 < cs.length := List.length_pos_iff.2 h
  unfold bracketShape
  split
  · split
    · rename_i rest inner hi
      have := inside?_length_le hi
      split
      · simp [Shape.size]
      · simp only [Shape.size, List.length_cons]; omega
    · simp [Shape.size]
  · split
    · rename_i rest inner hi
      have := inside?_length_le hi
      split
      · simp [Shape.size]
      · simp only [Shape.size, List.length_cons]; omega
    · simp [Shape.size]
  · simpa [Shape.size] using h0

/-- What is inside brackets is shorter than the text. -/
theorem shapeOf_size_lt {cs : List Char} (h : cs ≠ []) : (shapeOf cs).size < cs.length := by
  have h0 : 0 < cs.length := List.length_pos_iff.2 h
  unfold shapeOf
  repeat' split
  all_goals first
    | simpa [Shape.size] using h0
    | skip
  unfold literalShape
  split
  · split <;> simp [Shape.size]
  · exact bracketShape_size_lt h

/-! ## Bodies -/

/-- The properties of a body so far, and the keys among them that nested blocks have put there. -/
structure Scope where
  entries : Properties := []
  blockKeys : List String := []
deriving Repr, Inhabited

namespace Scope

/-- Gives a key a value. -/
def assign (sc : Scope) (key : String) (v : Value) : Scope :=
  ⟨Entries.set key v sc.entries, sc.blockKeys.filter (· != key)⟩

/-- Adds a nested block; blocks of the same key are collected in a list. -/
def addBlock (sc : Scope) (key : String) (block : Value) : Scope :=
  if sc.blockKeys.contains key then
    -- A second block makes a list of the two, a further one goes at the end of the list.
    match Entries.get? key sc.entries with
    | some (.list xs) => { sc with entries := Entries.set key (.list (xs ++ [block])) sc.entries }
    | some v => { sc with entries := Entries.set key (.list [v, block]) sc.entries }
    | none => sc
  else ⟨Entries.set key block sc.entries, key :: sc.blockKeys⟩

end Scope

/-- The value of a nested block: its properties, and its labels under a key of their own. -/
def blockValue (labels : List String) (entries : Properties) : Value :=
  .map (if labels.isEmpty then entries
    else Entries.set "_labels" (.list (labels.map .string)) entries)

mutual

/-- The value of a text. -/
def readValue (room : Room) (cs : List Char) : Reading Value :=
  if _hcs : cs = [] then .ofValue .null
  else
    match _hs : shapeOf cs with
    | .value v => .ofValue v
    | .integer negative digits => integerValue negative digits
    | .list inner =>
      -- The items are attached to the list so that they are seen to be shorter.
      ((elements inner).attach.mapM fun ⟨item, _⟩ =>
        .within 2 room fun room => readValue room item) >>= fun items => .ofValue (.list items)
    | .map inner => readBody room true inner >>= fun entries => .ofValue (.map entries)
-- A value and a body may be of the same text, so one is counted just below the other.
termination_by 2 * cs.length
decreasing_by
  · have h1 := length_le_of_mem_elements ‹item ∈ elements inner›
    have h2 := shapeOf_size_lt _hcs
    rw [_hs] at h2
    simp only [Shape.size] at h2
    omega
  · have h2 := shapeOf_size_lt _hcs
    rw [_hs] at h2
    simp only [Shape.size] at h2
    omega

/-- The properties of a body; `inline` is for the inside of a map literal, where colons and commas
count too. -/
def readBody (room : Room) (inline : Bool) (cs : List Char) : Reading Properties :=
  ((statements inline cs).attach.foldlM (fun (sc : Scope) ⟨st, _hst⟩ =>
    match _he : st with
    | .assignment key (.source src) =>
      .within 3 room fun room => readValue room src >>= fun v => .ofValue (sc.assign key v)
    | .assignment key (.heredoc body) =>
      .ofValue (sc.assign key (.expression (String.ofList body)))
    | .block key labels body closed =>
      (if closed then .ofValue () else .warn (.unbalancedNested key)) >>= fun _ =>
        .within 1 room fun room => readBody room false body >>= fun entries =>
          .ofValue (sc.addBlock key (blockValue labels entries))
    | .unrecognized (.source src) shown =>
      .within 3 room fun room => readValue room src >>= fun _ =>
        Reading.warn (.unrecognized (String.ofList shown)) >>= fun _ => .ofValue sc
    | .unrecognized (.heredoc _) shown =>
      Reading.warn (.unrecognized (String.ofList shown)) >>= fun _ => .ofValue sc
    | .bare key => Reading.warn (.missingValue key) >>= fun _ => .ofValue sc) ({} : Scope)) >>=
    fun sc => .ofValue sc.entries
termination_by 2 * cs.length + 1
decreasing_by
  · have := (size_le_of_mem_statements _hst).2 rfl
    simp only [Statement.size, RawValue.size] at this
    omega
  · have := (size_le_of_mem_statements _hst).2 rfl
    simp only [Statement.size] at this
    omega
  · have := (size_le_of_mem_statements _hst).1
    simp only [Statement.size, RawValue.size] at this
    omega

end

/-- What a statement does to the properties so far. -/
def Statement.run (room : Room) (sc : Scope) : Statement → Reading Scope
  | .assignment key (.source src) =>
    .within 3 room fun room => readValue room src >>= fun v => .ofValue (sc.assign key v)
  | .assignment key (.heredoc body) =>
    .ofValue (sc.assign key (.expression (String.ofList body)))
  | .block key labels body closed =>
    (if closed then .ofValue () else .warn (.unbalancedNested key)) >>= fun _ =>
      .within 1 room fun room => readBody room false body >>= fun entries =>
        .ofValue (sc.addBlock key (blockValue labels entries))
  | .unrecognized (.source src) shown =>
    .within 3 room fun room => readValue room src >>= fun _ =>
      Reading.warn (.unrecognized (String.ofList shown)) >>= fun _ => .ofValue sc
  | .unrecognized (.heredoc _) shown =>
    Reading.warn (.unrecognized (String.ofList shown)) >>= fun _ => .ofValue sc
  | .bare key => Reading.warn (.missingValue key) >>= fun _ => .ofValue sc

/-- **A body is read statement by statement.** -/
theorem readBody_eq (room : Room) (inline : Bool) (cs : List Char) :
    readBody room inline cs =
      (statements inline cs).foldlM (Statement.run room) ({} : Scope) >>= fun sc =>
        .ofValue sc.entries := by
  rw [readBody]
  conv => rhs; rw [← List.attach_map_subtype_val (statements inline cs), List.foldlM_map]
  congr 1
  congr 1
  funext sc ⟨st, hst⟩
  cases st with
  | assignment key v => cases v <;> rfl
  | block key labels body closed => rfl
  | unrecognized v shown => cases v <;> rfl
  | bare key => rfl

/-! ## Top-level blocks -/

/-- The words that begin a supported block. -/
inductive Keyword where
  | resource
  | data
  | module
  | variable
  | output
  | provider
  | terraform
  | locals
deriving DecidableEq, Repr, Inhabited

/-- The keyword that a word is. -/
def Keyword.ofWord? (word : String) : Option Keyword :=
  if word == "resource" then some .resource
  else if word == "data" then some .data
  else if word == "module" then some .module
  else if word == "variable" then some .variable
  else if word == "output" then some .output
  else if word == "provider" then some .provider
  else if word == "terraform" then some .terraform
  else if word == "locals" then some .locals
  else none

/-- What a top-level block contributes to a configuration. -/
inductive Part where
  /-- A labelled block. -/
  | block (b : Block)
  /-- A provider block, which also names the provider. -/
  | provider (name : String) (b : Block)
  | variable (name : String) (properties : Properties)
  | output (name : String) (properties : Properties)
  | terraform (properties : Properties)
  | locals (properties : Properties)
deriving Repr, Inhabited

/-- What the top-level text of one place yields. -/
structure Outcome where
  warnings : List Warning
  part : Option Part
deriving Repr, Inhabited

/-- The name of a provider block: its alias if that is a string, else its label. -/
def providerName (label : String) (properties : Properties) : String :=
  match Entries.get? "alias" properties with
  | some (.string s) => s
  | _ => label

/-- The part that a block of a keyword makes up, or the warning that a label is missing. -/
def Section.part (s : Section) (keyword : Keyword) (properties : Properties) : Outcome :=
  let block (kind : BlockKind) (type name : String) : Block :=
    ⟨kind, type, name, properties, s.startLine, s.endLine, String.ofList s.raw⟩
  match keyword, s.labels with
  | .resource, type :: name :: _ => ⟨[], some (.block (block .resource type name))⟩
  | .resource, _ => ⟨[.missingLabels s.keyword s.startLine], none⟩
  | .data, type :: name :: _ => ⟨[], some (.block (block .data type name))⟩
  | .data, _ => ⟨[.missingLabels s.keyword s.startLine], none⟩
  | .terraform, _ => ⟨[], some (.terraform properties)⟩
  | .locals, _ => ⟨[], some (.locals properties)⟩
  | _, [] => ⟨[.missingLabel s.keyword s.startLine], none⟩
  | .module, name :: _ => ⟨[], some (.block (block .module "module" name))⟩
  | .provider, name :: _ =>
    ⟨[], some (.provider name (block .provider name (providerName name properties)))⟩
  | .variable, name :: _ => ⟨[], some (.variable name properties)⟩
  | .output, name :: _ => ⟨[], some (.output name properties)⟩

/-- Reads a top-level block. -/
def Section.read (room : Room) (s : Section) : Outcome :=
  let open_ : List Warning :=
    if s.closed then [] else [.unbalancedBlock s.keyword s.startLine]
  match Keyword.ofWord? s.keyword with
  | none => ⟨open_ ++ [.unsupportedBlock s.keyword s.startLine], none⟩
  | some keyword =>
    let body := readBody room false s.body
    match body.result with
    | .ok properties =>
      let o := s.part keyword properties
      ⟨open_ ++ body.warnings ++ o.warnings, o.part⟩
    | .error _ =>
      -- The block is kept, but without its properties.
      let o := s.part keyword []
      ⟨open_ ++ body.warnings ++ [.unreadableBlock s.keyword s.startLine] ++ o.warnings, o.part⟩

/-- Reads what stands at one place of the top level. -/
def TopLevel.read (room : Room) : TopLevel → Outcome
  | .block s => s.read room
  | .junk c line => ⟨[.unexpectedCharacter c line], none⟩
  | .headless keyword line => ⟨[.missingBrace keyword line], none⟩

/-! ## Configurations -/

/-- The block of a kind that a part is. -/
def Part.block? (kind : BlockKind) : Part → Option Block
  | .block b => if b.kind = kind then some b else none
  | .provider _ b => if b.kind = kind then some b else none
  | _ => none

/-- The provider names that a part mentions: its own, or those of required providers. -/
def Part.providerNames : Part → List String
  | .provider name _ => [name]
  | .terraform properties =>
    match Entries.get? "required_providers" properties with
    | some (.map es) => (es.map (·.1)).filter (· != "_labels")
    | _ => []
  | _ => []

/-- Adds a name to a list of names unless it is there. -/
def addName (names : List String) (name : String) : List String :=
  if names.contains name then names else names ++ [name]

namespace Configuration

/-- The configuration that parts make up. Later variables, outputs, locals and settings of the same
name replace earlier ones. -/
def ofParts (parts : List Part) (warnings : List Warning) : Configuration where
  resources := parts.filterMap (Part.block? .resource)
  dataSources := parts.filterMap (Part.block? .data)
  modules := parts.filterMap (Part.block? .module)
  providerBlocks := parts.filterMap (Part.block? .provider)
  inputs := parts.foldl (fun acc p =>
    match p with
    | .variable name ps => Entries.set name ps acc
    | _ => acc) []
  outputs := parts.foldl (fun acc p =>
    match p with
    | .output name ps => Entries.set name ps acc
    | _ => acc) []
  locals := parts.foldl (fun acc p =>
    match p with
    | .locals ps => Entries.merge acc ps
    | _ => acc) []
  terraform := parts.foldl (fun acc p =>
    match p with
    | .terraform ps => Entries.merge acc ps
    | _ => acc) []
  providers := (parts.flatMap Part.providerNames).foldl addName []
  warnings := warnings

end Configuration

/-- The outcomes of a text, place by place. -/
def outcomes (room : Room) (cs : List Char) : List Outcome :=
  (sections cs).map (TopLevel.read room)

/-- The configuration of a text the blocks of which may nest as deep as there is room. -/
def parseWithin (room : Room) (text : String) : Configuration :=
  let os := outcomes room text.toList
  .ofParts (os.filterMap Outcome.part) (os.flatMap Outcome.warnings)

/-- The levels that the body of a top-level block may nest. -/
def maxLevels : Nat := 990

/-- **The configuration of a text.** -/
def parse (text : String) : Configuration :=
  parseWithin (some maxLevels) text

/-- The configuration of a text that can be cut into blocks. -/
def load (text : String) : Answer Configuration :=
  (scannable text).map parse

end Groundplan.Hcl
