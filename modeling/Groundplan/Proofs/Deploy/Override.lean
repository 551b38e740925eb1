import Groundplan.Proofs.Deploy.Literals
import Groundplan.Proofs.Hcl.RoundTrip

/-!
# What the override carries

The override is read back with the reader of configurations. If every text in it stays in its
literal, the file is one block of settings and one provider, with the texts that were given and
nothing else; if one text does not, it can leave its literal.

## Main definitions

* `literalChars`: a text as a literal
* `Carries`: a file that carries keys and a region and nothing else

## Main results

* `override_carries_iff`: **the override carries what it was given exactly if all texts are tame**
-/

namespace Groundplan.Deploy.Override

open Hcl Text

/-! ## Literals -/

/-- A text as a literal. -/
def literalChars (s : String) : List Char :=
  '"' :: (escapeLiteral s.toList ++ ['"'])

theorem toList_literal (s : String) : (literal s).toList = literalChars s := by
  simp [literal, literalChars]

variable {s : String}

theorem valueText_literalChars (h : Tame s) : ValueText (literalChars s) := by
  have hinside := (inside_escapeLiteral_iff s).2 h
  refine ⟨.literal hinside, fun c hc => ?_, fun c hc => ?_, by simp [literalChars], fun rest => ?_⟩
  · obtain rfl : '"' = c := by simpa [literalChars] using hc
    decide
  · have hlast : (literalChars s).getLast? = some '"' := by
      rw [literalChars, ← List.cons_append, List.getLast?_concat]
    rw [hlast] at hc
    obtain rfl : '"' = c := by simpa using hc
    decide
  · exact isForExpression_of_ne (by decide) (by decide)

/-- A literal reads as its text. -/
theorem readValue_literalChars (h : Tame s) (room : Room) :
    readValue room (literalChars s) = .ofValue (.string (shown s)) := by
  have hshape : shapeOf (literalChars s) = literalShape (literalChars s) :=
    shapeOf_eq_literalShape (by decide) (by decide) (by simp)
  have hclose := closeQuote_inside ((inside_escapeLiteral_iff s).2 h) []
  refine readValue_of_value (valueText_literalChars h).nonempty ?_
  rw [hshape, literalChars, literalShape, hclose, if_pos (by simp), List.dropLast_concat,
    unescape_escapeLiteral]

/-! ## Lines -/

/-- A property on a line of its own: a name, some spaces, and a literal. -/
structure Property where
  name : Identifier
  gap : Nat
  text : String

namespace Property

/-- The line of a property, some spaces in. -/
def line (pad : Nat) (p : Property) : List Char :=
  List.replicate pad ' ' ++ (p.name.chars ++ (List.replicate (p.gap + 1) ' ' ++
    '=' :: ' ' :: (literalChars p.text ++ ['\n'])))

/-- The statement that a property is cut into. -/
def statement (p : Property) : Statement :=
  .assignment p.name.name (.source (literalChars p.text))

/-- The entry that a property becomes. -/
def entry (p : Property) : String × Value :=
  (p.name.name, .string (shown p.text))

theorem passage_line (p : Property) (h : Tame p.text) (pad : Nat) : Passage true (p.line pad) :=
  .append (passage_spaces pad) <| .append (passage_name p.name) <| .append (passage_spaces _) <|
    .cons (by decide) (.inl rfl) <| .cons (by decide) (.inl rfl) <|
      .append (valueText_literalChars h).passage.loosen (.char (by decide) (.inl rfl))

/-- A property is cut out of its line. -/
theorem statementsFrom_line (p : Property) (h : Tame p.text) (inline : Bool) (pad : Nat)
    (done : List Statement) (rest : List Char) :
    statementsFrom inline done (p.line pad ++ rest) =
      statementsFrom inline (p.statement :: done) rest := by
  have hspaces : ∀ c ∈ List.replicate (p.gap + 1) ' ', isSpacing c = true := fun c hc => by
    rw [List.eq_of_mem_replicate hc]
    rfl
  have hread := keyedStatement_padded inline p.name.name hspaces (valueText_literalChars h)
    (afterValue_feed inline rest)
  rw [line, List.append_assoc, statementsFrom_spaces, List.append_assoc,
    statementsFrom_chars inline done p.name (by simp [List.replicate_succ]; decide)]
  simp only [List.cons_append, List.append_assoc, List.nil_append, hread]
  exact statementsFrom_separator inline _ (by decide)

theorem statementsFrom_lines {ps : List Property} (h : ∀ p ∈ ps, Tame p.text) (inline : Bool)
    (pad : Nat) (done : List Statement) (rest : List Char) :
    statementsFrom inline done (ps.flatMap (line pad) ++ rest) =
      statementsFrom inline ((ps.map statement).reverse ++ done) rest := by
  induction ps generalizing done with
  | nil => rfl
  | cons p ps ih =>
    rw [List.forall_mem_cons] at h
    rw [List.flatMap_cons, List.append_assoc, p.statementsFrom_line h.1, ih h.2]
    simp

/-- The value of a property is given to its name, three levels in. -/
theorem run_statement (p : Property) (h : Tame p.text) (room : Room) (sc : Scope) :
    p.statement.run room sc =
      .given (room.fits 3) (sc.assign p.name.name (.string (shown p.text))) := by
  rw [statement, Statement.run]
  refine Reading.within_given (n := 0) (fun room => ?_) room
  rw [readValue_literalChars h, Room.fits_zero, Reading.ofValue_bind]
  rfl

end Property

/-! ## The names of the override -/

/-- A name of the override. -/
def nameOf (head : Char) (tail : List Char)
    (h : isNameStart head = true ∧ tail.all isNamePart = true := by decide +kernel) : Identifier :=
  ⟨head, tail, h.1, List.all_eq_true.1 h.2⟩

/-- The tag that names the program. -/
def managedBy (app : String) : Property :=
  ⟨nameOf 'M' "anagedBy".toList, 0, app⟩

/-- What stands between the braces of the map of tags. -/
def tagsInside (app : String) : List Char :=
  '\n' :: ((managedBy app).line 6 ++ List.replicate 4 ' ')

/-- The map of tags. -/
def tagMap (app : String) : List Char :=
  '\x7b' :: (tagsInside app ++ ['\x7d'])

/-- What stands between the braces of the block of tags. -/
def defaultTagsInside (app : String) : List Char :=
  '\n' :: (List.replicate 4 ' ' ++ ((nameOf 't' "ags".toList).chars ++ ' ' :: '=' :: ' ' ::
    (tagMap app ++ '\n' :: List.replicate 2 ' ')))

/-- The region, the keys and the token, if there is one. -/
def properties (region access secret : String) (token : Option String) : List Property :=
  [⟨nameOf 'r' "egion".toList, 4, region⟩, ⟨nameOf 'a' "ccess_key".toList, 0, access⟩,
    ⟨nameOf 's' "ecret_key".toList, 0, secret⟩] ++
      token.toList.map fun t => ⟨nameOf 't' "oken".toList, 5, t⟩

/-- What stands between the braces of a provider with some properties and the tags. -/
def providerInside (app : String) (ps : List Property) : List Char :=
  '\n' :: (ps.flatMap (Property.line 2) ++ '\n' :: (List.replicate 2 ' ' ++
    ((nameOf 'd' "efault_tags".toList).chars ++
      ' ' :: '\x7b' :: (defaultTagsInside app ++ '\x7d' :: ['\n']))))

/-! ## Reading the provider -/

section Provider

variable {app : String}

theorem passage_tagsInside (h : Tame app) : Passage true (tagsInside app) :=
  .cons (by decide) (.inl rfl) (.append ((managedBy app).passage_line h 6) (passage_spaces 4))

theorem isForExpression_tagsInside (app : String) : isForExpression (tagsInside app) = false := by
  have hblank : ∀ c ∈ '\n' :: List.replicate 6 ' ', isBlank c = true := by
    refine List.forall_mem_cons.2 ⟨by decide, fun c hc => ?_⟩
    rw [List.eq_of_mem_replicate hc]
    decide
  have hsplit : tagsInside app = ('\n' :: List.replicate 6 ' ') ++
      'M' :: ("anagedBy".toList ++ (' ' :: '=' :: ' ' :: (literalChars app ++ '\n' ::
        List.replicate 4 ' '))) := by
    simp [tagsInside, Property.line, managedBy, nameOf, Identifier.chars]
  have hword := @isForExpression_of_ne 'M' ("anagedBy".toList ++ (' ' :: '=' :: ' ' ::
    (literalChars app ++ '\n' :: List.replicate 4 ' '))) (by decide) (by decide)
  rw [isForExpression] at hword
  rw [isForExpression, hsplit, List.dropWhile_append_of_pos hblank, hword]

/-- The map of tags has one entry. -/
theorem readValue_tagMap (h : Tame app) (room : Room) : readValue room (tagMap app) =
    .given (room.fits 3) (.map [("ManagedBy", .string (shown app))]) := by
  have hstatements : statements true (tagsInside app) = [(managedBy app).statement] := by
    rw [statements, tagsInside, statementsFrom_separator true [] (by decide),
      (managedBy app).statementsFrom_line h, ← List.append_nil (List.replicate 4 ' '),
      statementsFrom_spaces, statementsFrom_nil]
    rfl
  have hbody : readBody room true (tagsInside app) =
      .given (room.fits 3) [("ManagedBy", .string (shown app))] := by
    have hrun : ∀ st ∈ [(managedBy app).statement], ∀ sc : Scope, st.run room sc =
        .given (room.fits 3) (sc.assign "ManagedBy" (.string (shown app))) :=
      List.forall_mem_singleton.2 fun sc => (managedBy app).run_statement h room sc
    rw [readBody_eq, hstatements, Reading.foldlM_given hrun, Reading.given_map]
    simp [Scope.assign, Entries.set]
  have hshape : shapeOf (tagMap app) = .map (tagsInside app) :=
    shapeOf_map (passage_tagsInside h) (isForExpression_tagsInside app)
  rw [readValue_of_map (by simp [tagMap]) hshape, hbody, Reading.given_map]

theorem passage_defaultTagsInside (h : Tame app) : Passage true (defaultTagsInside app) :=
  .cons (by decide) (.inl rfl) <| .append (passage_spaces 4) <| .append (passage_name _) <|
    .cons (by decide) (.inl rfl) <| .cons (by decide) (.inl rfl) <| .cons (by decide) (.inl rfl) <|
      .append (.group (.inr (.inr ⟨rfl, rfl⟩)) (passage_tagsInside h)) <|
        .cons (by decide) (.inl rfl) (passage_spaces 2)

/-- The tags as the value of their block. -/
def tagsValue (app : String) : Value :=
  .map [("tags", .map [("ManagedBy", .string (shown app))])]

theorem valueText_tagMap (h : Tame app) : ValueText (tagMap app) :=
  valueText_group (.inr (.inr ⟨rfl, rfl⟩)) (passage_tagsInside h)

/-- The block of tags has one property, which is the map. -/
theorem readBody_defaultTagsInside (h : Tame app) (room : Room) :
    readBody room false (defaultTagsInside app) =
      .given (room.fits 6) [("tags", .map [("ManagedBy", .string (shown app))])] := by
  have hassign := keyedStatement_assign false (nameOf 't' "ags".toList).name (valueText_tagMap h)
    (afterValue_feed false (List.replicate 2 ' '))
  have hstatements : statements false (defaultTagsInside app) =
      [.assignment "tags" (.source (tagMap app))] := by
    rw [statements, defaultTagsInside, statementsFrom_separator false [] (by decide),
      statementsFrom_spaces, statementsFrom_chars false [] _ (by simp; decide), hassign,
      statementsFrom_separator false _ (by decide), ← List.append_nil (List.replicate 2 ' '),
      statementsFrom_spaces, statementsFrom_nil]
    rfl
  -- The only statement is the assignment, and the map in it is read further in.
  have hrun : ∀ st ∈ [Statement.assignment "tags" (.source (tagMap app))], ∀ sc : Scope,
      st.run room sc = .given (room.fits (3 + 3))
        (sc.assign "tags" (.map [("ManagedBy", .string (shown app))])) := by
    refine List.forall_mem_singleton.2 fun sc => ?_
    rw [Statement.run]
    refine Reading.within_given (fun room => ?_) room
    rw [readValue_tagMap h, Reading.given_map]
  rw [readBody_eq, hstatements, Reading.foldlM_given hrun, Reading.given_map]
  simp [Scope.assign, Entries.set]

variable {ps : List Property}

theorem passage_providerInside (h : Tame app) (hps : ∀ p ∈ ps, Tame p.text) :
    Passage true (providerInside app ps) :=
  .cons (by decide) (.inl rfl) <| .append (.flatMap fun p hp => p.passage_line (hps p hp) 2) <|
    .cons (by decide) (.inl rfl) <| .append (passage_spaces 2) <| .append (passage_name _) <|
      .cons (by decide) (.inl rfl) <| by
        have hgroup : Passage true ('\x7b' :: (defaultTagsInside app ++ ['\x7d'])) :=
          .group (.inr (.inr ⟨rfl, rfl⟩)) (passage_defaultTagsInside h)
        simpa using Passage.append hgroup (.char (c := '\n') (by decide) (.inl rfl))

theorem statements_providerInside (h : Tame app) (hps : ∀ p ∈ ps, Tame p.text) :
    statements false (providerInside app ps) = ps.map Property.statement ++
      [.block "default_tags" [] (defaultTagsInside app) true] := by
  have hblock := keyedStatement_block (nameOf 'd' "efault_tags".toList).name []
    (passage_defaultTagsInside h) ['\n']
  simp only [List.flatMap_nil, List.nil_append] at hblock
  rw [statements, providerInside, statementsFrom_separator false [] (by decide),
    Property.statementsFrom_lines hps, statementsFrom_separator false _ (by decide),
    statementsFrom_spaces, statementsFrom_chars false _ _ (by simp; decide), hblock,
    statementsFrom_separator false _ (by decide), statementsFrom_nil]
  simp [nameOf, Identifier.name, Identifier.chars]

/-- **The body of the provider** reads as its properties and the tags. -/
theorem readBody_providerInside (h : Tame app) (hps : ∀ p ∈ ps, Tame p.text) (room : Room)
    (hroom : room.fits 7 = true) :
    readBody room false (providerInside app ps) = .ofValue ((ps.foldl
      (fun sc p => sc.assign p.name.name (.string (shown p.text))) ({} : Scope)).addBlock
        "default_tags" (tagsValue app)).entries := by
  have hthree : room.fits 3 = true := by
    cases room with
    | none => rfl
    | some n =>
      simp only [Room.fits, decide_eq_true_eq] at hroom ⊢
      omega
  have hfields : ∀ p ∈ ps, ∀ sc : Scope, p.statement.run room sc =
      .given true (sc.assign p.name.name (.string (shown p.text))) := fun p hp sc => by
    rw [p.run_statement (hps p hp), hthree]
  -- The tags are read a level further in, the only part for which the room can be short.
  have htags (sc : Scope) : Statement.run room sc
      (.block "default_tags" [] (defaultTagsInside app) true) =
        .given (room.fits 7) (sc.addBlock "default_tags" (tagsValue app)) := by
    rw [Statement.run, if_pos rfl, Reading.ofValue_bind]
    refine Reading.within_given (n := 6) (fun room => ?_) room
    rw [readBody_defaultTagsInside h, Reading.given_map]
    rfl
  have hall : (ps.all fun _ => true) = true := by simp
  rw [hroom] at htags
  rw [readBody_eq, statements_providerInside h hps, List.foldlM_append, List.foldlM_map,
    Reading.foldlM_given hfields, hall, Reading.given_true, Reading.ofValue_bind, List.foldlM_cons,
    htags, Reading.given_true, Reading.ofValue_bind, List.foldlM_nil]
  exact Reading.ofValue_bind _ _

end Provider

/-! ## The file -/

/-- The settings of the override: a backend that keeps its state in a file. -/
def backend : Declaration :=
  ⟨.terraform, [.block (nameOf 'b' "ackend".toList) [⟨"local".toList, by decide⟩]
    [.assign (nameOf 'p' "ath".toList) (.scalar (.string ⟨stateFile.toList, by decide⟩))]]⟩

/-- The heading of the provider. -/
def providerHeading : Heading :=
  .provider ⟨"aws".toList, by decide⟩

/-- The file: the settings, an empty line, and the provider. -/
def fileText (app : String) (ps : List Property) : List Char :=
  backend.source 2 ++ '\n' :: '\n' :: (providerHeading.text (providerInside app ps) ++ ['\n'])

/-- The properties of the override are written line by line. -/
theorem override_eq (app region access secret home : String) (token : Option String)
    (expiration : Data) :
    override app ⟨.text access, .text secret, .ofText? token, home, expiration⟩ region =
      .ok (String.ofList (fileText app
        (properties region access secret (token.filter (· != ""))))) := by
  have htext (lines : List String) (cs : List Char)
      (h : ['\n'].intercalate (lines.map String.toList) = cs) :
      "\n".intercalate lines = String.ofList cs := by
    rw [← h, ← String.toList_inj, String.toList_ofList, String.toList_intercalate]
    rfl
  -- the settings are the same whatever is given
  have hbackend : backend.source 2 = ("terraform \x7b\n  backend \"local\" \x7b\n    path = " ++
      "\"terraform.tfstate\"\n  \x7d\n\x7d").toList := by decide
  have hstate : literalChars stateFile = "\"terraform.tfstate\"".toList := by decide
  have hfile (present : Option String) :
      "\n".intercalate (backendLines ++ ["provider \"aws\" \x7b",
        "  region     = " ++ literal region, "  access_key = " ++ literal access,
        "  secret_key = " ++ literal secret] ++
          present.toList.map ("  token      = " ++ literal ·) ++ tagLines app) =
      String.ofList (fileText app (properties region access secret present)) := by
    apply htext
    rw [fileText, hbackend]
    cases present <;>
      simp [backendLines, tagLines, toList_literal, hstate, providerHeading, Heading.text, opening,
        Heading.word, Heading.keyword, Keyword.word, Heading.labels, PlainText.literal, escaped,
        writeChar, providerInside, properties, Property.line, nameOf, Identifier.chars,
        List.replicate, defaultTagsInside, tagMap, tagsInside, managedBy]
  rw [← hfile]
  cases token with
  | none => rfl
  | some t =>
    by_cases ht : t = ""
    · subst ht
      rfl
    · have htruthy : (Data.ofText? (some t)).isTruthy = true := by
        simp [Data.ofText?, Data.isTruthy, ht]
      have hfilter : (some t).filter (· != "") = some t := by simp [ht]
      rw [override, htruthy, hfilter]
      rfl

/-! ## Loading the file -/

section Load

variable {app : String} {ps : List Property}

/-- The provider, cut out but not read. -/
def providerSection (app : String) (ps : List Property) : Section :=
  providerHeading.cutOut (providerInside app ps) 7

theorem wellFormed_backend : Clause.Distinct backend.body ∧ ∀ c ∈ backend.body, c.WellFormed := by
  refine ⟨⟨by decide, by decide⟩,
    List.forall_mem_singleton.2 (.block _ _ ⟨by decide, by decide⟩ ?_)⟩
  exact List.forall_mem_singleton.2 (.assign _ (.scalar _))

theorem sections_fileText (h : Tame app) (hps : ∀ p ∈ ps, Tame p.text) :
    sections (fileText app ps) =
      [.block (backend.cutOut 2 1), .block (providerSection app ps)] := by
  have hsettings := backend.heading.sectionsFrom_text
    (Clause.passage_inside wellFormed_backend.2 2 0) 1 []
    ('\n' :: '\n' :: (providerHeading.text (providerInside app ps) ++ ['\n']))
  have hprovider := providerHeading.sectionsFrom_text (passage_providerInside h hps) 7
    [.block (backend.cutOut 2 1)] ['\n']
  have hline : 1 + lineFeeds (backend.source 2) + lineFeeds ['\n'] + lineFeeds ['\n'] = 7 := by
    decide
  have hcut : (backend.heading.cutOut (Clause.inside 2 0 backend.body) 1) = backend.cutOut 2 1 :=
    (backend.cutOut_eq 2 1).symm
  have hsource : backend.heading.text (Clause.inside 2 0 backend.body) = backend.source 2 :=
    (backend.source_eq 2).symm
  rw [hcut, hsource] at hsettings
  rw [sections, fileText, hsettings, sectionsFrom_blank _ _ (by decide),
    sectionsFrom_blank _ _ (by decide), hline, hprovider, sectionsFrom_blank _ _ (by decide),
    sectionsFrom_nil]
  rfl

theorem scannable_fileText (h : Tame app) (hps : ∀ p ∈ ps, Tame p.text) :
    scannable (String.ofList (fileText app ps)) = .ok (String.ofList (fileText app ps)) := by
  refine scannable_of_fits ?_
  rw [sections_fileText h hps, List.forall_mem_cons, List.forall_mem_singleton]
  exact ⟨TopLevel.fits_block _ (Declaration.passage wellFormed_backend.2 2),
    TopLevel.fits_block _ (providerHeading.passage_text (passage_providerInside h hps))⟩

/-- The settings that the override makes. -/
def carriedSettings : Properties :=
  [("backend", .map [("path", .string stateFile), ("_labels", .list [.string "local"])])]

theorem read_backend :
    (backend.cutOut 2 1).read (some maxLevels) = ⟨[], some (.terraform carriedSettings)⟩ := by
  rw [Declaration.read_cutOut wellFormed_backend.1 wellFormed_backend.2]
  rfl

/-- The properties of the provider: the texts that were given, and the tags. -/
def carriedProperties (app region access secret : String) (present : Option String) : Properties :=
  [("region", .string (shown region)), ("access_key", .string (shown access)),
    ("secret_key", .string (shown secret))] ++
      present.toList.map (fun t => ("token", .string (shown t))) ++
        [("default_tags", tagsValue app)]

/-- The provider with its properties. -/
def carriedBlock (app region access secret : String) (present : Option String) : Block :=
  let s := providerSection app (properties region access secret present)
  ⟨.provider, "aws", "aws", carriedProperties app region access secret present, s.startLine,
    s.endLine, String.ofList s.raw⟩

theorem read_providerSection {region access secret : String} {present : Option String}
    (h : Tame app) (hps : ∀ p ∈ properties region access secret present, Tame p.text) :
    (providerSection app (properties region access secret present)).read (some maxLevels) =
      ⟨[], some (.provider "aws" (carriedBlock app region access secret present))⟩ := by
  have hbody := readBody_providerInside h hps (some maxLevels) (by decide)
  have hentries : (((properties region access secret present).foldl
      (fun sc p => sc.assign p.name.name (.string (shown p.text))) ({} : Scope)).addBlock
        "default_tags" (tagsValue app)).entries =
      carriedProperties app region access secret present := by
    cases present <;> rfl
  rw [hentries] at hbody
  have hsame : readBody (some maxLevels) false
      (providerSection app (properties region access secret present)).body = _ := hbody
  have hword : Keyword.ofWord?
      (providerSection app (properties region access secret present)).keyword = some .provider :=
    rfl
  rw [Section.read, hword]
  dsimp only
  rw [hsame]
  cases present <;> rfl

/-- The configuration of the override. -/
def carried (app region access secret : String) (present : Option String) : Configuration where
  resources := []
  dataSources := []
  modules := []
  providerBlocks := [carriedBlock app region access secret present]
  inputs := []
  outputs := []
  locals := []
  terraform := carriedSettings
  providers := ["aws"]
  warnings := []

theorem load_fileText {region access secret : String} {present : Option String} (h : Tame app)
    (hps : ∀ p ∈ properties region access secret present, Tame p.text) :
    load (String.ofList (fileText app (properties region access secret present))) =
      .ok (carried app region access secret present) := by
  have houtcomes : outcomes (some maxLevels)
      (fileText app (properties region access secret present)) =
      [⟨[], some (.terraform carriedSettings)⟩,
        ⟨[], some (.provider "aws" (carriedBlock app region access secret present))⟩] := by
    rw [outcomes, sections_fileText h hps, List.map_cons, List.map_cons, List.map_nil,
      TopLevel.read, TopLevel.read, read_backend, read_providerSection h hps]
  have hparse : parse (String.ofList (fileText app (properties region access secret present))) =
      carried app region access secret present := by
    rw [parse, parseWithin, String.toList_ofList, houtcomes]
    rfl
  rw [load, scannable_fileText h hps, ← hparse]
  rfl

end Load

/-! ## What the override carries -/

/-- The texts that are written into the override. -/
def texts (app region access secret : String) (present : Option String) : List String :=
  [app, region, access, secret] ++ present.toList

/-- A file carries a region, keys and perhaps a token, and nothing else: it is a block of settings
and a provider; it loads without a warning as the local backend and one provider `aws` with exactly
these properties and the tags; and every text ends where its literal ends, opening no template. -/
structure Carries (file app region access secret : String) (present : Option String) : Prop where
  sections_eq : ∃ settings provider : Section,
    sections file.toList = [.block settings, .block provider] ∧ settings.keyword = "terraform" ∧
      provider.keyword = "provider" ∧ provider.labels = ["aws"]
  load_eq : ∃ b : Block, b.kind = .provider ∧ b.type = "aws" ∧ b.name = "aws" ∧
    b.properties = [("region", .string (shown region)), ("access_key", .string (shown access)),
      ("secret_key", .string (shown secret))] ++
        present.toList.map (fun t => ("token", .string (shown t))) ++
          [("default_tags", .map [("tags", .map [("ManagedBy", .string (shown app))])])] ∧
    load file = .ok
      { resources := [], dataSources := [], modules := [], providerBlocks := [b], inputs := [],
        outputs := [], locals := [],
        terraform :=
          [("backend", .map [("path", .string stateFile), ("_labels", .list [.string "local"])])],
        providers := ["aws"], warnings := [] }
  contained : ∀ s ∈ texts app region access secret present, ∀ rest,
    Contained (escapeLiteral s.toList) rest

theorem carries_fileText {app region access secret : String} {present : Option String}
    (h : ∀ s ∈ texts app region access secret present, Tame s) :
    Carries (String.ofList (fileText app (properties region access secret present))) app region
      access secret present := by
  have happ : Tame app := h app (by simp [texts])
  have hps : ∀ p ∈ properties region access secret present, Tame p.text := by
    intro p hp
    refine h p.text ?_
    -- each property holds one of the texts
    rcases List.mem_append.1 hp with hp | hp
    · simp only [List.mem_cons, List.not_mem_nil, or_false] at hp
      rcases hp with rfl | rfl | rfl <;> simp [texts]
    · obtain ⟨t, ht, rfl⟩ := List.mem_map.1 hp
      exact List.mem_append_right _ ht
  refine ⟨⟨backend.cutOut 2 1, providerSection app (properties region access secret present), ?_,
    rfl, rfl, rfl⟩, ⟨carriedBlock app region access secret present, rfl, rfl, rfl, rfl,
      load_fileText happ hps⟩, fun s hs rest => ?_⟩
  · rw [String.toList_ofList, sections_fileText happ hps]
  · exact (inside_iff_contained rest).1 ((inside_escapeLiteral_iff s).2 (h s hs))

/-- **The override carries what it was given exactly if every text in it is tame.** There is always
a file; a line feed in a text, or an opening that the doubling of its dollar sign does not hide,
leaves the literal that the text stands in. -/
theorem override_carries_iff (app region access secret home : String) (token : Option String)
    (expiration : Data) :
    ∃ file, override app ⟨.text access, .text secret, .ofText? token, home, expiration⟩ region =
        .ok file ∧
      (Carries file app region access secret (token.filter (· != "")) ↔
        ∀ s ∈ texts app region access secret (token.filter (· != "")), Tame s) := by
  refine ⟨_, override_eq app region access secret home token expiration, fun h s hs => ?_,
    carries_fileText⟩
  exact (inside_escapeLiteral_iff s).1 ((inside_iff_contained []).2 (h.contained s hs []))

end Groundplan.Deploy.Override
