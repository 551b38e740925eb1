import Groundplan.Proofs.Hcl.CutOut

/-!
# Reading what has been written

Reading the source of a document gives the configuration that the document declares. Without bound
on the room this holds of every document; with the usual room it holds of exactly those in which no
block takes more levels than there are.

## Main results

* `Document.sections_source`: the source is cut into the blocks of the document
* `Document.parseWithin_eq`: **the source reads as the document declares, in any room**
* `Document.load_source`: the usual room, and when it changes nothing
-/

namespace Groundplan.Hcl

open Text

/-! ## Blocks -/

theorem Keyword.ofWord?_word (k : Keyword) : Keyword.ofWord? k.word = some k := by
  cases k <;> rfl

namespace Declaration

variable {d : Declaration}

/-- What stands between the braces of a block. -/
def inside (d : Declaration) (step : Nat) : List Char :=
  Clause.inside step 0 d.body

/-- The block, cut out but not read, that is written from a line on. -/
def cutOut (d : Declaration) (step line : Nat) : Section :=
  ⟨d.heading.word, d.heading.labels.map PlainText.text, d.inside step, true, line,
    d.endLine step line, d.source step⟩

theorem source_eq (d : Declaration) (step : Nat) :
    d.source step = d.heading.text (d.inside step) := by
  simp [source, Heading.text, inside, Clause.inside]

theorem cutOut_eq (d : Declaration) (step line : Nat) :
    d.cutOut step line = d.heading.cutOut (d.inside step) line := by
  rw [cutOut, endLine, source_eq]
  rfl

/-- A written block is a passage. -/
theorem passage (h : ∀ c ∈ d.body, c.WellFormed) (step : Nat) : Passage true (d.source step) := by
  rw [source_eq]
  exact d.heading.passage_text (Clause.passage_inside h step 0)

end Declaration

/-! ## Sections -/

namespace Document

/-- The blocks of a document are cut out one after another, line by line. -/
theorem sectionsFrom_source {ds : Document} (h : ∀ d ∈ ds, ∀ c ∈ d.body, c.WellFormed)
    (step line : Nat) (done : List TopLevel) :
    sectionsFrom line done (ds.source step) =
      done.reverse ++ (placed step line ds).map fun p => .block (p.2.cutOut step p.1) := by
  induction ds generalizing line done with
  | nil =>
    rw [source, List.flatMap_nil, sectionsFrom_nil]
    simp [placed]
  | cons d ds ih =>
    rw [List.forall_mem_cons] at h
    -- the block is cut out, and the break behind it passed over
    have hblock := d.heading.sectionsFrom_text (Clause.passage_inside h.1 step 0) line done
      ('\n' :: source step ds)
    have hsource : source step (d :: ds) = d.source step ++ '\n' :: source step ds := by
      simp [source]
    rw [hsource, d.source_eq, Declaration.inside, hblock, sectionsFrom_blank _ _ (by decide),
      ih h.2, placed]
    simp [Declaration.cutOut_eq, Declaration.endLine, Declaration.source_eq, Declaration.inside,
      lineFeeds]

/-- **The source of a document is cut into its blocks.** -/
theorem sections_source {ds : Document} (h : ∀ d ∈ ds, ∀ c ∈ d.body, c.WellFormed) (step : Nat) :
    sections (ds.source step) =
      (placed step 1 ds).map fun p => .block (p.2.cutOut step p.1) :=
  sectionsFrom_source h step 1 []

end Document

/-! ## Outcomes -/

namespace Declaration

variable {d : Declaration}

/-- What a block contributes to a configuration. -/
def part (d : Declaration) (step : Nat) (room : Room) (line : Nat) : Part :=
  let block (kind : BlockKind) (type name : String) : Block :=
    ⟨kind, type, name, d.properties room, line, d.endLine step line, String.ofList (d.source step)⟩
  match d.heading with
  | .resource type name => .block (block .resource type.text name.text)
  | .data type name => .block (block .data type.text name.text)
  | .module name => .block (block .module "module" name.text)
  | .provider name =>
    .provider name.text (block .provider name.text (providerName name.text (d.properties room)))
  | .variable name => .variable name.text (d.properties room)
  | .output name => .output name.text (d.properties room)
  | .terraform => .terraform (d.properties room)
  | .locals => .locals (d.properties room)

theorem part_cutOut (d : Declaration) (step : Nat) (room : Room) (line : Nat) :
    (d.cutOut step line).part d.heading.keyword (d.properties room) =
      ⟨[], some (d.part step room line)⟩ := by
  rw [part, cutOut]
  cases d.heading <;> rfl

/-- A written block is read as its part, or reported where it takes more levels than there are. -/
theorem read_cutOut (hdistinct : Clause.Distinct d.body) (h : ∀ c ∈ d.body, c.WellFormed)
    (step : Nat) (room : Room) (line : Nat) :
    (d.cutOut step line).read room = ⟨d.warnings room line, some (d.part step room line)⟩ := by
  have hbody : readBody room false (d.cutOut step line).body =
      .given (room.fits d.levels) (Clause.properties d.body) :=
    Clause.readBody_source hdistinct h step 0 room
  have hpart := d.part_cutOut step room line
  have hword : Keyword.ofWord? (d.cutOut step line).keyword = some d.heading.keyword :=
    d.heading.keyword.ofWord?_word
  have hclosed : (d.cutOut step line).closed = true := rfl
  have hreported : Warning.unreadableBlock (d.cutOut step line).keyword
      (d.cutOut step line).startLine = .unreadableBlock d.heading.word line := rfl
  rw [properties] at hpart
  rw [Section.read, hword, warnings]
  -- A block that does not fit is kept without properties, and reported.
  cases hfits : room.fits d.levels with
  | false =>
    rw [hfits, if_neg Bool.false_ne_true] at hpart
    simp [hbody, hfits, hclosed, hreported, hpart, Reading.given, Reading.stop]
  | true =>
    rw [hfits, if_pos rfl] at hpart
    simp [hbody, hfits, hclosed, hpart, Reading.given, Reading.ofValue]

end Declaration

/-! ## Configurations -/

theorem foldl_addName (names : List String) : names.foldl addName [] = names.eraseDups := by
  induction names using List.reverseRecOn with
  | nil => rfl
  | append_singleton names name ih =>
    rw [List.foldl_append, ih, eraseDups_concat, List.foldl_cons, List.foldl_nil, addName]
    by_cases h : name ∈ names <;> simp [h]

/-- The variable that a part declares. -/
def Part.input? : Part → Option (String × Properties)
  | .variable name ps => some (name, ps)
  | _ => none

/-- The output that a part declares. -/
def Part.output? : Part → Option (String × Properties)
  | .output name ps => some (name, ps)
  | _ => none

/-- The local values that a part declares. -/
def Part.localValues : Part → Properties
  | .locals ps => ps
  | _ => []

/-- The settings that a part declares. -/
def Part.settings : Part → Properties
  | .terraform ps => ps
  | _ => []

theorem foldl_merge {α β : Type} (f : α → Entries β) (es : Entries β) (xs : List α) :
    xs.foldl (fun acc x => Entries.merge acc (f x)) es = Entries.merge es (xs.flatMap f) := by
  induction xs generalizing es with
  | nil => rfl
  | cons x xs ih => rw [List.foldl_cons, ih, List.flatMap_cons, Entries.merge, Entries.merge,
      Entries.merge, List.foldl_append]

theorem merge_nil_left {α : Type} {es : Entries α} (h : (es.map (·.1)).Nodup) :
    Entries.merge [] es = es := by
  rw [Entries.merge_of_nodup (by rwa [List.nil_append]), List.nil_append]

/-- Where nothing is declared twice, a configuration has all that its parts declare. -/
theorem Configuration.ofParts_eq {parts : List Part} (warnings : List Warning)
    (hinputs : ((parts.filterMap Part.input?).map (·.1)).Nodup)
    (houtputs : ((parts.filterMap Part.output?).map (·.1)).Nodup)
    (hlocals : ((parts.flatMap Part.localValues).map (·.1)).Nodup)
    (hsettings : ((parts.flatMap Part.settings).map (·.1)).Nodup) :
    Configuration.ofParts parts warnings =
      { resources := parts.filterMap (Part.block? .resource)
        dataSources := parts.filterMap (Part.block? .data)
        modules := parts.filterMap (Part.block? .module)
        providerBlocks := parts.filterMap (Part.block? .provider)
        inputs := parts.filterMap Part.input?
        outputs := parts.filterMap Part.output?
        locals := parts.flatMap Part.localValues
        terraform := parts.flatMap Part.settings
        providers := (parts.flatMap Part.providerNames).eraseDups
        warnings := warnings } := by
  rw [ofParts, foldl_addName]
  -- One goal for each of the four fields into which the parts are merged by name.
  congr 1
  · rw [← merge_nil_left hinputs, Entries.merge, List.foldl_filterMap]
    congr 1
    funext acc p
    cases p <;> rfl
  · rw [← merge_nil_left houtputs, Entries.merge, List.foldl_filterMap]
    congr 1
    funext acc p
    cases p <;> rfl
  · rw [← merge_nil_left hlocals, ← foldl_merge]
    congr 1
    funext acc p
    cases p <;> rfl
  · rw [← merge_nil_left hsettings, ← foldl_merge]
    congr 1
    funext acc p
    cases p <;> rfl

namespace Declaration

variable (d : Declaration) (step : Nat) (room : Room) (line : Nat)

theorem input?_part : (d.part step room line).input? = d.input? room := by
  rw [part, input?]
  cases d.heading <;> rfl

theorem output?_part : (d.part step room line).output? = d.output? room := by
  rw [part, output?]
  cases d.heading <;> rfl

theorem localValues_part : (d.part step room line).localValues = d.locals room := by
  rw [part, locals]
  cases d.heading <;> rfl

theorem settings_part : (d.part step room line).settings = d.settings room := by
  rw [part, settings]
  cases d.heading <;> rfl

theorem providerNames_part : (d.part step room line).providerNames = d.providerNames room := by
  rw [part, providerNames]
  cases d.heading <;> rfl

theorem block?_part (kind : BlockKind) : (d.part step room line).block? kind =
    (d.block? step room line).filter (·.kind = kind) := by
  rw [part, block?]
  cases d.heading <;> first | rfl | (cases kind <;> rfl)

/-- The names that a block declares do not depend on the room, but for those of its properties. -/
theorem name_input? : (d.input? room).map (·.1) = (d.input? none).map (·.1) := by
  rw [input?, input?]
  cases d.heading <;> rfl

theorem name_output? : (d.output? room).map (·.1) = (d.output? none).map (·.1) := by
  rw [output?, output?]
  cases d.heading <;> rfl

theorem properties_sublist : (d.properties room).Sublist (d.properties none) := by
  rw [properties, properties]
  split
  · exact .refl _
  · exact List.nil_sublist _

theorem locals_sublist : (d.locals room).Sublist (d.locals none) := by
  rw [locals, locals]
  cases d.heading <;> first | exact .refl _ | exact d.properties_sublist room

theorem settings_sublist : (d.settings room).Sublist (d.settings none) := by
  rw [settings, settings]
  cases d.heading <;> first | exact .refl _ | exact d.properties_sublist room

end Declaration

namespace Document

variable {ds : Document} (step : Nat) (room : Room)

theorem map_snd_placed (ds : Document) (line : Nat) : (placed step line ds).map (·.2) = ds := by
  induction ds generalizing line with
  | nil => rfl
  | cons d ds ih => rw [placed, List.map_cons, ih]

theorem snd_mem_of_mem_placed {line : Nat} {p : Nat × Declaration} (h : p ∈ placed step line ds) :
    p.2 ∈ ds := by
  have := List.mem_map_of_mem (f := (·.2)) h
  rwa [map_snd_placed] at this

/-- What every block of a document contributes. -/
def parts (ds : Document) (step : Nat) (room : Room) : List Part :=
  (placed step 1 ds).map fun p => p.2.part step room p.1

/-- What does not depend on lines may be collected from the blocks themselves. -/
theorem filterMap_parts (ds : Document) {α : Type} {f : Part → Option α}
    {g : Declaration → Option α}
    (h : ∀ (d : Declaration) (line : Nat), f (d.part step room line) = g d) :
    (ds.parts step room).filterMap f = ds.filterMap g := by
  conv => rhs; rw [← map_snd_placed step ds 1, List.filterMap_map]
  rw [parts, List.filterMap_map]
  congr 1
  funext p
  exact h p.2 p.1

theorem flatMap_parts (ds : Document) {α : Type} {f : Part → List α} {g : Declaration → List α}
    (h : ∀ (d : Declaration) (line : Nat), f (d.part step room line) = g d) :
    (ds.parts step room).flatMap f = ds.flatMap g := by
  conv => rhs; rw [← map_snd_placed step ds 1, List.flatMap_map]
  rw [parts, List.flatMap_map]
  congr 1
  funext p
  exact h p.2 p.1

theorem filterMap_block?_parts (kind : BlockKind) :
    (ds.parts step room).filterMap (Part.block? kind) =
      (ds.blocks step room).filter (·.kind = kind) := by
  rw [parts, blocks, List.filterMap_map, List.filter_filterMap]
  congr 1
  funext p
  exact p.2.block?_part step room p.1 kind

theorem map_fst_filterMap {f g : Declaration → Option (String × Properties)}
    (h : ∀ d, (f d).map (·.1) = (g d).map (·.1)) :
    (ds.filterMap f).map (·.1) = (ds.filterMap g).map (·.1) := by
  rw [List.map_filterMap, List.map_filterMap]
  congr 1
  funext d
  exact h d

theorem flatMap_sublist {f g : Declaration → Properties} (h : ∀ d, (f d).Sublist (g d)) :
    (ds.flatMap f).Sublist (ds.flatMap g) := by
  induction ds with
  | nil => exact .refl _
  | cons d ds ih => exact (h d).append ih

/-- What a reader makes of the blocks of a document, one by one. -/
theorem outcomes_source (hdistinct : ∀ d ∈ ds, Clause.Distinct d.body)
    (h : ∀ d ∈ ds, ∀ c ∈ d.body, c.WellFormed) :
    outcomes room (ds.source step) = (placed step 1 ds).map fun p =>
      ⟨p.2.warnings room p.1, some (p.2.part step room p.1)⟩ := by
  rw [outcomes, sections_source h, List.map_map]
  refine List.map_congr_left fun p hp => ?_
  have hd : p.2 ∈ ds := snd_mem_of_mem_placed step hp
  exact Declaration.read_cutOut (hdistinct _ hd) (h _ hd) step room p.1

/-- The blocks of a document are put together in order, whatever they declare. -/
theorem parseWithin_source (hdistinct : ∀ d ∈ ds, Clause.Distinct d.body)
    (h : ∀ d ∈ ds, ∀ c ∈ d.body, c.WellFormed) :
    parseWithin room (String.ofList (ds.source step)) =
      .ofParts (ds.parts step room)
        ((placed step 1 ds).flatMap fun p => p.2.warnings room p.1) := by
  have hparts : (outcomes room (ds.source step)).filterMap Outcome.part = ds.parts step room := by
    rw [outcomes_source step room hdistinct h, List.filterMap_map, parts, ← List.filterMap_eq_map]
    rfl
  have hwarnings : (outcomes room (ds.source step)).flatMap Outcome.warnings =
      (placed step 1 ds).flatMap fun p => p.2.warnings room p.1 := by
    rw [outcomes_source step room hdistinct h, List.flatMap_map]
  rw [parseWithin, String.toList_ofList, hparts, hwarnings]

/-- **The source of a document reads as the document declares**, in any room. -/
theorem parseWithin_eq (h : ds.WellFormed) :
    parseWithin room (String.ofList (ds.source step)) = ds.meaningWithin step room := by
  have hinputs := filterMap_parts step room ds (g := (·.input? room))
    fun d line => d.input?_part step room line
  have houtputs := filterMap_parts step room ds (g := (·.output? room))
    fun d line => d.output?_part step room line
  have hlocals := flatMap_parts step room ds (g := (·.locals room))
    fun d line => d.localValues_part step room line
  have hsettings := flatMap_parts step room ds (g := (·.settings room))
    fun d line => d.settings_part step room line
  have hproviders := flatMap_parts step room ds (g := (·.providerNames room))
    fun d line => d.providerNames_part step room line
  rw [parseWithin_source step room h.distinct h.clauses, Configuration.ofParts_eq]
  -- The main goal, and that names are declared once, which no room changes.
  · simp only [filterMap_block?_parts, hinputs, houtputs, hlocals, hsettings, hproviders]
    rfl
  · rw [hinputs, map_fst_filterMap fun d => d.name_input? room]
    exact h.inputs
  · rw [houtputs, map_fst_filterMap fun d => d.name_output? room]
    exact h.outputs
  · rw [hlocals]
    exact h.locals.sublist ((flatMap_sublist fun d => d.locals_sublist room).map _)
  · rw [hsettings]
    exact h.settings.sublist ((flatMap_sublist fun d => d.settings_sublist room).map _)

/-- No template stands in the source of a document, so it can be cut into blocks. -/
theorem scannable_source (h : ∀ d ∈ ds, ∀ c ∈ d.body, c.WellFormed) :
    scannable (String.ofList (ds.source step)) = .ok (String.ofList (ds.source step)) := by
  refine scannable_of_fits fun t ht => ?_
  rw [sections_source h] at ht
  obtain ⟨p, hp, rfl⟩ := List.mem_map.1 ht
  exact TopLevel.fits_block _ (Declaration.passage (h _ (snd_mem_of_mem_placed step hp)) step)

/-- The usual room is enough for exactly the documents whose blocks take no more levels. -/
theorem meaningWithin_eq_meaning_iff (levels : Nat) :
    ds.meaningWithin step (some levels) = ds.meaning step ↔ ∀ d ∈ ds, d.levels ≤ levels := by
  have hfits (d : Declaration) : Room.fits (some levels) d.levels = true ↔ d.levels ≤ levels := by
    simp [Room.fits]
  constructor
  · -- a block that does not fit leaves a warning, and without bound there is none
    intro h d hd
    have hwarnings := congrArg Configuration.warnings h
    have hnone : (ds.meaning step).warnings = [] := by
      simp [meaning, meaningWithin, Declaration.warnings, Room.fits]
    rw [hnone] at hwarnings
    obtain ⟨p, hp, rfl⟩ : ∃ p ∈ placed step 1 ds, p.2 = d := by
      rw [← map_snd_placed step ds 1] at hd
      exact List.mem_map.1 hd
    have hquiet := List.flatMap_eq_nil_iff.1 hwarnings p hp
    rw [← hfits]
    by_contra hdeep
    simp [Declaration.warnings, hdeep] at hquiet
  · -- where every block fits, each has its properties and no warning
    intro h
    have hprops (d : Declaration) (hd : d ∈ ds) :
        d.properties (some levels) = d.properties none := by
      rw [Declaration.properties, Declaration.properties, (hfits d).2 (h d hd)]
      rfl
    have hblocks : ds.blocks step (some levels) = ds.blocks step none :=
      List.filterMap_congr fun p hp => by
        simp only [Declaration.block?, hprops p.2 (snd_mem_of_mem_placed step hp)]
    have hinputs : ds.filterMap (·.input? (some levels)) = ds.filterMap (·.input? none) :=
      List.filterMap_congr fun d hd => by simp only [Declaration.input?, hprops d hd]
    have houtputs : ds.filterMap (·.output? (some levels)) = ds.filterMap (·.output? none) :=
      List.filterMap_congr fun d hd => by simp only [Declaration.output?, hprops d hd]
    have hlocals : ds.flatMap (·.locals (some levels)) = ds.flatMap (·.locals none) :=
      List.flatMap_congr fun d hd => by simp only [Declaration.locals, hprops d hd]
    have hsettings : ds.flatMap (·.settings (some levels)) = ds.flatMap (·.settings none) :=
      List.flatMap_congr fun d hd => by simp only [Declaration.settings, hprops d hd]
    have hproviders :
        ds.flatMap (·.providerNames (some levels)) = ds.flatMap (·.providerNames none) :=
      List.flatMap_congr fun d hd => by simp only [Declaration.providerNames, hprops d hd]
    have hwarnings : (placed step 1 ds).flatMap (fun p => p.2.warnings (some levels) p.1) =
        (placed step 1 ds).flatMap fun p => p.2.warnings none p.1 :=
      List.flatMap_congr fun p hp => by
        rw [Declaration.warnings, (hfits p.2).2 (h _ (snd_mem_of_mem_placed step hp))]
        rfl
    simp only [meaning, meaningWithin, hblocks, hinputs, houtputs, hlocals, hsettings, hproviders,
      hwarnings]

/-- In the usual room reading always succeeds, and declares what the room has space for. -/
theorem load_eq (h : ds.WellFormed) : load (String.ofList (ds.source step)) =
    .ok (ds.meaningWithin step (some maxLevels)) := by
  rw [load, scannable_source step h.clauses, ← parseWithin_eq step (some maxLevels) h]
  rfl

/-- **Reading undoes writing.** Without bound on the room, every document is read as it declares.
With the usual room, reading always succeeds, and it gives what the document declares exactly where
no block takes more levels than there are. -/
theorem load_source (h : ds.WellFormed) :
    parseWithin none (String.ofList (ds.source step)) = ds.meaning step ∧
    load (String.ofList (ds.source step)) = .ok (ds.meaningWithin step (some maxLevels)) ∧
    (load (String.ofList (ds.source step)) = .ok (ds.meaning step) ↔
      ∀ d ∈ ds, d.levels ≤ maxLevels) := by
  refine ⟨parseWithin_eq step none h, load_eq step h, ?_⟩
  rw [load_eq step h, Except.ok.injEq]
  exact meaningWithin_eq_meaning_iff step maxLevels

/-- A variable with a default, and a resource with a value of every kind, a heredoc that looks like
a block, and a nested block that appears twice. -/
def sample : Document :=
  let name (c : Char) (cs : List Char) (hc : isNameStart c = true)
    (hcs : cs.all isNamePart = true) : Identifier := ⟨c, cs, hc, List.all_eq_true.1 hcs⟩
  let size := name 's' "ize".toList (by decide) (by decide +kernel)
  let device := name 'd' "evice".toList (by decide) (by decide +kernel)
  [⟨.variable ⟨"region".toList, by decide⟩,
      [.assign (name 'd' "efault".toList (by decide) (by decide +kernel))
        (.scalar (.string ⟨"eu \"west\"\n$".toList, by decide⟩))]⟩,
    ⟨.resource ⟨"aws_instance".toList, by decide⟩ ⟨"web".toList, by decide⟩,
      [.assign (name 't' "ags".toList (by decide) (by decide +kernel))
        (.map [(⟨"on".toList, by decide⟩, .scalar (.bool true)),
          (⟨"list".toList, by decide⟩,
            .list [.scalar .null, .scalar (.reference ⟨size, device, []⟩)])]),
        .heredoc (name 'r' "un".toList (by decide) (by decide +kernel))
          ⟨'E', "OF".toList, ["device \x7b".toList, " EOF \x7d".toList], by decide,
            List.all_eq_true.1 (by decide +kernel), by decide, by decide⟩,
        .block device [⟨"sda".toList, by decide⟩] [.assign size (.scalar (.int ⟨-8, by decide⟩))],
        .block device [] [.block device [] []]]⟩]

example : String.ofList (sample.source 2) =
    "variable \"region\" \x7b\n" ++
    "  default = \"eu \\\"west\\\"\\n$\"\n" ++
    "\x7d\n" ++
    "resource \"aws_instance\" \"web\" \x7b\n" ++
    "  tags = \x7b\"on\" = true, \"list\" = [null, size.device]\x7d\n" ++
    "  run = <<EOF\ndevice \x7b\n EOF \x7d\nEOF\n" ++
    "  device \"sda\" \x7b\n    size = -8\n  \x7d\n" ++
    "  device \x7b\n    device \x7b\n    \x7d\n  \x7d\n" ++
    "\x7d\n" := by
  decide +kernel

theorem wellFormed_sample : sample.WellFormed := by
  have hscalar (s : Scalar) : Term.WellFormed (.scalar s) := .scalar s
  constructor
  · simp only [sample, List.forall_mem_cons]
    refine ⟨⟨by decide, by decide⟩, ⟨by decide, by decide⟩, by simp⟩
  · simp only [sample, List.forall_mem_cons]
    refine ⟨⟨.assign _ (hscalar _), by simp⟩, ⟨.assign _ (.map (by decide) ?_), .heredoc _ _,
      .block _ _ ⟨by decide, by decide⟩ ?_, .block _ _ ⟨by decide, by decide⟩ ?_, by simp⟩, by simp⟩
    · simp only [List.forall_mem_cons]
      refine ⟨hscalar _, .list ?_, by simp⟩
      simp only [List.forall_mem_cons]
      exact ⟨hscalar _, hscalar _, by simp⟩
    · simp only [List.forall_mem_cons]
      exact ⟨.assign _ (hscalar _), by simp⟩
    · simp only [List.forall_mem_cons]
      exact ⟨.block _ _ ⟨by decide, by decide⟩ (by simp), by simp⟩
  all_goals decide

theorem load_source_sample : sample.WellFormed ∧
    load (String.ofList (sample.source 2)) = .ok (sample.meaning 2) :=
  ⟨wellFormed_sample, (load_source 2 wellFormed_sample).2.2.2 (by decide)⟩

/-! ## How deep is too deep -/

/-- A body of blocks that stand inside one another, so many deep. -/
def nestedBody (key : Identifier) : Nat → List Clause
  | 0 => []
  | n + 1 => [.block key [] (nestedBody key n)]

theorem bodyLevels_nestedBody (key : Identifier) (n : Nat) :
    Clause.bodyLevels (nestedBody key n) = n := by
  induction n with
  | zero => rfl
  | succ n ih => rw [nestedBody, Clause.bodyLevels, Clause.levels, ih, Clause.bodyLevels]; omega

theorem wellFormed_nestedBody (key : Identifier) (n : Nat) :
    Clause.Distinct (nestedBody key n) ∧ ∀ c ∈ nestedBody key n, c.WellFormed := by
  induction n with
  | zero =>
    exact ⟨⟨List.nodup_nil, by simp [nestedBody, Clause.attributeNames]⟩, by simp [nestedBody]⟩
  | succ n ih =>
    refine ⟨⟨by simp [nestedBody, Clause.attributeNames, Clause.isBlock],
      by simp [nestedBody, Clause.attributeNames, Clause.isBlock]⟩, ?_⟩
    simp only [nestedBody, List.forall_mem_cons]
    exact ⟨.block key [] ih.1 ih.2, by simp⟩

/-- A resource that holds nested blocks. -/
def nested (type name : PlainText) (key : Identifier) (n : Nat) : Document :=
  [⟨.resource type name, nestedBody key n⟩]

/-- **Nesting is handled up to a bound only**: a resource in which so many blocks stand inside one
another is read as declared up to `maxLevels` of them, and not beyond. -/
theorem load_nested_iff (type name : PlainText) (key : Identifier) (n : Nat) :
    load (String.ofList ((nested type name key n).source step)) =
      .ok ((nested type name key n).meaning step) ↔ n ≤ maxLevels := by
  have hwf : (nested type name key n).WellFormed := by
    obtain ⟨hdistinct, hclauses⟩ := wellFormed_nestedBody key n
    constructor
    · simpa [nested] using hdistinct
    · simpa only [nested, List.forall_mem_singleton] using hclauses
    all_goals exact List.nodup_nil
  rw [load_eq step hwf, Except.ok.injEq, meaningWithin_eq_meaning_iff]
  simp [nested, Declaration.levels, bodyLevels_nestedBody]

end Document

end Groundplan.Hcl
