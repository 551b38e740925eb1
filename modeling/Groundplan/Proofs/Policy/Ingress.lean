import Groundplan.Policy.Audit
import Groundplan.Policy.Network
import Groundplan.Proofs.Hcl.Spelling

/-!
# Ingress rules of security groups

A rule opens a sensitive port to the world if one of its address ranges is the whole internet and
either its protocol stands for all traffic or the port lies between its ends. The policy on security
groups reports exactly these ports, rule by rule, whether the text of the group gives the rules as
nested blocks or as one attribute with a list of maps, and in whatever layout.

## Main definitions

* `IngressRule`: a rule, with its `exposures`, the sensitive ports that it opens and the range that
  opens them
* `IngressRule.Gives`: properties that give a rule
* `reported`: the findings for the rules of a group that begins on a line
* `GivesInBlocks`, `GivesInAttribute`: the two ways in which the body of a group gives rules
* `GroupTemplate`: a template with one security group among blocks of other types

## Main results

* `exposure_entriesData`: properties that give a rule expose what the rule exposes
* `GroupTemplate.check_text`: the policy on a template with one security group
* `exposures_reported`: **both ways of writing the rules are reported, with the same findings up to
  lines**
* `givesInBlocks_blocksBody`, `givesInAttribute_attributeBody`: every list of rules can be written
  both ways
-/

namespace Groundplan.Policy

open Hcl Text

/-! ## Rules -/

/-- The ports of a rule: its two ends, or one of them that stands for both. -/
inductive PortRange where
  | between (first last : ShortInteger)
  | firstOnly (port : ShortInteger)
  | lastOnly (port : ShortInteger)

namespace PortRange

/-- The first end, where it is written. -/
def first? : PortRange → Option ShortInteger
  | .between first _ => some first
  | .firstOnly port => some port
  | .lastOnly _ => none

/-- The last end, where it is written. -/
def last? : PortRange → Option ShortInteger
  | .between _ last => some last
  | .firstOnly _ => none
  | .lastOnly port => some port

/-- The first port; an end that is missing equals the other. -/
def first : PortRange → Int
  | .between first _ => first.value
  | .firstOnly port => port.value
  | .lastOnly port => port.value

/-- The last port; an end that is missing equals the other. -/
def last : PortRange → Int
  | .between _ last => last.value
  | .firstOnly port => port.value
  | .lastOnly port => port.value

theorem portsBetween_eq (ports : PortRange) :
    portsBetween (ports.first?.map (·.value)) (ports.last?.map (·.value)) =
      sensitivePorts.filter fun p => ports.first ≤ p && p ≤ ports.last := by
  cases ports <;> rfl

end PortRange

/-- A rule for incoming traffic. -/
structure IngressRule where
  protocol : PlainText
  ports : PortRange
  ranges : List PlainText
  ranges6 : List PlainText

namespace IngressRule

/-- The first range of a rule that covers everything. -/
def openRange? (r : IngressRule) : Option String :=
  ((r.ranges ++ r.ranges6).map PlainText.text).find? (· ∈ ["0.0.0.0/0", "::/0"])

/-- Whether the protocol stands for all traffic: without the quotes around it, and whatever the case
of its letters. -/
def AllTraffic (r : IngressRule) : Prop :=
  String.ofList (lower (trimWith (· == '"') r.protocol.chars)) ∈ ["-1", "all"]

/-- Whether a rule lets traffic in on a port. -/
def Covers (r : IngressRule) (p : Int) : Prop :=
  r.AllTraffic ∨ (r.ports.first ≤ p ∧ p ≤ r.ports.last)

instance (r : IngressRule) : Decidable r.AllTraffic :=
  inferInstanceAs (Decidable (_ ∈ _))

instance (r : IngressRule) (p : Int) : Decidable (r.Covers p) :=
  inferInstanceAs (Decidable (_ ∨ _))

/-- **The sensitive ports that a rule opens to the world**, each with the first range that opens
it. -/
def exposures (r : IngressRule) : List (Int × String) :=
  match r.openRange? with
  | none => []
  | some range =>
    ([22, 3389, 3306, 5432, 27017, 6379].filter (r.Covers ·)).map fun p => (p, range)

/-- Properties give a list of texts under a key; an empty list may be left out. -/
def GivesTexts (ps : Properties) (key : String) (texts : List PlainText) : Prop :=
  Entries.get? key ps = some (.list (texts.map fun t => .string t.text)) ∨
    (texts = [] ∧ Entries.get? key ps = none)

/-- Properties give a rule, perhaps among other things. -/
structure Gives (r : IngressRule) (ps : Properties) : Prop where
  protocol : Entries.get? "protocol" ps = some (.string r.protocol.text)
  first : Entries.get? "from_port" ps = r.ports.first?.map fun i => .int i.value
  last : Entries.get? "to_port" ps = r.ports.last?.map fun i => .int i.value
  ranges : GivesTexts ps "cidr_blocks" r.ranges
  ranges6 : GivesTexts ps "ipv6_cidr_blocks" r.ranges6
  noOther : ∀ key ∈ ["cidr_ipv4", "cidr_ipv6"], Entries.get? key ps = none

end IngressRule

/-! ## Properties that give a rule -/

section Given

variable {r : IngressRule} {ps : Properties}

theorem ruleField_entriesData (key : String) (ps : Properties) :
    ruleField (Value.entriesData ps) key =
      ((Entries.get? key ps).map Value.toData).getD .null := by
  rw [ruleField, Value.entriesData_eq_map, Entries.get?_map]

theorem IngressRule.GivesTexts.listOf_ruleField {key : String} {texts : List PlainText}
    (h : GivesTexts ps key texts) :
    listOf (ruleField (Value.entriesData ps) key) = texts.map fun t => .text t.text := by
  rw [ruleField_entriesData]
  rcases h with h | ⟨rfl, h⟩
  · rw [h]
    simp [Value.toData, listOf]
  · rw [h]
    rfl

/-- The first of some texts that covers everything. -/
theorem findSome?_openRangeOf? (ts : List String) :
    (ts.map Data.text).findSome? openRangeOf? = ts.find? (· ∈ openRanges) := by
  induction ts with
  | nil => rfl
  | cons t ts ih =>
    rw [List.map_cons, List.findSome?_cons, List.find?_cons, openRangeOf?]
    by_cases ht : t ∈ openRanges
    · simp [ht]
    · simpa [ht] using ih

theorem openRange?_entriesData (h : r.Gives ps) :
    openRange? (Value.entriesData ps) = r.openRange? := by
  have hnone (key : String) (hkey : key ∈ ["cidr_ipv4", "cidr_ipv6"]) :
      listOf (ruleField (Value.entriesData ps) key) = [] := by
    rw [ruleField_entriesData, h.noOther key hkey]
    rfl
  -- only the two properties of the rule hold any ranges
  have hranges : (rangeProperties.flatMap fun key =>
      listOf (ruleField (Value.entriesData ps) key)) =
        ((r.ranges ++ r.ranges6).map PlainText.text).map Data.text := by
    have hfour : (rangeProperties.flatMap fun key =>
        listOf (ruleField (Value.entriesData ps) key)) =
          listOf (ruleField (Value.entriesData ps) "cidr_blocks") ++
            (listOf (ruleField (Value.entriesData ps) "ipv6_cidr_blocks") ++
              (listOf (ruleField (Value.entriesData ps) "cidr_ipv4") ++
                (listOf (ruleField (Value.entriesData ps) "cidr_ipv6") ++ []))) := rfl
    rw [hfour, h.ranges.listOf_ruleField, h.ranges6.listOf_ruleField,
      hnone "cidr_ipv4" (by decide), hnone "cidr_ipv6" (by decide)]
    simp [Function.comp_def]
  rw [openRange?, hranges, IngressRule.openRange?]
  exact findSome?_openRangeOf? _

theorem isAllTraffic_entriesData (h : r.Gives ps) :
    isAllTraffic (protocolOf (Value.entriesData ps)) = decide r.AllTraffic := by
  have hprotocol : protocolOf (Value.entriesData ps) = .text r.protocol.text := by
    rw [protocolOf, Value.entriesData_eq_map, Entries.get?_map, h.protocol]
    rfl
  rw [hprotocol, isAllTraffic, PlainText.text, String.toList_ofList, Bool.eq_iff_iff,
    List.contains_iff_mem, decide_eq_true_eq]
  rfl

theorem portOf_ruleField {key : String} {i? : Option ShortInteger}
    (h : Entries.get? key ps = i?.map fun i => .int i.value) :
    portOf (ruleField (Value.entriesData ps) key) = .ok (i?.map (·.value)) := by
  rw [ruleField_entriesData, h]
  cases i? <;> rfl

/-- **Properties that give a rule expose what the rule exposes.** -/
theorem exposure_entriesData (h : r.Gives ps) :
    exposure (Value.entriesData ps) = .ok r.exposures := by
  have hports : [22, 3389, 3306, 5432, 27017, 6379] = sensitivePorts := rfl
  rw [exposure, exposedPorts, openRange?_entriesData h, isAllTraffic_entriesData h,
    portOf_ruleField h.first, portOf_ruleField h.last, IngressRule.exposures, hports]
  cases r.openRange? with
  | none => rfl
  | some range =>
    by_cases hall : r.AllTraffic
    · -- all traffic goes through every port
      have hevery : sensitivePorts.filter (r.Covers ·) = sensitivePorts :=
        List.filter_eq_self.2 fun p _ => decide_eq_true (.inl hall)
      simp only [hall, hevery]
      rfl
    · -- otherwise the ends decide
      have hends : sensitivePorts.filter (r.Covers ·) =
          portsBetween (r.ports.first?.map (·.value)) (r.ports.last?.map (·.value)) := by
        rw [PortRange.portsBetween_eq]
        refine List.filter_congr fun p _ => ?_
        simp [IngressRule.Covers, hall]
      simp only [hall, hends]
      rfl

end Given

/-! ## Security groups -/

/-- The type of security groups. -/
def groupType : PlainText :=
  ⟨"aws_security_group".toList, by decide⟩

/-- The types of the resources that the policy looks at. -/
def watchedTypes : List String :=
  ["aws_security_group", "aws_security_group_rule", "aws_vpc_security_group_ingress_rule"]

/-- The finding for a port that a group opens, with the range that opens it. -/
def exposedFinding (name : String) (line : Nat) (e : Int × String) : Finding where
  reference := "aws_security_group" ++ "." ++ name
  type := "aws_security_group"
  message := "Security group" ++ " " ++ ("\"" ++ name ++ "\"") ++
    " allows inbound traffic on port " ++ decimalText e.1 ++ " from " ++ e.2
  line := some line
  suggestion := some "Restrict the CIDR block to specific IP ranges instead of the whole internet"
  metadata := [("port", .int e.1), ("cidr", .text e.2)]

/-- **The findings for the rules of a group that begins on a line**: one for each rule and each
sensitive port that it opens, in order. -/
def reported (name : String) (line : Nat) (rules : List IngressRule) : List Finding :=
  rules.flatMap fun r => r.exposures.map (exposedFinding name line)

/-- A finding without its line. -/
def Finding.unplaced (f : Finding) : Finding :=
  { f with line := none }

/-- The findings for the same rules are the same up to lines. -/
theorem map_unplaced_reported (name : String) (line line' : Nat) (rules : List IngressRule) :
    (reported name line rules).map Finding.unplaced =
      (reported name line' rules).map Finding.unplaced := by
  rw [reported, reported, List.map_flatMap, List.map_flatMap]
  refine List.flatMap_congr fun r _ => ?_
  rw [List.map_map, List.map_map]
  rfl

/-- What the policy reports at a group is the finding of the group. -/
theorem exposureFinding_eq {b : Block} (hkind : b.kind = .resource)
    (htype : b.type = "aws_security_group") (e : Int × String) :
    exposureFinding b "Security group" e.1 e.2 = exposedFinding b.name b.startLine e := by
  have hname : b.fullName = "aws_security_group" ++ "." ++ b.name := by
    rw [Block.fullName, hkind, htype]
  rw [exposureFinding, named, finding, hname, htype]
  rfl

/-- The rules of a group have their findings one after another. -/
theorem mapM_ruleFindings {b : Block} {rules : List IngressRule} {pss : List Properties}
    (hkind : b.kind = .resource) (htype : b.type = "aws_security_group")
    (h : List.Forall₂ IngressRule.Gives rules pss) :
    pss.mapM (ruleFindings b "Security group") =
      .ok (rules.map fun r => r.exposures.map (exposedFinding b.name b.startLine)) := by
  induction h with
  | nil => rfl
  | @cons r ps rules pss hr _ ih =>
    have hone : ruleFindings b "Security group" ps =
        .ok (r.exposures.map (exposedFinding b.name b.startLine)) := by
      rw [ruleFindings, exposure_entriesData hr]
      simp only [exposureFinding_eq hkind htype]
      rfl
    rw [List.mapM_cons, hone, ih]
    rfl

/-- The rules of a group are reported one after another. -/
theorem groupFindings_eq {b : Block} {rules : List IngressRule} (hkind : b.kind = .resource)
    (htype : b.type = "aws_security_group")
    (h : List.Forall₂ IngressRule.Gives rules (b.nested "ingress")) :
    groupFindings b = .ok (reported b.name b.startLine rules) := by
  rw [groupFindings, mapM_ruleFindings hkind htype h, reported, List.flatMap_def]
  rfl

/-! ## Bodies that give rules -/

/-- The name under which a group has its rules. -/
def ingressName : Identifier where
  head := 'i'
  tail := "ngress".toList
  head_isNameStart := by decide
  tail_isNamePart := List.all_eq_true.1 (by decide +kernel)

theorem name_ingressName : ingressName.name = "ingress" := by
  decide

/-- The body of a group gives rules as nested blocks, one for each of them. -/
def GivesInBlocks (b : Body false) (rules : List IngressRule) : Prop :=
  ∃ pss, InBlocks ingressName b.items pss ∧ List.Forall₂ IngressRule.Gives rules pss

/-- The body of a group gives rules as one attribute with a list of maps. -/
def GivesInAttribute (b : Body false) (rules : List IngressRule) : Prop :=
  ∃ pss, InAttribute ingressName b.items pss ∧ List.Forall₂ IngressRule.Gives rules pss

/-- In both cases the rules are found where the policy looks for them. -/
theorem forall₂_maps {b : Body false} {rules : List IngressRule}
    (h : GivesInBlocks b rules ∨ GivesInAttribute b rules) :
    List.Forall₂ IngressRule.Gives rules (Block.maps (Entries.get? "ingress" b.entries)) := by
  rw [← name_ingressName]
  rcases h with ⟨pss, h, hrules⟩ | ⟨pss, h, hrules⟩
  · rwa [h.maps_entries]
  · rwa [h.maps_entries]

/-! ## Templates -/

/-- A block of the top level is none that the policy looks at. -/
def IsUnwatched (t : TopText) : Prop :=
  ∀ type name, t.heading = .resource type name → type.text ∉ watchedTypes

/-- A template with one security group, the name of which is left open, among blocks that the policy
does not look at. -/
structure GroupTemplate where
  before : List TopText
  lead : List Char
  body : Body false
  after : List TopText
  tail : List Char
  lead_isBlank : ∀ c ∈ lead, isBlank c = true
  tail_isBlank : ∀ c ∈ tail, isBlank c = true
  others_unwatched : ∀ t ∈ before ++ after, IsUnwatched t
  levels_le : body.levels ≤ maxLevels

namespace GroupTemplate

variable (t : GroupTemplate) (name : PlainText)

/-- The group itself. -/
def group : TopText where
  lead := t.lead
  heading := .resource groupType name
  inside := t.body.source
  lead_isBlank := t.lead_isBlank
  inside_passage := t.body.passage

/-- The text of a template. -/
def text : String :=
  String.ofList (TopText.text (t.before ++ t.group name :: t.after) t.tail)

/-- The line on which the group begins. -/
def line : Nat :=
  1 + lineFeeds (t.before.flatMap TopText.source) + lineFeeds t.lead

/-- The resource that the group is read as. -/
def block : Block where
  kind := .resource
  type := "aws_security_group"
  name := name.text
  properties := t.body.entries
  startLine := t.line
  endLine := t.line + lineFeeds ((t.group name).heading.text t.body.source)
  raw := String.ofList ((t.group name).heading.text t.body.source)

theorem resource?_group :
    (t.group name).resource? (some maxLevels) t.line = some (t.block name) := by
  have hproperties : (t.group name).properties (some maxLevels) = t.body.entries := by
    have hfits : Room.fits (some maxLevels) t.body.levels = true := decide_eq_true t.levels_le
    have hread := t.body.readBody_source (some maxLevels)
    rw [hfits, Reading.given_true] at hread
    have hinside : (t.group name).inside = t.body.source := rfl
    rw [TopText.properties, hinside, hread]
    rfl
  rw [TopText.resource?, hproperties]
  rfl

/-- Of the other blocks no resource is looked at. -/
theorem filter_others {ts : List TopText} (h : ∀ u ∈ ts, IsUnwatched u) {types : List String}
    (htypes : ∀ type ∈ types, type ∈ watchedTypes) (line : Nat) :
    ((TopText.placed line ts).filterMap fun p => p.2.resource? (some maxLevels) p.1).filter
      (fun b => types.contains b.type) = [] := by
  induction ts generalizing line with
  | nil => rfl
  | cons u ts ih =>
    rw [List.forall_mem_cons] at h
    rw [TopText.placed, List.filterMap_cons]
    split
    · exact ih h.2 _
    · rename_i b hb
      -- a resource has the type that its heading gives
      have hunwatched : ¬ types.contains b.type = true := by
        rw [TopText.resource?] at hb
        intro hmem
        rw [List.contains_iff_mem] at hmem
        split at hb
        · rename_i type name hheading
          obtain rfl := Option.some.inj hb
          exact h.1 type name hheading (htypes _ hmem)
        · cases hb
      rw [List.filter_cons, if_neg hunwatched]
      exact ih h.2 _

theorem placed_append (ts us : List TopText) (line : Nat) : TopText.placed line (ts ++ us) =
    TopText.placed line ts ++
      TopText.placed (line + lineFeeds (ts.flatMap TopText.source)) us := by
  induction ts generalizing line with
  | nil => rfl
  | cons u ts ih =>
    rw [List.cons_append, TopText.placed, TopText.placed, ih, List.flatMap_cons, lineFeeds_append,
      List.cons_append, Nat.add_assoc]

/-- **The group is the only resource of the watched types** in its template. -/
theorem ofTypes_parse {types : List String} (htypes : ∀ type ∈ types, type ∈ watchedTypes) :
    (parse (t.text name)).ofTypes types =
      if "aws_security_group" ∈ types then [t.block name] else [] := by
  have hbefore := filter_others (fun u hu => t.others_unwatched u (List.mem_append_left _ hu))
    htypes 1
  have hafter := filter_others (fun u hu => t.others_unwatched u (List.mem_append_right _ hu))
    htypes (1 + lineFeeds (t.before.flatMap TopText.source) + lineFeeds (t.group name).source)
  have hgroup := t.resource?_group name
  have hline : (t.group name).startLine (1 + lineFeeds (t.before.flatMap TopText.source)) =
      t.line := rfl
  rw [Configuration.ofTypes, parse, text, TopText.resources_parseWithin _ _ t.tail_isBlank,
    placed_append, List.filterMap_append, List.filter_append, hbefore, List.nil_append,
    TopText.placed, hline, List.filterMap_cons, hgroup, List.filter_cons, hafter]
  have htype : (t.block name).type = "aws_security_group" := rfl
  rw [htype]
  by_cases h : "aws_security_group" ∈ types
  · rw [if_pos (by simpa using h), if_pos h]
  · rw [if_neg (by simpa using h), if_neg h]

/-- **The policy reports exactly the exposures of the rules** that the group of a template gives. -/
theorem check_text {rules : List IngressRule}
    (h : GivesInBlocks t.body rules ∨ GivesInAttribute t.body rules) (provider : String)
    (template : Option String) :
    groupsNotOpen.check (subject (t.text name) provider template) =
      .ok (reported name.text t.line rules) := by
  have hgroup : groupFindings (t.block name) = .ok (reported name.text t.line rules) :=
    groupFindings_eq rfl rfl (forall₂_maps h)
  have htypes (type : String) (hmem : type ∈ watchedTypes) :
      ∀ u ∈ [type], u ∈ watchedTypes := by
    rintro u hu
    rwa [List.mem_singleton.1 hu]
  -- The two types of rules have no resource here, so the group alone is reported.
  have hgroups := t.ofTypes_parse name (htypes "aws_security_group" (by decide))
  have hrules := t.ofTypes_parse name (htypes "aws_security_group_rule" (by decide))
  have hingress := t.ofTypes_parse name
    (htypes "aws_vpc_security_group_ingress_rule" (by decide))
  rw [if_pos (by decide)] at hgroups
  rw [if_neg (by decide)] at hrules hingress
  show (do
    let groups ← ((parse (t.text name)).ofTypes ["aws_security_group"]).mapM groupFindings
    let rules ← (((parse (t.text name)).ofTypes ["aws_security_group_rule"]).filter isIngress).mapM
      ruleResourceFindings
    let ingress ← ((parse (t.text name)).ofTypes ["aws_vpc_security_group_ingress_rule"]).mapM
      ruleResourceFindings
    return (groups ++ rules ++ ingress).flatten) = _
  rw [hgroups, hrules, hingress, List.mapM_cons, hgroup]
  simp only [List.filter_nil, List.mapM_nil]
  show Except.ok (([reported name.text t.line rules] ++ [] ++ []).flatten) = _
  simp

end GroupTemplate

/-! ## Writing rules -/

/-- The properties that a group and its rules are usually written with. -/
inductive Property where
  | description | protocol | first | last | ranges | ranges6

namespace Property

def head : Property → Char
  | description => 'd'
  | protocol => 'p'
  | first => 'f'
  | last => 't'
  | ranges => 'c'
  | ranges6 => 'i'

def tail : Property → String
  | description => "escription"
  | protocol => "rotocol"
  | first => "rom_port"
  | last => "o_port"
  | ranges => "idr_blocks"
  | ranges6 => "pv6_cidr_blocks"

theorem isNameStart_head (p : Property) : isNameStart p.head = true := by
  cases p <;> rfl

theorem isNamePart_tail (p : Property) : ∀ c ∈ p.tail.toList, isNamePart c = true := by
  refine List.all_eq_true.1 ?_
  cases p <;> decide +kernel

/-- The name under which a template has it. -/
def identifier (p : Property) : Identifier where
  head := p.head
  tail := p.tail.toList
  head_isNameStart := p.isNameStart_head
  tail_isNamePart := p.isNamePart_tail

end Property

namespace IngressRule

/-- The properties of a rule, one statement for each that is not missing. -/
def statements (commas : Bool) (r : IngressRule) : List (StatementText commas) :=
  [.equals (.bare Property.protocol.identifier) (.literal r.protocol.toLiteral)] ++
    (r.ports.first?.map fun i => .equals (.bare Property.first.identifier) (.int i)).toList ++
    (r.ports.last?.map fun i => .equals (.bare Property.last.identifier) (.int i)).toList ++
    [.equals (.bare Property.ranges.identifier) (.texts r.ranges),
      .equals (.bare Property.ranges6.identifier) (.texts r.ranges6)]

/-- The lines that a rule is usually written as. -/
def written (commas : Bool) (r : IngressRule) : Body commas :=
  .lines (r.statements commas)

/-- The lines of a rule give the rule. -/
theorem gives_written (commas : Bool) (r : IngressRule) : r.Gives (r.written commas).entries := by
  have hentries : (r.written commas).entries =
      [("protocol", .string r.protocol.toLiteral.text)] ++
        (r.ports.first?.map fun i => ("from_port", .int i.value)).toList ++
        (r.ports.last?.map fun i => ("to_port", .int i.value)).toList ++
        [("cidr_blocks", (Spelling.texts r.ranges).value),
          ("ipv6_cidr_blocks", (Spelling.texts r.ranges6).value)] := by
    rw [Body.entries, written, Body.items_lines, statements]
    cases r.ports <;> rfl
  rw [hentries, PlainText.text_toLiteral, Spelling.value_texts, Spelling.value_texts]
  -- each key is looked up among those of the ends that are written
  refine ⟨?_, ?_, ?_, .inl ?_, .inl ?_, fun other hother => ?_⟩
  · rfl
  · cases r.ports <;> rfl
  · cases r.ports <;> rfl
  · cases r.ports <;> rfl
  · cases r.ports <;> rfl
  · simp only [List.mem_cons, List.not_mem_nil, or_false] at hother
    rcases hother with rfl | rfl <;> cases r.ports <;> rfl

theorem levels_written_le (commas : Bool) (r : IngressRule) : (r.written commas).levels ≤ 5 := by
  have htexts := Spelling.levels_texts_le r.ranges
  have htexts6 := Spelling.levels_texts_le r.ranges6
  refine deepest_le fun s hs => ?_
  rw [written, Body.items_lines, statements] at hs
  simp only [List.mem_append, List.mem_cons, List.not_mem_nil, or_false, Option.mem_toList,
    Option.map_eq_some_iff] at hs
  -- numbers and texts take no level of their own, and lists of texts two
  rcases hs with ((rfl | ⟨i, -, rfl⟩) | ⟨i, -, rfl⟩) | rfl | rfl
  · show 0 + (3 + 0) ≤ 5
    decide
  · show 0 + (3 + 0) ≤ 5
    decide
  · show 0 + (3 + 0) ≤ 5
    decide
  · show 0 + (3 + (Spelling.texts r.ranges).levels) ≤ 5
    omega
  · show 0 + (3 + (Spelling.texts r.ranges6).levels) ≤ 5
    omega

/-- The map literal that a rule is usually written as. -/
def literal (r : IngressRule) : Spelling :=
  .map (r.written true) (isForExpression_separators all_isSeparator_newline
    (isForExpression_of_ne (by decide) (by decide)))

end IngressRule

/-! ## Writing groups -/

/-- The description of a group. -/
def described (t : PlainText) : StatementText false :=
  .clause (.assign Property.description.identifier (.scalar (.string t))) 2 2

theorem leaves_described (t : PlainText) : (described t).Leaves ingressName.name :=
  StatementText.leaves_clause _ 2 2
    (show ingressName.name ≠ Property.description.identifier.name by decide)

/-- A body that gives rules as nested blocks. -/
def blocksBody (t : PlainText) (rules : List IngressRule) : Body false :=
  .lines (described t :: rules.map fun r => .block ingressName [] (r.written false))

/-- A body that gives rules as one attribute with a list of maps. -/
def attributeBody (t : PlainText) (rules : List IngressRule) : Body false :=
  .lines [described t, .equals (.bare ingressName) (.list {
    lead := ['\n']
    parts := rules.map fun r => (r.literal, [',', '\n'])
    lead_isSeparator := all_isSeparator_newline
    parts_isApart := isApart_of_forall fun p hp => by
      obtain ⟨r, -, rfl⟩ := List.mem_map.1 hp
      rfl })]

/-- **Every list of rules can be written as nested blocks.** -/
theorem givesInBlocks_blocksBody (t : PlainText) (rules : List IngressRule) :
    GivesInBlocks (blocksBody t rules) rules := by
  refine ⟨rules.map fun r => (r.written false).entries, ?_, ?_⟩
  · rw [blocksBody, Body.items_lines]
    refine .other (leaves_described t) ?_
    induction rules with
    | nil => exact .nil
    | cons r rules ih => exact .block (r.written false) ih
  · rw [List.forall₂_map_right_iff]
    exact List.forall₂_same.2 fun r _ => r.gives_written false

/-- **Every list of rules can be written as one attribute.** -/
theorem givesInAttribute_attributeBody (t : PlainText) (rules : List IngressRule) :
    GivesInAttribute (attributeBody t rules) rules := by
  refine ⟨rules.map fun r => (r.written true).entries, ?_, ?_⟩
  · rw [attributeBody, Body.items_lines, ← List.singleton_append]
    refine .intro (List.forall_mem_singleton.2 (leaves_described t)) (List.forall_mem_nil _) _ ?_
    rw [Spaced.items, List.map_map, List.map_map, List.map_map]
    rfl
  · rw [List.forall₂_map_right_iff]
    exact List.forall₂_same.2 fun r _ => r.gives_written true

theorem levels_blocksBody_le (t : PlainText) (rules : List IngressRule) :
    (blocksBody t rules).levels ≤ 6 := by
  refine deepest_le fun s hs => ?_
  rw [blocksBody, Body.items_lines, List.mem_cons, List.mem_map] at hs
  rcases hs with rfl | ⟨r, -, rfl⟩
  · show 0 + (3 + 0) ≤ 6
    decide
  · have := r.levels_written_le false
    show 0 + (1 + (r.written false).levels) ≤ 6
    omega

theorem levels_attributeBody_le (t : PlainText) (rules : List IngressRule) :
    (attributeBody t rules).levels ≤ 10 := by
  refine deepest_le fun s hs => ?_
  rw [attributeBody, Body.items_lines, List.mem_cons, List.mem_singleton] at hs
  rcases hs with rfl | rfl
  · show 0 + (3 + 0) ≤ 10
    decide
  · refine Nat.le_trans (m := 0 + (3 + 7)) ?_ (by decide)
    refine Nat.add_le_add_left (Nat.add_le_add_left (deepest_le fun v hv => ?_) 3) 0
    obtain ⟨p, hp, rfl⟩ := List.mem_map.1 hv
    obtain ⟨r, -, rfl⟩ := List.mem_map.1 hp
    have := r.levels_written_le true
    show 2 + (r.written true).levels ≤ 7
    omega

/-- A template of nothing but a security group. -/
def GroupTemplate.alone (b : Body false) (h : b.levels ≤ maxLevels) : GroupTemplate where
  before := []
  lead := []
  body := b
  after := []
  tail := ['\n']
  lead_isBlank := List.forall_mem_nil _
  tail_isBlank := List.forall_mem_singleton.2 (by decide)
  others_unwatched := List.forall_mem_nil _
  levels_le := h

/-- A template that gives rules as nested blocks. -/
def blocksTemplate (t : PlainText) (rules : List IngressRule) : GroupTemplate :=
  .alone (blocksBody t rules) (Nat.le_trans (levels_blocksBody_le t rules) (by decide))

/-- A template that gives rules as one attribute. -/
def attributeTemplate (t : PlainText) (rules : List IngressRule) : GroupTemplate :=
  .alone (attributeBody t rules) (Nat.le_trans (levels_attributeBody_le t rules) (by decide))

/-- Rules that open one port, every port and none. -/
def sampleRules : List IngressRule :=
  [⟨⟨"tcp".toList, by decide⟩, .between ⟨20, by decide⟩ ⟨25, by decide⟩,
      [⟨"10.0.0.0/8".toList, by decide⟩, ⟨"0.0.0.0/0".toList, by decide⟩], []⟩,
    ⟨⟨"All".toList, by decide⟩, .lastOnly ⟨443, by decide⟩, [], [⟨"::/0".toList, by decide⟩]⟩,
    ⟨⟨"udp".toList, by decide⟩, .firstOnly ⟨3306, by decide⟩,
      [⟨"192.168.0.0/16".toList, by decide⟩], []⟩]

/-- The name of a group. -/
def sampleName : PlainText :=
  ⟨"office".toList, by decide⟩

example : (attributeTemplate sampleName (sampleRules.take 1)).text sampleName =
    "resource \"aws_security_group\" \"office\" \x7b\n" ++
    "  description = \"office\"\n" ++ "\n" ++
    "ingress = [\n" ++
    "\x7b\n" ++
    "protocol = \"tcp\"\n" ++
    "from_port = 20\n" ++
    "to_port = 25\n" ++
    "cidr_blocks = [\"10.0.0.0/8\", \"0.0.0.0/0\"]\n" ++
    "ipv6_cidr_blocks = []\n" ++
    "\x7d,\n" ++
    "]\n" ++
    "\x7d\n" := by
  decide +kernel

/-! ## Both ways of writing rules -/

/-- **Both ways of writing the rules of a group are reported exactly.** Nested blocks and a list of
maps yield one finding for each rule and each sensitive port that it opens, in order, and nothing
else; the findings are the same up to lines. -/
theorem exposures_reported (name : PlainText) (rules : List IngressRule) {s t : GroupTemplate}
    (hs : GivesInBlocks s.body rules) (ht : GivesInAttribute t.body rules) (provider : String)
    (template : Option String) :
    groupsNotOpen.check (subject (s.text name) provider template) =
      .ok (reported name.text s.line rules) ∧
    groupsNotOpen.check (subject (t.text name) provider template) =
      .ok (reported name.text t.line rules) ∧
    (reported name.text s.line rules).map Finding.unplaced =
      (reported name.text t.line rules).map Finding.unplaced :=
  ⟨s.check_text name (.inl hs) provider template, t.check_text name (.inr ht) provider template,
    map_unplaced_reported name.text s.line t.line rules⟩

theorem exposures_reported_sample :
    let s := blocksTemplate sampleName sampleRules
    let t := attributeTemplate sampleName sampleRules
    groupsNotOpen.check (subject (s.text sampleName) "aws" none) =
      .ok (reported "office" 1 sampleRules) ∧
    groupsNotOpen.check (subject (t.text sampleName) "aws" none) =
      .ok (reported "office" 1 sampleRules) ∧
    sampleRules.map IngressRule.exposures =
      [[(22, "0.0.0.0/0")], [(22, "::/0"), (3389, "::/0"), (3306, "::/0"), (5432, "::/0"),
        (27017, "::/0"), (6379, "::/0")], []] := by
  intro s t
  have h := exposures_reported sampleName sampleRules
    (show GivesInBlocks s.body sampleRules from givesInBlocks_blocksBody sampleName sampleRules)
    (show GivesInAttribute t.body sampleRules from
      givesInAttribute_attributeBody sampleName sampleRules) "aws" none
  exact ⟨h.1, h.2.1, by decide⟩

end Groundplan.Policy
