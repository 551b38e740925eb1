import Groundplan.Proofs.Answer
import Groundplan.Proofs.Number.Integer
import Groundplan.Proofs.Policy.Reports

/-!
# Which evaluators can fail

The built-in policies look at properties of any kind and shape. All but one answer with findings
whatever they meet. The policy on open security groups reads ports out of texts: it takes a text of
digit characters for a number, and fails on one that is none, such as a superscript. The findings of
an evaluator that fails are lost for the whole configuration.

## Main definitions

* `Misnumbered`: a text of digit characters that is no number
* `Trips`: an ingress rule that the policy on open groups fails on
* `ingressRules`: the rules that it looks at

## Main results

* `builtIns_total`: all evaluators but one always answer
* `groupsNotOpen_fails_iff`: when that one fails
-/

namespace Groundplan

namespace Policy

open Hcl Text

/-! ## Properties -/

/-- A path with no positions in lists. -/
def IsNamed (path : String) : Prop :=
  ∀ part ∈ (pathParts path).tail, isDigitText part = false

theorem walk_total {parts : List String} (h : ∀ part ∈ parts, isDigitText part = false)
    (v : Option Value) : ¬ Fails (walk v parts) := by
  induction parts generalizing v with
  | nil => exact Fails.not_ok
  | cons part parts ih =>
    have hparts := fun p hp => h p (List.mem_cons_of_mem _ hp)
    cases v with
    | none => exact ih hparts none
    | some v =>
      -- Only a list takes a part of a path for a position, and then it is made of digits.
      have hstep : ∃ w, v.step part = .ok w := by
        cases v with
        | list xs =>
          rw [Value.step, h part List.mem_cons_self]
          exact ⟨_, rfl⟩
        | _ => exact ⟨_, rfl⟩
      obtain ⟨w, hw⟩ := hstep
      rw [walk, hw]
      exact ih hparts w

/-- **Looking for a named property always has a result**, whatever stands there. -/
theorem find?_total {b : Block} {path : String} (h : IsNamed path) : ¬ Fails (b.find? path) := by
  rw [Block.find?, Properties.find?]
  rw [IsNamed] at h
  cases hparts : pathParts path with
  | nil => exact Fails.not_ok
  | cons first rest =>
    rw [hparts] at h
    exact walk_total h _

theorem value_total {b : Block} {path : String} (h : IsNamed path) : ¬ Fails (value b path) := by
  rw [value, Block.get, Fails.map_iff]
  exact find?_total h

theorem has_total {b : Block} {path : String} (h : IsNamed path) : ¬ Fails (b.has path) := by
  rw [Block.has, Fails.map_iff]
  exact find?_total h

/-! ## Evaluators without failures -/

/-- An evaluator that always answers with findings. -/
def Total (e : Evaluator) : Prop :=
  ∀ s, ¬ Fails (e s)

theorem total_of_eq {e : Evaluator} {g : Subject → List Finding} (h : ∀ s, e s = .ok (g s)) :
    Total e := fun s => by
  rw [h]
  exact Fails.not_ok

/-- Reporting blocks is without failure if the test is. -/
theorem flag_total {type : String} {fails : Block → Answer Bool} {report : Block → Finding}
    (h : ∀ b, ¬ Fails (fails b)) : Total (flag type fails report) := fun s => by
  rw [flag, flagged]
  exact Fails.not_bind (Fails.not_filterM fun b _ => h b) fun _ => Fails.not_pure

theorem flag_value_total {type path : String} {test : Data → Bool} {report : Block → Finding}
    (h : IsNamed path) : Total (flag type (fun b => (value b path).map test) report) :=
  flag_total fun b => by
    rw [Fails.map_iff]
    exact value_total h

theorem flagBuckets_total (property : Option String) {companion : String}
    {report : Block → Finding} (h : ∀ p ∈ property, IsNamed p) :
    Total (flagBuckets property companion report) := fun s => by
  refine flag_total (fun b => ?_) s
  cases property with
  | none => exact Fails.not_ok
  | some p =>
    dsimp only
    exact Fails.not_bind (has_total (h p rfl)) fun _ => Fails.not_pure

instance (path : String) : Decidable (IsNamed path) :=
  inferInstanceAs (Decidable (∀ part ∈ (pathParts path).tail, isDigitText part = false))

theorem volumeEncryption_total : Total volumeEncryption.check := fun s => by
  refine Fails.not_bind (flag_value_total (by decide) s) fun _ => ?_
  exact Fails.not_bind (flag_total (fun _ => Fails.not_ok) s) fun _ => Fails.not_pure

theorem trailPresent_total : Total trailPresent.check := fun s => by
  unfold trailPresent
  dsimp only
  split
  · exact Fails.not_ok
  · split <;> exact Fails.not_ok

/-- Looking for two properties. -/
theorem has_has_total {b : Block} {first second : String} {k : Bool → Bool → Answer Bool}
    (hfirst : IsNamed first) (hsecond : IsNamed second) (hk : ∀ x y, ¬ Fails (k x y)) :
    ¬ Fails (do k (← b.has first) (← b.has second)) := by
  refine Fails.not_bind (has_total hfirst) fun x => ?_
  exact Fails.not_bind (has_total hsecond) fun y => hk x y

theorem queueEncryption_total : Total queueEncryption.check := flag_total fun b => by
  refine Fails.not_bind (Fails.map_iff.not.mpr (value_total (by decide))) fun _ => ?_
  exact Fails.not_bind (Fails.map_iff.not.mpr (value_total (by decide))) fun _ => Fails.not_pure

/-- **Every built-in evaluator but one always answers.** -/
theorem builtIns_total : ∀ d ∈ builtIns, d = groupsNotOpen ∨ Total d.check := by
  simp only [builtIns, List.forall_mem_cons]
  refine ⟨.inr ?publicAccessBlocked, .inl trivial, .inr ?databasesPrivate,
    .inr volumeEncryption_total, .inr ?noWildcards, .inr trailPresent_total, .inr ?trailValidation,
    .inr ?flowLogs, .inr ?accessLogging, .inr ?defaultGroupClosed, .inr ?noPublicAddress,
    .inr ?databaseEncryption, .inr ?deletionProtection, .inr ?tableEncryption,
    .inr ?topicEncryption, .inr queueEncryption_total, .inr ?noInlinePolicies,
    .inr ?metadataTokens, .inr ?noSecrets, .inr ?bucketEncryption, .inr ?gatewayAlternative,
    .inr ?oversizedMachine, .inr ?standbyDatabase, .inr ?unattachedAddress, by simp⟩
  -- Policies that look at the value of one property.
  case databasesPrivate | trailValidation | noPublicAddress | databaseEncryption |
      deletionProtection | topicEncryption | metadataTokens | standbyDatabase =>
    exact flag_value_total (by decide)
  -- Policies that look for a property, or for a resource beside.
  case publicAccessBlocked => exact flagBuckets_total none (by simp)
  case accessLogging => exact flagBuckets_total (some "logging") (by simp; decide)
  case bucketEncryption =>
    exact flagBuckets_total (some "server_side_encryption_configuration") (by simp; decide)
  case tableEncryption =>
    exact flag_total fun _ => Fails.map_iff.not.mpr (has_total (by decide))
  case defaultGroupClosed =>
    exact flag_total fun _ => has_has_total (by decide) (by decide) fun _ _ => Fails.not_pure
  case unattachedAddress =>
    exact fun s => flag_total
      (fun _ => has_has_total (by decide) (by decide) fun _ _ => Fails.not_pure) s
  -- Policies whose tests are without failure.
  case flowLogs => exact fun s => flag_total (fun _ => Fails.not_ok) s
  case noInlinePolicies | gatewayAlternative => exact flag_total fun _ => Fails.not_ok
  case noWildcards | noSecrets | oversizedMachine => exact total_of_eq fun _ => rfl

/-! ## Ports -/

/-- A text of digit characters that is no number, with or without blanks around it. -/
def Misnumbered : Data → Prop
  | .text s => isDigitText (String.ofList (trim s.toList)) = true ∧ ¬ IsNumeral (trim s.toList)
  | _ => False

instance : DecidablePred Misnumbered
  | .text s => inferInstanceAs (Decidable
      (isDigitText (String.ofList (trim s.toList)) = true ∧ ¬ IsNumeral (trim s.toList)))
  | .null => isFalse id
  | .bool _ => isFalse id
  | .int _ => isFalse id
  | .float _ => isFalse id
  | .moment _ => isFalse id
  | .list _ => isFalse id
  | .map _ => isFalse id

/-- **A port cannot be read** exactly from a text that is taken for a number and is none. -/
theorem portOf_fails_iff {d : Data} : Fails (portOf d) ↔ Misnumbered d := by
  cases d with
  | text s =>
    rw [portOf, Misnumbered]
    split
    · rename_i hdigits
      have hdigits' := hdigits
      rw [isDigitText, Bool.and_eq_true, List.all_eq_true, bne_iff_ne, String.toList_ofList]
        at hdigits'
      have hne : trim s.toList ≠ [] := fun hnil => hdigits'.1 (by rw [hnil])
      have hread := integerOf_eq_ok_iff (String.ofList (trim s.toList))
        (by rwa [String.toList_ofList]) (by rw [String.toList_ofList]; exact hdigits'.2)
      rw [String.toList_ofList] at hread
      rw [Fails.map_iff, ← hread, ← Fails.not_iff, not_not]
      exact ⟨fun h => ⟨hdigits, h⟩, fun h => h.2⟩
    · rename_i hdigits
      exact iff_of_false Fails.not_ok fun h => hdigits h.1
  | _ => exact iff_of_false Fails.not_ok id

/-- A rule that is open to the world, not for all traffic, and with a port that cannot be read. -/
def Trips (rule : Entries Data) : Prop :=
  openRange? rule ≠ none ∧ isAllTraffic (protocolOf rule) = false ∧
    (Misnumbered (ruleField rule "from_port") ∨ Misnumbered (ruleField rule "to_port"))

instance : DecidablePred Trips := fun rule =>
  inferInstanceAs (Decidable (openRange? rule ≠ none ∧ isAllTraffic (protocolOf rule) = false ∧
    (Misnumbered (ruleField rule "from_port") ∨ Misnumbered (ruleField rule "to_port"))))

theorem exposedPorts_fails_iff {rule : Entries Data} : Fails (exposedPorts rule) ↔ Trips rule := by
  rw [exposedPorts, Trips]
  cases openRange? rule with
  | none => exact iff_of_false Fails.not_ok fun h => h.1 rfl
  | some range =>
    cases isAllTraffic (protocolOf rule) with
    | true => exact iff_of_false Fails.not_ok fun h => by cases h.2.1
    | false =>
      dsimp only
      have hports : Fails (do
          let first ← portOf (ruleField rule "from_port")
          let last ← portOf (ruleField rule "to_port")
          return some (portsBetween first last)) ↔
            Misnumbered (ruleField rule "from_port") ∨ Misnumbered (ruleField rule "to_port") := by
        rw [← portOf_fails_iff, ← portOf_fails_iff]
        exact Fails.bind_iff fun _ => Fails.bind_iff_of_total fun _ => Fails.not_pure
      rw [if_neg (by decide), hports]
      exact ⟨fun h => ⟨by simp, rfl, h⟩, fun h => h.2.2⟩

theorem ruleFindings_fails_iff {b : Block} {label : String} {rule : Properties} :
    Fails (ruleFindings b label rule) ↔ Trips (Value.entriesData rule) := by
  rw [ruleFindings, Fails.map_iff, exposure, Fails.bind_iff_of_total fun _ => Fails.not_pure]
  exact exposedPorts_fails_iff

theorem groupFindings_fails_iff {b : Block} :
    Fails (groupFindings b) ↔ ∃ rule ∈ b.nested "ingress", Trips (Value.entriesData rule) := by
  rw [groupFindings, Fails.bind_iff_of_total fun _ => Fails.not_pure, Fails.mapM_iff]
  simp only [ruleFindings_fails_iff]

/-- The rules for incoming traffic: those inside security groups, and resources that are rules. -/
def ingressRules (c : Configuration) : List (Entries Data) :=
  ((c.ofTypes ["aws_security_group"]).flatMap fun b =>
      (b.nested "ingress").map Value.entriesData) ++
    ((c.ofTypes ["aws_security_group_rule"]).filter isIngress ++
      c.ofTypes ["aws_vpc_security_group_ingress_rule"]).map fun b => Value.entriesData b.properties

/-- **The policy on open groups fails** exactly if it fails on some rule. -/
theorem groupsNotOpen_fails_iff {s : Subject} :
    Fails (groupsNotOpen.check s) ↔ ∃ rule ∈ ingressRules s.configuration, Trips rule := by
  -- Rules stand inside of groups, and in resources of two types of their own.
  have hgroups : Fails ((s.configuration.ofTypes ["aws_security_group"]).mapM groupFindings) ↔
      ∃ rule ∈ (s.configuration.ofTypes ["aws_security_group"]).flatMap fun b =>
        (b.nested "ingress").map Value.entriesData, Trips rule := by
    rw [Fails.mapM_iff]
    simp only [groupFindings_fails_iff, List.mem_flatMap, List.mem_map]
    exact ⟨fun ⟨b, hb, r, hr, h⟩ => ⟨_, ⟨b, hb, r, hr, rfl⟩, h⟩,
      fun ⟨_, ⟨b, hb, r, hr, heq⟩, h⟩ => ⟨b, hb, r, hr, heq ▸ h⟩⟩
  have hrules (blocks : List Block) : Fails (blocks.mapM ruleResourceFindings) ↔
      ∃ rule ∈ blocks.map fun b => Value.entriesData b.properties, Trips rule := by
    rw [Fails.mapM_iff]
    simp only [ruleResourceFindings, ruleFindings_fails_iff, List.mem_map, exists_exists_and_eq_and]
  rw [ingressRules, List.map_append]
  simp only [List.mem_append, or_and_right, exists_or]
  rw [← hgroups, ← hrules, ← hrules]
  exact Fails.bind_iff fun _ => Fails.bind_iff fun _ =>
    Fails.bind_iff_of_total fun _ => Fails.not_pure

/-! ## Audits by built-in policies -/

/-- Without registered evaluators, those of an audit are built in. -/
theorem builtIn_of_mem_active {c : Catalog} (hc : c.registered = []) {provider : String}
    {p : Row × Definition} (h : p ∈ c.active provider) : builtIn? p.1.code = some p.2 := by
  have hdefinition := Catalog.definition?_of_mem_active h
  rw [Catalog.definition?, hc] at hdefinition
  cases hbuiltIn : builtIn? p.1.code with
  | none =>
    rw [hbuiltIn] at hdefinition
    cases hdefinition
  | some d =>
    rw [hbuiltIn] at hdefinition
    exact hdefinition

/-- A built-in policy fails exactly if it is the one on open groups and fails on some rule. -/
theorem raises_builtIn_iff {s : Subject} {p : Row × Definition}
    (h : builtIn? p.1.code = some p.2) : raises s p = true ↔
      p.1.code = "SEC002" ∧ ∃ rule ∈ ingressRules s.configuration, Trips rule := by
  rw [raises_iff]
  constructor
  · intro hfails
    have hcode : p.2.code = p.1.code := by simpa using List.find?_some h
    obtain heq | htotal := builtIns_total p.2 (List.mem_of_find?_eq_some h)
    · rw [heq] at hfails hcode
      exact ⟨hcode.symm, groupsNotOpen_fails_iff.mp hfails⟩
    · exact absurd hfails (htotal s)
  · rintro ⟨hcode, htrips⟩
    have heq : some p.2 = some groupsNotOpen := by
      rw [← h, hcode]
      rfl
    rw [Option.some.inj heq]
    exact groupsNotOpen_fails_iff.mpr htrips

/-- A rule that is open to the world, with a superscript for a port. -/
def sampleRule : String :=
  "resource \"aws_vpc_security_group_ingress_rule\" \"g\" \x7b\n  cidr_ipv4 = \"0.0.0.0/0\"\n" ++
    "  from_port = \"\u00b2\"\n\x7d\n"

end Policy

end Groundplan
