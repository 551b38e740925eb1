import Groundplan.Proofs.Hcl.Scalar
import Groundplan.Proofs.Policy.Reading

/-!
# Pointing at a block

A value points at a block if one of its texts is the block's literal name, or holds the block's
traversal as a whole: with no character of a name and no point before it, and no character of a name
behind it. A search for a companion looks for the traversal between the edges of words, and a hyphen
belongs to names but not to words. So the search also finds traversals of other blocks in which that
of the block stands beside a hyphen. Where the name of the block itself ends with a hyphen, it asks
for a word or a point behind the traversal, and misses what ends there.

## Main definitions

* `Occurrence`: a place where a text stands in another
* `Occurrence.Whole`, `Occurrence.Taken`: a whole traversal, and what a search takes for one
* `PointsAt`, `TakenBesideHyphen`: a value that points at a block, and one that a search takes
  for it
* `CompanionSearch`, `companionSearches`: the policies that a companion settles

## Main results

* `refersTo_iff`: what a search finds
* `refersTo_iff_of_isWord`: it finds what points at the block, and what has a hyphen beside it
* `whole_reference_iff`: a reference has the traversal of a block as a whole only if it begins so
* `companionSearches_check`: what the policies report
* `companions_clear`: **what clears a block**
-/

namespace Groundplan

namespace Text

/-! ## Occurrences -/

/-- A place where a text stands in another: what is before it, and what is behind it. -/
structure Occurrence (target cs : List Char) where
  before : List Char
  after : List Char
  parts_eq : before ++ target ++ after = cs

namespace Occurrence

variable {target cs : List Char}

/-- **A traversal that stands as a whole**: no character of a name and no point is before it, and no
character of a name behind it. -/
structure Whole (o : Occurrence target cs) : Prop where
  before : ∀ c ∈ o.before.getLast?, isNamePart c = false ∧ c ≠ '.'
  after : ∀ c ∈ o.after.head?, isNamePart c = false

/-- **What a search takes for a whole traversal**: no word character and no point is before it, and
behind it is a point or the edge of a word. -/
structure Taken (o : Occurrence target cs) : Prop where
  before : ∀ c ∈ o.before.getLast?, isWord c = false ∧ c ≠ '.'
  after : o.after.head? = some '.' ∨ target.getLast?.any isWord ≠ o.after.head?.any isWord

/-- A traversal with a hyphen before it or behind it. -/
def BesideHyphen (o : Occurrence target cs) : Prop :=
  o.before.getLast? = some '-' ∨ o.after.head? = some '-'

/-- **A traversal that ends in a word stands as a whole** if it is taken for one and no hyphen is
beside it. -/
theorem whole_iff (o : Occurrence target cs) (hword : target.getLast?.any isWord = true) :
    o.Whole ↔ o.Taken ∧ ¬ o.BesideHyphen := by
  have hdot : isWord '.' = false := by decide
  constructor
  · intro h
    refine ⟨⟨fun c hc => ?_, ?_⟩, ?_⟩
    · obtain ⟨hpart, hne⟩ := h.before c hc
      exact ⟨((Bool.or_eq_false_iff).1 hpart).1, hne⟩
    · right
      cases hhead : o.after.head? with
      | none => simp [hword]
      | some c => simp [hword, ((Bool.or_eq_false_iff).1 (h.after c hhead)).1]
    · rintro (hlast | hhead)
      · exact absurd (h.before '-' hlast).1 (by decide)
      · exact absurd (h.after '-' hhead) (by decide)
  · rintro ⟨h, hhyphen⟩
    rw [BesideHyphen, not_or] at hhyphen
    refine ⟨fun c hc => ?_, fun c hc => ?_⟩
    · obtain ⟨hw, hne⟩ := h.before c hc
      have hc' : c ≠ '-' := fun heq => hhyphen.1 (heq ▸ hc)
      exact ⟨by simp [isNamePart, hw, hc'], hne⟩
    · have hw : isWord c = false := by
        rcases h.after with hpoint | hedge
        · rw [hpoint, Option.mem_some_iff] at hc
          exact hc ▸ hdot
        · rw [hword, Option.mem_def.1 hc] at hedge
          simpa using hedge.symm
      have hc' : c ≠ '-' := fun heq => hhyphen.2 (heq ▸ hc)
      simp [isNamePart, hw, hc']

/-- A traversal that ends with a hyphen is only taken for a whole one if a point or a word is behind
it. -/
theorem taken_iff_of_not_word (o : Occurrence target cs)
    (hword : target.getLast?.any isWord = false) :
    o.Taken ↔ (∀ c ∈ o.before.getLast?, isWord c = false ∧ c ≠ '.') ∧
      ∃ c ∈ o.after.head?, c = '.' ∨ isWord c = true := by
  have hafter : (o.after.head? = some '.' ∨
      target.getLast?.any isWord ≠ o.after.head?.any isWord) ↔
      ∃ c ∈ o.after.head?, c = '.' ∨ isWord c = true := by
    rw [hword]
    cases o.after.head? with
    | none => simp
    | some c => simp
  exact ⟨fun h => ⟨h.before, hafter.1 h.after⟩, fun h => ⟨h.1, hafter.2 h.2⟩⟩

/-- The same place, with a character more before it. -/
def cons (c : Char) (o : Occurrence target cs) : Occurrence target (c :: cs) :=
  ⟨c :: o.before, o.after, congrArg (c :: ·) o.parts_eq⟩

end Occurrence

end Text

namespace Policy

open Hcl Text

variable {target cs : List Char}

/-! ## The search -/

theorem endsHere_iff {last : Option Char} {rest : List Char} :
    endsHere last rest = true ↔
      rest.head? = some '.' ∨ last.any isWord ≠ rest.head?.any isWord := by
  have hlast : (last.map isWord).getD false = last.any isWord := by
    cases last <;> rfl
  cases rest with
  | nil => simp [endsHere, hlast]
  | cons c rest => simp [endsHere, hlast]

theorem startsTraversal_iff : startsTraversal target cs = true ↔
    ∃ rest, target ++ rest = cs ∧ endsHere target.getLast? rest = true := by
  rw [startsTraversal, Bool.and_eq_true, List.isPrefixOf_iff_prefix]
  constructor
  · rintro ⟨⟨rest, rfl⟩, hends⟩
    rw [List.drop_left] at hends
    exact ⟨rest, rfl, hends⟩
  · rintro ⟨rest, rfl, hends⟩
    rw [List.drop_left]
    exact ⟨List.prefix_append target rest, hends⟩

/-- Behind the start of a text a traversal is found where it is taken for a whole one. -/
theorem occursAfter_iff : occursAfter target cs = true ↔
    ∃ o : Occurrence target cs, o.before ≠ [] ∧ o.Taken := by
  induction cs with
  | nil =>
    refine iff_of_false Bool.false_ne_true ?_
    rintro ⟨o, hne, -⟩
    have hnil := o.parts_eq
    rw [List.append_assoc, List.append_eq_nil_iff] at hnil
    exact hne hnil.1
  | cons c cs ih =>
    rw [occursAfter, Bool.or_eq_true, Bool.and_eq_true, startsTraversal_iff, ih]
    constructor
    · rintro (⟨hblocks, rest, rfl, hends⟩ | ⟨o, hne, htaken⟩)
      · refine ⟨⟨[c], rest, rfl⟩, List.cons_ne_nil _ _, fun d hd => ?_, endsHere_iff.1 hends⟩
        obtain rfl : c = d := by simpa using hd
        simpa [blocksTraversal] using hblocks
      · refine ⟨o.cons c, List.cons_ne_nil _ _, ?_, htaken.after⟩
        show ∀ d ∈ (c :: o.before).getLast?, _
        rw [List.getLast?_cons_of_ne_nil hne]
        exact htaken.before
    · rintro ⟨⟨before, after, hparts⟩, hne, htaken⟩
      cases before with
      | nil => exact absurd rfl hne
      | cons d before =>
        obtain ⟨rfl, htail⟩ := List.cons.inj hparts
        cases hbefore : before with
        | nil =>
          -- the character before the traversal is the first one of the text
          subst hbefore
          left
          refine ⟨?_, after, htail, endsHere_iff.2 htaken.after⟩
          simpa [blocksTraversal] using htaken.before d rfl
        | cons e before' =>
          right
          have hne' : before ≠ [] := by simp [hbefore]
          refine ⟨⟨before, after, htail⟩, hne', fun c hc => htaken.before c ?_, htaken.after⟩
          show c ∈ (d :: before).getLast?
          rwa [List.getLast?_cons_of_ne_nil hne']

/-- **A text holds a traversal** for a search, if there is a place where it takes it for a whole
one. -/
theorem names_iff : names target cs = true ↔ ∃ o : Occurrence target cs, o.Taken := by
  rw [names, Bool.or_eq_true, startsTraversal_iff, occursAfter_iff]
  constructor
  · rintro (⟨rest, hparts, hends⟩ | ⟨o, -, htaken⟩)
    · exact ⟨⟨[], rest, hparts⟩, nofun, endsHere_iff.1 hends⟩
    · exact ⟨o, htaken⟩
  · rintro ⟨o, htaken⟩
    by_cases hbefore : o.before = []
    · refine .inl ⟨o.after, ?_, endsHere_iff.2 htaken.after⟩
      have hparts := o.parts_eq
      rwa [hbefore] at hparts
    · exact .inr ⟨o, hbefore, htaken⟩

/-! ## Values -/

/-- The literal name of a block: a text under a property by which it is known, and no reference to a
variable. -/
def IsLiteral (target : Block) (s : String) : Prop :=
  ∃ key ∈ identityProperties, ∃ v, target.property? key = some v ∧ v.toData = .text s ∧
    isVariable s = false

theorem carries_iff {target : Block} {s : String} :
    carries target s = true ↔ IsLiteral target s := by
  rw [carries, List.any_eq_true]
  refine exists_congr fun key => and_congr_right fun _ => ?_
  cases target.property? key with
  | none => simp
  | some v =>
    cases hv : v.toData with
    | text literal =>
      simp only [Option.map_some, hv, Bool.and_eq_true, Bool.not_eq_true', beq_iff_eq,
        Option.some.injEq, exists_eq_left', Data.text.injEq]
      exact ⟨fun ⟨h, heq⟩ => ⟨heq.symm, heq ▸ h⟩, fun ⟨heq, h⟩ => ⟨heq ▸ h, heq.symm⟩⟩
    | _ => simp [hv]

/-- **A value that points at a block**: a text of it is the literal name of the block, or holds the
traversal of the block as a whole. -/
def PointsAt (target : Block) (v : Data) : Prop :=
  ∃ s, Data.text s ∈ listOf v ∧
    (IsLiteral target s ∨ ∃ o : Occurrence (traversal target) s.toList, o.Whole)

/-- **What a search finds**: literal names, and what it takes for whole traversals. -/
theorem refersTo_iff {target : Block} {v : Data} : refersTo target v = true ↔
    ∃ s, Data.text s ∈ listOf v ∧
      (IsLiteral target s ∨ ∃ o : Occurrence (traversal target) s.toList, o.Taken) := by
  rw [refersTo, List.any_eq_true]
  constructor
  · rintro ⟨d, hd, hfound⟩
    cases d with
    | text s =>
      rw [Bool.or_eq_true, names_iff, carries_iff] at hfound
      exact ⟨s, hd, hfound.symm⟩
    | _ => cases hfound
  · rintro ⟨s, hs, hfound⟩
    refine ⟨.text s, hs, ?_⟩
    rw [Bool.or_eq_true, names_iff, carries_iff]
    exact hfound.symm

/-- A value in which a search takes the traversal of a block for a whole one that is beside a
hyphen. -/
def TakenBesideHyphen (target : Block) (v : Data) : Prop :=
  ∃ s, Data.text s ∈ listOf v ∧
    ∃ o : Occurrence (traversal target) s.toList, o.Taken ∧ o.BesideHyphen

section Named

variable {target : Block} {type name : Identifier}

/-- The traversal of a block ends as its name does. -/
theorem getLast?_traversal (hname : target.name = name.name) :
    (traversal target).getLast? = name.chars.getLast? := by
  rw [traversal, hname, Identifier.name, String.toList_ofList, List.getLast?_append]
  simp [Identifier.chars, List.getLast?_cons]

/-- **A search finds what points at a block**, and what has its traversal beside a hyphen, if the
name of the block ends in a word. -/
theorem refersTo_iff_of_isWord (hname : target.name = name.name)
    (hword : name.chars.getLast?.any isWord = true) {v : Data} :
    refersTo target v = true ↔ PointsAt target v ∨ TakenBesideHyphen target v := by
  have hwhole {cs : List Char} (o : Occurrence (traversal target) cs) :
      o.Whole ↔ o.Taken ∧ ¬ o.BesideHyphen :=
    o.whole_iff (by rwa [getLast?_traversal hname])
  rw [refersTo_iff]
  constructor
  · rintro ⟨s, hs, hliteral | ⟨o, ho⟩⟩
    · exact .inl ⟨s, hs, .inl hliteral⟩
    · by_cases hhyphen : o.BesideHyphen
      · exact .inr ⟨s, hs, o, ho, hhyphen⟩
      · exact .inl ⟨s, hs, .inr ⟨o, (hwhole o).2 ⟨ho, hhyphen⟩⟩⟩
  · rintro (⟨s, hs, hliteral | ⟨o, ho⟩⟩ | ⟨s, hs, o, ho, -⟩)
    · exact ⟨s, hs, .inl hliteral⟩
    · exact ⟨s, hs, .inr ⟨o, ((hwhole o).1 ho).1⟩⟩
    · exact ⟨s, hs, .inr ⟨o, ho⟩⟩

/-- The traversal of a block is that of its type and name. -/
theorem traversal_eq (htype : target.type = type.name) (hname : target.name = name.name) :
    traversal target = type.chars ++ '.' :: name.chars := by
  rw [traversal, htype, hname, Identifier.name, Identifier.name, String.toList_ofList,
    String.toList_ofList]

end Named

/-! ## References -/

/-- Where characters of one class end in a text is fixed by the text. -/
theorem append_inj_of_class {p : Char → Bool} {xs ys as bs : List Char}
    (hxs : ∀ c ∈ xs, p c = true) (hys : ∀ c ∈ ys, p c = true)
    (has : ∀ c ∈ as.head?, p c = false) (hbs : ∀ c ∈ bs.head?, p c = false)
    (h : xs ++ as = ys ++ bs) : xs = ys ∧ as = bs := by
  have hxy : xs = ys := by
    have htake := congrArg (List.takeWhile p) h
    rwa [List.takeWhile_append_of_pos hxs, List.takeWhile_append_of_pos hys,
      takeWhile_eq_nil has, takeWhile_eq_nil hbs, List.append_nil, List.append_nil] at htake
  exact ⟨hxy, List.append_cancel_left (hxy ▸ h)⟩

/-- **A reference has a traversal as a whole only if it begins so**: with the names of type and
block. -/
theorem whole_reference_iff {type name : Identifier} {r : Reference} :
    (∃ o : Occurrence (type.chars ++ '.' :: name.chars) r.chars, o.Whole) ↔
      r.first.chars = type.chars ∧ r.second.chars = name.chars := by
  have hdot : ∀ cs : List Char, ∀ c ∈ ('.' :: cs).head?, isNamePart c = false := by
    intro cs c hc
    obtain rfl : '.' = c := by simpa using hc
    decide
  have hmore : ∀ c ∈ (r.more.flatMap fun n => '.' :: n.chars).head?, isNamePart c = false := by
    cases r.more with
    | nil =>
      intro c hc
      cases hc
    | cons n more => exact hdot _
  have hchars : r.chars = r.first.chars ++ '.' :: (r.second.chars ++
      r.more.flatMap fun n => '.' :: n.chars) := by
    simp [Reference.chars]
  constructor
  · rintro ⟨⟨before, after, hparts⟩, hwhole⟩
    -- All characters of a reference are points or belong to names, so nothing is before it.
    have hbefore : before = [] := by
      by_contra hne
      have hlast := List.getLast?_eq_some_getLast hne
      have hmem : before.getLast hne ∈ r.chars := by
        rw [← hparts, List.append_assoc]
        exact List.mem_append_left _ (List.getLast_mem hne)
      obtain ⟨hpart, hpoint⟩ := hwhole.before _ hlast
      rcases Reference.mem_chars hmem with h | h
      · rw [hpart] at h
        cases h
      · exact hpoint h
    subst hbefore
    rw [hchars, List.nil_append, List.append_assoc, List.cons_append] at hparts
    obtain ⟨hfirst, hrest⟩ := append_inj_of_class
      (fun _ => Identifier.isNamePart_of_mem) (fun _ => Identifier.isNamePart_of_mem)
      (hdot _) (hdot _) hparts
    obtain ⟨hsecond, -⟩ := append_inj_of_class
      (fun _ => Identifier.isNamePart_of_mem) (fun _ => Identifier.isNamePart_of_mem)
      hwhole.after hmore (List.cons.inj hrest).2
    exact ⟨hfirst.symm, hsecond.symm⟩
  · rintro ⟨hfirst, hsecond⟩
    refine ⟨⟨[], r.more.flatMap fun n => '.' :: n.chars, ?_⟩, ⟨?_, hmore⟩⟩
    · rw [hchars, hfirst, hsecond]
      simp
    · intro c hc
      cases hc

/-! ## Policies -/

/-- A policy that a companion settles: the type of the resources that it reports, the properties
that settle it in a resource itself, the types of companions, and the property by which these point
at the resource. -/
structure CompanionSearch where
  definition : Definition
  type : String
  settled : List String
  companions : List String
  property : String

/-- **The policies that a companion settles.** -/
def companionSearches : List CompanionSearch := [
  ⟨publicAccessBlocked, "aws_s3_bucket", [], ["aws_s3_bucket_public_access_block"], "bucket"⟩,
  ⟨flowLogs, "aws_vpc", [], ["aws_flow_log"], "vpc_id"⟩,
  ⟨accessLogging, "aws_s3_bucket", ["logging"], ["aws_s3_bucket_logging"], "bucket"⟩,
  ⟨bucketEncryption, "aws_s3_bucket", ["server_side_encryption_configuration"],
    ["aws_s3_bucket_server_side_encryption_configuration"], "bucket"⟩,
  ⟨unattachedAddress, "aws_eip", ["instance", "network_interface"],
    ["aws_eip_association", "aws_nat_gateway"], "allocation_id"⟩]

/-- These are the policies that search. -/
example : companionSearches.map (·.definition.code) = searches := rfl

/-- The plain value by which a block may point at another. -/
def pointer (property : String) (b : Block) : Data :=
  ((b.property? property).map Value.toData).getD .null

/-- Whether a search leaves a resource unsettled: by its own properties, and by all companions. -/
def CompanionSearch.leaves (k : CompanionSearch) (c : Configuration) (b : Block) : Bool :=
  !k.settled.any (isThere b) && !hasCompanion b k.property (c.ofTypes k.companions)

theorem CompanionSearch.leaves_iff {k : CompanionSearch} {c : Configuration} {b : Block} :
    k.leaves c b = true ↔ (∀ p ∈ k.settled, isThere b p = false) ∧
      ∀ companion ∈ c.ofTypes k.companions, refersTo b (pointer k.property companion) = false := by
  simp [CompanionSearch.leaves, hasCompanion, isCompanion, pointer]

theorem flag_eq {type : String} {fails : Block → Answer Bool} {g : Block → Bool}
    {report : Block → Finding} (h : ∀ b, fails b = .ok (g b)) (s : Subject) :
    flag type fails report s = .ok (((s.configuration.ofTypes [type]).filter g).map report) := by
  rw [flag, flagged, filterM_ok fun b _ => h b]
  rfl

theorem has_eq {b : Block} {path : String} (h : IsNamed path) :
    b.has path = .ok (isThere b path) := by
  obtain ⟨found, hfound⟩ := Fails.not_iff.1 (has_total (b := b) h)
  rw [isThere, hfound]

/-- Companions of either type. -/
theorem hasCompanion_pair (b : Block) (property : String) (c : Configuration) (t t' : String) :
    hasCompanion b property (c.ofTypes [t, t']) =
      (hasCompanion b property (c.ofTypes [t]) || hasCompanion b property (c.ofTypes [t'])) := by
  rw [Bool.eq_iff_iff]
  simp only [hasCompanion, Configuration.ofTypes, Bool.or_eq_true, List.any_eq_true,
    List.mem_filter, List.contains_iff_mem, List.mem_cons, List.not_mem_nil, or_false]
  constructor
  · rintro ⟨x, ⟨hx, rfl | rfl⟩, hfound⟩
    · exact .inl ⟨x, ⟨hx, rfl⟩, hfound⟩
    · exact .inr ⟨x, ⟨hx, rfl⟩, hfound⟩
  · rintro (⟨x, ⟨hx, rfl⟩, hfound⟩ | ⟨x, ⟨hx, rfl⟩, hfound⟩)
    · exact ⟨x, ⟨hx, .inl rfl⟩, hfound⟩
    · exact ⟨x, ⟨hx, .inr rfl⟩, hfound⟩

theorem flagBuckets_eq (property : Option String) {companion : String}
    {report : Block → Finding} (h : ∀ p, property = some p → IsNamed p) (s : Subject) :
    flagBuckets property companion report s =
      .ok (((s.configuration.ofTypes ["aws_s3_bucket"]).filter fun b =>
        !property.toList.any (isThere b) &&
          !hasCompanion b "bucket" (s.configuration.ofTypes [companion])).map report) := by
  refine flag_eq (fun b => ?_) s
  cases property with
  | none => rfl
  | some p =>
    dsimp only
    rw [has_eq (h p rfl)]
    show Except.ok _ = Except.ok _
    rw [Option.toList_some, List.any_cons, List.any_nil, Bool.or_false]

theorem isUnattached_eq (c : Configuration) (b : Block) : isUnattached c b =
    .ok (!(["instance", "network_interface"].any (isThere b)) &&
      !hasCompanion b "allocation_id" (c.ofTypes ["aws_eip_association", "aws_nat_gateway"])) := by
  rw [isUnattached, has_eq (by decide), has_eq (by decide), hasCompanion_pair]
  show Except.ok _ = Except.ok _
  simp [Bool.and_assoc]

/-- **What the policies report**: the resources that their search leaves unsettled. -/
theorem companionSearches_check : ∀ k ∈ companionSearches, ∃ report : Block → Finding,
    (∀ b, (report b).reference = b.fullName) ∧ ∀ s, k.definition.check s =
      .ok (((s.configuration.ofTypes [k.type]).filter (k.leaves s.configuration)).map report) := by
  simp only [companionSearches, List.forall_mem_cons]
  refine ⟨⟨_, fun _ => rfl, fun s => flagBuckets_eq none nofun s⟩,
    ⟨_, fun _ => rfl, fun s => flag_eq (fun _ => rfl) s⟩,
    ⟨_, fun _ => rfl, fun s => flagBuckets_eq (some "logging") ?logging s⟩,
    ⟨_, fun _ => rfl, fun s =>
      flagBuckets_eq (some "server_side_encryption_configuration") ?encryption s⟩,
    ⟨_, fun _ => rfl, fun s => flag_eq (isUnattached_eq s.configuration) s⟩, nofun⟩
  case logging =>
    rintro _ ⟨⟩
    decide
  case encryption =>
    rintro _ ⟨⟩
    decide

/-- **What clears a block.** If the name of the block ends in a word, a search finds what points at
the block, and besides what has its traversal beside a hyphen; if it ends with a hyphen, what is not
followed by a word or a point is missed. A reference to another block does not hold the traversal as
a whole. Each policy reports the resources that its search leaves, and a resource is left if none of
its companions points at it or has its traversal beside a hyphen. When the policy is run, it reports
the same or fails. -/
theorem companions_clear {target : Block} {type name : Identifier}
    (htype : target.type = type.name) (hname : target.name = name.name) :
    (name.chars.getLast?.any isWord = true → ∀ v,
      refersTo target v = true ↔ PointsAt target v ∨ TakenBesideHyphen target v) ∧
    (name.chars.getLast?.any isWord = false → ∀ v,
      refersTo target v = true ↔ ∃ s, Data.text s ∈ listOf v ∧
        (IsLiteral target s ∨ ∃ o : Occurrence (traversal target) s.toList,
          (∀ c ∈ o.before.getLast?, isWord c = false ∧ c ≠ '.') ∧
            ∃ c ∈ o.after.head?, c = '.' ∨ isWord c = true)) ∧
    (∀ r : Reference, (∃ o : Occurrence (traversal target) r.chars, o.Whole) ↔
      r.first.chars = type.chars ∧ r.second.chars = name.chars) ∧
    ∀ k ∈ companionSearches, ∃ report : Block → Finding,
      (∀ b, (report b).reference = b.fullName) ∧ ∀ s,
        k.definition.check s = .ok
          (((s.configuration.ofTypes [k.type]).filter (k.leaves s.configuration)).map report) ∧
        (∀ fs, k.definition.run s = .ok fs → k.definition.check s = .ok fs) ∧
        (name.chars.getLast?.any isWord = true →
          (k.leaves s.configuration target = true ↔
            (∀ p ∈ k.settled, isThere target p = false) ∧
            ∀ companion ∈ s.configuration.ofTypes k.companions,
              ¬ PointsAt target (pointer k.property companion) ∧
                ¬ TakenBesideHyphen target (pointer k.property companion))) := by
  have hfinds (hword : name.chars.getLast?.any isWord = true) (v : Data) :=
    refersTo_iff_of_isWord (v := v) hname hword
  refine ⟨hfinds, fun hword v => ?hyphen, fun r => ?reference, fun k hk => ?policy⟩
  case hyphen =>
    rw [refersTo_iff]
    refine exists_congr fun s => and_congr_right fun _ => or_congr_right <|
      exists_congr fun o => ?_
    exact o.taken_iff_of_not_word (by rwa [getLast?_traversal hname])
  case reference =>
    rw [traversal_eq htype hname]
    exact whole_reference_iff
  -- Each policy is one search, and the search finds what points at the block.
  case policy =>
    obtain ⟨report, href, hcheck⟩ := companionSearches_check k hk
    refine ⟨report, href, fun s => ⟨hcheck s, fun fs hfs => ?_, fun hword => ?_⟩⟩
    · rw [← hfs]
      exact (run_eq_check (hfs ▸ Fails.not_ok)).symm
    · rw [CompanionSearch.leaves_iff]
      refine and_congr_right fun _ => forall₂_congr fun companion _ => ?_
      rw [← not_or, ← hfinds hword, Bool.not_eq_true]

/-- A reference to a bucket the name of which has a hyphen in it. -/
def sampleReference : Reference :=
  ⟨⟨'a', "ws_s3_bucket".toList, by decide, List.all_eq_true.1 (by decide +kernel)⟩,
    ⟨'a', "-b".toList, by decide, List.all_eq_true.1 (by decide +kernel)⟩, []⟩

/-- **A reference to another bucket clears a bucket** whose name is the start of the other's: it
does not point at it, but has its traversal before a hyphen. -/
theorem companions_clear_sample :
    let target := sampleResource "aws_s3_bucket" "a" "acl" (.string "private")
    ¬ PointsAt target (.text "aws_s3_bucket.a-b") ∧
      TakenBesideHyphen target (.text "aws_s3_bucket.a-b") := by
  intro target
  have htype : target.type = sampleReference.first.name := by decide
  have hname : target.name = (⟨'a', [], by decide, nofun⟩ : Identifier).name := by decide
  obtain ⟨hfinds, -, hwhole, -⟩ := companions_clear htype hname
  have hpoints : ¬ PointsAt target (.text "aws_s3_bucket.a-b") := by
    rintro ⟨s, hs, hcase⟩
    obtain rfl : s = "aws_s3_bucket.a-b" := by simpa [listOf] using hs
    rcases hcase with hliteral | ⟨o, ho⟩
    · have hnone : carries target "aws_s3_bucket.a-b" = false := by decide
      rw [← carries_iff, hnone] at hliteral
      cases hliteral
    · have hother := (hwhole sampleReference).1 ⟨o, ho⟩
      exact absurd hother.2 (by decide)
  have hfound : refersTo target (.text "aws_s3_bucket.a-b") = true := by decide +kernel
  exact ⟨hpoints, ((hfinds (by decide) _).1 hfound).resolve_left hpoints⟩

end Policy

end Groundplan
