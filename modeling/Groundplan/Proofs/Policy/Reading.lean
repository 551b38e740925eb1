import Groundplan.Policy.Reading
import Groundplan.Proofs.Policy.Evaluators
import Groundplan.Proofs.Policy.Reordering

/-!
# Reading in any order

The built-in evaluators do not depend on the order of resources, as far as what they look for goes.
When one is run, it also has to read the values that it looks at, and fails on one that is nested
too deep. An evaluator that reads the same values in any order still comes to the same. One that
searches for a companion stops at the first: what stands behind it is not read, and so the order
decides whether there is an answer. It decides no more than that, and nothing where all properties
can be read.

## Main definitions

* `Shallow`: a block all of whose properties can be read
* `searches`: the evaluators that search

## Main results

* `readable_readings`: where all properties can be read, so can all that is read
* `run_permuted_iff`: order can only decide whether there is an answer
* `run_permuted`, `run_eq_check_of_shallow`: where it decides nothing
* `evaluation_reordered`: **evaluators and reports on resources in another order**
-/

namespace Groundplan

/-! ## Depths -/

namespace Data

theorem le_itemsDepth (found : Nat) (xs : List Data) : found ≤ itemsDepth found xs := by
  induction xs generalizing found with
  | nil => exact Nat.le_refl _
  | cons x xs ih => exact Nat.le_trans (Nat.le_max_left _ _) (ih _)

/-- An item is no deeper than its list. -/
theorem depth_le_itemsDepth {x : Data} {xs : List Data} (h : x ∈ xs) (found : Nat) :
    x.depth ≤ itemsDepth found xs := by
  induction xs generalizing found with
  | nil => cases h
  | cons y xs ih =>
    rcases List.mem_cons.1 h with rfl | h
    · exact Nat.le_trans (Nat.le_max_right _ _) (le_itemsDepth _ xs)
    · exact ih h _

theorem le_entriesDepth (found : Nat) (es : List (String × Data)) :
    found ≤ entriesDepth found es := by
  induction es generalizing found with
  | nil => exact Nat.le_refl _
  | cons e es ih => exact Nat.le_trans (Nat.le_max_left _ _) (ih _)

/-- The value of an entry is no deeper than its map. -/
theorem depth_le_entriesDepth {e : String × Data} {es : List (String × Data)} (h : e ∈ es)
    (found : Nat) : e.2.depth ≤ entriesDepth found es := by
  induction es generalizing found with
  | nil => cases h
  | cons f es ih =>
    rcases List.mem_cons.1 h with rfl | h
    · exact Nat.le_trans (Nat.le_max_right _ _) (le_entriesDepth _ es)
    · exact ih h _

end Data

namespace Hcl

/-- A value inside a map is less deep. -/
theorem depth_lt_of_mem_map {es : Properties} {e : String × Value} (h : e ∈ es) :
    e.2.toData.depth < (Value.map es).toData.depth := by
  have hmem : (e.1, e.2.toData) ∈ es.map fun e => (e.1, e.2.toData) := List.mem_map.2 ⟨e, h, rfl⟩
  rw [Value.toData, Value.entriesData_eq_map, Data.depth]
  exact Nat.lt_succ_of_le (Data.depth_le_entriesDepth hmem 0)

/-- A value inside a list is less deep. -/
theorem depth_lt_of_mem_list {xs : List Value} {v : Value} (h : v ∈ xs) :
    v.toData.depth < (Value.list xs).toData.depth := by
  rw [Value.toData, Value.itemsData_eq_map, Data.depth]
  exact Nat.lt_succ_of_le (Data.depth_le_itemsDepth (List.mem_map_of_mem h) 0)

/-- A step leads inwards. -/
theorem depth_step_le {v w : Value} {part : String} (h : v.step part = .ok (some w)) :
    w.toData.depth ≤ v.toData.depth := by
  rw [Value.step.eq_def] at h
  split at h
  · rename_i es
    exact (depth_lt_of_mem_map (Entries.mem_of_get? (Except.ok.inj h))).le
  · rename_i xs
    split at h
    · cases hi : integerOf part with
      | error e =>
        rw [hi] at h
        cases h
      | ok i =>
        rw [hi] at h
        exact (depth_lt_of_mem_list (List.mem_of_getElem? (Except.ok.inj h))).le
    · -- A key leads into the first map of a list, so the step goes two levels in.
      obtain ⟨m, hm, hw⟩ := Option.bind_eq_some_iff.1 (Except.ok.inj h)
      have hmem : m ∈ xs := List.mem_of_find?_eq_some hm
      cases m with
      | map es =>
        have hinner := depth_lt_of_mem_map (Entries.mem_of_get? hw)
        exact hinner.le.trans (depth_lt_of_mem_list hmem).le
      | _ => cases hw
  · cases h

theorem walk_none (parts : List String) : walk none parts = .ok none := by
  induction parts with
  | nil => rfl
  | cons _ _ ih => exact ih

/-- What steps lead to is no deeper than where they begin. -/
theorem depth_walk_le {parts : List String} {v w : Value} (h : walk (some v) parts = .ok (some w)) :
    w.toData.depth ≤ v.toData.depth := by
  induction parts generalizing v with
  | nil =>
    cases h
    exact Nat.le_refl _
  | cons part parts ih =>
    rw [walk] at h
    split at h
    · rename_i u hstep
      cases u with
      | none =>
        rw [walk_none] at h
        cases h
      | some u => exact (ih h).trans (depth_step_le hstep)
    · cases h

end Hcl

namespace Policy

open Hcl

variable {b target : Block} {s : Subject} {rs : List Block}

/-! ## Blocks that can be read -/

/-- A block all of whose properties can be read. -/
def Shallow (b : Block) : Prop :=
  ∀ p ∈ b.properties, isReadable p.2 = true

theorem isReadable_of_le {v w : Value} (h : w.toData.depth ≤ v.toData.depth)
    (hv : isReadable v = true) : isReadable w = true :=
  decide_eq_true (h.trans (of_decide_eq_true hv))

theorem Shallow.property (h : Shallow b) {name : String} {v : Value}
    (hv : b.property? name = some v) : isReadable v = true :=
  h (name, v) (Entries.mem_of_get? hv)

theorem Shallow.valuesAt (h : Shallow b) (path : String) :
    ∀ v ∈ valuesAt b path, isReadable v = true := by
  intro v hv
  rw [Policy.valuesAt] at hv
  split at hv
  · rename_i w hw
    rw [List.mem_singleton.1 hv]
    rw [Block.find?, Properties.find?] at hw
    split at hw
    · cases hw
    · rename_i first rest _
      cases hfirst : Entries.get? first b.properties with
      | none =>
        rw [hfirst, walk_none] at hw
        cases hw
      | some u =>
        rw [hfirst] at hw
        exact isReadable_of_le (depth_walk_le hw) (h.property hfirst)
  · cases hv

theorem Shallow.nestedReads (h : Shallow b) (name : String) :
    ∀ v ∈ nestedReads b name, isReadable v = true := by
  intro v hv
  rw [Policy.nestedReads, Block.nested] at hv
  cases hprop : b.property? name with
  | none =>
    rw [hprop] at hv
    cases hv
  | some u =>
    rw [hprop] at hv
    refine isReadable_of_le ?_ (h.property hprop)
    -- Inner blocks are maps: the value itself, or those among its items.
    cases u with
    | map es =>
      rw [List.mem_singleton.1 hv]
    | list xs =>
      obtain ⟨es, hes, rfl⟩ := List.mem_map.1 hv
      obtain ⟨x, hx, hentries⟩ := List.mem_filterMap.1 hes
      cases x with
      | map es' =>
        cases hentries
        exact (depth_lt_of_mem_list hx).le
      | _ => cases hentries
    | _ => cases hv

theorem Shallow.identityReads (h : Shallow target) (text : String) (keys : List String) :
    ∀ v ∈ identityReads target text keys, isReadable v = true := by
  induction keys with
  | nil =>
    intro v hv
    cases hv
  | cons key keys ih =>
    rw [Policy.identityReads]
    cases hprop : target.property? key with
    | none => exact ih
    | some u =>
      have hu := h.property hprop
      dsimp only
      split
      · split
        · simpa using hu
        · exact List.forall_mem_cons.2 ⟨hu, ih⟩
      · exact List.forall_mem_cons.2 ⟨hu, ih⟩

theorem Shallow.referenceReads (h : Shallow target) (ds : List Data) :
    ∀ v ∈ referenceReads target ds, isReadable v = true := by
  induction ds with
  | nil =>
    intro v hv
    cases hv
  | cons d ds ih =>
    cases d with
    | text text =>
      rw [Policy.referenceReads]
      split
      · simp
      · refine List.forall_mem_append.2 ⟨h.identityReads text _, ?_⟩
        split
        · simp
        · exact ih
    | _ => exact ih

theorem readable_companionReads (htarget : Shallow target) {bs : List Block}
    (hbs : ∀ b ∈ bs, Shallow b) (property : String) :
    ∀ v ∈ companionReads target property bs, isReadable v = true := by
  induction bs with
  | nil =>
    intro v hv
    cases hv
  | cons b bs ih =>
    rw [List.forall_mem_cons] at hbs
    rw [companionReads]
    cases hprop : b.property? property with
    | none => exact ih hbs.2
    | some u =>
      refine List.forall_mem_append.2 ⟨List.forall_mem_cons.2
        ⟨hbs.1.property hprop, htarget.referenceReads _⟩, ?_⟩
      -- The search ends at a block that refers to the target.
      split
      · simp
      · exact ih hbs.2

/-- A block without some property to ask for is searched for in blocks that can be read. -/
theorem readable_bucketReads (h : ∀ b ∈ s.configuration.resources, Shallow b)
    (property : Option String) (companion : String) :
    ∀ v ∈ bucketReads property companion s, isReadable v = true := by
  refine List.forall_mem_flatMap.2 fun b hb => ?_
  split
  · simp
  · exact readable_companionReads (h b (List.mem_filter.1 hb).1)
      (fun c hc => h c (List.mem_filter.1 hc).1) _

theorem readable_addressReads {c : Configuration} (h : ∀ b ∈ c.resources, Shallow b)
    (hb : Shallow b) : ∀ v ∈ addressReads c b, isReadable v = true := by
  have hcompanions (type : String) : ∀ v ∈ companionReads b "allocation_id" (c.ofTypes [type]),
      isReadable v = true :=
    readable_companionReads hb (fun b hb => h b (List.mem_filter.1 hb).1) _
  rw [addressReads]
  split
  · simp
  · refine List.forall_mem_append.2 ⟨hcompanions _, ?_⟩
    split
    · simp
    · exact hcompanions _

theorem Shallow.queueReads (h : Shallow b) : ∀ v ∈ queueReads b, isReadable v = true := by
  refine List.forall_mem_append.2 ⟨h.valuesAt _, ?_⟩
  split
  · exact h.valuesAt _
  · simp

theorem Shallow.ruleReads (h : Shallow b) : ∀ v ∈ ruleReads b, isReadable v = true := by
  intro v hv
  obtain ⟨p, hp, rfl⟩ := List.mem_map.1 hv
  exact h p hp

/-- What is read up to a failure is read of some group or rule. -/
theorem mem_readsUntilFailure {segs : List (List Value × Answer (List Finding))} {v : Value}
    (h : v ∈ readsUntilFailure segs) : ∃ p ∈ segs, v ∈ p.1 := by
  induction segs with
  | nil => cases h
  | cons p segs ih =>
    obtain ⟨vs, f | fs⟩ := p
    · exact ⟨_, List.mem_cons_self, h⟩
    · rcases List.mem_append.1 h with h | h
      · exact ⟨_, List.mem_cons_self, h⟩
      · obtain ⟨p, hp, hv⟩ := ih h
        exact ⟨p, List.mem_cons_of_mem _ hp, hv⟩

theorem readable_segments {c : Configuration} (h : ∀ b ∈ c.resources, Shallow b) :
    ∀ p ∈ segments c, ∀ v ∈ p.1, isReadable v = true := by
  have hblock {types : List String} {b : Block} (hb : b ∈ c.ofTypes types) : Shallow b :=
    h b (List.mem_filter.1 hb).1
  intro p hp
  rcases List.mem_append.1 hp with hp | hp
  · rcases List.mem_append.1 hp with hp | hp
    · obtain ⟨b, hb, rfl⟩ := List.mem_map.1 hp
      exact (hblock hb).nestedReads _
    · obtain ⟨b, hb, rfl⟩ := List.mem_map.1 hp
      split
      · exact List.forall_mem_append.2 ⟨(hblock hb).valuesAt _, (hblock hb).ruleReads⟩
      · exact (hblock hb).valuesAt _
  · obtain ⟨b, hb, rfl⟩ := List.mem_map.1 hp
    exact (hblock hb).ruleReads

/-- **Where all properties can be read**, so can all that any evaluator reads. -/
theorem readable_readings (h : ∀ b ∈ s.configuration.resources, Shallow b) :
    ∀ e ∈ readings, ∀ v ∈ e.2 s, isReadable v = true := by
  have hblock {types : List String} {b : Block} (hb : b ∈ s.configuration.ofTypes types) :
      Shallow b := h b (List.mem_filter.1 hb).1
  have hreads (type path : String) : ∀ v ∈ readsAt type path s, isReadable v = true :=
    List.forall_mem_flatMap.2 fun b hb => (hblock hb).valuesAt path
  simp only [readings, List.forall_mem_cons]
  refine ⟨readable_bucketReads h _ _, ?groups, hreads _ _, ?volumes, hreads _ _, ?networks,
    readable_bucketReads h _ _, hreads _ _, hreads _ _, hreads _ _, hreads _ _, ?queues, hreads _ _,
    readable_bucketReads h _ _, hreads _ _, hreads _ _, ?addresses, by simp⟩
  case groups =>
    intro v hv
    obtain ⟨p, hp, hmem⟩ := mem_readsUntilFailure hv
    exact readable_segments h p hp v hmem
  case volumes =>
    exact List.forall_mem_append.2 ⟨hreads _ _,
      List.forall_mem_flatMap.2 fun b hb => (hblock hb).nestedReads _⟩
  case networks =>
    exact List.forall_mem_flatMap.2 fun b hb =>
      readable_companionReads (hblock hb) (fun c hc => hblock hc) _
  case queues => exact List.forall_mem_flatMap.2 fun b hb => (hblock hb).queueReads
  case addresses => exact List.forall_mem_flatMap.2 fun b hb => readable_addressReads h (hblock hb)

/-! ## Reading in another order -/

/-- The evaluators that search for companions, and so read no more than up to the first. -/
def searches : List String := ["SEC001", "SEC008", "SEC009", "SEC020", "COST004"]

/-- Reading of the blocks of a type, each by itself, in another order. -/
theorem flatMap_reads_perm (h : s.configuration.resources.Perm rs) (types : List String)
    (reads : Block → List Value) :
    ((s.configuration.ofTypes types).flatMap reads).Perm
      (((s.withResources rs).configuration.ofTypes types).flatMap reads) :=
  (ofTypes_perm h types).flatMap_right reads

/-- **Every evaluator that does not search**, and is not the one on open groups, reads the same in
another order. -/
theorem readings_perm (h : s.configuration.resources.Perm rs) :
    ∀ e ∈ readings, e.1 ∉ searches → e.1 ≠ "SEC002" → (e.2 s).Perm (e.2 (s.withResources rs)) := by
  have hreads (type path : String) :
      (readsAt type path s).Perm (readsAt type path (s.withResources rs)) :=
    flatMap_reads_perm h [type] _
  have hsearch {code : String} {P : Prop} (hcode : code ∈ searches) :
      code ∉ searches → code ≠ "SEC002" → P := fun hnot => absurd hcode hnot
  simp only [readings, List.forall_mem_cons]
  refine ⟨hsearch (by decide), fun _ hne => absurd rfl hne, fun _ _ => hreads _ _, ?volumes,
    fun _ _ => hreads _ _, hsearch (by decide), hsearch (by decide), fun _ _ => hreads _ _,
    fun _ _ => hreads _ _, fun _ _ => hreads _ _, fun _ _ => hreads _ _,
    fun _ _ => flatMap_reads_perm h _ _, fun _ _ => hreads _ _, hsearch (by decide),
    fun _ _ => hreads _ _, fun _ _ => hreads _ _, hsearch (by decide), by simp⟩
  case volumes => exact fun _ _ => (hreads _ _).append (flatMap_reads_perm h _ _)

/-- Groups and rules in another order. -/
theorem segments_perm (h : s.configuration.resources.Perm rs) :
    (segments s.configuration).Perm (segments (s.withResources rs).configuration) :=
  (((ofTypes_perm h _).map _).append ((ofTypes_perm h _).map _)).append ((ofTypes_perm h _).map _)

/-- Without failures, everything is read. -/
theorem readsUntilFailure_eq {segs : List (List Value × Answer (List Finding))}
    (h : ∀ p ∈ segs, ¬ Fails p.2) : readsUntilFailure segs = segs.flatMap (·.1) := by
  induction segs with
  | nil => rfl
  | cons p segs ih =>
    rw [List.forall_mem_cons] at h
    obtain ⟨vs, f | fs⟩ := p
    · exact absurd ⟨f, rfl⟩ h.1
    · rw [readsUntilFailure, ih h.2]
      rfl

/-- The policy on open groups fails exactly if some group or rule does. -/
theorem groupsNotOpen_fails_iff_segments :
    Fails (groupsNotOpen.check s) ↔ ∃ p ∈ segments s.configuration, Fails p.2 := by
  have hcheck : Fails (groupsNotOpen.check s) ↔
      Fails ((s.configuration.ofTypes ["aws_security_group"]).mapM groupFindings) ∨
        Fails (((s.configuration.ofTypes ["aws_security_group_rule"]).filter isIngress).mapM
          ruleResourceFindings) ∨
        Fails ((s.configuration.ofTypes ["aws_vpc_security_group_ingress_rule"]).mapM
          ruleResourceFindings) :=
    Fails.bind_iff fun _ => Fails.bind_iff fun _ => Fails.bind_iff_of_total fun _ => Fails.not_pure
  -- a rule that is not for incoming traffic does not fail
  have hrules : (∃ b ∈ (s.configuration.ofTypes ["aws_security_group_rule"]).filter isIngress,
      Fails (ruleResourceFindings b)) ↔
        ∃ b ∈ s.configuration.ofTypes ["aws_security_group_rule"],
          Fails (if isIngress b then (valuesAt b "type" ++ ruleReads b, ruleResourceFindings b)
            else (valuesAt b "type", .ok [])).2 := by
    constructor
    · rintro ⟨b, hb, hfails⟩
      rw [List.mem_filter] at hb
      exact ⟨b, hb.1, by rwa [if_pos hb.2]⟩
    · rintro ⟨b, hb, hfails⟩
      split at hfails
      · rename_i hingress
        exact ⟨b, List.mem_filter.2 ⟨hb, hingress⟩, hfails⟩
      · exact absurd hfails Fails.not_ok
  rw [hcheck, Fails.mapM_iff, Fails.mapM_iff, Fails.mapM_iff, hrules, segments]
  simp only [List.mem_append, List.mem_map, or_and_right, exists_or, exists_exists_and_eq_and,
    or_assoc]

/-! ## Running in another order -/

/-- An evaluator that is run fails on what it cannot read, or fails itself. -/
theorem run_fails_iff {d : Definition} : Fails (d.run s) ↔
    (∃ v ∈ readsOf d.code s, isReadable v = false) ∨ Fails (d.check s) := by
  rw [Definition.run]
  by_cases hall : (readsOf d.code s).all isReadable = true
  · rw [if_pos hall]
    refine (or_iff_right ?_).symm
    rintro ⟨v, hv, hdeep⟩
    rw [List.all_eq_true.1 hall v hv] at hdeep
    cases hdeep
  · rw [if_neg hall]
    refine iff_of_true ⟨_, rfl⟩ (.inl ?_)
    simpa using hall

/-- An evaluator that answers when it is run, answers as it does. -/
theorem run_eq_check {d : Definition} (h : ¬ Fails (d.run s)) : d.run s = d.check s := by
  rw [run_fails_iff, not_or] at h
  rw [Definition.run, if_pos]
  rw [List.all_eq_true]
  intro v hv
  by_contra hdeep
  exact h.1 ⟨v, hv, by simpa using hdeep⟩

/-- **Order can only decide whether there is an answer.** -/
theorem run_permuted_iff {d : Definition} (hd : d ∈ builtIns)
    (h : s.configuration.resources.Perm rs) :
    Permuted (d.run s) (d.run (s.withResources rs)) ↔
      (Fails (d.run s) ↔ Fails (d.run (s.withResources rs))) := by
  refine ⟨Permuted.fails_iff, fun hiff => ?_⟩
  by_cases hfails : Fails (d.run s)
  · obtain ⟨g, hg⟩ := hiff.1 hfails
    obtain ⟨f, hf⟩ := hfails
    rw [hf, hg]
    exact .error f g
  · rw [run_eq_check hfails, run_eq_check (hiff.not.1 hfails)]
    exact builtIns_orderFree d hd s rs h

/-- What can be read by the evaluator of a code does not depend on order, unless it searches. -/
theorem unreadable_iff {code : String} (hsearch : code ∉ searches) (hgroups : code ≠ "SEC002")
    (h : s.configuration.resources.Perm rs) :
    (∃ v ∈ readsOf code s, isReadable v = false) ↔
      ∃ v ∈ readsOf code (s.withResources rs), isReadable v = false := by
  rw [readsOf, readsOf]
  cases hreads : Entries.get? code readings with
  | none => exact Iff.rfl
  | some reads =>
    have hperm := readings_perm h _ (Entries.mem_of_get? hreads) hsearch hgroups
    simp only [hperm.mem_iff]

/-- The policy on open groups reads everything, or fails on what it finds. -/
theorem groupsNotOpen_run_fails_iff : Fails (groupsNotOpen.run s) ↔
    ∃ p ∈ segments s.configuration, Fails p.2 ∨ ∃ v ∈ p.1, isReadable v = false := by
  rw [run_fails_iff, groupsNotOpen_fails_iff_segments]
  show (∃ v ∈ readsUntilFailure (segments s.configuration), isReadable v = false) ∨ _ ↔ _
  by_cases hfails : ∃ p ∈ segments s.configuration, Fails p.2
  · obtain ⟨p, hp, hf⟩ := hfails
    exact iff_of_true (.inr ⟨p, hp, hf⟩) ⟨p, hp, .inl hf⟩
  · have hall : ∀ p ∈ segments s.configuration, ¬ Fails p.2 := fun p hp hf => hfails ⟨p, hp, hf⟩
    rw [or_iff_left hfails, readsUntilFailure_eq hall]
    simp only [List.mem_flatMap]
    exact ⟨fun ⟨v, ⟨p, hp, hv⟩, hdeep⟩ => ⟨p, hp, .inr ⟨v, hv, hdeep⟩⟩,
      fun ⟨p, hp, h⟩ => (h.resolve_left (hall p hp)).imp fun v hv => ⟨⟨p, hp, hv.1⟩, hv.2⟩⟩

/-- No two built-in policies have one code. -/
theorem eq_of_code {d e : Definition} (hd : d ∈ builtIns) (he : e ∈ builtIns)
    (h : d.code = e.code) : d = e :=
  List.inj_on_of_nodup_map (by decide : (builtIns.map (·.code)).Nodup) hd he h

/-- **An evaluator that does not search** comes to the same in any order. -/
theorem run_permuted {d : Definition} (hd : d ∈ builtIns) (hsearch : d.code ∉ searches)
    (h : s.configuration.resources.Perm rs) :
    Permuted (d.run s) (d.run (s.withResources rs)) := by
  rw [run_permuted_iff hd h]
  by_cases hgroups : d.code = "SEC002"
  · have hopen : groupsNotOpen ∈ builtIns := by simp [builtIns]
    rw [eq_of_code hd hopen hgroups, groupsNotOpen_run_fails_iff, groupsNotOpen_run_fails_iff]
    simp only [(segments_perm h).mem_iff]
  · rw [run_fails_iff, run_fails_iff, unreadable_iff hsearch hgroups h,
      (builtIns_orderFree d hd s rs h).fails_iff]

/-- Where all properties can be read, an evaluator that is run answers as it does. -/
theorem run_eq_check_of_shallow (h : ∀ b ∈ s.configuration.resources, Shallow b) (d : Definition) :
    d.run s = d.check s := by
  rw [Definition.run, if_pos]
  rw [List.all_eq_true, readsOf]
  split
  · rename_i reads hreads
    exact readable_readings h _ (Entries.mem_of_get? hreads)
  · simp

/-- **Evaluators and reports on resources in another order.** What an evaluator finds is the same up
to its order, and so a report by built-in policies notes the same failures and has the same summary.
When an evaluator is run, order can only decide whether there is an answer; and it does not, unless
the evaluator searches and there is a property that cannot be read. -/
theorem evaluation_reordered {c : Catalog} (hc : c.registered = []) (report : String)
    (now : Instant) (provider : String) {s : Subject} {rs : List Block}
    (h : s.configuration.resources.Perm rs) :
    (∀ d ∈ builtIns, Permuted (d.check s) (d.check (s.withResources rs))) ∧
    ((reportOn (c.active provider) report now s).errors =
        (reportOn (c.active provider) report now (s.withResources rs)).errors ∧
      (reportOn (c.active provider) report now s).summary =
        (reportOn (c.active provider) report now (s.withResources rs)).summary) ∧
    (∀ d ∈ builtIns, Permuted (d.run s) (d.run (s.withResources rs)) ↔
      (Fails (d.run s) ↔ Fails (d.run (s.withResources rs)))) ∧
    ∀ d ∈ builtIns, d.code ∉ searches ∨ (∀ b ∈ s.configuration.resources, Shallow b) →
      Permuted (d.run s) (d.run (s.withResources rs)) := by
  have hcheck (d) (hd : d ∈ builtIns) : Permuted (d.check s) (d.check (s.withResources rs)) :=
    builtIns_orderFree d hd s rs h
  refine ⟨hcheck, reportOn_permuted (fun p hp => ?_) report now,
    fun d hd => run_permuted_iff hd h, fun d hd hcase => ?_⟩
  · exact hcheck p.2 (List.mem_of_find?_eq_some (builtIn_of_mem_active hc hp))
  · -- An evaluator that searches reads on as it does where nothing can fail to be read.
    rcases hcase with hsearch | hshallow
    · exact run_permuted hd hsearch h
    · have hshallow' : ∀ b ∈ (s.withResources rs).configuration.resources, Shallow b :=
        fun b hb => hshallow b (h.mem_iff.2 hb)
      rw [run_eq_check_of_shallow hshallow, run_eq_check_of_shallow hshallow']
      exact hcheck d hd

/-- Maps inside one another. -/
def nestedMaps : Nat → Value
  | 0 => .null
  | n + 1 => .map [("a", nestedMaps n)]

/-- A resource with one property. -/
def sampleResource (type name property : String) (v : Value) : Block :=
  ⟨.resource, type, name, [(property, v)], 1, 1, ""⟩

/-- A bucket, its access block, and one that cannot be read. -/
def sampleSearch : List Block :=
  [sampleResource "aws_s3_bucket" "b" "acl" (.string "private"),
    sampleResource "aws_s3_bucket_public_access_block" "own" "bucket"
      (.expression "aws_s3_bucket.b.id"),
    sampleResource "aws_s3_bucket_public_access_block" "deep" "bucket"
      (nestedMaps (maxReadDepth + 1))]

/-- Resources with nothing else. -/
def sampleSubject (rs : List Block) : Subject :=
  ⟨⟨rs, [], [], [], [], [], [], [], [], []⟩, "aws", "", none⟩

/-- **Order decides a search**: the bucket has its access block, but the one that cannot be read is
in its way if it comes first. -/
theorem evaluation_reordered_sample :
    sampleSearch.Perm sampleSearch.reverse ∧
      Permuted (publicAccessBlocked.check (sampleSubject sampleSearch))
        (publicAccessBlocked.check (sampleSubject sampleSearch.reverse)) ∧
      ¬ Permuted (publicAccessBlocked.run (sampleSubject sampleSearch))
        (publicAccessBlocked.run (sampleSubject sampleSearch.reverse)) := by
  have hperm : sampleSearch.Perm sampleSearch.reverse := (List.reverse_perm _).symm
  have hd : publicAccessBlocked ∈ builtIns := by simp [builtIns]
  obtain ⟨hcheck, -, hrun, -⟩ :=
    evaluation_reordered (c := {}) rfl "r" 0 "aws" (s := sampleSubject sampleSearch) hperm
  have hfound : (publicAccessBlocked.run (sampleSubject sampleSearch)).isOk = true := by
    decide +kernel
  have hlost : (publicAccessBlocked.run (sampleSubject sampleSearch.reverse)).isOk = false := by
    decide +kernel
  refine ⟨hperm, hcheck _ hd, fun h => ?_⟩
  have hfails := ((hrun _ hd).1 h).2 (Fails.iff_isOk.2 hlost)
  rw [Fails.iff_isOk, hfound] at hfails
  cases hfails

end Policy

end Groundplan
