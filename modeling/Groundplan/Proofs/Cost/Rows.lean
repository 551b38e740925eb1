import Groundplan.Proofs.Cost.Estimates
import Groundplan.Proofs.Number.Cents
import Groundplan.Proofs.Policy.Reports
import Groundplan.Proofs.Sorting

/-!
# Row by row

A breakdown has a row for every resource, whatever the estimator makes of them. A row is made from
its own resource and its own estimate; one that failed is a row without a price, and is missing from
the totals as if the resource were not there. When a breakdown is shown, its rows are put in order,
none is lost, and no figure is changed, as all of them are cents already.

An estimator may go by what it did before, so what it makes of the resources is taken as it comes:
an answer for each, a number or any failure.

## Main definitions

* `Outcome`: a resource with what the estimator made of it
* `breakdownOf`: the breakdown of outcomes
* `IsRow`: **a row of an outcome**
* `pricedCosts`: what there is to add up
* `Breakdown.Itemizes`: **a breakdown of outcomes**

## Main results

* `breakdown_eq_breakdownOf`: a breakdown by an estimator is one of its outcomes
* `getD_subtotals`: what the subtotals add up
* `ranks_ranked`: rows without a cost that is no number are shown by descending cost
* `itemizes_breakdownOf`: **what a breakdown consists of**
* `rows_of_breakdown`: the same for every estimator, and which texts have a breakdown
-/

namespace Groundplan.Cost

open Binary64

/-! ## Definitions -/

/-- A resource with what the estimator made of it. -/
abbrev Outcome := PricedResource × Answer Binary64

/-- The row of an outcome. -/
def rowOf (o : Outcome) : LineItem :=
  lineItem (fun _ _ _ => o.2) o.1

/-- The breakdown of outcomes. -/
def breakdownOf (os : List Outcome) : Breakdown :=
  .ofItems (os.map rowOf)

/-- What an estimator makes of a resource. -/
def outcome (estimator : Pricing.Estimator) (r : PricedResource) : Outcome :=
  (r, estimator r.type r.properties (r.region.getD ""))

/-- **A row of an outcome**: it tells which resource it is of, and has a price unless the estimate
failed. -/
structure IsRow (o : Outcome) (i : LineItem) : Prop where
  reference : i.reference = o.1.reference
  type : i.type = o.1.type
  service : i.service = serviceOf o.1.type
  region : i.region = o.1.region
  unpriced : i.priced = false ∧ i.cost = 0 ↔ Fails o.2
  priced : ∀ x, o.2 = .ok x → i.priced = true ∧ i.cost = x.cents

/-- The costs of the rows with a price. -/
def pricedCosts (items : List LineItem) : List Binary64 :=
  (items.filter (·.priced)).map (·.cost)

/-- Rows in the order in which a breakdown shows them: by descending cost, and equal costs as they
were. -/
structure Ranks (shown items : List LineItem) : Prop where
  descending : shown.Pairwise fun i j => NotBelow i.cost j.cost
  stable : ∀ x, shown.filter (·.cost.eq x) = items.filter (·.cost.eq x)

/-- **A breakdown of outcomes.** -/
structure Breakdown.Itemizes (b : Breakdown) (os : List Outcome) : Prop where
  rows : List.Forall₂ IsRow os b.items
  /-- What the other resources are, and what becomes of them, does not change a row. -/
  apart : ∀ before o after, os = before ++ o :: after →
    b.items = (breakdownOf before).items ++ (breakdownOf [o]).items ++ (breakdownOf after).items
  services : ∀ service, service ∈ b.byService.map (·.1) ↔
    ∃ i ∈ b.items, i.priced = true ∧ i.service = service
  distinct : (b.byService.map (·.1)).Nodup
  /-- The costs with a price add up to the total, which is rounded once, and those of a service to
  its subtotal, which is rounded at every step. -/
  total : b.total = ((pricedCosts b.items).foldl (· + ·) 0).cents
  subtotals : ∀ service, (Entries.get? service b.byService).getD 0 =
    (pricedCosts (b.items.filter (·.service = service))).foldl (fun x y => (x + y).cents) 0
  /-- The totals are those of the resources that could be priced. -/
  totals : (breakdownOf (os.filter (·.2.isOk))).total = b.total ∧
    (breakdownOf (os.filter (·.2.isOk))).byService = b.byService
  /-- All figures are in cents, so the view does not change them by rounding. -/
  cents : b.total.cents = b.total ∧ (∀ s ∈ b.byService, s.2.cents = s.2) ∧
    ∀ i ∈ b.items, i.cost.cents = i.cost
  shown : ∃ shown, b.toData.child "line_items" = .list (shown.map LineItem.toData) ∧
    shown.Perm b.items ∧ ((∀ i ∈ b.items, i.cost.isNan = false) → Ranks shown b.items)

/-- A breakdown by an estimator is one of its outcomes. -/
theorem breakdown_eq_breakdownOf (estimator : Pricing.Estimator) (rs : List PricedResource) :
    breakdown estimator rs = breakdownOf (rs.map (outcome estimator)) := by
  rw [breakdown, breakdownOf, List.map_map]
  rfl

/-! ## Rows -/

theorem rowOf_ok (r : PricedResource) (x : Binary64) :
    (rowOf (r, .ok x)).priced = true ∧ (rowOf (r, .ok x)).cost = x.cents :=
  ⟨rfl, rfl⟩

theorem rowOf_error (r : PricedResource) (f : Failure) :
    (rowOf (r, .error f)).priced = false ∧ (rowOf (r, .error f)).cost = 0 :=
  ⟨rfl, rfl⟩

theorem isRow_rowOf (o : Outcome) : IsRow o (rowOf o) := by
  obtain ⟨r, f | x⟩ := o
  · exact ⟨rfl, rfl, rfl, rfl, iff_of_true (rowOf_error r f) ⟨f, rfl⟩, nofun⟩
  · refine ⟨rfl, rfl, rfl, rfl, iff_of_false nofun Fails.not_ok, ?_⟩
    rintro _ ⟨⟩
    exact rowOf_ok r x

/-- A row has a price exactly if the estimate has a result. -/
theorem priced_rowOf (o : Outcome) : (rowOf o).priced = o.2.isOk := by
  obtain ⟨r, f | x⟩ := o <;> rfl

/-! ## Totals -/

/-- Subtotals stand once for each service. -/
theorem nodup_subtotals (items : List LineItem) :
    ((items.foldl addToService []).map (·.1)).Nodup := by
  have hnil : (([] : Entries Binary64).map (·.1)).Nodup := List.nodup_nil
  refine List.foldlRecOn (motive := fun subtotals => (subtotals.map (·.1)).Nodup) items addToService
    hnil fun subtotals h i _ => ?_
  rw [addToService]
  split
  · exact Entries.nodup_keys_set h
  · exact h

/-- The services with subtotals: those there were, and those of rows with a price. -/
theorem mem_subtotals {service : String} (items : List LineItem) (subtotals : Entries Binary64) :
    service ∈ (items.foldl addToService subtotals).map (·.1) ↔
      service ∈ subtotals.map (·.1) ∨ ∃ i ∈ items, i.priced = true ∧ i.service = service := by
  induction items generalizing subtotals with
  | nil => simp
  | cons i items ih =>
    rw [List.foldl_cons, ih, addToService, List.exists_mem_cons_iff]
    by_cases hpriced : i.priced = true
    · rw [if_pos hpriced, Entries.mem_keys_set, and_iff_right hpriced, or_assoc, or_left_comm,
        @eq_comm _ service]
    · rw [if_neg hpriced]
      simp [hpriced]

/-- The total adds up the costs with a price. -/
theorem foldl_addToTotal (items : List LineItem) (total : Binary64) :
    items.foldl addToTotal total = (pricedCosts items).foldl (· + ·) total := by
  rw [pricedCosts, List.foldl_map, List.foldl_filter]
  rfl

/-- A subtotal adds up the costs of its service with a price. -/
theorem getD_subtotals (service : String) (items : List LineItem) (subtotals : Entries Binary64) :
    (Entries.get? service (items.foldl addToService subtotals)).getD 0 =
      (pricedCosts (items.filter (·.service = service))).foldl (fun x y => (x + y).cents)
        ((Entries.get? service subtotals).getD 0) := by
  rw [pricedCosts, List.foldl_map, List.foldl_filter, List.foldl_filter]
  induction items generalizing subtotals with
  | nil => rfl
  | cons i items ih =>
    rw [List.foldl_cons, List.foldl_cons, ih, addToService]
    by_cases hpriced : i.priced = true
    · by_cases hservice : i.service = service
      · simp [hpriced, hservice, Entries.get?_set_self]
      · simp [hpriced, hservice, Entries.get?_set_of_ne (Ne.symm hservice)]
    · simp [hpriced]

/-- **Rows without a price add nothing**: folded without them, the totals are the same. -/
theorem foldl_filter_priced {α : Type} {add : α → LineItem → α}
    (hadd : ∀ total i, i.priced = false → add total i = total) (items : List LineItem) (total : α) :
    (items.filter (·.priced)).foldl add total = items.foldl add total := by
  induction items generalizing total with
  | nil => rfl
  | cons i items ih =>
    cases hpriced : i.priced with
    | false =>
      rw [List.filter_cons_of_neg (by simp [hpriced]), List.foldl_cons, hadd total i hpriced]
      exact ih total
    | true =>
      rw [List.filter_cons_of_pos hpriced, List.foldl_cons, List.foldl_cons]
      exact ih _

theorem filter_isOk_map_rowOf (os : List Outcome) :
    (os.filter (·.2.isOk)).map rowOf = (os.map rowOf).filter (·.priced) := by
  rw [List.filter_map]
  exact congrArg (List.map rowOf) (List.filter_congr fun o _ => (priced_rowOf o).symm)

/-! ## Figures -/

theorem cents_zero : (0 : Binary64).cents = 0 := by decide +kernel

/-- The cost of a row is in cents. -/
theorem cents_cost (o : Outcome) : (rowOf o).cost.cents = (rowOf o).cost := by
  obtain ⟨r, f | x⟩ := o
  · rw [(rowOf_error r f).2, cents_zero]
  · rw [(rowOf_ok r x).2, cents_cents]

/-- Subtotals are in cents. -/
theorem cents_subtotals (items : List LineItem) :
    ∀ s ∈ items.foldl addToService [], s.2.cents = s.2 := by
  have hnil : ∀ s ∈ ([] : Entries Binary64), s.2.cents = s.2 :=
    fun _ hs => absurd hs List.not_mem_nil
  refine List.foldlRecOn (motive := fun subtotals => ∀ s ∈ subtotals, s.2.cents = s.2) items
    addToService hnil fun subtotals h i _ s hs => ?_
  rw [addToService] at hs
  split at hs
  · rcases Entries.mem_of_mem_set hs with rfl | hold
    · exact cents_cents _
    · exact h s hold
  · exact h s hs

/-! ## The order of rows -/

/-- A row is shown before another, or they cost the same; what is no number would come first. -/
def leads (i j : LineItem) : Bool :=
  i.cost.isNan || (!j.cost.isNan && !i.cost.lt j.cost)

theorem leads_iff {i j : LineItem} :
    leads i j = true ↔ i.cost.isNan = true ∨ j.cost.isNan = false ∧ NotBelow i.cost j.cost := by
  rw [leads, Bool.or_eq_true, Bool.and_eq_true, Bool.not_eq_true', Bool.not_eq_true', NotBelow]

theorem leads_trans (i j k : LineItem) (hij : leads i j = true) (hjk : leads j k = true) :
    leads i k = true := by
  rw [leads_iff] at hij hjk ⊢
  rcases hij with hi | ⟨hj, hij⟩
  · exact .inl hi
  rcases hjk with hj' | ⟨hk, hjk⟩
  · rw [hj'] at hj
    cases hj
  · exact .inr ⟨hk, hij.trans hjk hj⟩

theorem leads_total (i j : LineItem) : (leads i j || leads j i) = true := by
  rw [Bool.or_eq_true, leads_iff, leads_iff]
  cases hi : i.cost.isNan with
  | true => exact .inl (.inl rfl)
  | false =>
    cases hj : j.cost.isNan with
    | true => exact .inr (.inl rfl)
    | false =>
      exact (notBelow_total i.cost j.cost).imp (fun h => .inr ⟨rfl, h⟩) fun h => .inr ⟨rfl, h⟩

/-- Rows of one cost may be shown in the order in which they are. -/
theorem leads_of_eq {i j : LineItem} {x : Binary64} (hi : i.cost.eq x = true)
    (hj : j.cost.eq x = true) : leads i j = true := by
  have hbelow := (notBelow_of_eq hi).1.trans (notBelow_of_eq hj).2 (isNan_of_eq hi).2
  exact leads_iff.2 (.inr ⟨(isNan_of_eq hj).1, hbelow⟩)

/-- No row is lost when a breakdown is shown. -/
theorem ranked_perm (b : Breakdown) : b.ranked.Perm b.items := by
  rw [Breakdown.ranked]
  split
  · exact rankDown_perm _ _
  · exact List.mergeSort_perm _ _

/-- **Rows without a cost that is no number are shown by descending cost**, and equal costs as they
were. -/
theorem ranks_ranked (b : Breakdown) (h : ∀ i ∈ b.items, i.cost.isNan = false) :
    Ranks b.ranked b.items := by
  -- Without costs that are no numbers the rows are sorted by an order that is total.
  have hleads : b.ranked = b.items.mergeSort leads := by
    have hnone : ¬ b.items.any (·.cost.isNan) = true := by
      rw [List.any_eq_true]
      rintro ⟨i, hi, hnan⟩
      rw [h i hi] at hnan
      cases hnan
    rw [Breakdown.ranked, if_neg hnone]
    have hsame : ∀ i ∈ b.items, ∀ j ∈ b.items, (!i.cost.lt j.cost) = leads (id i) (id j) := by
      intro i hi j hj
      rw [leads, id, id, h i hi, h j hj]
      rfl
    simpa using List.map_mergeSort hsame
  have hmem {i : LineItem} (hi : i ∈ b.ranked) : i.cost.isNan = false :=
    h i ((ranked_perm b).mem_iff.1 hi)
  constructor
  · have hsorted := List.pairwise_mergeSort leads_trans leads_total b.items
    rw [← hleads] at hsorted
    refine hsorted.imp_of_mem fun {i j} hi _ hij => ?_
    rcases leads_iff.1 hij with hnan | ⟨-, hbelow⟩
    · rw [hmem hi] at hnan
      cases hnan
    · exact hbelow
  · intro x
    rw [hleads]
    exact filter_mergeSort leads_trans leads_total (fun i j hi hj => leads_of_eq hi hj) b.items

/-! ## Breakdowns -/

/-- **What a breakdown consists of**, whatever the outcomes are. -/
theorem itemizes_breakdownOf (os : List Outcome) : (breakdownOf os).Itemizes os where
  rows := List.forall₂_map_right_iff.2 (List.forall₂_same.2 fun o _ => isRow_rowOf o)
  apart := by
    rintro before o after rfl
    simp [breakdownOf, Breakdown.ofItems]
  services _ := (mem_subtotals _ _).trans (or_iff_right List.not_mem_nil)
  distinct := nodup_subtotals _
  total := congrArg cents (foldl_addToTotal _ _)
  subtotals service := getD_subtotals service _ []
  totals := by
    rw [breakdownOf, breakdownOf, filter_isOk_map_rowOf]
    constructor
    · refine congrArg cents (foldl_filter_priced (fun total i hi => ?_) _ _)
      rw [addToTotal, hi]
      rfl
    · refine foldl_filter_priced (fun subtotals i hi => ?_) _ _
      rw [addToService, hi]
      rfl
  cents := by
    refine ⟨cents_cents _, cents_subtotals _, ?_⟩
    intro i hi
    obtain ⟨o, -, rfl⟩ := List.mem_map.1 hi
    exact cents_cost o
  shown := ⟨_, rfl, ranked_perm _, ranks_ranked _⟩

/-- **Row by row.** A text has a breakdown exactly if nothing in it is nested too deeply. The
breakdown of resources is made of what the estimator makes of each of them, numbers or failures: a
row for each, in order, that no other resource has a part in; totals of the rows with a price; and a
view with the same rows and figures, by descending cost. -/
theorem rows_of_breakdown (text : String) (estimator : Pricing.Estimator)
    (rs : List PricedResource) (os : List Outcome) :
    (Policy.Auditable text → Policy.priceable text = .ok text) ∧
    (¬ Policy.Auditable text → Fails (Policy.priceable text)) ∧
    breakdown estimator rs = breakdownOf (rs.map (outcome estimator)) ∧
    (breakdownOf os).Itemizes os := by
  refine ⟨Policy.priceable_of_auditable, fun h => ?_, breakdown_eq_breakdownOf estimator rs,
    itemizes_breakdownOf os⟩
  by_cases hscan : Hcl.isScannable text.toList = true
  · exact ⟨_, Policy.priceable_of_not_auditable hscan h⟩
  · rw [Policy.priceable, Hcl.scannable, if_neg hscan]
    exact ⟨_, rfl⟩

end Groundplan.Cost
