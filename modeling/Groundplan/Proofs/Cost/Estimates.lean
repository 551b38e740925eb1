import Groundplan.Cost.Breakdown
import Groundplan.Proofs.Entries
import Groundplan.Proofs.Number.Order

/-!
# Estimates that are not negative

Every price is positive, and every rule multiplies prices by quantities that it reads from the
properties of a resource and adds up. So an estimate is not negative if no quantity is: a size, a
count or a capacity is taken as it is given, and a negative one, or one that is no number, makes an
estimate that is none of an amount.

## Main definitions

* `Ensures`: the result of an answer, if there is one, has a property
* `quantities`: the values that the rule for a resource takes quantities from
* `AmountsGiven`: **no quantity of a resource is negative**

## Main results

* `amount_of_estimate`: an estimate from quantities that are not negative
* `amounts_of_breakdown`: **what a breakdown adds up**, and what a further resource does to its
  total
* `not_amount_of_volume`: a volume of negative size has an estimate that is no amount
-/

namespace Groundplan

/-- The result of an answer, if there is one, has a property. -/
def Ensures {α : Type} (a : Answer α) (P : α → Prop) : Prop :=
  ∀ x, a = .ok x → P x

namespace Ensures

variable {α β : Type} {a : Answer α} {P : α → Prop} {Q : β → Prop}

theorem ok {x : α} (h : P x) : Ensures (.ok x) P := by
  rintro y ⟨⟩
  exact h

theorem bind {k : α → Answer β} (ha : Ensures a P) (hk : ∀ x, P x → Ensures (k x) Q) :
    Ensures (a >>= k) Q := by
  cases a with
  | error f => rintro y ⟨⟩
  | ok x => exact hk x (ha x rfl)

theorem map {f : α → β} (ha : Ensures a P) (hf : ∀ x, P x → Q (f x)) : Ensures (a.map f) Q := by
  cases a with
  | error g => rintro y ⟨⟩
  | ok x => exact ok (hf x (ha x rfl))

instance [DecidablePred P] : Decidable (Ensures a P) :=
  match a with
  | .error _ => .isTrue fun _ h => nomatch h
  | .ok x => decidable_of_iff (P x) ⟨ok, fun h => h x rfl⟩

end Ensures

instance : DecidablePred Binary64.IsAmount := fun x =>
  inferInstanceAs (Decidable ((0 : Binary64).le x = true))

namespace Pricing

open Binary64

/-! ## Prices -/

/-- What a table with a default gives is in the table, or the default. -/
theorem getD_get?_mem (table : Entries Binary64) (default : Binary64) (key : String) :
    (Entries.get? key table).getD default ∈ default :: table.map (·.2) := by
  cases h : Entries.get? key table with
  | none => exact List.mem_cons_self
  | some x => exact List.mem_cons_of_mem _ (List.mem_map.mpr ⟨_, Entries.mem_of_get? h, rfl⟩)

theorem hoursPerMonth_positive : hoursPerMonth.isPositive := by
  decide +kernel

theorem regionFactor_positive (region : String) : (regionFactor region).isPositive := by
  have hall : ∀ x ∈ (1 : Binary64) :: regionFactors.map (·.2), x.isPositive := by decide +kernel
  exact hall _ (getD_get?_mem _ _ _)

theorem engineFactor_positive (engine : String) : (engineFactor engine).isPositive := by
  have hall : ∀ x ∈ (1 : Binary64) :: engineFactors.map (·.2), x.isPositive := by decide +kernel
  exact hall _ (getD_get?_mem _ _ _)

theorem machineRate_amount (type region : String) :
    IsAmount ((machineRate type region).settle none) := by
  rw [machineRate]
  split
  · rename_i x hx
    have hall : ∀ x ∈ instanceRates.map (·.2), IsAmount x := by decide +kernel
    exact (hall x (List.mem_map.mpr ⟨_, Entries.mem_of_get? hx, rfl⟩)).mul
      (regionFactor_positive region)
  · have hall : ∀ x ∈ (4 : Binary64) :: sizeFactors.map (·.2), IsAmount (unitRate * x) := by
      decide +kernel
    exact (hall _ (getD_get?_mem _ _ _)).mul (regionFactor_positive region)

theorem databaseRate_amount (class_ engine region : String) :
    IsAmount ((databaseRate class_ engine region).settle none) := by
  rw [databaseRate]
  split
  · rename_i x hx
    have hall : ∀ x ∈ databaseRates.map (·.2), IsAmount x := by decide +kernel
    exact ((hall x (List.mem_map.mpr ⟨_, Entries.mem_of_get? hx, rfl⟩)).mul
      (regionFactor_positive region)).mul (engineFactor_positive engine)
  · have hrough : IsAmount 0.10 := by decide +kernel
    exact (hrough.mul (regionFactor_positive region)).mul (engineFactor_positive engine)

/-- A cache node has a positive price for a month: none is rounded to nothing. -/
theorem cacheRate_positive (type region : String) :
    (cacheRate type region * hoursPerMonth).isPositive := by
  have hall : ∀ x ∈ (0.068 : Binary64) :: cacheRates.map (·.2),
      ∀ y ∈ (1 : Binary64) :: regionFactors.map (·.2), (x * y * hoursPerMonth).isPositive := by
    decide +kernel
  exact hall _ (getD_get?_mem _ _ _) _ (getD_get?_mem _ _ _)

theorem storageRate_positive (key : String) :
    ((Entries.get? key storageRates).getD 0.08).isPositive := by
  have hall : ∀ x ∈ (0.08 : Binary64) :: storageRates.map (·.2), x.isPositive := by decide +kernel
  exact hall _ (getD_get?_mem _ _ _)

theorem flatCost_amount (type : String) : IsAmount ((Entries.get? type flatCosts).getD 0) := by
  have hall : ∀ x ∈ (0 : Binary64) :: flatCosts.map (·.2), IsAmount x := by decide +kernel
  exact hall _ (getD_get?_mem _ _ _)

/-! ## Quantities -/

/-- The type of a volume. -/
def volumeType (props : Entries Data) : String :=
  let given := property props "volume_type"
  wordOf (if given.isTruthy then given else property props "type") "gp3"

/-- The values that the rule for a resource takes quantities from, each with the number that stands
in for a value without one. -/
def quantities (type : String) (props : Entries Data) : List (Data × Binary64) :=
  match ruleOf type with
  | .database => [(property props "allocated_storage", 20)]
  | .volume =>
    if volumeType props == "io1" || volumeType props == "io2" then
      [(property props "size", 20), (property props "iops", 0)]
    else [(property props "size", 20)]
  | .table =>
    if wordOf (property props "billing_mode") "PROVISIONED" == "PAY_PER_REQUEST" then []
    else [(property props "write_capacity", 5), (property props "read_capacity", 5)]
  | .tasks => [(property props "desired_count", 1)]
  | .cache => [(property props "num_cache_nodes", 1)]
  | .cacheGroup =>
    [((Entries.get? "num_cache_clusters" props).getD (property props "number_cache_clusters"), 2)]
  | .machine | .balancer | .gateway | .bucket | .flat => []

/-- **No quantity of a resource is negative**: each number that is read for it is an amount. -/
def AmountsGiven (type : String) (props : Entries Data) : Prop :=
  ∀ q ∈ quantities type props, Ensures (numberOf q.1 q.2) IsAmount

instance (type : String) (props : Entries Data) : Decidable (AmountsGiven type props) :=
  inferInstanceAs (Decidable (∀ q ∈ quantities type props, Ensures (numberOf q.1 q.2) IsAmount))

/-! ## Estimates -/

/-- An hourly quote is an amount if its rate and what is on top are. -/
theorem settle_hourly_amount {r : Rate} (hr : IsAmount (r.settle none)) {onTop : Option Binary64}
    (htop : ∀ x ∈ onTop, IsAmount x) : IsAmount ((Quote.hourly r onTop).settle none) := by
  cases onTop with
  | none => exact hr.mul hoursPerMonth_positive
  | some x => exact (hr.mul hoursPerMonth_positive).add (htop x rfl)

section Rules

variable {props : Entries Data}

theorem volumeCost_amount (hsize : Ensures (numberOf (property props "size") 20) IsAmount)
    (hiops : (volumeType props == "io1" || volumeType props == "io2") = true →
      Ensures (numberOf (property props "iops") 0) IsAmount) :
    Ensures (volumeCost props) IsAmount := by
  refine hsize.bind fun size hsize => ?_
  have hcost := hsize.mul (storageRate_positive ("ebs_" ++ volumeType props))
  show Ensures (if (volumeType props == "io1" || volumeType props == "io2") = true then _ else _) _
  split
  · rename_i hprovisioned
    refine (hiops hprovisioned).bind fun iops hiops => .ok (hcost.add (hiops.mul ?_))
    decide +kernel
  · exact .ok hcost

theorem tableCost_amount
    (h : (wordOf (property props "billing_mode") "PROVISIONED" == "PAY_PER_REQUEST") = false →
      Ensures (numberOf (property props "write_capacity") 5) IsAmount ∧
        Ensures (numberOf (property props "read_capacity") 5) IsAmount) :
    Ensures (tableCost props) IsAmount := by
  rw [tableCost]
  split
  · exact .ok (by decide +kernel)
  · rename_i hprovisioned
    obtain ⟨hwrites, hreads⟩ := h (Bool.eq_false_iff.mpr hprovisioned)
    refine hwrites.bind fun writes hwrites => hreads.bind fun reads hreads => .ok ?_
    have hunits : IsAmount (writes * writeUnitRate + reads * readUnitRate) :=
      (hwrites.mul (by decide +kernel)).add (hreads.mul (by decide +kernel))
    exact (hunits.mul hoursPerMonth_positive).add (by decide +kernel)

theorem taskCost_amount (h : Ensures (numberOf (property props "desired_count") 1) IsAmount) :
    Ensures (taskCost props) IsAmount :=
  h.bind fun _ htasks => .ok ((htasks.mul (by decide +kernel)).mul hoursPerMonth_positive)

theorem cacheCost_amount (region : String) {count : Data} {default : Binary64}
    (h : Ensures (numberOf count default) IsAmount) :
    Ensures (cacheCost props region count default) IsAmount := by
  refine h.bind fun nodes hnodes => .ok ?_
  rw [Binary64.mul_comm]
  exact hnodes.mul (cacheRate_positive _ region)

end Rules

/-- **An estimate from quantities that are not negative** is not negative, for every type. -/
theorem amount_of_estimate {type : String} {props : Entries Data} (h : AmountsGiven type props)
    (region : String) : Ensures (estimate type props region) IsAmount := by
  suffices hquote : Ensures (quote type props region) fun q => IsAmount (q.settle none) from
    hquote.map fun _ hq => hq
  have hamount {a : Answer Binary64} (ha : Ensures a IsAmount) :
      Ensures (a.map Quote.amount) fun q => IsAmount (q.settle none) :=
    ha.map fun _ hx => hx
  rw [AmountsGiven, quantities] at h
  rw [quote]
  -- One case for each rule; most of them depend on the quantities that the properties give.
  cases hrule : ruleOf type <;> simp only [hrule] at h ⊢
  case machine =>
    exact .ok (settle_hourly_amount (machineRate_amount _ region) (by simp))
  case database =>
    refine (h _ List.mem_cons_self).bind fun storage hstorage => .ok ?_
    refine settle_hourly_amount (databaseRate_amount _ _ region) ?_
    rintro x ⟨⟩
    exact hstorage.mul (by decide +kernel)
  case volume =>
    refine hamount (volumeCost_amount (h (property props "size", 20) ?_) fun hprovisioned =>
      h (property props "iops", 0) ?_)
    · split <;> exact List.mem_cons_self
    · rw [if_pos hprovisioned]
      exact List.mem_cons_of_mem _ List.mem_cons_self
  case table =>
    refine hamount (tableCost_amount fun hprovisioned => ?_)
    rw [if_neg (Bool.eq_false_iff.mp hprovisioned)] at h
    exact ⟨h _ List.mem_cons_self, h _ (List.mem_cons_of_mem _ List.mem_cons_self)⟩
  case balancer | gateway | bucket => exact .ok (by decide +kernel)
  case tasks => exact hamount (taskCost_amount (h _ List.mem_cons_self))
  case cache => exact hamount (cacheCost_amount region (h _ List.mem_cons_self))
  case cacheGroup =>
    refine hamount (cacheCost_amount region ?_)
    have hcount := h _ List.mem_cons_self
    cases hgiven : Entries.get? "num_cache_clusters" props <;> simpa [hgiven] using hcount
  case flat => exact .ok (flatCost_amount type)

/-- At a rate at which one is not rounded to nothing, minus one or less is no amount. -/
theorem not_amount_mul {n : Binary64} (hn : n.le (-1)) {rate : Binary64} (hrate : rate.isPositive)
    (hone : ¬ IsAmount (-1 * rate)) : ¬ IsAmount (n * rate) := by
  obtain ⟨m, e, rfl, hpos⟩ := isPositive_iff.mp hrate
  rcases n with _ | (_ | _) | ⟨s, k, f⟩
  · cases hn
  · cases hn
  · have hm : m ≠ 0 := by
      rintro rfl
      simp [valueOf] at hpos
    show ¬ IsAmount (Binary64.mul _ _)
    rw [Binary64.mul, if_neg hm]
    exact Bool.false_ne_true
  · rw [show (-1 : Binary64) = finite true (2 ^ 52) (-52) by decide +kernel] at hn hone
    rw [le_finite_iff] at hn
    have hproduct := (rounds_mul s false k m f e).le (rounds_mul true false (2 ^ 52) m (-52) e)
      (mul_le_mul_of_nonneg_right hn hpos.le)
    exact fun hamount => hone (le_trans hamount hproduct)

/-- **A volume of negative size** has an estimate that is no amount. -/
theorem not_amount_of_volume {type : String} (htype : ruleOf type = .volume) {props : Entries Data}
    (hplain : (volumeType props == "io1" || volumeType props == "io2") = false) {n : Binary64}
    (hsize : numberOf (property props "size") 20 = .ok n) (hn : n.le (-1)) (region : String) :
    ∃ x, estimate type props region = .ok x ∧ ¬ IsAmount x := by
  refine ⟨n * (Entries.get? ("ebs_" ++ volumeType props) storageRates).getD 0.08, ?_, ?_⟩
  · have hcost : volumeCost props =
        .ok (n * (Entries.get? ("ebs_" ++ volumeType props) storageRates).getD 0.08) := by
      rw [volumeCost, hsize]
      show (if (volumeType props == "io1" || volumeType props == "io2") = true then _ else _) = _
      rw [hplain]
      rfl
    rw [estimate, quote, htype]
    dsimp only
    rw [hcost]
    rfl
  · -- Every rate of the table is positive, so a negative size decides the sign.
    have hall : ∀ x ∈ (0.08 : Binary64) :: storageRates.map (·.2), ¬ IsAmount (-1 * x) := by
      decide +kernel
    exact not_amount_mul hn (storageRate_positive _) (hall _ (getD_get?_mem _ _ _))

end Pricing

namespace Cost

open Binary64 Pricing

/-! ## Totals -/

/-- The quantities of a resource are not negative. -/
def PricedResource.AmountsGiven (r : PricedResource) : Prop :=
  Pricing.AmountsGiven r.type r.properties

instance (r : PricedResource) : Decidable r.AmountsGiven :=
  inferInstanceAs (Decidable (Pricing.AmountsGiven r.type r.properties))

theorem lineItem_amount {r : PricedResource} (h : r.AmountsGiven) :
    IsAmount (lineItem estimate r).cost := by
  rw [lineItem]
  split
  · rename_i x hx
    exact (amount_of_estimate h _ x hx).roundTo 2
  · exact isAmount_zero

theorem total_amount {items : List LineItem} (h : ∀ i ∈ items, IsAmount i.cost) :
    IsAmount (items.foldl addToTotal 0) := by
  refine List.foldlRecOn items addToTotal isAmount_zero fun total htotal i hi => ?_
  rw [addToTotal]
  split
  · exact htotal.add (h i hi)
  · exact htotal

/-- A total is a number that arithmetic leaves. -/
theorem total_kept (items : List LineItem) : IsKept (items.foldl addToTotal 0) := by
  refine List.foldlRecOn items addToTotal isKept_zero fun total htotal i _ => ?_
  rw [addToTotal]
  split
  · exact isKept_add total i.cost
  · exact htotal

/-- The same rows keep the order of two totals. -/
theorem total_notBelow (items : List LineItem) {x y : Binary64} (h : NotBelow x y) :
    NotBelow (items.foldl addToTotal x) (items.foldl addToTotal y) := by
  induction items generalizing x y with
  | nil => exact h
  | cons i items ih =>
    refine ih ?_
    rw [addToTotal, addToTotal]
    split
    · exact h.add_right i.cost
    · exact h

/-- A row that is not negative does not lower a total. -/
theorem addToTotal_notBelow {total : Binary64} (htotal : IsKept total) {i : LineItem}
    (hi : IsAmount i.cost) : NotBelow (addToTotal total i) total := by
  rw [addToTotal]
  split
  · exact notBelow_add htotal hi
  · exact notBelow_refl total

/-- If no quantity of the resources is negative, no row is and the total is not. -/
theorem breakdown_amounts {rs : List PricedResource} (h : ∀ r ∈ rs, r.AmountsGiven) :
    (∀ i ∈ (breakdown estimate rs).items, IsAmount i.cost) ∧
      IsAmount (breakdown estimate rs).total := by
  have hitems : ∀ i ∈ rs.map (lineItem estimate), IsAmount i.cost := by
    intro i hi
    obtain ⟨r, hr, rfl⟩ := List.mem_map.mp hi
    exact lineItem_amount (h r hr)
  exact ⟨hitems, (total_amount hitems).roundTo 2⟩

/-- A further resource between any others does not make the total less. -/
theorem breakdown_total_notBelow {r : PricedResource} (h : r.AmountsGiven)
    (before after : List PricedResource) :
    NotBelow (breakdown estimate (before ++ r :: after)).total
      (breakdown estimate (before ++ after)).total := by
  simp only [breakdown, Breakdown.ofItems, List.map_append, List.map_cons, List.foldl_append,
    List.foldl_cons]
  -- The rows behind the resource are added to either total alike.
  refine NotBelow.roundTo (total_notBelow _ ?_) 2
  exact addToTotal_notBelow (total_kept _) (lineItem_amount h)

/-- **What a breakdown adds up.** If no quantity of a resource is negative, neither its estimate nor
its row is, and put anywhere between others of any kind it does not make the total less. Between
others like it no row and no total is negative, and the total is at least what it was. -/
theorem amounts_of_breakdown (r : PricedResource) (hr : r.AmountsGiven)
    (before after : List PricedResource) :
    (∀ region, Ensures (estimate r.type r.properties region) IsAmount) ∧
    IsAmount (lineItem estimate r).cost ∧
    NotBelow (breakdown estimate (before ++ r :: after)).total
      (breakdown estimate (before ++ after)).total ∧
    ((∀ s ∈ before ++ after, s.AmountsGiven) →
      (∀ i ∈ (breakdown estimate (before ++ r :: after)).items, IsAmount i.cost) ∧
      IsAmount (breakdown estimate (before ++ r :: after)).total ∧
      (breakdown estimate (before ++ after)).total.le
        (breakdown estimate (before ++ r :: after)).total) := by
  have hless := breakdown_total_notBelow hr before after
  refine ⟨amount_of_estimate hr, lineItem_amount hr, hless, fun hothers => ?_⟩
  have hall : ∀ s ∈ before ++ r :: after, s.AmountsGiven := by
    intro s hs
    rcases List.mem_append.mp hs with hs | hs
    · exact hothers s (List.mem_append_left _ hs)
    · rcases List.mem_cons.mp hs with rfl | hs
      · exact hr
      · exact hothers s (List.mem_append_right _ hs)
  obtain ⟨hrows, htotal⟩ := breakdown_amounts hall
  exact ⟨hrows, htotal, hless.le htotal (breakdown_amounts hothers).2⟩

/-- A volume of the size that is given. -/
def volume (size : Data) : PricedResource :=
  ⟨.text "v", "aws_ebs_volume", some "us-east-1", [("size", size)]⟩

/-- A volume of ten gigabytes costs an amount. It does not lower the total of a template with a
volume of negative size, and the total with another volume is at least what it was. -/
theorem amounts_of_breakdown_sample :
    (∃ x, estimate "aws_ebs_volume" [("size", .int 10)] "us-east-1" = .ok x ∧ IsAmount x) ∧
      ¬ (volume (.int (-100))).AmountsGiven ∧
      NotBelow (breakdown estimate [volume (.int (-100)), volume (.int 10)]).total
        (breakdown estimate [volume (.int (-100))]).total ∧
      IsAmount (breakdown estimate [volume (.text "20"), volume (.int 10)]).total ∧
      (breakdown estimate [volume (.text "20")]).total.le
        (breakdown estimate [volume (.text "20"), volume (.int 10)]).total := by
  have hten : (volume (.int 10)).AmountsGiven := by decide +kernel
  have htwenty : ∀ r ∈ [volume (.text "20")] ++ [], r.AmountsGiven := by decide +kernel
  have hnegative : ¬ (volume (.int (-100))).AmountsGiven := by decide +kernel
  obtain ⟨hestimate, -, hless, -⟩ :=
    amounts_of_breakdown (volume (.int 10)) hten [volume (.int (-100))] []
  obtain ⟨-, htotal, hmore⟩ :=
    (amounts_of_breakdown (volume (.int 10)) hten [volume (.text "20")] []).2.2.2 htwenty
  exact ⟨⟨_, rfl, hestimate "us-east-1" _ rfl⟩, hnegative, hless, htotal, hmore⟩

end Cost

end Groundplan
