import Groundplan.Pricing.PriceList
import Groundplan.Proofs.Entries
import Groundplan.Proofs.Runs
import Groundplan.Proofs.Upstream

/-!
# Prices that are kept

An answer of the price list is kept under a key, and given again to whoever asks under the key
within a quarter of an hour. The key is made of the service, the class, the region and the operating
system or engine, with colons between, and nothing is done about colons in them. So two products can
have one key, and the one is then given the price of the other. This cannot happen where the region
asked for has no colon and the classes have equally many; in particular not where no text has any.

## Main definitions

* `Wanted`: a price that someone wants to know
* `Wanted.Alike`: the same product is wanted
* `Lookup`, `Lookup.after`: a price that is looked up, and what this leaves
* `Lookup.Stores`: a lookup whose answer is kept
* `KeptSince`: an answer that was kept in the course of lookups, and not replaced since

## Main results

* `product_eq_iff`: the price list is asked the same exactly if the same is wanted
* `alike_iff`: **when one key is one product**
* `recalls_of_run`: every answer that is kept was given to a lookup
* `kept_of_run`: **what an answer from the cache is an answer to**
-/

namespace Groundplan.Pricing

/-! ## What is wanted -/

/-- A price that someone wants to know: of a machine with its operating system, or of a database
with its engine. -/
inductive Wanted where
  | machine (type region system : String)
  | database (type region engine : String)
deriving DecidableEq

namespace Wanted

/-- The product that the price list is asked for. -/
def product : Wanted → Product
  | machine type region system => machineProduct (some type) region (some system)
  | database type region engine => databaseProduct (some type) region (some engine)

/-- The class of the machine or database. -/
def type : Wanted → String
  | machine type .. => type
  | database type .. => type

def region : Wanted → String
  | machine _ region _ => region
  | database _ region _ => region

/-- The operating system, or the name that the price list gives to the engine. -/
def variant : Wanted → String
  | machine _ _ system => system
  | database _ _ engine => engineListName engine

/-- What an estimate asks for. -/
def ofQuery : PriceQuery → Wanted
  | .machine type region => machine type region "Linux"
  | .database type region engine => database type region engine

variable {w v : Wanted}

theorem product_ofQuery (q : PriceQuery) : (ofQuery q).product = q.product := by
  cases q <;> rfl

/-- **The same product is wanted.** -/
structure Alike (w v : Wanted) : Prop where
  service : w.product.service = v.product.service
  type : w.type = v.type
  region : w.region = v.region
  variant : w.variant = v.variant

theorem region_product (w : Wanted) : w.product.region = w.region := by
  cases w <;> rfl

theorem service_machine (type region system : String) :
    (machine type region system).product.service = "AmazonEC2" := rfl

theorem service_database (type region engine : String) :
    (database type region engine).product.service = "AmazonRDS" := rfl

theorem service_ne (type type' region region' system engine : String) :
    (machine type region system).product.service ≠
      (database type' region' engine).product.service := by
  rw [service_machine, service_database]
  decide

/-- The price list is asked the same exactly if the same is wanted. -/
theorem product_eq_iff : w.product = v.product ↔ w.Alike v := by
  constructor
  · intro h
    have hservice := congrArg Product.service h
    have hregion : w.region = v.region := by
      rw [← region_product, ← region_product, h]
    have hfilters := congrArg Product.filters h
    -- Machines and databases are of different services; within one, the filters tell the parts.
    cases w <;> cases v
    case machine.machine =>
      simp only [product, machineProduct, List.cons.injEq, Prod.mk.injEq,
        Option.some.injEq] at hfilters
      exact ⟨hservice, hfilters.1.2, hregion, hfilters.2.1.2⟩
    case database.database =>
      simp only [product, databaseProduct, List.cons.injEq, Prod.mk.injEq, Option.some.injEq,
        Option.map_some] at hfilters
      exact ⟨hservice, hfilters.1.2, hregion, hfilters.2.1.2⟩
    case machine.database => exact absurd hservice (service_ne _ _ _ _ _ _)
    case database.machine => exact absurd hservice.symm (service_ne _ _ _ _ _ _)
  · rintro ⟨hservice, htype, hregion, hvariant⟩
    cases w <;> cases v
    case machine.machine =>
      dsimp only [type, region, variant] at htype hregion hvariant
      rw [htype, hregion, hvariant]
    case database.database =>
      dsimp only [type, region, variant] at htype hregion hvariant
      rw [product, product, databaseProduct, databaseProduct, htype, hregion, Option.map_some,
        Option.map_some, hvariant]
    case machine.database => exact absurd hservice (service_ne _ _ _ _ _ _)
    case database.machine => exact absurd hservice.symm (service_ne _ _ _ _ _ _)

/-! ## Keys -/

/-- A text in front of a character is known by how many such characters are in it. -/
theorem append_cons_inj_of_count {c : Char} {a a' b b' : List Char}
    (hcount : a.count c = a'.count c) (h : a ++ c :: b = a' ++ c :: b') : a = a' ∧ b = b' := by
  -- Where one of the two goes on behind the other, it holds a further character.
  rcases List.append_eq_append_iff.1 h with ⟨d, rfl, hd⟩ | ⟨d, rfl, hd⟩
  · cases d with
    | nil => exact ⟨(List.append_nil a).symm, (List.cons.inj hd).2⟩
    | cons e d =>
      obtain ⟨rfl, -⟩ := List.cons.inj hd
      simp at hcount
  · cases d with
    | nil => exact ⟨List.append_nil a', (List.cons.inj hd).2.symm⟩
    | cons e d =>
      obtain ⟨rfl, -⟩ := List.cons.inj hd
      simp at hcount

theorem toList_key (w : Wanted) : w.product.key.toList =
    w.product.service.toList ++ ':' :: (w.type.toList ++ ':' ::
      (w.region.toList ++ ':' :: w.variant.toList)) := by
  cases w <;> simp [product, machineProduct, databaseProduct, productKey, type, region, variant]

theorem colon_notMem_service (w : Wanted) : ':' ∉ w.product.service.toList := by
  cases w
  · rw [service_machine]
    decide
  · rw [service_database]
    decide

/-- What has one key is of one service, and the other parts are the same when put together. -/
theorem parts_of_key (h : w.product.key = v.product.key) :
    w.product.service = v.product.service ∧
      w.type.toList ++ ':' :: (w.region.toList ++ ':' :: w.variant.toList) =
        v.type.toList ++ ':' :: (v.region.toList ++ ':' :: v.variant.toList) := by
  have hlist := congrArg String.toList h
  rw [toList_key, toList_key] at hlist
  have hcount : w.product.service.toList.count ':' = v.product.service.toList.count ':' := by
    rw [List.count_eq_zero.2 w.colon_notMem_service, List.count_eq_zero.2 v.colon_notMem_service]
  obtain ⟨hservice, hrest⟩ := append_cons_inj_of_count hcount hlist
  exact ⟨String.toList_inj.1 hservice, hrest⟩

/-- **When one key is one product**, if there are no colons in the one region: exactly if there are
none in the other, and equally many in the classes. -/
theorem alike_iff (hkey : w.product.key = v.product.key) (hregion : ':' ∉ w.region.toList) :
    w.Alike v ↔ ':' ∉ v.region.toList ∧ v.type.toList.count ':' = w.type.toList.count ':' := by
  constructor
  · intro h
    rw [← h.region, ← h.type]
    exact ⟨hregion, rfl⟩
  · rintro ⟨hregion', hcount⟩
    obtain ⟨hservice, hparts⟩ := parts_of_key hkey
    obtain ⟨htype, hrest⟩ := append_cons_inj_of_count hcount.symm hparts
    have hnone : w.region.toList.count ':' = v.region.toList.count ':' := by
      rw [List.count_eq_zero.2 hregion, List.count_eq_zero.2 hregion']
    obtain ⟨hregions, hvariant⟩ := append_cons_inj_of_count hnone hrest
    exact ⟨hservice, String.toList_inj.1 htype, String.toList_inj.1 hregions,
      String.toList_inj.1 hvariant⟩

-- Whether a colon belongs to the class or to the region cannot be seen in a key.
example : (machine "a:b" "us-east-1" "Linux").product.key =
    (machine "a" "b:us-east-1" "Linux").product.key := by
  decide

end Wanted

/-- The regions that the price list knows have no colons. -/
theorem colon_notMem_of_location? {region place : String} (h : location? region = some place) :
    ':' ∉ region.toList := by
  have hall : ∀ e ∈ regionLocations, ':' ∉ e.1.toList := by decide
  exact hall _ (Entries.mem_of_get? h)

/-! ## Lookups -/

/-- A price that is looked up, at an instant and with the replies of the price list at hand. -/
structure Lookup where
  ask : CloudCall → Answer Data
  now : Instant
  wanted : Wanted

namespace Lookup

/-- The key of what is wanted. -/
def key (l : Lookup) : String :=
  l.wanted.product.key

/-- The answer to a lookup. -/
def answer (l : Lookup) (desk : PriceDesk) : Answer (Option Binary64) :=
  (desk.lookUpProduct l.ask l.now l.wanted.product).1

/-- The desk after a lookup. -/
def after (l : Lookup) (desk : PriceDesk) : PriceDesk :=
  (desk.lookUpProduct l.ask l.now l.wanted.product).2

/-- The answer that is kept for a lookup. -/
def kept? (l : Lookup) (desk : PriceDesk) : Option (Option Binary64) :=
  (desk.kept? l.key l.now).1

/-- **A lookup whose answer is kept**: the price list is asked, and its reply has a price or lists
no such product. -/
structure Stores (l : Lookup) (desk : PriceDesk) (price : Option Binary64) : Prop where
  notKept : l.kept? desk = none
  allowed : (desk.breaker.allow l.now).1 = true
  replied : ∃ place, location? l.wanted.region = some place ∧
    (l.ask (l.wanted.product.call place)).bind onDemandRate = .ok price

end Lookup

variable {l : Lookup} {desk : PriceDesk} {past : List (PriceDesk × Lookup)} {key : String}
  {price : Option Binary64} {t : Instant}

/-- **An answer that was kept in the course of lookups**, and not replaced since. -/
def KeptSince (past : List (PriceDesk × Lookup)) (key : String) (price : Option Binary64)
    (t : Instant) : Prop :=
  ∃ before v after, past = before ++ v :: after ∧ v.2.Stores v.1 price ∧ v.2.key = key ∧
    v.2.now = t ∧ ∀ w ∈ after, w.2.key = key → ∀ other, ¬ w.2.Stores w.1 other

namespace PriceDesk

/-- Looking for an answer that is kept brings none in. -/
theorem get?_of_kept? {asked : String} {now : Instant}
    (h : Entries.get? key (desk.kept? asked now).2.cache = some (price, t)) :
    Entries.get? key desk.cache = some (price, t) := by
  rw [PriceDesk.kept?] at h
  split at h
  · exact h
  · split at h
    · exact h
    · by_cases hkey : key = asked
      · rw [hkey, Entries.get?_erase_self] at h
        cases h
      · rwa [Entries.get?_erase_of_ne hkey] at h

/-- An answer that is given from what is kept is fresh, and giving it changes nothing. -/
theorem get?_of_kept?_eq_some {now : Instant} (h : (desk.kept? key now).1 = some price) :
    desk.kept? key now = (some price, desk) ∧ ∃ t, Entries.get? key desk.cache = some (price, t) ∧
      now - t < keepSeconds * microsPerSecond := by
  rw [PriceDesk.kept?] at h ⊢
  split at h
  · cases h
  case h_2 other t hget =>
    split at h
    case isTrue hfresh =>
      cases h
      exact ⟨by rw [if_pos hfresh], t, hget, hfresh⟩
    case isFalse => cases h

/-- A reply is kept if it has a price or lists no such product. -/
theorem cache_settle (desk : PriceDesk) (key : String) (now : Instant) (reply : Answer Data) :
    (∃ price, reply.bind onDemandRate = .ok price ∧
        (desk.settle key now reply).2.cache = Entries.set key (price, now) desk.cache) ∨
      (∀ price, reply.bind onDemandRate ≠ .ok price) ∧
        (desk.settle key now reply).2.cache = desk.cache := by
  rw [settle]
  cases hreply : reply.bind onDemandRate with
  | ok price => exact .inl ⟨price, rfl, rfl⟩
  | error f =>
    refine .inr ⟨fun price h => ?_, ?_⟩
    · cases h
    · cases f with
      | cloud => rfl
      | _ =>
        dsimp only
        split <;> rfl

end PriceDesk

/-- What a lookup does with the answers that are kept: it adds its own to them, or it adds none. -/
theorem cache_after (l : Lookup) (desk : PriceDesk) :
    (∃ price, l.Stores desk price ∧ (l.after desk).cache =
        Entries.set l.key (price, l.now) (desk.kept? l.key l.now).2.cache) ∨
      (∀ price, ¬ l.Stores desk price) ∧
        (l.after desk).cache = (desk.kept? l.key l.now).2.cache := by
  have hbreaker : (desk.kept? l.key l.now).2.breaker = desk.breaker := PriceDesk.kept?_breaker
  rw [Lookup.after, PriceDesk.lookUpProduct]
  rcases hk : desk.kept? l.key l.now with ⟨kept, found⟩
  rw [hk] at hbreaker
  rw [← Lookup.key, hk]
  -- It is stopped by an answer that is kept, a region without a place, a breaker that is open, or a
  -- reply without an answer; if by nothing, its answer is kept.
  cases kept with
  | some price =>
    refine .inr ⟨fun other h => ?_, rfl⟩
    have hnone := h.notKept
    rw [Lookup.kept?, hk] at hnone
    cases hnone
  | none =>
    dsimp only at hbreaker ⊢
    rw [Wanted.region_product]
    cases hplace : location? l.wanted.region with
    | none =>
      refine .inr ⟨fun other h => ?_, rfl⟩
      obtain ⟨place, hsome, -⟩ := h.replied
      rw [hplace] at hsome
      cases hsome
    | some place =>
      dsimp only
      rw [hbreaker]
      cases hallow : (desk.breaker.allow l.now).1 with
      | false =>
        refine .inr ⟨fun other h => ?_, rfl⟩
        rw [h.allowed] at hallow
        cases hallow
      | true =>
        rw [if_pos rfl]
        rcases PriceDesk.cache_settle _ l.key l.now (l.ask (l.wanted.product.call place)) with
          ⟨price, hreply, hcache⟩ | ⟨hreply, hcache⟩
        · exact .inl ⟨price, ⟨by rw [Lookup.kept?, hk], hallow, place, hplace, hreply⟩, hcache⟩
        · refine .inr ⟨fun other h => ?_, hcache⟩
          obtain ⟨place', hplace', hother⟩ := h.replied
          cases hplace.symm.trans hplace'
          exact hreply other hother

/-- What is kept after a lookup was kept before, and not replaced, or is the lookup's own answer. -/
theorem get?_after (h : Entries.get? key (l.after desk).cache = some (price, t)) :
    l.Stores desk price ∧ l.key = key ∧ l.now = t ∨
      Entries.get? key desk.cache = some (price, t) ∧
        (l.key = key → ∀ other, ¬ l.Stores desk other) := by
  rcases cache_after l desk with ⟨own, hstores, hcache⟩ | ⟨hnone, hcache⟩
  · rw [hcache] at h
    by_cases hkey : key = l.key
    · rw [hkey, Entries.get?_set_self, Option.some.injEq, Prod.mk.injEq] at h
      obtain ⟨rfl, rfl⟩ := h
      exact .inl ⟨hstores, hkey.symm, rfl⟩
    · rw [Entries.get?_set_of_ne hkey] at h
      exact .inr ⟨PriceDesk.get?_of_kept? h, fun hsame => absurd hsame.symm hkey⟩
  · rw [hcache] at h
    exact .inr ⟨PriceDesk.get?_of_kept? h, fun _ => hnone⟩

/-! ## Runs -/

/-- Every answer that is kept was given to a lookup of the past, and not replaced since. -/
def PriceDesk.Recalls (desk : PriceDesk) (past : List (PriceDesk × Lookup)) : Prop :=
  ∀ key price t, Entries.get? key desk.cache = some (price, t) → KeptSince past key price t

/-- One more lookup: an answer that is kept is its own, or was kept before. -/
theorem PriceDesk.Recalls.after (h : desk.Recalls past) (l : Lookup) :
    (l.after desk).Recalls (past ++ [(desk, l)]) := by
  intro key price t hget
  rcases get?_after hget with ⟨hstores, hkey, hnow⟩ | ⟨hbefore, hnot⟩
  · exact ⟨past, (desk, l), [], rfl, hstores, hkey, hnow, by simp⟩
  · obtain ⟨before, v, after, rfl, hstores, hkey, hnow, hsince⟩ := h key price t hbefore
    refine ⟨before, v, after ++ [(desk, l)], by simp, hstores, hkey, hnow, fun w hw => ?_⟩
    rcases List.mem_append.1 hw with hw | hw
    · exact hsince w hw
    · rw [List.mem_singleton.1 hw]
      exact hnot

/-- The lookups of a run account for all that is kept after it. -/
theorem recalls_of_run (ls : List Lookup) (hempty : desk.cache = []) :
    (stateAfter Lookup.after desk ls).Recalls (stepsOf Lookup.after desk ls) := by
  have hnothing : desk.Recalls [] := by
    intro key price t hget
    rw [hempty] at hget
    cases hget
  exact run_induction (P := PriceDesk.Recalls) (fun _ _ l h => h.after l) hnothing ls

/-- **What an answer from the cache is an answer to.** It was given to a lookup of the run, with
the reply of the price list, less than a quarter of an hour ago, and it is given again with no call.
That lookup wanted something of the same service under the same key, which is the very same product
exactly if the region now asked for has no colon and the classes have equally many. -/
theorem kept_of_run {ls : List Lookup} (hempty : desk.cache = [])
    (h : l.kept? (stateAfter Lookup.after desk ls) = some price) :
    l.answer (stateAfter Lookup.after desk ls) = .ok price ∧
      l.after (stateAfter Lookup.after desk ls) = stateAfter Lookup.after desk ls ∧
      ∃ before met first after,
        stepsOf Lookup.after desk ls = before ++ (met, first) :: after ∧
        first.Stores met price ∧ l.now - first.now < keepSeconds * microsPerSecond ∧
        (∀ v ∈ after, v.2.key = l.key → ∀ other, ¬ v.2.Stores v.1 other) ∧
        first.wanted.product.service = l.wanted.product.service ∧
        (first.wanted.product = l.wanted.product ↔ first.wanted.Alike l.wanted) ∧
        (first.wanted.Alike l.wanted ↔ ':' ∉ l.wanted.region.toList ∧
          l.wanted.type.toList.count ':' = first.wanted.type.toList.count ':') := by
  obtain ⟨hkept, t, hget, hfresh⟩ := PriceDesk.get?_of_kept?_eq_some h
  obtain ⟨before, ⟨met, first⟩, after, hsteps, hstores, hkey, rfl, hsince⟩ :=
    recalls_of_run ls hempty _ _ _ hget
  -- A reply was stored, so the first region has a place, and such regions are without colons.
  obtain ⟨place, hplace, -⟩ := hstores.replied
  refine ⟨?_, ?_, before, met, first, after, hsteps, hstores, hfresh, hsince,
    (Wanted.parts_of_key hkey).1, Wanted.product_eq_iff,
    Wanted.alike_iff hkey (colon_notMem_of_location? hplace)⟩
  · rw [Lookup.answer, PriceDesk.lookUpProduct, ← Lookup.key, hkept]
  · rw [Lookup.after, PriceDesk.lookUpProduct, ← Lookup.key, hkept]

/-- A machine that is looked up where the price list lists nothing. -/
def vainLookup (now : Instant) (type region : String) : Lookup :=
  ⟨fun _ => .ok (.map []), now, .machine type region "Linux"⟩

theorem kept_of_run_sample :
    (vainLookup 60000000 "a" "b:us-east-1").answer
        (stateAfter Lookup.after {} [vainLookup 0 "a:b" "us-east-1"]) = .ok none ∧
      ∃ before met first after,
        stepsOf Lookup.after {} [vainLookup 0 "a:b" "us-east-1"] =
          before ++ (met, first) :: after ∧
        first.Stores met none ∧
        ¬ first.wanted.Alike (vainLookup 60000000 "a" "b:us-east-1").wanted := by
  have hkept : (vainLookup 60000000 "a" "b:us-east-1").kept?
      (stateAfter Lookup.after {} [vainLookup 0 "a:b" "us-east-1"]) = some none := by
    decide +kernel
  obtain ⟨hanswer, -, before, met, first, after, hsteps, hstores, -, -, -, -, halike⟩ :=
    kept_of_run rfl hkept
  refine ⟨hanswer, before, met, first, after, hsteps, hstores, fun h => ?_⟩
  exact absurd (halike.1 h).1 (by decide)

end Groundplan.Pricing
