import Groundplan.Proofs.Policy.Calls

/-!
# The catalog over a run

A catalog that begins without rows answers requests one after another: it is seeded, policies are
registered and switched, and its rows are read by listings and audits, which seed it where no
built-in policy is there. What it holds then follows from the requests alone. A code has one row,
and the row stays. A policy is on unless the last request that switched it has switched it off. And
the evaluator of a code is the built-in one, or the one with which the code was registered.

## Main definitions

* `Catalog.Free`: a code is free for a policy to be registered
* `Row.Before`, `Catalog.rowsOf`: the order of rows, and the rows of a provider
* `Call.Does`: what a single call comes to

## Main results

* `Reflects.after`: **what one call keeps**
* `Stocked.listing_ordered`: listings
* `catalog_of_run`: rows, switches, evaluators and listings over a run
-/

namespace Groundplan.Policy

variable {c : Catalog} {past : List (Catalog × Call)} {v : Catalog × Call} {r : Row}
  {d : Definition} {code : String} {now : Instant}

/-! ## Writing rows -/

namespace Catalog

theorem row?_put (c : Catalog) (r : Row) (code : String) :
    (c.put r).row? code = if code = r.code then some r else c.row? code := by
  rw [row?, put]
  split
  · rename_i h
    rw [h, Entries.get?_set_self]
  · rename_i h
    exact Entries.get?_set_of_ne h r c.rows

theorem switch_put (c : Catalog) (r : Row) (code : String) :
    (c.put r).switch code = if code = r.code then r.active else c.switch code := by
  rw [switch, row?_put]
  split <;> rfl

theorem code_seededRow (now : Instant) (c : Catalog) (d : Definition) :
    (c.seededRow now d).code = d.code := by
  rw [seededRow]
  split <;> rfl

theorem presents_seededRow (now : Instant) (c : Catalog) (d : Definition) :
    (c.seededRow now d).Presents d := by
  rw [seededRow]
  split <;> rfl

/-- Adding a definition leaves the switch of its code alone. -/
theorem active_seededRow (now : Instant) (c : Catalog) (d : Definition) :
    (c.seededRow now d).active = c.switch d.code := by
  rw [seededRow, switch]
  cases c.row? d.code <;> rfl

theorem codes_put (c : Catalog) (r : Row) : (c.put r).codes =
    c.codes ++ if (c.row? r.code).isSome then [] else [r.code] :=
  Entries.map_fst_set r.code r c.rows

/-- The row of a code has the code. -/
theorem Stocked.code_of_row? (h : c.Stocked past) (hr : c.row? code = some r) : r.code = code :=
  h.keyed _ (Entries.mem_of_get? hr)

theorem mem_all_of_row? (hr : c.row? code = some r) : r ∈ c.all :=
  List.mem_map_of_mem (f := Prod.snd) (Entries.mem_of_get? hr)

/-- Writing a row keeps codes apart. -/
theorem nodup_put (h : c.codes.Nodup) (r : Row) :
    (c.put r).codes.Nodup := by
  rw [codes_put]
  split
  · rwa [List.append_nil]
  · rename_i hnone
    have hnew : r.code ∉ c.codes := mt Entries.isSome_get?_iff.2 hnone
    exact List.nodup_append.2 ⟨h, List.nodup_singleton _, fun _ hk _ hk' =>
      (List.mem_singleton.1 hk') ▸ ne_of_mem_of_not_mem hk hnew⟩

theorem keyed_put (h : ∀ e ∈ c.rows, e.2.code = e.1) (r : Row) :
    ∀ e ∈ (c.put r).rows, e.2.code = e.1 := fun e he => by
  rcases Entries.mem_of_mem_set he with rfl | he
  · rfl
  · exact h e he

/-- The rows after one was written. -/
theorem mem_all_put {r' : Row} (h : r' ∈ (c.put r).all) : r' = r ∨ r' ∈ c.all := by
  obtain ⟨e, he, rfl⟩ := List.mem_map.1 h
  rcases Entries.mem_of_mem_set he with rfl | he
  · exact .inl rfl
  · exact .inr (List.mem_map_of_mem he)

/-- A row of a definition that there is may be written. -/
theorem Stocked.put (h : c.Stocked past) (hd : Provided past r.code d) (hr : r.Presents d) :
    (c.put r).Stocked past where
  nodup := nodup_put h.nodup r
  keyed := keyed_put h.keyed r
  presents := fun r' hr' => by
    rcases mem_all_put hr' with rfl | hold
    · exact ⟨d, hd, hr⟩
    · exact h.presents r' hold
  listed := fun e he => (h.listed e he).imp_right Entries.isSome_get?_set
  provided := h.provided

/-! ## Seeding -/

theorem seedWith_cons (c : Catalog) (now : Instant) (d : Definition) (ds : List Definition) :
    c.seedWith now (d :: ds) = (c.put (c.seededRow now d)).seedWith now ds :=
  rfl

theorem Stocked.seedWith {ds : List Definition} (h : c.Stocked past)
    (hds : ∀ d ∈ ds, builtIn? d.code = some d) : (c.seedWith now ds).Stocked past := by
  induction ds generalizing c with
  | nil => exact h
  | cons d ds ih =>
    rw [List.forall_mem_cons] at hds
    have hd : Provided past (c.seededRow now d).code d := by
      rw [code_seededRow]
      exact .inl hds.1
    exact ih (h.put hd (presents_seededRow now c d)) hds.2

/-- Seeding leaves all switches alone. -/
theorem switch_seedWith (now : Instant) (c : Catalog) (ds : List Definition) (code : String) :
    (c.seedWith now ds).switch code = c.switch code := by
  induction ds generalizing c with
  | nil => rfl
  | cons d ds ih =>
    rw [seedWith_cons, ih, switch_put, code_seededRow, active_seededRow]
    split
    · rename_i h
      rw [h]
    · rfl

/-- Seeding adds the codes that are not there. -/
theorem codes_seedWith (now : Instant) (c : Catalog) {ds : List Definition}
    (hds : (ds.map (·.code)).Nodup) : (c.seedWith now ds).codes =
      c.codes ++ (ds.filter fun d => (c.row? d.code).isNone).map (·.code) := by
  induction ds generalizing c with
  | nil => exact (List.append_nil _).symm
  | cons d ds ih =>
    rw [List.map_cons, List.nodup_cons] at hds
    -- The codes behind it are other codes, so that writing its row does not count for them.
    have hrest : (ds.filter fun e => ((c.put (c.seededRow now d)).row? e.code).isNone) =
        ds.filter fun e => (c.row? e.code).isNone :=
      List.filter_congr fun e he => by
        rw [row?_put, code_seededRow,
          if_neg (ne_of_mem_of_not_mem (List.mem_map_of_mem (f := (·.code)) he) hds.1)]
    rw [seedWith_cons, ih _ hds.2, hrest, codes_put, code_seededRow, List.filter_cons]
    cases c.row? d.code <;> simp

theorem length_all (c : Catalog) : c.all.length = c.codes.length := by
  rw [all, codes, List.length_map, List.length_map]

theorem codes_seed (c : Catalog) (now : Instant) : (c.seed now).2.codes =
    c.codes ++ (builtIns.filter fun d => (c.row? d.code).isNone).map (·.code) :=
  codes_seedWith now c (by decide)

/-- Seeding tells how many rows it added. -/
theorem length_seed (c : Catalog) (now : Instant) :
    (c.seed now).2.all.length = c.all.length + (c.seed now).1 := by
  rw [length_all, length_all, codes_seed, List.length_append, seed]
  exact congrArg _ (List.length_map _)

theorem prefix_seeded (c : Catalog) (now : Instant) :
    c.codes <+: (c.seeded now).codes := by
  rw [seeded]
  split
  · exact List.prefix_rfl
  · rw [codes_seed]
    exact List.prefix_append _ _

theorem Stocked.seed (h : c.Stocked past) (now : Instant) : (c.seed now).2.Stocked past :=
  h.seedWith fun _ => builtIn?_of_mem

theorem Stocked.seeded (h : c.Stocked past) (now : Instant) : (c.seeded now).Stocked past := by
  rw [Catalog.seeded]
  split
  · exact h
  · exact h.seed now

theorem switch_seeded (c : Catalog) (now : Instant) (code : String) :
    (c.seeded now).switch code = c.switch code := by
  rw [seeded]
  split
  · rfl
  · exact switch_seedWith now c builtIns code

/-! ## Switching and registering -/

/-- Switching a code. -/
theorem toggle_cases (c : Catalog) (now : Instant) (code : String) (active : Bool) :
    ((c.seeded now).row? code = none ∧
      c.toggle now code active = (.error (.notFound "Policy"), c.seeded now)) ∨
    ∃ r, (c.seeded now).row? code = some r ∧
      c.toggle now code active =
        (.ok { r with active := active, updatedAt := now }, { c.seeded now with
          rows := Entries.set code { r with active := active, updatedAt := now }
            (c.seeded now).rows }) := by
  rw [toggle]
  dsimp only
  cases (c.seeded now).row? code with
  | none => exact .inl ⟨rfl, rfl⟩
  | some r => exact .inr ⟨r, rfl, rfl⟩

/-- A code is free for a policy to be registered. -/
def Free (c : Catalog) (code : String) : Prop :=
  code ≠ "" ∧ builtIn? code = none ∧ c.row? code = none

/-- Registering under a code that is free, and under one that is not. -/
theorem register_cases (c : Catalog) (now : Instant) (d : Definition) :
    (¬ c.Free d.code ∧ ∃ f, c.register now d = (.error f, c)) ∨
    c.Free d.code ∧ c.register now d = (.ok ({ d with builtIn := false }.row now),
      { c.put ({ d with builtIn := false }.row now) with
        registered := Entries.set d.code { d with builtIn := false } c.registered }) := by
  rw [register]
  -- A code is not free if it is empty, built in, or in a row already.
  split
  · rename_i h
    exact .inl ⟨fun hfree => hfree.1 (beq_iff_eq.1 h), _, rfl⟩
  · rename_i hnonempty
    split
    · rename_i h
      refine .inl ⟨fun hfree => ?_, _, rfl⟩
      rw [hfree.2.1] at h
      cases h
    · rename_i hcustom
      split
      · rename_i h
        refine .inl ⟨fun hfree => ?_, _, rfl⟩
        rw [hfree.2.2] at h
        cases h
      · rename_i hnew
        refine .inr ⟨⟨fun h => hnonempty (beq_iff_eq.2 h), ?_, ?_⟩, rfl⟩
        · simpa using hcustom
        · simpa using hnew

end Catalog

/-! ## What a call keeps -/

namespace Catalog

/-- A call that registers nothing adds no definition to the history. -/
theorem Stocked.append (h : c.Stocked past)
    (hregistered : ∀ e, v.2.request = .register e → ¬ (v.2.answer v.1).isOk) :
    c.Stocked (past ++ [v]) where
  nodup := h.nodup
  keyed := h.keyed
  presents := fun r hr => (h.presents r hr).imp fun _ hd =>
    hd.imp_left (provided_append hregistered).2
  listed := fun d hd => h.listed d <|
    (registered_append.1 hd).resolve_right fun hv => hregistered d hv.1 hv.2
  provided := fun code d hd => h.provided code d ((provided_append hregistered).1 hd)

/-- A call that neither switches nor registers adds nothing to the history. -/
theorem Reflects.append (h : c.Reflects past) (hswitched : ∀ code, switched? code v = none)
    (hregistered : ∀ e, v.2.request = .register e → ¬ (v.2.answer v.1).isOk) :
    c.Reflects (past ++ [v]) where
  toStocked := h.toStocked.append hregistered
  switched := fun code => by
    rw [List.filterMap_append, List.filterMap_cons, hswitched, List.filterMap_nil, List.append_nil,
      h.switched]

theorem Reflects.seed (h : c.Reflects past) (now : Instant) : (c.seed now).2.Reflects past where
  toStocked := h.toStocked.seed now
  switched := fun code => (switch_seedWith now c builtIns code).trans (h.switched code)

theorem Reflects.seeded (h : c.Reflects past) (now : Instant) : (c.seeded now).Reflects past where
  toStocked := h.toStocked.seeded now
  switched := fun code => (switch_seeded c now code).trans (h.switched code)

/-- Switching a row that there is. -/
theorem Reflects.set (h : c.Reflects past) (hr : c.row? code = some r) {active : Bool}
    (hrequest : v.2.request = .toggle code active) (hanswer : (v.2.answer v.1).isOk) :
    { c with
      rows := Entries.set code { r with active := active, updatedAt := now } c.rows }.Reflects
      (past ++ [v]) := by
  obtain rfl := h.code_of_row? hr
  obtain ⟨d, hd, hpresents⟩ := h.presents r (mem_all_of_row? hr)
  have hput : (c.put { r with active := active, updatedAt := now }).Stocked past :=
    h.toStocked.put hd (by rw [hpresents]; rfl)
  refine ⟨hput.append fun e he => ?_, fun code => ?_⟩
  · rw [hrequest] at he
    cases he
  · show (c.put { r with active := active, updatedAt := now }).switch code = _
    rw [switch_put, List.filterMap_append, List.filterMap_cons, switched?, hrequest]
    by_cases hcode : code = r.code
    · simp [hcode, hanswer]
    · simp [hcode, Ne.symm hcode, h.switched]

/-- Registering a policy under a code that is free. -/
theorem Reflects.register (h : c.Reflects past) (hfree : c.Free d.code)
    (hrequest : v.2.request = .register d) (hanswer : (v.2.answer v.1).isOk) :
    { c.put ({ d with builtIn := false }.row now) with
      registered := Entries.set d.code { d with builtIn := false } c.registered }.Reflects
      (past ++ [v]) := by
  obtain ⟨-, hcustom, hnew⟩ := hfree
  -- What was registered before stands under another code.
  have hother {e : Definition} (he : Registered past e) : e.code ≠ d.code := fun hcode => by
    have hthere := (h.listed e he).2
    rw [hcode, hnew] at hthere
    cases hthere
  have hd : Provided (past ++ [v]) d.code { d with builtIn := false } :=
    .inr ⟨hcustom, d, registered_append.2 (.inr ⟨hrequest, hanswer⟩), rfl, rfl⟩
  refine ⟨⟨nodup_put h.nodup _, keyed_put h.keyed _, fun r hr => ?_, fun e he => ?_,
    fun code e he => ?_⟩, fun code => ?_⟩
  · rcases mem_all_put hr with rfl | hold
    · exact ⟨_, hd, rfl⟩
    · exact (h.presents r hold).imp fun e he => he.imp_left (Provided.append · v)
  · rcases registered_append.1 he with he | ⟨he, -⟩
    · exact (h.listed e he).imp_right Entries.isSome_get?_set
    · obtain rfl : d = e := by rwa [hrequest, Request.register.injEq] at he
      exact ⟨hcustom, Option.isSome_of_eq_some (Entries.get?_set_self d.code _ c.rows)⟩
  · rw [definition?]
    rcases he with he | ⟨hcode, e, he, rfl, rfl⟩
    · rw [he]
    · rw [hcode]
      dsimp only
      rcases registered_append.1 he with he | ⟨he, -⟩
      · rw [Entries.get?_set_of_ne (hother he)]
        have hold := h.provided e.code _ (.inr ⟨hcode, e, he, rfl, rfl⟩)
        rwa [definition?, hcode] at hold
      · obtain rfl : d = e := by rwa [hrequest, Request.register.injEq] at he
        exact Entries.get?_set_self _ _ _
  · show (c.put _).switch code = _
    have hswitched : switched? code v = none := by rw [switched?, hrequest]
    rw [List.filterMap_append, List.filterMap_cons, hswitched, List.filterMap_nil, List.append_nil,
      ← h.switched, switch_put]
    split
    · -- It was on before, as it had no row.
      rename_i hcode
      rw [hcode, switch]
      show _ = ((c.row? d.code).map (·.active)).getD true
      rw [hnew]
      rfl
    · rfl

/-- **What one call keeps**: the catalog holds what the history makes of it, the call included. -/
theorem Reflects.after (h : c.Reflects past) (t : Call) :
    (t.after c).Reflects (past ++ [(c, t)]) := by
  obtain ⟨now, report, request⟩ := t
  -- Only a request to switch adds a switch to the history.
  have hother (hrequest : ∀ code active, request ≠ .toggle code active) (code : String) :
      switched? code (c, ⟨now, report, request⟩) = none := by
    rw [switched?]
    cases request with
    | toggle code active => exact absurd rfl (hrequest code active)
    | _ => rfl
  cases request with
  | seed => exact (h.seed now).append (hother nofun) nofun
  | list provider => exact (h.seeded now).append (hother nofun) nofun
  | select provider => exact (h.seeded now).append (hother nofun) nofun
  | audit text provider template =>
    rw [Call.after, Request.run]
    split
    · exact h.append (hother nofun) nofun
    · exact (h.seeded now).append (hother nofun) nofun
  | toggle code active =>
    rw [Call.after_toggle]
    obtain ⟨-, htoggle⟩ | ⟨r, hr, htoggle⟩ := c.toggle_cases now code active
    · -- A switch that failed does not count.
      rw [htoggle]
      refine (h.seeded now).append (fun other => ?_) nofun
      rw [switched?, Call.answer_toggle, htoggle]
      exact if_neg fun hv => Bool.false_ne_true hv.2
    · rw [htoggle]
      refine (h.seeded now).set hr rfl ?_
      rw [Call.answer_toggle, htoggle]
      rfl
  | register d =>
    rw [Call.after_register]
    obtain ⟨-, f, hregister⟩ | ⟨hfree, hregister⟩ := c.register_cases now d
    · rw [hregister]
      refine h.append (hother nofun) fun e he => ?_
      obtain rfl : d = e := by rwa [Request.register.injEq] at he
      rw [Call.answer_register, hregister]
      exact Bool.false_ne_true
    · rw [hregister]
      refine h.register hfree rfl ?_
      rw [Call.answer_register, hregister]
      rfl

/-- A run is a history of its own. -/
theorem Reflects.afterAll (h : c.Reflects past) (ts : List Call) :
    (c.afterAll ts).Reflects (past ++ c.visits ts) := by
  induction ts generalizing c past with
  | nil => rwa [visits, List.append_nil]
  | cons t ts ih =>
    have hrest := ih (h.after t)
    rwa [List.append_assoc, List.singleton_append] at hrest

theorem reflects_empty (registered : Entries Definition) : Reflects ⟨[], registered⟩ [] where
  nodup := List.nodup_nil
  keyed := nofun
  presents := nofun
  listed := fun _ ⟨_, hv, _⟩ => by cases hv
  provided := fun code d hd => by
    rcases hd with hd | ⟨-, _, ⟨_, hv, _⟩, _⟩
    · rw [definition?, hd]
    · cases hv
  switched := fun _ => rfl

/-! ## What a call leaves and answers -/

/-- A row that there is stays where it is. -/
theorem prefix_put (c : Catalog) (r : Row) : c.codes <+: (c.put r).codes := by
  rw [codes_put]
  exact List.prefix_append _ _

/-- No call drops a row. -/
theorem prefix_after (t : Call) (c : Catalog) :
    c.codes <+: (t.after c).codes := by
  obtain ⟨now, report, request⟩ := t
  cases request with
  | seed =>
    show _ <+: (c.seed now).2.codes
    rw [codes_seed]
    exact List.prefix_append _ _
  | list provider => exact c.prefix_seeded now
  | select provider => exact c.prefix_seeded now
  | audit text provider template =>
    rw [Call.after, Request.run]
    split
    · exact List.prefix_rfl
    · exact c.prefix_seeded now
  | toggle code active =>
    rw [Call.after_toggle]
    obtain ⟨-, htoggle⟩ | ⟨r, hr, htoggle⟩ := c.toggle_cases now code active
    · rw [htoggle]
      exact c.prefix_seeded now
    · rw [htoggle]
      -- The row is written where it stands.
      refine (c.prefix_seeded now).trans ?_
      rw [codes, codes, Entries.map_fst_set]
      exact List.prefix_append _ _
  | register d =>
    rw [Call.after_register]
    obtain ⟨-, f, hregister⟩ | ⟨-, hregister⟩ := c.register_cases now d
    · simp only [hregister, List.prefix_rfl]
    · rw [hregister]
      exact c.prefix_put _

theorem prefix_afterAll (c : Catalog) (ts : List Call) :
    c.codes <+: (c.afterAll ts).codes := by
  induction ts generalizing c with
  | nil => exact List.prefix_rfl
  | cons t ts ih => exact (prefix_after t c).trans (ih _)

end Catalog

/-! ## Listings -/

namespace Row

/-- One row is shown before another: by field, then the graver first, then by code. -/
def Before (r s : Row) : Prop :=
  r.category.word < s.category.word ∨ r.category.word = s.category.word ∧
    (r.severity.rank < s.severity.rank ∨ r.severity.rank = s.severity.rank ∧ r.code < s.code)

theorem compare_eq_lt {a b : String} : compare a b = .lt ↔ a < b :=
  compareOfLessAndEq_eq_lt

theorem order_eq_lt {r s : Row} : r.order s = .lt ↔ r.Before s := by
  simp only [order, Ordering.then_eq_lt, compare_eq_lt, Std.LawfulEqCmp.compare_eq_iff_eq,
    Nat.compare_eq_lt, Before]

theorem code_of_order_eq {r s : Row} (h : r.order s = .eq) : r.code = s.code := by
  simp only [order, Ordering.then_eq_eq, Std.LawfulEqCmp.compare_eq_iff_eq] at h
  exact h.2.2

instance : Std.TransCmp order :=
  inferInstanceAs (Std.TransCmp (compareLex (compareOn fun r : Row => r.category.word)
    (compareLex (compareOn fun r : Row => r.severity.rank) (compareOn fun r : Row => r.code))))

end Row

namespace Catalog

theorem Stocked.map_code_all (h : c.Stocked past) : c.all.map (·.code) = c.codes := by
  rw [all, codes, List.map_map]
  exact List.map_congr_left h.keyed

/-- The rows of a provider, or all rows. -/
def rowsOf (c : Catalog) : Option String → List Row
  | none => c.all
  | some p => c.all.filter (·.serves p)

theorem rowsOf_sublist (c : Catalog) (provider : Option String) :
    (c.rowsOf provider).Sublist c.all := by
  cases provider with
  | none => exact List.Sublist.refl _
  | some p => exact List.filter_sublist

/-- **A listing** shows each row of a provider once, in their order. -/
theorem Stocked.listing_ordered (h : c.Stocked past) (provider : Option String) :
    (c.listing provider).Perm (c.rowsOf provider) ∧
      (c.listing provider).Pairwise Row.Before := by
  have hlisting : c.listing provider =
      (c.rowsOf provider).mergeSort fun r s => (r.order s).isLE := by
    cases provider <;> rfl
  have hperm : (c.listing provider).Perm (c.rowsOf provider) := by
    rw [hlisting]
    exact List.mergeSort_perm _ _
  refine ⟨hperm, ?_⟩
  have hsorted : (c.listing provider).Pairwise fun r s => (r.order s).isLE = true := by
    rw [hlisting]
    refine List.pairwise_mergeSort (fun _ _ _ => Std.TransCmp.isLE_trans) (fun r s => ?_) _
    have hswap : s.order r = (r.order s).swap := Std.OrientedCmp.eq_swap
    rw [hswap]
    cases r.order s <;> rfl
  -- Rows of different codes are not equal in the order.
  have hdistinct : (c.listing provider).Pairwise fun r s => r.code ≠ s.code := by
    have hcodes : ((c.listing provider).map (·.code)).Nodup := by
      rw [(hperm.map _).nodup_iff]
      exact (h.map_code_all ▸ h.nodup : (c.all.map (·.code)).Nodup).sublist
        ((c.rowsOf_sublist provider).map _)
    exact List.pairwise_map.1 hcodes
  refine (hsorted.and hdistinct).imp fun {r s} hrs => ?_
  rcases Ordering.isLE_iff_eq_lt_or_eq_eq.1 hrs.1 with hlt | heq
  · exact Row.order_eq_lt.1 hlt
  · exact absurd (Row.code_of_order_eq heq) hrs.2

/-- The policies of an audit are the rows that are switched on for the provider, all of which have
an evaluator. -/
theorem Stocked.active_policies (h : c.Stocked past) (provider : String) :
    (c.active provider).map (·.1) = c.all.filter (fun r => r.active && r.serves provider) ∧
      ∀ p ∈ c.active provider, Provided past p.1.code p.2 := by
  have hdefinition {r : Row} (hr : r ∈ c.all) :
      ∃ d, Provided past r.code d ∧ c.definition? r.code = some d :=
    (h.presents r hr).imp fun d hd => ⟨hd.1, h.provided r.code d hd.1⟩
  constructor
  · rw [map_fst_active]
    refine List.filter_congr fun r hr => ?_
    obtain ⟨d, -, hd⟩ := hdefinition hr
    rw [hd, Option.isSome_some, Bool.and_true]
  · intro p hp
    have hrow : p.1 ∈ c.all := by
      have hmem := List.mem_map_of_mem (f := (·.1)) hp
      rw [map_fst_active] at hmem
      exact List.mem_of_mem_filter hmem
    obtain ⟨d, hprovided, hd⟩ := hdefinition hrow
    rw [definition?_of_mem_active hp, Option.some.injEq] at hd
    rwa [hd]

end Catalog

/-- **What a call comes to**, by its request. Seeding tells the number of new rows. A policy is
registered under a code that is free, and otherwise nothing changes. A code without a row is not
switched, and nothing but seeding has happened then. Listings and audits see the seeded catalog. -/
def Call.Does (t : Call) (c : Catalog) : Prop :=
  match t.request with
  | .seed => ∃ n, t.answer c = .ok (.seeded n) ∧ (t.after c).all.length = c.all.length + n
  | .register d =>
    (c.Free d.code ∧ t.answer c = .ok (.row ({ d with builtIn := false }.row t.now))) ∨
    ¬ c.Free d.code ∧ Fails (t.answer c) ∧ t.after c = c
  | .toggle code active => match (c.seeded t.now).row? code with
    | some r => t.answer c = .ok (.row { r with active := active, updatedAt := t.now })
    | none => t.answer c = .error (.notFound "Policy") ∧ t.after c = c.seeded t.now
  | .list provider => t.after c = c.seeded t.now ∧
    ∃ rs, t.answer c = .ok (.rows rs) ∧ rs.Perm ((t.after c).rowsOf provider) ∧
      rs.Pairwise Row.Before
  | .select provider => t.after c = c.seeded t.now ∧
    t.answer c = .ok (.policies ((t.after c).active provider))
  | .audit text provider template =>
    (Auditable text ∧ t.after c = c.seeded t.now ∧ ∃ r, t.answer c = .ok (.report r) ∧
      r.Accounts ((t.after c).active provider) (subject text provider template)) ∨
    ¬ Auditable text ∧ Fails (t.answer c) ∧ (t.after c = c ∨ t.after c = c.seeded t.now)

/-- What a call comes to in a catalog that a history has stocked. -/
theorem Catalog.Stocked.does (h : c.Stocked past) (t : Call) : t.Does c := by
  obtain ⟨now, report, request⟩ := t
  rw [Call.Does]
  cases request with
  | seed => exact ⟨_, rfl, c.length_seed now⟩
  | register d =>
    obtain ⟨hfree, f, hregister⟩ | ⟨hfree, hregister⟩ := c.register_cases now d
    · rw [Call.answer_register, Call.after_register, hregister]
      exact .inr ⟨hfree, ⟨f, rfl⟩, rfl⟩
    · rw [Call.answer_register, hregister]
      exact .inl ⟨hfree, rfl⟩
  | toggle code active =>
    obtain ⟨hnone, htoggle⟩ | ⟨r, hr, htoggle⟩ := c.toggle_cases now code active
    · dsimp only
      rw [hnone, Call.answer_toggle, Call.after_toggle, htoggle]
      exact ⟨rfl, rfl⟩
    · dsimp only
      rw [hr, Call.answer_toggle, htoggle]
      rfl
  | list provider => exact ⟨rfl, _, rfl, (h.seeded now).listing_ordered provider⟩
  | select provider => exact ⟨rfl, rfl⟩
  | audit text provider template =>
    dsimp only
    rw [Call.answer, Call.after, Request.run, Hcl.scannable]
    -- The nesting can be too deep for the reader, or only for the report on costs.
    by_cases hauditable : Auditable text
    · rw [if_pos hauditable.1]
      refine .inl ⟨hauditable, rfl, _, ?_, reportOn_accounts _ report now _⟩
      dsimp only
      rw [priceable_of_auditable hauditable]
      rfl
    · by_cases hscan : Hcl.isScannable text.toList = true
      · rw [if_pos hscan]
        refine .inr ⟨hauditable, ?_, .inr rfl⟩
        dsimp only
        rw [priceable_of_not_auditable hscan hauditable]
        exact ⟨_, rfl⟩
      · rw [if_neg hscan]
        exact .inr ⟨hauditable, ⟨_, rfl⟩, .inl rfl⟩

/-- **The catalog over a run** that begins without rows. Each code has one row, which stands where
it was put, shows the policy of its code and is switched as it was last, on if it never was. The
policies of an audit are the rows that are switched on for the provider, each with the evaluator
that is built in under its code or was registered under it. And each call comes to what its request
says. -/
theorem catalog_of_run (registered : Entries Definition) (ts later : List Call) (t : Call) :
    let c := Catalog.afterAll ⟨[], registered⟩ ts
    c.Reflects (Catalog.visits ⟨[], registered⟩ ts) ∧
      (∀ provider, (c.active provider).map (·.1) =
          c.all.filter (fun r => r.active && r.serves provider) ∧
        ∀ p ∈ c.active provider, Provided (Catalog.visits ⟨[], registered⟩ ts) p.1.code p.2) ∧
      c.codes <+: (c.afterAll later).codes ∧ t.Does c := by
  intro c
  have hreflects : c.Reflects (Catalog.visits ⟨[], registered⟩ ts) :=
    (Catalog.reflects_empty registered).afterAll ts
  exact ⟨hreflects, hreflects.active_policies, c.prefix_afterAll later, hreflects.does t⟩

end Groundplan.Policy
