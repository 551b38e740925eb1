import Groundplan.Proofs.Identity
import Groundplan.Proofs.Tenancy.Permissions

/-!
# What is kept of the resources that are found

Resources are kept under their connection and their identifier, whatever their type. When stock is
taken of a connection, each resource that is found replaces what is kept under its identifier, so
that the last one that is found under an identifier stays. A table and a bucket of the same name have
the same identifier; only the one that is listed later is kept.

## Main definitions

* `Inventory.Distinct`: no two records are of one resource
* `Kept`: what is kept of the resources that were found

## Main results

* `Inventory.Distinct.insert`, `Inventory.Distinct.under_insert`: one resource that is written
* `Task.distinct`, `distinct_afterAll`: **no two records are of one resource**, over any run
* `found_kept`: **the last resource that is found under an identifier is kept**
* `bucket_not_kept`: a bucket that is found and not kept
-/

namespace Groundplan

variable {inv : Inventory} {r k : LiveResource}

/-! ## Inventories -/

namespace Inventory

/-- **No two records are of one resource**, and each has an identifier that can serve as one. -/
structure Distinct (inv : Inventory) : Prop where
  keys : ∀ r ∈ inv, LiveResource.isKey r.id
  pairwise : inv.Pairwise fun r s => r.sameKey s = false

theorem distinct_nil : Distinct [] :=
  ⟨nofun, .nil⟩

theorem distinct_cons : Distinct (r :: inv) ↔
    LiveResource.isKey r.id ∧ (∀ s ∈ inv, r.sameKey s = false) ∧ Distinct inv := by
  constructor
  · rintro ⟨hkeys, hpairs⟩
    rw [List.forall_mem_cons] at hkeys
    rw [List.pairwise_cons] at hpairs
    exact ⟨hkeys.1, hpairs.1, hkeys.2, hpairs.2⟩
  · rintro ⟨hkey, hother, hkeys, hpairs⟩
    exact ⟨List.forall_mem_cons.2 ⟨hkey, hkeys⟩, List.pairwise_cons.2 ⟨hother, hpairs⟩⟩

theorem Distinct.filter (h : Distinct inv) (p : LiveResource → Bool) : Distinct (inv.filter p) :=
  ⟨fun r hr => h.keys r (List.mem_of_mem_filter hr), h.pairwise.filter p⟩

theorem mem_insert_self (r : LiveResource) (inv : Inventory) : r ∈ inv.insert r := by
  induction inv with
  | nil => exact List.mem_singleton_self r
  | cons s inv ih =>
    rw [insert]
    split
    · exact List.mem_cons_self
    · exact List.mem_cons_of_mem _ ih

/-- What is of another resource stays. -/
theorem mem_insert_of_ne (hk : k ∈ inv) (hne : k.sameKey r = false) : k ∈ inv.insert r := by
  induction inv with
  | nil => cases hk
  | cons s inv ih =>
    rw [insert]
    rcases List.mem_cons.1 hk with rfl | hk
    · rw [hne]
      exact List.mem_cons_self
    · split
      · exact List.mem_cons_of_mem _ hk
      · exact List.mem_cons_of_mem _ (ih hk)

/-- One resource that is written is of one record. -/
theorem Distinct.insert (h : Distinct inv) (hr : LiveResource.isKey r.id) :
    Distinct (inv.insert r) := by
  induction inv with
  | nil => exact distinct_cons.2 ⟨hr, nofun, distinct_nil⟩
  | cons s inv ih =>
    obtain ⟨hs, hother, hinv⟩ := distinct_cons.1 h
    rw [Inventory.insert]
    split
    · rename_i hsame
      refine distinct_cons.2 ⟨hr, fun y hy => ?_, hinv⟩
      rw [← LiveResource.sameKey_congr hs hr hsame]
      exact hother y hy
    · rename_i hsame
      refine distinct_cons.2 ⟨hs, fun y hy => ?_, ih hinv⟩
      rcases Tenancy.mem_of_mem_insert hy with rfl | hy
      · exact Bool.eq_false_iff.2 hsame
      · exact hother y hy

/-- The records of the same resource as a given one. -/
def under (k : LiveResource) (inv : Inventory) : Inventory :=
  inv.filter fun r => r.sameKey k

theorem under_cons (k r : LiveResource) (inv : Inventory) :
    under k (r :: inv) = if r.sameKey k then r :: under k inv else under k inv :=
  List.filter_cons

/-- What is kept of a resource that is written is what was written. -/
theorem Distinct.under_insert (h : Distinct inv) (hr : LiveResource.isKey r.id)
    (hself : r.sameKey r) : under r (inv.insert r) = [r] := by
  induction inv with
  | nil => rw [Inventory.insert, under_cons, if_pos hself]; rfl
  | cons s inv ih =>
    obtain ⟨hs, hother, hinv⟩ := distinct_cons.1 h
    rw [Inventory.insert]
    split
    · rename_i hsame
      rw [under_cons, if_pos hself, under, List.filter_eq_nil_iff.2]
      -- The record that was replaced was the only one of the resource.
      intro y hy hyr
      have hsy := hother y hy
      rw [LiveResource.sameKey_congr hs hr hsame, LiveResource.sameKey_comm hr (hinv.keys y hy),
        hyr] at hsy
      cases hsy
    · rename_i hsame
      rw [under_cons, if_neg hsame, ih hinv]

/-- What is kept of other resources stays. -/
theorem Distinct.under_insert_of_ne (h : Distinct inv) (hr : LiveResource.isKey r.id)
    (hne : r.sameKey k = false) : under k (inv.insert r) = under k inv := by
  have hne : ¬ r.sameKey k := by simp [hne]
  induction inv with
  | nil => rw [Inventory.insert, under_cons, if_neg hne]
  | cons s inv ih =>
    obtain ⟨hs, -, hinv⟩ := distinct_cons.1 h
    rw [Inventory.insert]
    split
    · rename_i hsame
      have hsk : ¬ s.sameKey k := by rwa [LiveResource.sameKey_congr hs hr hsame]
      rw [under_cons, if_neg hne, under_cons, if_neg hsk]
    · rw [under_cons, under_cons, ih hinv]

/-- Resources that are written one after the other. -/
def insertAll (inv : Inventory) (rs : List LiveResource) : Inventory :=
  rs.foldl (fun inv r => inv.insert r) inv

theorem Distinct.insertAll {rs : List LiveResource} (h : Distinct inv)
    (hrs : ∀ r ∈ rs, LiveResource.isKey r.id) : Distinct (inv.insertAll rs) := by
  induction rs generalizing inv with
  | nil => exact h
  | cons r rs ih =>
    rw [List.forall_mem_cons] at hrs
    exact ih (h.insert hrs.1) hrs.2

/-- Resources under other identifiers leave what is kept under one alone. -/
theorem Distinct.insertAll_of_ne {rs : List LiveResource} (h : Distinct inv)
    (hrs : ∀ r ∈ rs, LiveResource.isKey r.id) (hk : LiveResource.isKey k.id)
    (hne : ∀ r ∈ rs, r.sameKey k = false) :
    under k (inv.insertAll rs) = under k inv ∧ (k ∈ inv → k ∈ inv.insertAll rs) := by
  induction rs generalizing inv with
  | nil => exact ⟨rfl, id⟩
  | cons r rs ih =>
    rw [List.forall_mem_cons] at hrs hne
    obtain ⟨hunder, hmem⟩ := ih (h.insert hrs.1) hrs.2 hne.2
    refine ⟨hunder.trans (h.under_insert_of_ne hrs.1 hne.1), fun hk' => hmem ?_⟩
    exact mem_insert_of_ne hk' (by rw [LiveResource.sameKey_comm hk hrs.1, hne.1])

/-- **The last resource that is written under an identifier** is kept, and no other. -/
theorem Distinct.insertAll_last {before after : List LiveResource} (h : Distinct inv)
    (hrs : ∀ r ∈ before ++ k :: after, LiveResource.isKey r.id)
    (hlast : ∀ r ∈ after, r.sameKey k = false) :
    k ∈ inv.insertAll (before ++ k :: after) ∧
      (k.sameKey k → under k (inv.insertAll (before ++ k :: after)) = [k]) := by
  rw [List.forall_mem_append, List.forall_mem_cons] at hrs
  obtain ⟨hbefore, hk, hafter⟩ := hrs
  have hdistinct := h.insertAll hbefore
  have hsplit : inv.insertAll (before ++ k :: after) =
      (((inv.insertAll before).insert k).insertAll after) := by
    rw [Inventory.insertAll, List.foldl_append]
    rfl
  obtain ⟨hunder, hmem⟩ := (hdistinct.insert hk).insertAll_of_ne hafter hk hlast
  rw [hsplit]
  exact ⟨hmem (mem_insert_self k _), fun hself => hunder.trans (hdistinct.under_insert hk hself)⟩

end Inventory

/-! ## Runs -/

/-- **What is kept of the resources that were found**, in the order in which they were found. -/
structure Kept (found all : List LiveResource) : Prop where
  /-- A resource is kept as it was found, unless another one was found later under its
  identifier. -/
  last : ∀ before r after, found = before ++ r :: after → (∀ x ∈ after, x.id.same r.id = false) →
    r ∈ all
  /-- It is all that is kept under the identifier. -/
  only : ∀ before r after, found = before ++ r :: after → (∀ x ∈ after, x.id.same r.id = false) →
    ∀ x ∈ found, r.id.same x.id → all.filter (fun y => y.id.same x.id) = [r]

variable {w : World} {s t : Installation} {user id : String} {c : Connection}

/-- Resources that were written were all such that they could be. -/
theorem putResources_ok {rs : List LiveResource} (h : putResources rs s = (.ok (), t)) :
    (∀ r ∈ rs, LiveResource.isKey r.id) ∧ t = { s with inventory := s.inventory.insertAll rs } := by
  induction rs generalizing s with
  | nil =>
    cases h
    exact ⟨nofun, rfl⟩
  | cons r rs ih =>
    rw [putResources_cons] at h
    split at h
    · rename_i hr
      obtain ⟨hrs, ht⟩ := ih h
      exact ⟨List.forall_mem_cons.2 ⟨hr, hrs⟩, ht⟩
    · cases h

theorem distinct_putResources {rs : List LiveResource} (h : s.inventory.Distinct) :
    (putResources rs s).2.inventory.Distinct := by
  -- Induction on the resources; one that cannot be written ends it with those before it written.
  induction rs generalizing s with
  | nil => exact h
  | cons r rs ih =>
    rw [putResources_cons]
    split
    · rename_i hr
      exact ih (s := { s with inventory := s.inventory.insert r }) (h.insert hr)
    · exact h

/-- What a connection that works afterwards was, what was found, and what was written. -/
theorem syncConnection_ok (h : syncConnection w user id s = (.ok c, t)) :
    ∃ c' found b es, ownConnection s user id = .ok c' ∧ c.id = c'.id ∧ c.user = c'.user ∧
      w.account.outcome (discover w.now c.region c.id) = .ok found ∧
      (∀ r ∈ found.resources, r.connection = c.id ∧ LiveResource.isKey r.id) ∧
      t = { s with
        connections := Entries.set c.id c s.connections
        inventory := s.inventory.insertAll found.resources
        sessionBreaker := b
        events := s.events ++ es } := by
  cases hown : ownConnection s user id with
  | error f =>
    rw [syncConnection, Action.bind_apply, connectionOf, hown] at h
    cases h
  | ok c' =>
    -- It works afterwards only if each part went well: the look-up, the discovery, the writing.
    obtain ⟨es, hasked⟩ := asks_discoverConnection w c' s
    rw [syncConnection_apply hown] at h
    cases hrun : discoverConnection w c' s with
    | mk answer a =>
      rw [hrun] at h hasked
      cases answer with
      | error f => cases h
      | ok found =>
        dsimp only at h
        cases hput : putResources found.resources a with
        | mk answer u =>
          rw [hput] at h
          cases answer with
          | error f => cases h
          | ok _ =>
            cases h
            obtain ⟨hkeys, rfl⟩ := putResources_ok hput
            obtain ⟨b, rfl⟩ := hasked
            have hconnection := Tenancy.discoverConnection_connection hrun
            exact ⟨c', found, b, es, rfl, rfl, rfl, outcome_of_discoverConnection hrun,
              fun r hr => ⟨hconnection r hr, hkeys r hr⟩, rfl⟩

/-- The resources of a connection of a user. -/
theorem resourcesOf_apply (hown : ownConnection s user id = .ok c) (type : Option String) :
    resourcesOf user id type s = (.ok (s.inventory.ofConnection id type), s) := by
  rw [resourcesOf, Action.bind_apply, connectionOf, hown]
  rfl

/-- The resources of a type are those of the connection that are of it. -/
theorem ofConnection_type (inv : Inventory) (id type : String) :
    inv.ofConnection id (some type) = (inv.ofConnection id none).filter fun r => r.type == type := by
  rw [Inventory.ofConnection, Inventory.ofConnection, List.filter_filter]
  refine List.filter_congr fun r _ => ?_
  have hcomm : (type == r.type) = (r.type == type) := Bool.beq_comm ..
  simp [hcomm, Bool.and_comm]

/-- What is found for a connection, once it is written. -/
theorem kept_insertAll {found : List LiveResource} (hs : inv.Distinct)
    (hfound : ∀ r ∈ found, r.connection = id ∧ LiveResource.isKey r.id) :
    Kept found ((inv.insertAll found).ofConnection id none) := by
  have hkeys (r : LiveResource) (hr : r ∈ found) : LiveResource.isKey r.id := (hfound r hr).2
  have hdistinct := hs.insertAll hkeys
  have hlast {before after : List LiveResource} {r : LiveResource}
      (hsplit : found = before ++ r :: after) (h : ∀ x ∈ after, x.id.same r.id = false) :
      r ∈ inv.insertAll found ∧
        (r.sameKey r → Inventory.under r (inv.insertAll found) = [r]) := by
    subst hsplit
    exact hs.insertAll_last hkeys fun x hx => by rw [LiveResource.sameKey, h x hx, Bool.and_false]
  constructor
  · intro before r after hsplit h
    have hr : r ∈ found := by simp [hsplit]
    exact List.mem_filter.2 ⟨(hlast hsplit h).1, by simp [(hfound r hr).1]⟩
  · intro before r after hsplit h x hx hsame
    have hr : r ∈ found := by simp [hsplit]
    -- The two identifiers are the same, so that either may be looked for.
    have hcongr (y : LiveResource) (hy : LiveResource.isKey y.id) :
        y.id.same x.id = y.id.same r.id := by
      rw [Data.same_comm hy (hkeys x hx), Data.same_comm hy (hkeys r hr),
        Data.same_congr (hkeys r hr) (hkeys x hx) hsame]
    have hself : r.sameKey r := by
      rw [LiveResource.sameKey, ← hcongr r (hkeys r hr), hsame, beq_self_eq_true, Bool.and_true]
    rw [← (hlast hsplit h).2 hself, Inventory.under, Inventory.ofConnection, List.filter_filter]
    refine List.filter_congr fun y hy => ?_
    rw [hcongr y (hdistinct.keys y hy), LiveResource.sameKey, (hfound r hr).1]
    simp [Bool.and_comm]

/-- **The last resource that is found under an identifier** is kept when stock is taken. -/
theorem syncConnection_kept (hs : s.inventory.Distinct)
    (hid : ∀ c, ownConnection s user id = .ok c → c.id = id)
    (h : syncConnection w user id s = (.ok c, t)) :
    ∃ found all, w.account.outcome (discover w.now c.region id) = .ok found ∧
      resourcesOf user id none t = (.ok all, t) ∧
      (∀ type, resourcesOf user id (some type) t = (.ok (all.filter fun r => r.type == type), t)) ∧
      Kept found.resources all := by
  obtain ⟨c', found, b, es, hown, hc, huser, hfound, hrs, rfl⟩ := syncConnection_ok h
  obtain rfl : c.id = id := hc.trans (hid c' hown)
  refine ⟨found, (s.inventory.insertAll found.resources).ofConnection c.id none, hfound, ?_,
    fun type => ?_, kept_insertAll hs hrs⟩
  all_goals
    refine (resourcesOf_apply (c := c) (owned_eq_ok.2 ⟨Entries.get?_set_self _ _ _, ?_⟩) _).trans ?_
    · exact huser.trans (owned_eq_ok.1 hown).2
  · rfl
  · rw [ofConnection_type]

namespace Tenancy

open Deploy

/-- Creating a connection writes no resources. -/
theorem inventory_createConnection (w : World) (user name arn external region : String)
    (s : Installation) :
    (createConnection w user name arn external region s).2.inventory = s.inventory := by
  have hassume (r : SessionRequest) : (assume w r s).2.inventory = s.inventory :=
    (quiet_assume w r).part_eq _ (fun _ => rfl) s
  -- The connection may be kept, but it has no resources.
  rcases createConnection_cases w user name arn external region s with
    hs | ⟨r, hs | ⟨c, -, -, hs⟩⟩ <;> rw [hs]
  · exact hassume r
  · exact hassume r

theorem distinct_syncConnection (hs : s.inventory.Distinct) (w : World) (user id : String) :
    (syncConnection w user id s).2.inventory.Distinct := by
  let P (t : Installation) : Prop := t.inventory.Distinct
  show P _
  have hkept {t : Installation} (ht : t.inventory = s.inventory) : P t := by
    show t.inventory.Distinct
    rwa [ht]
  refine holds_bind (a := connectionOf user id) (show P _ from hs) fun c t hfound _ => ?_
  obtain ⟨-, rfl⟩ := Prod.mk.inj hfound
  refine holds_bind (holds_catch ?_ fun f t ht => ht) fun found t _ ht => ?_
  · exact hkept ((quiet_discoverConnection w c).part_eq _ (fun _ => rfl) s)
  · exact holds_bind (distinct_putResources ht) fun _ u _ hu => hu

/-- **No two records are of one resource** after a task, if none were before. -/
theorem Task.distinct (t : Task) (hs : s.inventory.Distinct) : (t.after s).inventory.Distinct := by
  obtain ⟨w, user, request⟩ := t
  cases request with
  | manage r =>
    rw [Task.managed_after (u := ⟨w, user, r⟩) rfl, (guards_after _ s).inventory]
    exact hs
  | draft =>
    have hdraft (description provider name : String) (present : List LiveResource) :
        (Draft.draftTemplate w user description provider name present s).2.inventory =
          s.inventory :=
      part_draftTemplate (fun _ => rfl) (fun _ _ => rfl) (fun _ _ => rfl) ..
    rw [Task.after, Task.work, Request.work, after_step, hdraft]
    exact hs
  | createConnection =>
    rw [Task.after, Task.work, Request.work, after_step, inventory_createConnection]
    exact hs
  | deleteConnection id =>
    rw [Task.after, Task.work, Request.work, after_step]
    refine holds_bind (a := connectionOf user id) (P := fun t => t.inventory.Distinct) hs
      fun c t hfound _ => ?_
    obtain ⟨-, rfl⟩ := Prod.mk.inj hfound
    exact hs.filter _
  | syncConnection id =>
    rw [Task.after, Task.work, Request.work, after_step]
    exact distinct_syncConnection hs w user id
  | scanConnection id =>
    have hscan : (scanConnection w user id s).2.inventory = s.inventory :=
      part_scanConnection (fun _ => rfl) (fun _ _ => rfl) ..
    rw [Task.after, Task.work, Request.work, after_step, hscan]
    exact hs
  | getReport template =>
    rw [Task.after, Task.work, Request.work, after_step,
      (quiet_latestReport user template).part_eq Installation.inventory (fun _ => rfl)]
    exact hs
  | listResources id type =>
    rw [Task.after, Task.work, Request.work, after_step]
    exact holds_bind (a := connectionOf user id) (P := fun t => t.inventory.Distinct) hs
      fun _ _ _ ht => ht
  -- All that is left only reads.
  | _ =>
    rw [Task.after, Task.work, Request.work, after_step]
    exact hs

/-- **No two records are of one resource**, over any run of tasks of all users. -/
theorem distinct_afterAll (hs : s.inventory.Distinct) (ts : List Task) :
    (afterAll s ts).inventory.Distinct := by
  induction ts generalizing s with
  | nil => exact hs
  | cons t ts ih => exact ih (t.distinct hs)

/-- **What a user is shown of the resources that were found** when stock was taken, in any state that
can be reached: under each identifier that was found there is exactly one record, the last resource
that was found under it, with its type, name, region and metadata. So a resource gets lost only to
another one that was found after it under the same identifier. -/
theorem found_kept {ts : List Task} (hs : Blank s) (hnodup : (ts.map (·.world.recordId)).Nodup)
    (h : syncConnection w user id (afterAll s ts) = (.ok c, t)) :
    ∃ found all, w.account.outcome (discover w.now c.region id) = .ok found ∧
      resourcesOf user id none t = (.ok all, t) ∧
      (∀ type, resourcesOf user id (some type) t = (.ok (all.filter fun r => r.type == type), t)) ∧
      Kept found.resources all := by
  refine syncConnection_kept (distinct_afterAll ?_ ts) (fun c hc => id_of_run hs hnodup hc) h
  rw [hs.inventory]
  exact Inventory.distinct_nil

/-! ### A sample -/

/-- An account with a bucket and a table of the same name. -/
def namesakes : Cloud where
  call _ := .ok .null
  pages call :=
    if call.operation = "list_buckets" then
      [.ok (.map [("Buckets", .list [.map [("Name", .text "orders")]])])]
    else if call.operation = "list_tables" then
      [.ok (.map [("TableNames", .list [.text "orders"])])]
    else []
  paginates _ _ := true

/-- A world in which a role reads that account. -/
def namesakesWorld : World :=
  { sampleWorld "m" with account := namesakes }

/-- The types of the resources of the connection, all or those of a type. -/
def sampleTypes (s : Installation) (type : Option String) : Option (List String) :=
  (resourcesOf "v" "n" type s).1.toOption.map (List.map LiveResource.type)

/-- Stock is taken of that account, and the table is kept. -/
theorem namesakes_synced : ∃ c t,
    syncConnection namesakesWorld "v" "n" (afterAll sampleBlank sampleConnecting) = (.ok c, t) ∧
      sampleTypes t none = some ["dynamodb_table"] ∧ sampleTypes t (some "s3_bucket") = some [] := by
  have hrun : let o := syncConnection namesakesWorld "v" "n" (afterAll sampleBlank sampleConnecting)
      o.1.isOk ∧ sampleTypes o.2 none = some ["dynamodb_table"] ∧
        sampleTypes o.2 (some "s3_bucket") = some [] := by
    decide +kernel
  generalize syncConnection namesakesWorld "v" "n" (afterAll sampleBlank sampleConnecting) = o at hrun
  obtain ⟨f | c, t⟩ := o
  · cases hrun.1
  · exact ⟨c, t, rfl, hrun.2⟩

/-- A bucket and a table of the same name are found, and one record is kept of both. -/
theorem found_kept_sample : ∃ c t found all,
    syncConnection namesakesWorld "v" "n" (afterAll sampleBlank sampleConnecting) = (.ok c, t) ∧
      namesakes.outcome (discover 0 c.region "n") = .ok found ∧
      resourcesOf "v" "n" none t = (.ok all, t) ∧ Kept found.resources all ∧
      found.resources.map LiveResource.type = ["s3_bucket", "dynamodb_table"] ∧
      all.map LiveResource.type = ["dynamodb_table"] := by
  obtain ⟨c, t, hsync, htypes, -⟩ := namesakes_synced
  obtain ⟨found, all, hfound, hall, -, hkept⟩ :=
    found_kept ⟨rfl, rfl, rfl, rfl, rfl, rfl⟩ (by decide) hsync
  refine ⟨c, t, found, all, hsync, hfound, hall, hkept, ?_, ?_⟩
  · have htwo : (namesakes.outcome (discover 0 c.region "n")).map
        (fun d => d.resources.map LiveResource.type) = .ok ["s3_bucket", "dynamodb_table"] := rfl
    have hfound : namesakes.outcome (discover 0 c.region "n") = .ok found := hfound
    rw [hfound] at htwo
    exact Except.ok.inj htwo
  · rw [sampleTypes, hall] at htypes
    exact Option.some.inj htypes

/-- **A bucket that is found and not kept**: taking stock works, and neither among all resources of
the connection nor among its buckets is there one. -/
theorem bucket_not_kept : ∃ c t found,
    syncConnection namesakesWorld "v" "n" (afterAll sampleBlank sampleConnecting) = (.ok c, t) ∧
      namesakes.outcome (discover 0 c.region "n") = .ok found ∧
      (∃ r ∈ found.resources, r.type = "s3_bucket" ∧ r.id = .text "orders") ∧
      sampleTypes t none = some ["dynamodb_table"] ∧ sampleTypes t (some "s3_bucket") = some [] := by
  obtain ⟨c, t, hsync, hall, hbuckets⟩ := namesakes_synced
  exact ⟨c, t, _, hsync, rfl, ⟨_, List.mem_cons_self, rfl, rfl⟩, hall, hbuckets⟩

end Tenancy

end Groundplan
