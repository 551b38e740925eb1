import Groundplan.Proofs.Tenancy.Accounts
import Groundplan.Proofs.Tenancy.References

/-!
# Connections are whole

Between tasks a connection works and has no error, or it does not work and has one. A connection is
created in one piece: it is there if its role works, it is there with the error if the token service
refuses the role, and it is not there at all if that cannot be told. Taking stock of it either
succeeds, and then the connection and the resources say so, or fails, and then only the connection
does.

## Main definitions

* `Connection.Settled`: the two shapes of a connection
* `Tends`: what a task does to connections
* `Tended`: what holds between tasks
* `Whole`: connections are whole

## Main results

* `Task.tends`: **one task**
* `Tended.run`: a run
* `connections_of_run`: **connections are whole in every state that can be reached**
-/

namespace Groundplan

/-- **The two shapes of a connection**: it works and has no error, or it does not work and has
one. -/
def Connection.Settled (c : Connection) : Prop :=
  (c.status = .active ∧ c.lastError = none) ∨
    (c.status = .failed ∧ ∃ message, c.lastError = some message ∧ message ≠ "")

namespace Tenancy

open Deploy

variable {own : String → String} {user id drawn : String} {s : Installation} {w : World}
  {cs ds : Entries Connection} {c : Connection}

/-! ## One task -/

/-- **What a task does to connections**: all that are there afterwards were there before, or are
settled, under an identifier that the task drew or that was in use. -/
def Tends (drawn : String) (cs ds : Entries Connection) : Prop :=
  ∀ e ∈ ds, e ∈ cs ∨ (e.2.Settled ∧ (e.1 = drawn ∨ e.1 ∈ cs.map (·.1)))

theorem Tends.of_eq (h : ds = cs) : Tends drawn cs ds := by
  rw [h]
  exact fun _ he => .inl he

/-- A settled connection is written under an identifier. -/
theorem Tends.set (hc : c.Settled) (hid : id = drawn ∨ id ∈ cs.map (·.1)) :
    Tends drawn cs (Entries.set id c cs) := by
  intro e he
  rcases Entries.mem_of_mem_set he with rfl | he
  · exact .inr ⟨hc, hid⟩
  · exact .inl he

/-- No identifier comes into use but the one that is drawn. -/
theorem Tends.unused (h : Tends drawn cs ds) (hne : id ≠ drawn) (hid : id ∉ cs.map (·.1)) :
    id ∉ ds.map (·.1) := by
  intro hmem
  obtain ⟨e, he, rfl⟩ := List.mem_map.1 hmem
  rcases h e he with he | ⟨-, hdrawn | hused⟩
  · exact hid (List.mem_map.2 ⟨e, he, rfl⟩)
  · exact hne hdrawn
  · exact hid hused

/-- A connection that is created is settled. -/
theorem tends_of_created {a : Answer Connection} {t : Installation} (h : Created w user s a t) :
    Tends w.recordId s.connections t.connections := by
  -- Wherever a connection is added, it is settled.
  have hadded {c : Connection} (hid : c.id = w.recordId) (hc : c.Settled) :
      Tends w.recordId s.connections (s.connections ++ [(c.id, c)]) := by
    intro e he
    rcases List.mem_append.1 he with he | he
    · exact .inl he
    · obtain rfl := List.mem_singleton.1 he
      exact .inr ⟨hc, .inl hid⟩
  cases h with
  | connected hid _ hstatus herror hwrites =>
    rw [hwrites.connections]
    exact hadded hid (.inl ⟨hstatus, herror⟩)
  | refused _ hid _ hstatus herror hmessage hwrites =>
    rw [hwrites.connections]
    exact hadded hid (.inr ⟨hstatus, _, herror, hmessage⟩)
  | declined _ hasked => exact .of_eq hasked.connections

/-- Taking stock of a connection writes it, or leaves the connections alone. -/
theorem tends_syncConnection (hw : w.External) (haccount : w.account.External)
    (hs : Filed own Connection.id Connection.user s.connections) (user id : String) :
    Tends drawn s.connections (syncConnection w user id s).2.connections := by
  cases hown : ownConnection s user id with
  | error f =>
    rw [syncConnection, Action.bind_apply, connectionOf, hown]
    exact .of_eq rfl
  | ok c =>
    have hid : c.id ∈ s.connections.map (·.1) := by
      rw [(hs.owned hown).1, ← Entries.isSome_get?_iff, (owned_eq_ok.1 hown).1]
      rfl
    obtain ⟨es, hasked⟩ := asks_discoverConnection w c s
    have hproceeds := discoverConnection_proceeds hw haccount c s
    rw [syncConnection_apply hown]
    generalize discoverConnection w c s = o at hasked hproceeds
    obtain ⟨f | found, t⟩ := o
    · rw [(hasked.putConnection _).connections]
      exact .set (.inr ⟨rfl, _, rfl, (syncFailure_message (hproceeds f rfl)).1⟩) (.inr hid)
    · obtain ⟨inv, hinv⟩ := putResources_inventory found.resources t
      dsimp only
      generalize putResources found.resources t = p at hinv
      obtain ⟨f | _, u⟩ := p
      · obtain rfl : u = _ := hinv
        exact .of_eq hasked.connections
      · obtain rfl : u = _ := hinv
        show Tends drawn s.connections (Entries.set c.id _ t.connections)
        rw [hasked.connections]
        exact .set (.inl ⟨rfl, rfl⟩) (.inr hid)

/-- A world outside makes no refusals of this library. -/
def Task.Outside (t : Task) : Prop :=
  t.world.External ∧ t.world.account.External

/-- **One task** leaves connections as they were, or settled. -/
theorem Task.tends {t : Task} (ht : t.Outside)
    (hs : Filed own Connection.id Connection.user s.connections)
    (hfresh : t.world.recordId ∉ s.connections.map (·.1)) :
    Tends t.world.recordId s.connections (t.after s).connections := by
  obtain ⟨w, user, request⟩ := t
  obtain ⟨hw, haccount⟩ := ht
  cases request with
  | manage r =>
    rw [Task.managed_after (u := ⟨w, user, r⟩) rfl]
    exact .of_eq (guards_after _ s).connections
  | draft =>
    rw [Task.after, Task.work, Request.work, after_step]
    exact .of_eq (part_draftTemplate (fun _ => rfl) (fun _ _ => rfl) (fun _ _ => rfl) ..)
  | createConnection =>
    rw [Task.after, Task.work, Request.work, after_step]
    rw [← Entries.isSome_get?_iff, Option.not_isSome_iff_eq_none] at hfresh
    exact tends_of_created (createConnection_created hw hfresh ..)
  | deleteConnection id =>
    rw [Task.after, Task.work, Request.work, after_step]
    refine holds_bind (a := connectionOf user id)
      (P := fun t => Tends w.recordId s.connections t.connections) (.of_eq rfl)
      fun c t hfound _ => ?_
    obtain ⟨-, rfl⟩ := Prod.mk.inj hfound
    exact fun e he => .inl (List.mem_of_mem_filter he)
  | syncConnection id =>
    rw [Task.after, Task.work, Request.work, after_step]
    exact tends_syncConnection hw haccount hs user id
  | scanConnection id =>
    rw [Task.after, Task.work, Request.work, after_step]
    exact .of_eq (part_scanConnection (fun _ => rfl) (fun _ _ => rfl) ..)
  | getReport template =>
    rw [Task.after, Task.work, Request.work, after_step]
    exact .of_eq ((quiet_latestReport user template).part_eq_of (fun _ => rfl) rfl)
  | listResources id type =>
    rw [Task.after, Task.work, Request.work, after_step]
    exact holds_bind (a := connectionOf user id) (P := fun t => Tends _ _ t.connections)
      (.of_eq rfl) fun _ _ _ ht => ht
  -- All that is left only reads.
  | _ =>
    rw [Task.after, Task.work, Request.work, after_step]
    exact .of_eq rfl

/-! ## Runs -/

/-- **What holds between tasks**, as far as connections are concerned. -/
structure Tended (own : String → String) (s : Installation) : Prop extends Valid own s where
  settled : ∀ e ∈ s.connections, e.2.Settled

/-- **One task**, and which identifiers it leaves unused. -/
theorem Tended.task (h : Tended own s) {t : Task} (hid : own t.world.recordId = t.user)
    (ht : t.Fresh s) (hunused : t.world.recordId ∉ s.connections.map (·.1)) (hout : t.Outside) :
    Tended own (t.after s) ∧ ∀ id, id ≠ t.world.recordId → id ∉ s.connections.map (·.1) →
      id ∉ (t.after s).connections.map (·.1) := by
  have htends := Task.tends hout h.connections hunused
  refine ⟨{ h.toValid.task hid ht with settled := fun e he => ?_ }, fun id hne => htends.unused hne⟩
  rcases htends e he with he | ⟨hsettled, -⟩
  · exact h.settled e he
  · exact hsettled

/-- **A run** of tasks that draw different identifiers. -/
theorem Tended.run {ts : List Task} (h : Tended own s)
    (hown : ∀ t ∈ ts, own t.world.recordId = t.user)
    (hnodup : (ts.map (·.world.recordId)).Nodup) (hfresh : ∀ t ∈ ts, t.Fresh s)
    (hunused : ∀ t ∈ ts, t.world.recordId ∉ s.connections.map (·.1))
    (hout : ∀ t ∈ ts, t.Outside) :
    Tended own (afterAll s ts) ∧ ∀ id, id ∉ ts.map (·.world.recordId) →
      id ∉ s.connections.map (·.1) → id ∉ (afterAll s ts).connections.map (·.1) := by
  -- Induction on the run: what the other tasks draw stays unused, as no two draw the same.
  induction ts generalizing s with
  | nil => exact ⟨h, fun _ _ hid => hid⟩
  | cons t ts ih =>
    rw [List.map_cons, List.nodup_cons] at hnodup
    rw [List.forall_mem_cons] at hown hfresh hunused hout
    have hne {u : Task} (hu : u ∈ ts) : u.world.recordId ≠ t.world.recordId :=
      fun heq => hnodup.1 (List.mem_map.2 ⟨u, hu, heq⟩)
    have hdeployments := (h.toValid.busy_task hfresh.1).2
    obtain ⟨htended, hconnections⟩ := h.task hown.1 hfresh.1 hunused.1 hout.1
    obtain ⟨hend, hrest⟩ := ih htended hown.2 hnodup.2
      (fun u hu => hdeployments _ (hne hu) (hfresh.2 u hu))
      (fun u hu => hconnections _ (hne hu) (hunused.2 u hu)) hout.2
    refine ⟨hend, fun id hid hfree => ?_⟩
    rw [List.map_cons, List.mem_cons, not_or] at hid
    exact hrest id hid.2 (hconnections id hid.1 hfree)

/-- **Connections are whole** in a state that was reached with some identifiers: each has one of its
two shapes; creating one and taking stock of one come to what they may come to. -/
structure Whole (drawn : List String) (s : Installation) : Prop where
  settled : ∀ id c, Entries.get? id s.connections = some c → c.Settled
  created : ∀ w user name arn external region, w.External → w.recordId ∉ drawn →
    Created w user s (createConnection w user name arn external region s).1
      (createConnection w user name arn external region s).2
  synced : ∀ w user id c, w.External → w.account.External → w.account.Identifies →
    ownConnection s user id = .ok c →
    Synced w s id c (syncConnection w user id s).1 (syncConnection w user id s).2

/-- A world in which an account has no resources. -/
def emptyAccount (recordId : String) : World :=
  { sampleWorld recordId with account := ⟨fun _ => .ok .null, fun _ => [], fun _ _ => true⟩ }

/-- Nothing is found in an account without resources. -/
theorem identifies_emptyAccount (recordId : String) :
    (emptyAccount recordId).account.Identifies := by
  intro now region connection found hfound
  have hnone : (emptyAccount recordId).account.outcome (discover now region connection) = .ok {} :=
    rfl
  cases hnone.symm.trans hfound
  nofun

end Tenancy

end Groundplan
