import Groundplan.Proofs.Deploy.Releases
import Groundplan.Proofs.Tenancy.Requests

/-!
# What requests leave alone

The deployment service and the connections of accounts share an installation, but not their records.
A request of the service leaves the connections and their resources as they are, and any other
request leaves the credentials, the deployments and the kept states as they are. Resources are only
ever written for a connection that is there, and they go with it.

## Main definitions

* `Service`, `service`: the records that only the deployment service writes
* `Stocked`: every resource is of a connection that is there
* `Aside`: what requests beside the service keep
* `Task.managed?`: a task of the deployment service
* `Guards`: what requests of the deployment service keep
* `Deletes`: what deleting a connection comes to

## Main results

* `Task.aside`: **requests beside the deployment service**
* `Task.managed_after`, `guards_after`: **requests of the service**
* `Task.deletes`: **deleting a connection**
-/

namespace Groundplan.Tenancy

open Deploy

variable {own : String → String} {v user id : String} {s t : Installation} {w : World}
  {α β : Type} {P : Installation → Prop}

/-! ## The records of the deployment service -/

/-- **The records that only the deployment service writes**, and what its states are sealed with. -/
structure Service where
  vault : Vault
  credentials : Entries Credential
  deployments : Entries Deployment
  states : SealedRecords

/-- The records of the service in an installation. -/
def service (s : Installation) : Service :=
  ⟨s.vault, s.credentials, s.deployments, s.states⟩

/-- Every resource is of a connection that is there. -/
def Stocked (s : Installation) : Prop :=
  ∀ r ∈ s.inventory, (Entries.get? r.connection s.connections).isSome

/-- **What requests beside the service keep**: its records, and that every resource is of a
connection that is there. -/
structure Aside (x : Service) (s : Installation) : Prop where
  service : service s = x
  stocked : Stocked s

variable {x : Service}

/-- The connections and their resources may stay as they are. -/
theorem Aside.of_eq (h : Aside x s) (hservice : Tenancy.service t = Tenancy.service s)
    (hconnections : t.connections = s.connections) (hinventory : t.inventory = s.inventory) :
    Aside x t := by
  refine ⟨hservice.trans h.service, ?_⟩
  rw [Stocked, hinventory, hconnections]
  exact h.stocked

/-- A part of the records is left alone with them. -/
theorem Quiet.part_eq {a : Action α} (ha : Quiet a) (part : Installation → β)
    (hpart : ∀ s, part (records s) = part s) (s : Installation) : part (a s).2 = part s := by
  rw [← hpart, ha s, hpart]

theorem Quiet.aside {a : Action α} (ha : Quiet a) (h : Aside x s) : Aside x (a s).2 :=
  h.of_eq (ha.part_eq _ (fun _ => rfl) s) (ha.part_eq _ (fun _ => rfl) s)
    (ha.part_eq _ (fun _ => rfl) s)

theorem Aside.putConnection (h : Aside x s) (c : Connection) : Aside x (putConnection c s) :=
  ⟨h.service, fun r hr => Entries.isSome_get?_set (h.stocked r hr)⟩

/-- The resources go with their connection. -/
theorem Aside.dropConnection (h : Aside x s) (id : String) :
    Aside x { s with
      inventory := (s.inventory.dropConnection id).2
      connections := Entries.erase id s.connections } := by
  refine ⟨h.service, fun r hr => ?_⟩
  obtain ⟨hmem, hne⟩ := List.mem_filter.1 hr
  show (Entries.get? r.connection (Entries.erase id s.connections)).isSome
  rw [Entries.get?_erase_of_ne (by simpa using hne)]
  exact h.stocked r hmem

/-- An inventory with one more resource has no other resources beside it. -/
theorem mem_of_mem_insert {r y : LiveResource} {inv : Inventory} (h : y ∈ inv.insert r) :
    y = r ∨ y ∈ inv := by
  induction inv with
  | nil => exact .inl (List.mem_singleton.1 h)
  | cons z inv ih =>
    rw [Inventory.insert] at h
    split at h <;> rw [List.mem_cons] at h
    · exact h.imp_right (List.mem_cons_of_mem _)
    · rcases h with rfl | h
      · exact .inr List.mem_cons_self
      · exact (ih h).imp_right (List.mem_cons_of_mem _)

theorem Aside.upsert (h : Aside x s) {r : LiveResource}
    (hr : (Entries.get? r.connection s.connections).isSome) :
    Aside x { s with inventory := (s.inventory.upsert r).2 } := by
  refine ⟨h.service, fun y hy => ?_⟩
  rw [Inventory.upsert] at hy
  split at hy
  · rcases mem_of_mem_insert hy with rfl | hy
    · exact hr
    · exact h.stocked y hy
  · exact h.stocked y hy

/-! ## Requests beside the service -/

/-- What holds after both parts of an action. -/
theorem holds_bind {a : Action α} {k : α → Action β} (ha : P (a s).2)
    (hk : ∀ x t, a s = (.ok x, t) → P t → P (k x t).2) : P ((a >>= k) s).2 := by
  rw [Action.bind_apply]
  generalize a s = o at ha hk
  obtain ⟨f | x, t⟩ := o
  · exact ha
  · exact hk x t rfl ha

/-- What holds after an action whose failure is caught. -/
theorem holds_catch {a : Action α} {k : Failure → Action α} (ha : P (a s).2)
    (hk : ∀ f t, P t → P (k f t).2) : P (tryCatch a k s).2 := by
  rw [Action.tryCatch_apply]
  generalize a s = o at ha
  obtain ⟨f | y, t⟩ := o
  · exact hk f t ha
  · exact ha

section Parts

variable {part : Installation → β}

/-- What leaves the records alone leaves a part of them as it was. -/
theorem Quiet.part_eq_of {a : Action α} (ha : Quiet a)
    (hrecords : ∀ s, part (records s) = part s) {t : Installation} (ht : part t = part s) :
    part (a t).2 = part s :=
  (ha.part_eq part hrecords t).trans ht

/-- Drafting a template writes templates and balances, and no other part of the records. -/
theorem part_draftTemplate (hrecords : ∀ s, part (records s) = part s)
    (hcredits : ∀ s cs, part { s with credits := cs } = part s)
    (htemplates : ∀ s ts, part { s with templates := ts } = part s) (w : World)
    (user description provider name : String) (present : List LiveResource) (s : Installation) :
    part (Draft.draftTemplate w user description provider name present s).2 = part s := by
  let P (t : Installation) : Prop := part t = part s
  show P _
  rw [Draft.draftTemplate]
  -- Step by step: the check, the charge, the model, and what is saved or given back.
  refine holds_bind ((quiet_ofAnswer _).part_eq_of hrecords rfl) fun r a _ ha => ?_
  refine holds_bind (show P _ from (hcredits a _).trans ha) fun balance b _ hb => ?_
  refine holds_bind ((quiet_outcome (quiet_draftFiles w _ _ _)).part_eq_of hrecords hb)
    fun files c _ hc => ?_
  cases files with
  | ok files =>
    dsimp only
    rw [Draft.saveDraft]
    refine holds_bind ((quiet_ofAnswer _).part_eq_of hrecords hc) fun content d _ hd => ?_
    dsimp only
    split
    · exact hd
    · refine holds_bind ?_ fun _ e _ he => he
      rcases saveTemplate_cases w user r.templateName content r.provider
        (some (trimmed r.description)) d with h | ⟨x, -, -, h⟩
      · rw [h]
        exact hd
      · rw [h]
        exact (htemplates d _).trans hd
  | error f =>
    dsimp only
    split
    · exact (hcredits c _).trans hc
    · exact hc

/-- Scanning an account writes balances, and no other part of the records. -/
theorem part_scanConnection (hrecords : ∀ s, part (records s) = part s)
    (hcredits : ∀ s cs, part { s with credits := cs } = part s) (w : World) (user id : String)
    (s : Installation) : part (scanConnection w user id s).2 = part s := by
  let P (t : Installation) : Prop := part t = part s
  show P _
  rw [scanConnection]
  refine holds_bind (a := connectionOf user id) (show P _ from rfl) fun c a _ ha => ?_
  refine holds_bind ((quiet_assumeConnection w c _).part_eq_of hrecords ha) fun k b _ hb => ?_
  refine holds_bind ((quiet_checkKeys w k).part_eq_of hrecords hb) fun account d _ hd => ?_
  refine holds_bind (show P _ from (hcredits d _).trans hd) fun _ e _ he => ?_
  exact (quiet_get.bind fun s => quiet_inquire w _).part_eq_of hrecords he

end Parts

theorem aside_draftTemplate (h : Aside x s) (description provider name : String)
    (present : List LiveResource) :
    Aside x (Draft.draftTemplate w v description provider name present s).2 :=
  h.of_eq (part_draftTemplate (fun _ => rfl) (fun _ _ => rfl) (fun _ _ => rfl) ..)
    (part_draftTemplate (fun _ => rfl) (fun _ _ => rfl) (fun _ _ => rfl) ..)
    (part_draftTemplate (fun _ => rfl) (fun _ _ => rfl) (fun _ _ => rfl) ..)

theorem aside_createConnection (h : Aside x s) (name arn external region : String) :
    Aside x (createConnection w v name arn external region s).2 := by
  rcases createConnection_cases w v name arn external region s with
    hs | ⟨r, hs | ⟨c, -, -, hs⟩⟩ <;> rw [hs]
  · exact h
  · exact (quiet_assume w r).aside h
  · exact ((quiet_assume w r).aside h).putConnection c

/-- Resources are written for a connection that is there. -/
theorem aside_putResources {c : String} {rs : List LiveResource}
    (hrs : ∀ r ∈ rs, r.connection = c) (h : Aside x s)
    (hc : (Entries.get? c s.connections).isSome) : Aside x (putResources rs s).2 := by
  -- Induction on the resources, none of which changes the connections.
  induction rs generalizing s with
  | nil => exact h
  | cons r rs ih =>
    rw [List.forall_mem_cons] at hrs
    show Aside x ((Action.draw _ >>= fun _ => putResources rs) s).2
    have hwrite : Aside x { s with inventory := (s.inventory.upsert r).2 } :=
      h.upsert (by rwa [hrs.1])
    refine holds_bind (P := Aside x) hwrite fun _ t ht haside => ih hrs.2 haside ?_
    obtain rfl : { s with inventory := (s.inventory.upsert r).2 } = t := congrArg Prod.snd ht
    exact hc

/-- Taking stock writes resources of the connection that was looked up. -/
theorem aside_syncConnection (hs : Filed own Connection.id Connection.user s.connections)
    (h : Aside x s) (id : String) : Aside x (syncConnection w v id s).2 := by
  refine holds_bind (a := connectionOf v id) h fun c t hfound _ => ?_
  obtain ⟨hc, rfl⟩ := Prod.mk.inj hfound
  have hthere : (Entries.get? c.id s.connections).isSome := by
    rw [(hs.owned hc).1, (owned_eq_ok.1 hc).1]
    rfl
  have hquiet := quiet_discoverConnection w c
  refine holds_bind (holds_catch (hquiet.aside h) fun f t ht => ht.putConnection _)
    fun found t hrun ht => ?_
  rw [Action.tryCatch_apply] at hrun
  cases hdiscover : discoverConnection w c s with
  | mk answer a =>
    rw [hdiscover] at hrun
    cases answer with
    | error f => cases hrun
    | ok found =>
      cases hrun
      -- Discovery has changed no records, so that the connection is still there.
      have hconnections : t.connections = s.connections := by
        rw [← hquiet.part_eq Installation.connections (fun _ => rfl) s, hdiscover]
      refine holds_bind (aside_putResources (discoverConnection_connection hdiscover) ht ?_)
        fun _ a _ ha => ha.putConnection _
      rwa [hconnections]

theorem aside_scanConnection (h : Aside x s) (id : String) :
    Aside x (scanConnection w v id s).2 :=
  h.of_eq (part_scanConnection (fun _ => rfl) (fun _ _ => rfl) ..)
    (part_scanConnection (fun _ => rfl) (fun _ _ => rfl) ..)
    (part_scanConnection (fun _ => rfl) (fun _ _ => rfl) ..)

/-- What a request comes to that is answered in one step. -/
theorem after_step {a : Action α} (f : α → β) (s : Installation) :
    ((f <$> a.asStep).run s).2 = (a s).2 := by
  rw [run_map]
  rfl

/-- The task of the deployment service that a task is, if it is one. -/
def Task.managed? (t : Task) : Option Deploy.Task :=
  match t.request with
  | .manage r => some ⟨t.world, t.user, r⟩
  | _ => none

/-- **Requests beside the deployment service** leave its records alone, and every resource is of a
connection that is there. -/
theorem Task.aside {t : Task} (ht : t.managed? = none)
    (hs : Filed own Connection.id Connection.user s.connections) (h : Stocked s) :
    Aside (service s) (t.after s) := by
  have h : Aside (service s) s := ⟨rfl, h⟩
  obtain ⟨w, user, request⟩ := t
  rw [Task.after, Task.work, Request.work.eq_def]
  cases request with
  | manage r => cases ht
  | draft =>
    rw [after_step]
    exact aside_draftTemplate h _ _ _ _
  | createConnection =>
    rw [after_step]
    exact aside_createConnection h _ _ _ _
  | deleteConnection id =>
    rw [after_step]
    exact holds_bind (a := connectionOf user id) h fun c t _ ht => ht.dropConnection id
  | syncConnection id =>
    rw [after_step]
    exact aside_syncConnection hs h id
  | scanConnection id =>
    rw [after_step]
    exact aside_scanConnection h id
  | getReport template =>
    rw [after_step]
    exact (quiet_latestReport user template).aside h
  | listResources id type =>
    rw [after_step]
    exact holds_bind (a := connectionOf user id) h fun c t _ ht => ht
  -- All that is left only reads.
  | _ =>
    rw [after_step]
    exact h

/-! ## Requests of the service -/

/-- A request of the service does what the service does. -/
theorem Task.managed_after {t : Task} {u : Deploy.Task} (ht : t.managed? = some u)
    (s : Installation) : t.after s = u.after s := by
  obtain ⟨w, user, request⟩ := t
  cases request with
  | manage r =>
    cases ht
    rw [Task.after, Task.work, Request.work, run_map]
    rfl
  | _ => cases ht

/-- **What a request of the service keeps**: the connections, their resources, and the
credentials of deployments that are under way. -/
structure Guards (s t : Installation) : Prop where
  connections : t.connections = s.connections
  inventory : t.inventory = s.inventory
  credentials : ∀ id, isInUse s id → (Entries.get? id s.credentials).isSome →
    (Entries.get? id t.credentials).isSome

theorem Guards.refl (s : Installation) : Guards s s :=
  ⟨rfl, rfl, fun _ _ h => h⟩

theorem Quiet.guards {a : Action α} (ha : Quiet a) (h : Guards s t) : Guards s (a t).2 := by
  refine ⟨(ha.part_eq _ (fun _ => rfl) t).trans h.connections,
    (ha.part_eq _ (fun _ => rfl) t).trans h.inventory, ?_⟩
  rw [ha.part_eq Installation.credentials (fun _ => rfl) t]
  exact h.credentials

theorem Guards.putCredential (h : Guards s t) (c : Credential) : Guards s (putCredential c t) :=
  ⟨h.connections, h.inventory, fun id hid hc =>
    Entries.isSome_get?_set (h.credentials id hid hc)⟩

theorem guards_addCredential (w : World) (user name arn external : String) (s : Installation) :
    Guards s (addCredential w user name arn external s).2 := by
  rcases addCredential_cases w user name arn external s with hs | ⟨r, hs | ⟨c, -, -, hs⟩⟩ <;>
    rw [hs]
  · exact .refl s
  · exact (quiet_assume w r).guards (.refl s)
  · exact ((quiet_assume w r).guards (.refl s)).putCredential c

theorem guards_toggleCredential (w : World) (user id : String) (active : Bool)
    (s : Installation) : Guards s (toggleCredential w user id active s).2 :=
  holds_bind (a := credentialOf user id) (.refl s) fun _ _ _ ht => ht.putCredential _

/-- A credential is deleted only if no deployment under way uses it. -/
theorem guards_deleteCredential (user id : String) (s : Installation) :
    Guards s (deleteCredential user id s).2 := by
  rw [deleteCredential, Action.bind_apply, credentialOf]
  cases ownCredential s user id with
  | error f => exact .refl s
  | ok c =>
    dsimp only
    rw [Action.bind_apply, Action.get_apply]
    dsimp only
    split
    · exact .refl s
    · rename_i hfree
      refine ⟨rfl, rfl, fun other hother hthere => ?_⟩
      show (Entries.get? other (Entries.erase id s.credentials)).isSome
      rw [Entries.get?_erase_of_ne]
      · exact hthere
      · rintro rfl
        exact hfree hother

/-- What an operation leaves behind. -/
theorem Guards.of_leaves {ds : Entries Deployment} {ss : SealedRecords} {cs : Credits}
    {es : List Event} (h : Leaves s ds ss cs es t) : Guards s t := by
  obtain ⟨_, _, _, _, rfl⟩ := h
  exact ⟨rfl, rfl, fun _ _ h => h⟩

/-- **Requests of the service** keep connections, resources, and credentials in use. -/
theorem guards_after (t : Deploy.Task) (s : Installation) : Guards s (t.after s) := by
  cases hop : t.request.operation? with
  | some op =>
    -- An operation writes deployments, states and balances.
    obtain ⟨r, -, hu⟩ := t.outcome hop s
    cases hu with
    | refused _ hu => exact .of_leaves hu
    | began _ hu => exact .of_leaves hu
  | none =>
    obtain ⟨w, user, request⟩ := t
    rw [Deploy.Task.after, Deploy.Task.work, Deploy.Request.work.eq_def]
    cases request with
    | saveTemplate name content provider description =>
      rw [after_step]
      rcases saveTemplate_cases w user name content provider description s with
        hs | ⟨x, -, -, hs⟩ <;> rw [hs]
      · exact .refl s
      · exact ⟨rfl, rfl, fun _ _ h => h⟩
    | addCredential name arn external =>
      rw [after_step]
      exact guards_addCredential w user name arn external s
    | toggleCredential id active =>
      rw [after_step]
      exact guards_toggleCredential w user id active s
    | deleteCredential id =>
      rw [after_step]
      exact guards_deleteCredential user id s
    | _ => cases hop

/-! ## Deleting a connection -/

/-- **What deleting a connection comes to**: for its user the connection and its resources are gone
and all else is as it was; for anyone else nothing happens. -/
structure Deletes (t : Task) (s : Installation) (id : String) : Prop where
  deleted : ownerOf s id .connection = some t.user →
    t.answer s = .ok .deleted ∧ t.after s = { s with
      connections := s.connections.filter fun e => e.1 != id
      inventory := s.inventory.filter fun r => r.connection != id }
  denied : ownerOf s id .connection ≠ some t.user →
    t.answer s = .error (.notFound "Connection") ∧ t.after s = s

/-- **Deleting a connection.** -/
theorem Task.deletes {t : Task} (ht : t.request = .deleteConnection id) (s : Installation) :
    Deletes t s id := by
  obtain ⟨w, user, request⟩ := t
  cases ht
  constructor
  · intro howner
    obtain ⟨c, hc, huser⟩ := Option.map_eq_some_iff.1 howner
    have hfound : ownConnection s user id = .ok c := owned_eq_ok.2 ⟨hc, huser⟩
    have hrun : deleteConnection user id s = (.ok (), { s with
        connections := s.connections.filter fun e => e.1 != id
        inventory := s.inventory.filter fun r => r.connection != id }) := by
      rw [deleteConnection, Action.bind_apply, connectionOf, hfound]
      rfl
    rw [Task.answer, Task.after, Task.work, Request.work, run_map, Action.asStep,
      Routine.run_perform, hrun]
    exact ⟨rfl, rfl⟩
  · intro howner
    have hrun : ((Request.deleteConnection id).work w user).run s =
        (.error (.notFound "Connection"), s) :=
      run_step_error (o := fun s => ownConnection s user id) _ (owned_eq_notFound howner)
    exact ⟨congrArg Prod.fst hrun, congrArg Prod.snd hrun⟩

end Groundplan.Tenancy
