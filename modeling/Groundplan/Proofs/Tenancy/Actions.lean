import Groundplan.Draft.Template
import Groundplan.Policy.Actions
import Groundplan.Proofs.Cloud.Discovery
import Groundplan.Proofs.Deploy.Parts
import Groundplan.Proofs.Tenancy.Ownership

/-!
# What actions do to the records of users

Most of what actions do is of no concern to what users read: asking the outside world, working in a
workspace, auditing. What they write is written under an identifier that was drawn for their user,
which is either the one that the action draws itself or that of a record which the user has.

## Main definitions

* `records`: an installation without what concerns no user
* `Quiet`: an action that leaves the records alone
* `Mine`: a deployment of a user, of a template that is there

## Main results

* `Quiet.turn`, `Turn.bind`: parts of an action
* `turn_saveTemplate`, `turn_draftTemplate`, …: **each action that writes is a turn of its user**
-/

namespace Groundplan.Tenancy

open Deploy

variable {own : String → String} {v : String} {s t : Installation} {w : World} {α β : Type}

/-! ## Actions that leave the records alone -/

/-- An installation without what concerns no user. -/
def records (s : Installation) : Installation :=
  { s with
    catalog := {}
    history := []
    sessionBreaker := {}
    modelBreaker := {}
    window := []
    workspaces := []
    events := [] }

/-- **An action that leaves the records alone.** -/
def Quiet (a : Action α) : Prop :=
  ∀ s, records (a s).2 = records s

/-- Where the records are left alone, nothing happened to any user. -/
theorem turn_of_records (h : Orderly own s) (ht : records t = records s) : Turn own v s t := by
  obtain ⟨⟩ := s
  obtain ⟨⟩ := t
  simp only [records, Installation.mk.injEq] at ht
  obtain ⟨rfl, rfl, rfl, rfl, rfl, rfl, rfl, rfl, -, -, rfl, rfl, -⟩ := ht
  exact { Turn.refl v h with orderly := { h with }, spares := { Spares.refl own v _ with } }

theorem Quiet.turn {a : Action α} (ha : Quiet a) (h : Orderly own s) : Turn own v s (a s).2 :=
  turn_of_records h (ha s)

/-- A failure ends a sequence, and nothing was done to the records up to there. -/
theorem Quiet.bind {a : Action α} {k : α → Action β} (ha : Quiet a) (hk : ∀ x, Quiet (k x)) :
    Quiet (a >>= k) := by
  intro s
  have hs := ha s
  rw [Action.bind_apply]
  generalize a s = o at hs ⊢
  obtain ⟨f | x, t⟩ := o
  · exact hs
  · exact (hk x t).trans hs

theorem quiet_pure (x : α) : Quiet (pure x) := fun _ => rfl

theorem quiet_throw (f : Failure) : Quiet (throw f : Action α) := fun _ => rfl

theorem quiet_get : Quiet get := fun _ => rfl

/-- What follows may depend on the state that is there. -/
theorem quiet_get_bind {k : Installation → Action β} (hk : ∀ s, records (k s s).2 = records s) :
    Quiet (get >>= k) := by
  intro s
  rw [Action.bind_apply, Action.get_apply]
  exact hk s

theorem records_set_bind {k : PUnit → Action β} (ht : records t = records s)
    (hk : ∀ x, Quiet (k x)) : records ((set t >>= k) s).2 = records s := by
  rw [Action.bind_apply, Action.set_apply]
  exact (hk _ t).trans ht

theorem quiet_ofAnswer (a : Answer α) : Quiet (Action.ofAnswer a) := fun _ => rfl

theorem quiet_note (e : Event) : Quiet (Action.note e) := fun _ => rfl

theorem quiet_inquire (w : World) (q : Inquiry α) : Quiet (Action.inquire w q) := fun _ => rfl

theorem quiet_onWorkspaces (f : Workspaces → Answer α × Workspaces) : Quiet (onWorkspaces f) :=
  fun _ => rfl

theorem quiet_assume (w : World) (r : SessionRequest) : Quiet (assume w r) := by
  intro s
  rw [assume_eq]
  cases checkRoleArn r.arn with
  | error f => rfl
  | ok _ =>
    dsimp only
    split <;> rfl

theorem quiet_assumeFor (w : World) (c : Credential) (region : String) :
    Quiet (assumeFor w c region) :=
  quiet_get.bind fun _ => (quiet_ofAnswer _).bind fun _ => quiet_assume w _

theorem quiet_assumeConnection (w : World) (c : Connection) (purpose : String) :
    Quiet (assumeConnection w c purpose) :=
  quiet_get.bind fun _ => (quiet_ofAnswer _).bind fun _ => quiet_assume w _

theorem quiet_checkKeys (w : World) (k : Keys) : Quiet (checkKeys w k) := by
  refine (quiet_note _).bind fun _ => ?_
  split
  · exact quiet_ofAnswer _
  · split
    · exact quiet_throw _
    · exact quiet_throw _

theorem quiet_discoverConnection (w : World) (c : Connection) : Quiet (discoverConnection w c) := by
  refine (quiet_assumeConnection w c _).bind fun _ => (quiet_inquire w _).bind fun found => ?_
  split
  · exact quiet_throw _
  · exact quiet_pure _

theorem quiet_latestReport (user template : String) :
    Quiet (Policy.latestReport user template) := by
  refine Quiet.bind (fun _ => rfl) fun _ => quiet_get.bind fun s => ?_
  split
  · exact quiet_pure _
  · exact quiet_throw _

theorem quiet_complete (w : World) (messages temperature : Data) :
    Quiet (Draft.complete w messages temperature) := by
  refine quiet_get.bind fun s => ?_
  split
  · exact quiet_throw _
  · dsimp only
    split
    · exact quiet_throw _
    · exact (quiet_note _).bind fun _ => quiet_ofAnswer _

theorem quiet_outcome {a : Action α} (ha : Quiet a) : Quiet (Draft.outcome a) :=
  fun s => ha s

/-- Asking for a draft leaves the records alone, though it sets the breaker of the model. -/
theorem quiet_draftFiles (w : World) (prompt provider context : String) :
    Quiet (Draft.draftFiles w prompt provider context) := by
  refine quiet_get_bind fun s => ?_
  generalize s.modelBreaker.allow w.now = allowed
  refine records_set_bind rfl fun _ => ?_
  dsimp only
  split
  · exact fun _ => rfl
  · refine (quiet_outcome (quiet_complete w _ _)).bind fun reply => ?_
    exact Quiet.bind (fun _ => rfl) fun _ => (quiet_ofAnswer _).bind fun _ => quiet_ofAnswer _

/-! ## Working in a workspace -/

theorem quiet_writeFiles (id content : String) (k : Keys) (region : String) :
    Quiet (writeFiles id content k region) :=
  (quiet_onWorkspaces _).bind fun _ => quiet_get.bind fun _ => (quiet_ofAnswer _).bind fun _ =>
    quiet_onWorkspaces _

theorem quiet_runStep (w : World) (id : String) (step : Step) : Quiet (runStep w id step) :=
  fun _ => rfl

theorem quiet_runPlan (w : World) (id : String) : Quiet (runPlan w id) :=
  (quiet_runStep w id .plan).bind fun _ => (quiet_ofAnswer _).bind fun _ => quiet_pure _

theorem quiet_runApply (w : World) (id : String) : Quiet (runApply w id) :=
  (quiet_runStep w id .apply).bind fun _ => quiet_get.bind fun _ => quiet_pure _

theorem quiet_runDestroy (w : World) (id : String) (state : Option String) :
    Quiet (runDestroy w id state) := by
  cases state with
  | none => exact quiet_runStep w id .destroy
  | some text =>
    unfold runDestroy
    dsimp only
    split
    · exact (quiet_onWorkspaces _).bind fun _ => quiet_runStep w id .destroy
    · exact quiet_runStep w id .destroy

/-! ## Writing records -/

/-- **A deployment of a user**, of a template that is there. -/
structure Mine (own : String → String) (v : String) (d : Deployment) (s : Installation) : Prop where
  id : own d.id = v
  user : d.user = v
  template : own d.template = v
  made : (Entries.get? d.template s.templates).isSome

/-- A deployment stays one of its user. -/
theorem Mine.later {d : Deployment} (hd : Mine own v d s) (h : Later own s t) : Mine own v d t :=
  { hd with made := h.templates _ hd.made }

/-- What concerns the records of a deployment does not depend on how far it is. -/
theorem Mine.congr {d e : Deployment} (hd : Mine own v d s) (hid : e.id = d.id)
    (huser : e.user = d.user) (htemplate : e.template = d.template) : Mine own v e s := by
  obtain ⟨_, _, _, _⟩ := hd
  constructor <;> simpa only [hid, huser, htemplate]

variable {id : String}

theorem turn_putTemplate (h : Orderly own s) {x : Template} (hid : own x.id = v)
    (hx : x.user = v) :
    Turn own v s { s with templates := Entries.set x.id x s.templates } where
  orderly := { h with
    templates := h.templates.set rfl (hx.trans hid.symm)
    made := fun e he => ⟨(h.made e he).1, Entries.isSome_get?_set (h.made e he).2⟩ }
  templates _ hid := Entries.isSome_get?_set hid
  spares := { Spares.refl own v s with templates := .set hid x s.templates }

theorem turn_putCredential (h : Orderly own s) {c : Credential} (hid : own c.id = v)
    (hc : c.user = v) : Turn own v s (putCredential c s) :=
  { Turn.refl v h with
    orderly := { h with credentials := h.credentials.set rfl (hc.trans hid.symm) }
    spares := { Spares.refl own v s with credentials := .set hid c s.credentials } }

theorem turn_eraseCredential (h : Orderly own s) (hid : own id = v) :
    Turn own v s { s with credentials := Entries.erase id s.credentials } :=
  { Turn.refl v h with
    orderly := { h with credentials := h.credentials.erase }
    spares := { Spares.refl own v s with credentials := .erase hid s.credentials } }

theorem turn_putDeployment (h : Orderly own s) {d : Deployment} (hd : Mine own v d s) :
    Turn own v s (putDeployment d s) :=
  { Turn.refl v h with
    orderly := { h with
      deployments := h.deployments.set rfl (hd.user.trans hd.id.symm)
      made := fun e he => by
        rcases Entries.mem_of_mem_set he with rfl | he
        · exact ⟨hd.template.trans hd.id.symm, hd.made⟩
        · exact h.made e he }
    spares := { Spares.refl own v s with deployments := .set hd.id d s.deployments } }

theorem turn_keepState (h : Orderly own s) (hid : own id = v) (w : World) (text : String) :
    Turn own v s (keepState w id text s) :=
  { Turn.refl v h with
    orderly := { h with }
    spares := { Spares.refl own v s with states := .set hid _ s.states } }

theorem turn_dropState (h : Orderly own s) (hid : own id = v) : Turn own v s (dropState id s) :=
  { Turn.refl v h with
    orderly := { h with }
    spares := { Spares.refl own v s with states := .erase hid s.states } }

theorem turn_putConnection (h : Orderly own s) {c : Connection} (hid : own c.id = v)
    (hc : c.user = v) : Turn own v s (putConnection c s) :=
  { Turn.refl v h with
    orderly := { h with connections := h.connections.set rfl (hc.trans hid.symm) }
    spares := { Spares.refl own v s with connections := .set hid c s.connections } }

theorem turn_dropConnection (h : Orderly own s) (hid : own id = v) :
    Turn own v s { s with
      inventory := (s.inventory.dropConnection id).2
      connections := Entries.erase id s.connections } :=
  { Turn.refl v h with
    orderly := { h with connections := h.connections.erase }
    spares := { Spares.refl own v s with
      inventory := sameBut_dropConnection hid s.inventory
      connections := .erase hid s.connections } }

theorem turn_inventory (h : Orderly own s) {inv : Inventory}
    (hinv : SameBut (fun r => own r.connection) v s.inventory inv) :
    Turn own v s { s with inventory := inv } :=
  { Turn.refl v h with
    orderly := { h with }
    spares := { Spares.refl own v s with inventory := hinv } }

theorem turn_credits (h : Orderly own s) {c : Credits}
    (hc : ∀ u, u ≠ v → c.balance u = s.credits.balance u) :
    Turn own v s { s with credits := c } :=
  { Turn.refl v h with
    orderly := { h with }
    spares := { Spares.refl own v s with balance := hc } }

theorem turn_slots (h : Orderly own s) {slots : Slots}
    (hslots : ∀ u, u ≠ v → slots.active u = s.slots.active u) :
    Turn own v s { s with slots := slots } :=
  { Turn.refl v h with
    orderly := { h with }
    spares := { Spares.refl own v s with slots := hslots } }

/-! ## Metering -/

theorem turn_acquireSlot (h : Orderly own s) : Turn own v s (acquireSlot v s).2 :=
  turn_slots h fun _ hu => Slots.active_acquire_of_ne hu s.slots

theorem turn_releaseSlot (h : Orderly own s) : Turn own v s (releaseSlot v s) :=
  turn_slots h fun _ hu => Slots.active_release_of_ne hu s.slots

theorem turn_charge (h : Orderly own s) (m : Metered) : Turn own v s (charge v m s).2 :=
  turn_credits h fun _ hu => Credits.balance_charge_of_ne hu s.credits m

theorem turn_refund (h : Orderly own s) (m : Metered) : Turn own v s (refund v m s) :=
  turn_credits h fun _ hu => Credits.balance_set_of_ne hu s.credits _

/-! ## Actions that write -/

/-- **Two parts of an action**: the second begins from what the first came to. -/
theorem Turn.bind {a : Action α} {k : α → Action β} (ha : Turn own v s (a s).2)
    (hk : ∀ x t, a s = (.ok x, t) → Orderly own t → Turn own v t (k x t).2) :
    Turn own v s ((a >>= k) s).2 := by
  rw [Action.bind_apply]
  generalize a s = o at ha hk
  obtain ⟨f | x, t⟩ := o
  · exact ha
  · exact ha.trans (hk x t rfl ha.orderly)

/-- A part that only asks comes before the rest of an action. -/
theorem Quiet.turn_bind {a : Action α} {k : α → Action β} (ha : Quiet a) (h : Orderly own s)
    (hk : ∀ x t, Orderly own t → Turn own v t (k x t).2) : Turn own v s ((a >>= k) s).2 :=
  (ha.turn h).bind fun x t _ ht => hk x t ht

/-- What a look-up finds is what is there. -/
theorem turn_look {o : Installation → Answer α} {k : α → Action β} (h : Orderly own s)
    (hk : ∀ x, o s = .ok x → Turn own v s (k x s).2) :
    Turn own v s (((fun s => (o s, s) : Action α) >>= k) s).2 := by
  refine (Turn.refl v h).bind fun x t hx _ => ?_
  obtain ⟨hfound, rfl⟩ := Prod.mk.inj hx
  exact hk x hfound

/-- A failure that is caught, and what is done then. -/
theorem turn_catch {a : Action α} {f : Failure → Action α} (ha : Turn own v s (a s).2)
    (hf : ∀ e t, Orderly own t → Turn own v t (f e t).2) : Turn own v s (tryCatch a f s).2 := by
  rw [Action.tryCatch_apply]
  generalize a s = o at ha
  obtain ⟨e | x, t⟩ := o
  · exact ha.trans (hf e t ha.orderly)
  · exact ha

/-- **Saving a template** under the identifier that was drawn for it. -/
theorem turn_saveTemplate (h : Orderly own s) (hid : own w.recordId = v)
    (name content provider : String) (description : Option String) :
    Turn own v s (saveTemplate w v name content provider description s).2 := by
  rcases saveTemplate_cases w v name content provider description s with hs | ⟨x, hx, huser, hs⟩
  · rw [hs]
    exact .refl v h
  · rw [hs]
    exact turn_putTemplate h (hx ▸ hid) huser

theorem turn_addCredential (h : Orderly own s) (hid : own w.recordId = v)
    (name arn external : String) : Turn own v s (addCredential w v name arn external s).2 := by
  rcases addCredential_cases w v name arn external s with hs | ⟨r, hs | ⟨c, hc, huser, hs⟩⟩ <;>
    rw [hs]
  · exact .refl v h
  · exact (quiet_assume w r).turn h
  · have hassume := (quiet_assume w r).turn (v := v) h
    exact hassume.trans (turn_putCredential hassume.orderly (hc ▸ hid) huser)

theorem turn_toggleCredential (h : Orderly own s) (w : World) (id : String) (active : Bool) :
    Turn own v s (toggleCredential w v id active s).2 := by
  refine turn_look (o := fun s => ownCredential s v id) h fun c hc => ?_
  obtain ⟨hkey, huser, hown⟩ := h.credentials.owned hc
  exact turn_putCredential h (hkey ▸ hown) huser

theorem turn_deleteCredential (h : Orderly own s) (id : String) :
    Turn own v s (deleteCredential v id s).2 := by
  refine turn_look (o := fun s => ownCredential s v id) h fun c hc => ?_
  obtain ⟨-, -, hown⟩ := h.credentials.owned hc
  rw [Action.bind_apply, Action.get_apply]
  dsimp only
  split
  · exact .refl v h
  · exact turn_eraseCredential h hown

theorem turn_saveDraft (h : Orderly own s) (hid : own w.recordId = v) (r : Draft.Request)
    (files : Entries String) (balance : Int) :
    Turn own v s (Draft.saveDraft w v r files balance s).2 := by
  rw [Draft.saveDraft]
  refine (quiet_ofAnswer _).turn_bind h fun content t ht => ?_
  dsimp only
  split
  · exact .refl v ht
  · exact (turn_saveTemplate ht hid _ _ _ _).bind fun _ a _ ha => .refl v ha

/-- **Drafting a template**: the charge, the draft, and the template or the refund. -/
theorem turn_draftTemplate (h : Orderly own s) (hid : own w.recordId = v)
    (description provider name : String) (present : List LiveResource) :
    Turn own v s (Draft.draftTemplate w v description provider name present s).2 := by
  rw [Draft.draftTemplate]
  refine (quiet_ofAnswer _).turn_bind h fun r t ht => ?_
  refine (turn_charge ht .generation).bind fun balance a _ ha => ?_
  refine (quiet_outcome (quiet_draftFiles w _ _ _)).turn_bind ha fun files b hb => ?_
  cases files with
  | ok files => exact turn_saveDraft hb hid r files balance
  | error f =>
    dsimp only
    split
    · exact turn_refund hb .generation
    · exact .refl v hb

/-- **What creating a connection writes**: nothing, or what taking on its role does, and a connection
of the user if the role works or is refused. -/
theorem createConnection_cases (w : World) (user name arn external region : String)
    (s : Installation) :
    (createConnection w user name arn external region s).2 = s ∨ ∃ r,
      (createConnection w user name arn external region s).2 = (assume w r s).2 ∨
        ∃ c : Connection, c.id = w.recordId ∧ c.user = user ∧
          (createConnection w user name arn external region s).2 =
            putConnection c (assume w r s).2 := by
  rw [createConnection, Action.bind_apply, Action.ofAnswer_apply]
  cases checkRoleArn arn with
  | error f => exact .inl rfl
  | ok _ =>
    dsimp only
    split
    · exact .inl rfl
    split
    · exact .inl rfl
    refine .inr ⟨⟨trimmed arn, "connect", .text external,
      if region == "" then s.settings.region else region, .null⟩, ?_⟩
    rw [Action.bind_apply, Action.get_apply]
    dsimp only
    rw [Action.bind_apply, Action.tryCatch_apply, Action.bind_apply]
    generalize assume w _ s = o
    obtain ⟨f | k, t⟩ := o
    · -- The connection is kept with the refusal.
      dsimp only
      cases f.isValidation with
      | false => exact .inl rfl
      | true => exact .inr ⟨_, rfl, rfl, rfl⟩
    · exact .inr ⟨_, rfl, rfl, rfl⟩

/-- **Creating a connection**, which is kept if its role works or is refused. -/
theorem turn_createConnection (h : Orderly own s) (hid : own w.recordId = v)
    (name arn external region : String) :
    Turn own v s (createConnection w v name arn external region s).2 := by
  rcases createConnection_cases w v name arn external region s with
    hs | ⟨r, hs | ⟨c, hc, huser, hs⟩⟩ <;> rw [hs]
  · exact .refl v h
  · exact (quiet_assume w r).turn h
  · have hassume := (quiet_assume w r).turn (v := v) h
    exact hassume.trans (turn_putConnection hassume.orderly (hc ▸ hid) huser)

theorem turn_deleteConnection (h : Orderly own s) (id : String) :
    Turn own v s (deleteConnection v id s).2 := by
  refine turn_look (o := fun s => ownConnection s v id) h fun c hc => ?_
  obtain ⟨-, -, hown⟩ := h.connections.owned hc
  exact turn_dropConnection h hown

/-- Resources of a connection of a user are written. -/
theorem turn_putResources (h : Orderly own s) {rs : List LiveResource}
    (hrs : ∀ r ∈ rs, own r.connection = v) : Turn own v s (putResources rs s).2 := by
  -- Induction on the resources; one that cannot be written ends the action.
  induction rs generalizing s with
  | nil => exact .refl v h
  | cons r rs ih =>
    rw [List.forall_mem_cons] at hrs
    show Turn own v s ((Action.draw _ >>= fun _ => putResources rs) s).2
    refine Turn.bind ?_ fun _ t _ ht => ih ht hrs.2
    exact turn_inventory h (sameBut_upsert hrs.1 s.inventory)

/-- What a discovery finds is of the connection. -/
theorem discoverConnection_connection {c : Connection} {found : Discovered}
    (h : discoverConnection w c s = (.ok found, t)) :
    ∀ r ∈ found.resources, r.connection = c.id := by
  rw [discoverConnection, Action.bind_apply] at h
  generalize assumeConnection w c "sync" s = o at h
  obtain ⟨f | k, a⟩ := o
  · cases h
  dsimp only at h
  rw [Action.bind_apply, Action.inquire] at h
  cases hq : w.account.conduct (discover w.now c.region c.id) with
  | mk answer calls =>
    rw [hq] at h
    cases answer with
    | error f => cases h
    | ok d =>
      dsimp only at h
      split at h <;> cases h
      exact discover_connection (by rw [hq])

/-- **Taking stock of a connection**: its record, and resources that are its own. -/
theorem turn_syncConnection (h : Orderly own s) (w : World) (id : String) :
    Turn own v s (syncConnection w v id s).2 := by
  refine turn_look (o := fun s => ownConnection s v id) h fun c hc => ?_
  obtain ⟨hkey, huser, hown⟩ := h.connections.owned hc
  have hid : own c.id = v := hkey ▸ hown
  refine (turn_catch ((quiet_discoverConnection w c).turn h) fun f t ht => ?_).bind
    fun found t hfound ht => ?_
  · exact turn_putConnection ht (c := c.broken _ _) hid huser
  · -- What is found was found without a failure.
    rw [Action.tryCatch_apply] at hfound
    cases hrun : discoverConnection w c s with
    | mk answer a =>
      rw [hrun] at hfound
      cases answer with
      | error f => cases hfound
      | ok found =>
        cases hfound
        refine (turn_putResources ht fun r hr => ?_).bind fun _ a _ ha => ?_
        · rw [discoverConnection_connection hrun r hr, hid]
        · exact turn_putConnection ha (c := { c with
            status := _, lastError := _, lastSync := _, updatedAt := _ }) hid huser

theorem turn_scanConnection (h : Orderly own s) (w : World) (id : String) :
    Turn own v s (scanConnection w v id s).2 := by
  rw [scanConnection]
  refine Quiet.turn_bind (fun _ => rfl) h fun c t ht => ?_
  refine (quiet_assumeConnection w c _).turn_bind ht fun k a ha => ?_
  refine (quiet_checkKeys w k).turn_bind ha fun account b hb => ?_
  refine (turn_charge hb .scan).bind fun _ d _ hd => ?_
  exact (quiet_get.bind fun s => quiet_inquire w _).turn hd

end Groundplan.Tenancy
