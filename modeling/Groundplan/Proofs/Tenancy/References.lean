import Groundplan.Proofs.Tenancy.Effects

/-!
# References stay valid

Deployments name a template and a credential, states are kept under the identifiers of deployments,
and resources name a connection. Nothing in an installation ties these records together but the
operations that write them: a credential is not deleted while a deployment waits to be applied with
it, a state is dropped before its deployment counts as destroyed, and resources go with their
connection. So what is named is there, whatever users ask for, one after another.

One thing is not as it is elsewhere. An application that left a state which cannot be read has kept
it all the same, and its deployment is neither applied nor failed: it is being applied for ever.

## Main definitions

* `afterAll`, `visits`: the state after a run, and the tasks with the states that they met
* `Backed`, `Deposited`: what planned deployments and kept states refer to
* `Valid`: **what holds between tasks**
* `References`: references that are valid

## Main results

* `Course.deposited`, `Course.ready`: what an operation does to kept states and planned deployments
* `Valid.task`, `Valid.run`: one task, and a run
* `references_of_run`: **references stay valid**
-/

namespace Groundplan

open Deploy (Course Outcome Leaves Deployment Credential Operation Template status_failed)

variable {own : String → String} {s t : Installation} {w : World} {id user : String}
  {d : Deployment} {op : Operation} {ds : Entries Deployment} {ss : SealedRecords}
  {es : List Event} {r : Except Failure Deployment}

namespace Deploy

/-! ## Operations -/

/-- **Every kept state is of a deployment** that was applied, or is being applied. -/
def Deposited (ds : Entries Deployment) (ss : SealedRecords) : Prop :=
  ∀ id, (Entries.get? id ss).isSome → ∃ d, Entries.get? id ds = some d ∧
    (d.status = .succeeded ∨ d.status = .failed ∨ d.status = .applying)

/-- What is kept of one deployment is kept under its identifier. -/
theorem get?_keptBy_of_ne (kept : Option String) (hid : id ≠ d.id) :
    Entries.get? id (keptBy w d.id kept s).states = Entries.get? id s.states := by
  cases kept with
  | none => rfl
  | some text => exact Entries.get?_set_of_ne hid _ _

/-- **An operation keeps states only of what it applied**, and drops those of what it destroyed. -/
theorem Course.deposited (h : Course w s d op ds ss es r) (hs : Deposited s.deployments s.states)
    (hstatus : d.status.canBecome .failed) (happlying : op = .apply → d.status = .applying)
    (hnew : op = .plan → Entries.get? d.id s.states = none) : Deposited ds ss := by
  -- The states of other deployments are as before, and the own record fits the own state.
  have hset {e : Deployment} {kept : SealedRecords}
      (hown : (Entries.get? d.id kept).isSome →
        e.status = .succeeded ∨ e.status = .failed ∨ e.status = .applying)
      (hothers : ∀ id, id ≠ d.id → Entries.get? id kept = Entries.get? id s.states) :
      Deposited (Entries.set d.id e s.deployments) kept := by
    intro id hid
    by_cases hne : id = d.id
    · subst hne
      exact ⟨e, Entries.get?_set_self _ _ _, hown hid⟩
    · rw [hothers id hne] at hid
      rw [Entries.get?_set_of_ne hne]
      exact hs id hid
  cases h with
  | failed => exact hset (fun _ => .inr (.inl (status_failed hstatus _ _ _))) fun _ _ => rfl
  | planned =>
    refine hset (fun hsome => ?_) fun _ _ => rfl
    rw [hnew rfl] at hsome
    cases hsome
  | applied => exact hset (fun _ => .inl rfl) fun _ hne => get?_keptBy_of_ne _ hne
  | @broken _ kept n =>
    have hcounting : (d.counting kept n).status.canBecome .failed := by
      cases kept <;> exact hstatus
    exact hset (fun _ => .inr (.inl (status_failed hcounting _ _ _)))
      fun _ hne => get?_keptBy_of_ne _ hne
  | stuck =>
    exact hset (fun _ => .inr (.inr (happlying rfl))) fun _ hne => get?_keptBy_of_ne _ hne
  | destroyed =>
    refine hset (fun hsome => ?_) fun _ hne => Entries.get?_erase_of_ne hne _
    rw [SealedRecords.delete, Entries.get?_erase_self] at hsome
    cases hsome

/-- **Only a plan leaves a deployment that is planned**, of the user and the credential that it
began with. -/
theorem Course.ready (h : Course w s d op ds ss es r) (hstatus : d.status.canBecome .failed) :
    ∃ e, ds = Entries.set d.id e s.deployments ∧
      (e.status = .planReady → op = .plan ∧ e.user = d.user ∧ e.credential = d.credential) := by
  -- One case for each way in which an operation ends; all but one leave another status.
  cases h with
  | failed =>
    refine ⟨_, rfl, fun hready => ?_⟩
    rw [status_failed hstatus] at hready
    cases hready
  | planned => exact ⟨_, rfl, fun _ => ⟨rfl, rfl, rfl⟩⟩
  | applied => exact ⟨_, rfl, nofun⟩
  | @broken _ kept n =>
    have hcounting : (d.counting kept n).status.canBecome .failed := by
      cases kept <;> exact hstatus
    refine ⟨_, rfl, fun hready => ?_⟩
    rw [status_failed hcounting] at hready
    cases hready
  | stuck =>
    refine ⟨d, rfl, fun hready => ?_⟩
    rw [hready] at hstatus
    cases hstatus
  | destroyed => exact ⟨_, rfl, nofun⟩

theorem Outcome.mono {Begins Begins' : Deployment → Prop}
    (h : Outcome w s user op Begins r t) (hbegins : ∀ d, Begins d → Begins' d) :
    Outcome w s user op Begins' r t := by
  cases h with
  | refused hf ht => exact .refused hf ht
  | began hd ht hpaid hcourse hfiles => exact .began (hbegins _ hd) ht hpaid hcourse hfiles

theorem Request.Begins.applying {request : Request} (h : request.Begins w s user d)
    (hop : request.operation? = some .apply) : d.status = .applying := by
  cases request with
  | apply id =>
    obtain ⟨_, _, _, _, rfl⟩ := h
    rfl
  | _ => cases hop

/-- A plan makes a deployment of its own. -/
theorem Request.Begins.id_plan {request : Request} (h : request.Begins w s user d)
    (hop : request.operation? = some .plan) : d.id = w.recordId := by
  cases request with
  | plan template credential region =>
    obtain ⟨_, _, rfl⟩ := h
    rfl
  | _ => cases hop

/-- A new deployment is of a credential that its user has. -/
def Provided (s : Installation) (user : String) (d : Deployment) : Prop :=
  ∃ credential c, ownCredential s user credential = .ok c ∧ d.credential = c.id ∧ d.user = user

/-- **How an operation ends**, with the credential of a plan. -/
theorem Task.outcome_provided {t : Task} (hop : t.request.operation? = some op)
    (s : Installation) :
    ∃ r, Outcome t.world s t.user op
      (fun d => t.request.Begins t.world s t.user d ∧ (op = .plan → Provided s t.user d)) r
      (t.after s) := by
  by_cases hplan : op = .plan
  · subst hplan
    obtain ⟨w, user, request⟩ := t
    cases request with
    | plan template credential region =>
      rw [Task.after, Task.work, Request.work, run_map]
      refine ⟨_, ((Routine.upholds_iff _ _ s).1
        (upholds_plan_of_found (H := False) (fun x c _ hc => ?_) False.elim)).2⟩
      exact ⟨⟨x, c, rfl⟩, fun _ => ⟨credential, c, hc, rfl, rfl⟩⟩
    | _ => cases hop
  · obtain ⟨r, -, hu⟩ := t.outcome hop s
    exact ⟨r, hu.mono fun d hd => ⟨hd, fun hplanned => absurd hplanned hplan⟩⟩

end Deploy

namespace Tenancy

open Deploy

/-! ## What holds between tasks -/

/-- **Every deployment that is planned has its credential**, which is of its user. -/
def Backed (own : String → String) (cs : Entries Credential) (ds : Entries Deployment) : Prop :=
  ∀ id d, Entries.get? id ds = some d → d.status = .planReady →
    own d.credential = d.user ∧ (Entries.get? d.credential cs).isSome

/-- **What holds between tasks.** -/
structure Valid (own : String → String) (s : Installation) : Prop extends Orderly own s where
  backed : Backed own s.credentials s.deployments
  deposited : Deposited s.deployments s.states
  stocked : Stocked s

theorem Valid.keyed (h : Valid own s) : Keyed s :=
  fun _ _ hd => (h.deployments.get? hd).1

/-- The credential of a deployment that is planned is in use. -/
theorem isInUse_of_planReady (hd : Entries.get? id s.deployments = some d)
    (hready : d.status = .planReady) : isInUse s d.credential := by
  refine List.any_eq_true.2 ⟨_, Entries.mem_of_get? hd, ?_⟩
  simp [hready, Status.inProgress]

/-- Credentials that are in use are guarded. -/
theorem Backed.guarded (h : Backed own s.credentials s.deployments) (hguards : Guards s t) :
    Backed own t.credentials s.deployments := by
  intro id d hd hready
  obtain ⟨hown, hthere⟩ := h id d hd hready
  exact ⟨hown, hguards.credentials _ (isInUse_of_planReady hd hready) hthere⟩

/-- What an operation leaves of credentials. -/
theorem credentials_of_leaves {cs : Credits} (h : Leaves s ds ss cs es t) :
    t.credentials = s.credentials := by
  obtain ⟨_, _, _, _, rfl⟩ := h
  rfl

theorem states_of_leaves {cs : Credits} (h : Leaves s ds ss cs es t) : t.states = ss := by
  obtain ⟨_, _, _, _, rfl⟩ := h
  rfl

/-- No state is kept under an identifier that no deployment has. -/
theorem get?_states_eq_none (h : Deposited s.deployments s.states)
    (hid : Entries.get? id s.deployments = none) : Entries.get? id s.states = none := by
  by_contra hsome
  obtain ⟨d, hd, -⟩ := h id (Option.isSome_iff_ne_none.2 hsome)
  rw [hid] at hd
  cases hd

/-- A credential that its user has is there, and is of that user. -/
theorem owned_of_provided (hs : Filed own Credential.id Credential.user s.credentials)
    (h : Provided s user d) :
    own d.credential = d.user ∧ (Entries.get? d.credential s.credentials).isSome := by
  obtain ⟨credential, c, hc, hkey, hown⟩ := h
  obtain ⟨hid, -, howner⟩ := hs.owned hc
  rw [hkey, hown, hid, (owned_eq_ok.1 hc).1]
  exact ⟨howner, rfl⟩

/-- **An operation** leaves what is planned with its credential. -/
theorem Valid.backed_course (h : Valid own s) (hcourse : Course w s d op ds ss es r)
    (hstatus : d.status.canBecome .failed)
    (hprovided : op = .plan → Provided s user d) : Backed own s.credentials ds := by
  obtain ⟨e, rfl, hready⟩ := hcourse.ready hstatus
  intro id x hx hx'
  by_cases hid : id = d.id
  · -- The deployment that was planned just now, with a credential that was found.
    rw [hid, Entries.get?_set_self] at hx
    cases hx
    obtain ⟨hplan, huser, hcredential⟩ := hready hx'
    rw [hcredential, huser]
    exact owned_of_provided h.credentials (hprovided hplan)
  · rw [Entries.get?_set_of_ne hid] at hx
    exact h.backed id x hx hx'

/-- **A request of the service** keeps credentials of planned deployments, and states only of what
it applied. -/
theorem Valid.managed (h : Valid own s) {t : Deploy.Task} (ht : t.Fresh s) :
    Backed own (t.after s).credentials (t.after s).deployments ∧
      Deposited (t.after s).deployments (t.after s).states := by
  have hguarded := h.backed.guarded (guards_after t s)
  cases hop : t.request.operation? with
  | none =>
    have hu := t.elsewhere hop s
    rw [hu.deployments, hu.states]
    exact ⟨hguarded, h.deposited⟩
  | some op =>
    obtain ⟨r, hu⟩ := t.outcome_provided hop s
    cases hu with
    | refused _ hu =>
      rw [hu.deployments, states_of_leaves hu]
      exact ⟨hguarded, h.deposited⟩
    | began hd hu _ hcourse _ =>
      obtain ⟨hbegins, hprovided⟩ := hd
      have hstatus := isBusy_eq_canBecome _ ▸ (hbegins.busy h.keyed ht).1
      rw [hu.deployments, states_of_leaves hu, credentials_of_leaves hu]
      -- A new deployment has no state, since only what there is has one.
      refine ⟨h.backed_course hcourse hstatus hprovided,
        hcourse.deposited h.deposited hstatus ?_ ?_⟩
      · rintro rfl
        exact hbegins.applying hop
      · rintro rfl
        rw [hbegins.id_plan hop]
        exact get?_states_eq_none h.deposited ht

theorem Task.world_of_managed {t : Task} {u : Deploy.Task} (ht : t.managed? = some u) :
    u.world = t.world := by
  obtain ⟨w, user, request⟩ := t
  cases request with
  | manage r =>
    cases ht
    rfl
  | _ => cases ht

/-- A task draws a fresh identifier: no deployment has it. -/
def Task.Fresh (t : Task) (s : Installation) : Prop :=
  Entries.get? t.world.recordId s.deployments = none

/-- **One task.** -/
theorem Valid.task (h : Valid own s) {t : Task} (hid : own t.world.recordId = t.user)
    (ht : t.Fresh s) : Valid own (t.after s) := by
  -- That records have their owners is known of all tasks; what they refer to differs.
  have hturn := ((t.among hid).run (rules own t.user) (.refl h.toOrderly)).1
  cases hmanaged : t.managed? with
  | none =>
    obtain ⟨hservice, hstocked⟩ := Task.aside hmanaged h.connections h.stocked
    obtain ⟨-, hcredentials, hdeployments, hstates⟩ := Service.mk.inj hservice
    refine ⟨hturn.orderly, ?_, ?_, hstocked⟩
    · rw [hcredentials, hdeployments]
      exact h.backed
    · rw [hdeployments, hstates]
      exact h.deposited
  | some u =>
    have hafter := Task.managed_after hmanaged s
    have hfresh : u.Fresh s := by rwa [Deploy.Task.Fresh, Task.world_of_managed hmanaged]
    have hguards := guards_after u s
    obtain ⟨hbacked, hdeposited⟩ := h.managed hfresh
    refine ⟨hturn.orderly, hafter ▸ hbacked, hafter ▸ hdeposited, ?_⟩
    rw [Stocked, hafter, hguards.inventory, hguards.connections]
    exact h.stocked

/-! ## Runs -/

/-- The state after a run of tasks, one after another. -/
def afterAll (s : Installation) : List Task → Installation
  | [] => s
  | t :: ts => afterAll (t.after s) ts

/-- The tasks of a run, each with the state that it met. -/
def visits (s : Installation) : List Task → List (Installation × Task)
  | [] => []
  | t :: ts => (s, t) :: visits (t.after s) ts

/-- A task applies a deployment, and this leaves a state that is nested too deeply to be read. -/
def Task.Stalls (t : Task) (s : Installation) (id : String) : Prop :=
  ∃ u, t.managed? = some u ∧ u.Stalls s id

/-- What one task leaves under way, and which identifiers it leaves unused. -/
theorem Valid.busy_task (h : Valid own s) {t : Task} (ht : t.Fresh s) :
    (∀ id, Busy (t.after s) id ↔ Busy s id ∨ t.Stalls s id) ∧
      ∀ id, id ≠ t.world.recordId → Entries.get? id s.deployments = none →
        Entries.get? id (t.after s).deployments = none := by
  cases hmanaged : t.managed? with
  | none =>
    have hservice := (Task.aside hmanaged h.connections h.stocked).service
    obtain ⟨-, -, hdeployments, -⟩ := Service.mk.inj hservice
    refine ⟨fun id => ?_, fun id _ hnone => hdeployments ▸ hnone⟩
    rw [or_iff_left, Busy, hdeployments, Busy]
    rintro ⟨u, hu, -⟩
    rw [hmanaged] at hu
    cases hu
  | some u =>
    have hworld := Task.world_of_managed hmanaged
    have hfresh : u.Fresh s := by rwa [Deploy.Task.Fresh, hworld]
    rw [Task.managed_after hmanaged]
    -- The task is one of the deployment service, of which both are known.
    refine ⟨fun id => ?_, fun id hne hnone => ?_⟩
    · rw [Deploy.Task.busy_iff h.keyed hfresh, Task.Stalls, hmanaged]
      simp
    · exact Deploy.Task.get?_after h.keyed hfresh hnone (hworld ▸ hne)

/-- **A run** of tasks that draw different identifiers, and what it leaves under way. -/
theorem Valid.run {ts : List Task} (h : Valid own s)
    (hown : ∀ t ∈ ts, own t.world.recordId = t.user)
    (hnodup : (ts.map (·.world.recordId)).Nodup) (hfresh : ∀ t ∈ ts, t.Fresh s) :
    Valid own (afterAll s ts) ∧
      ∀ id, Busy (afterAll s ts) id ↔ Busy s id ∨ ∃ v ∈ visits s ts, v.2.Stalls v.1 id := by
  -- Induction on the run: what the other tasks draw stays unused, as no two draw the same.
  induction ts generalizing s with
  | nil => exact ⟨h, by simp [afterAll, visits]⟩
  | cons t ts ih =>
    rw [List.map_cons, List.nodup_cons] at hnodup
    rw [List.forall_mem_cons] at hown hfresh
    obtain ⟨hbusy, hunused⟩ := h.busy_task hfresh.1
    obtain ⟨hvalid, hend⟩ := ih (h.task hown.1 hfresh.1) hown.2 hnodup.2 fun u hu =>
      hunused _ (fun heq => hnodup.1 (List.mem_map.2 ⟨u, hu, heq⟩)) (hfresh.2 u hu)
    refine ⟨hvalid, fun id => ?_⟩
    rw [afterAll, hend, hbusy, visits, List.exists_mem_cons_iff, or_assoc]

/-- Identifiers that are drawn once are each drawn for somebody. -/
theorem exists_own {ts : List Task} (hnodup : (ts.map (·.world.recordId)).Nodup) :
    ∃ own : String → String, ∀ t ∈ ts, own t.world.recordId = t.user := by
  induction ts with
  | nil => exact ⟨fun _ => "", nofun⟩
  | cons t ts ih =>
    rw [List.map_cons, List.nodup_cons] at hnodup
    obtain ⟨own, hown⟩ := ih hnodup.2
    refine ⟨Function.update own t.world.recordId t.user, List.forall_mem_cons.2 ⟨?_, ?_⟩⟩
    · exact Function.update_self ..
    · intro u hu
      rw [Function.update_of_ne fun heq => hnodup.1 (List.mem_map.2 ⟨u, hu, heq⟩)]
      exact hown u hu

/-! ## References -/

/-- An installation without records. -/
structure Blank (s : Installation) : Prop where
  templates : s.templates = []
  credentials : s.credentials = []
  deployments : s.deployments = []
  states : s.states = []
  connections : s.connections = []
  inventory : s.inventory = []

theorem blank_fresh (settings : Settings) : Blank (.fresh settings) :=
  ⟨rfl, rfl, rfl, rfl, rfl, rfl⟩

theorem Blank.valid (h : Blank s) (own : String → String) : Valid own s where
  templates := by simp [Filed, h.templates]
  credentials := by simp [Filed, h.credentials]
  deployments := by simp [Filed, h.deployments]
  connections := by simp [Filed, h.connections]
  made := by simp [h.deployments]
  backed := by simp [Backed, h.deployments, Entries.get?]
  deposited := by simp [Deposited, h.states, Entries.get?]
  stocked := by simp [Stocked, h.inventory]

/-- **References that are valid**, but for the deployments that are stalled. -/
structure References (s : Installation) (stalled : String → Prop) : Prop where
  /-- What is planned has a credential and a template of its user. -/
  planned : ∀ id d, Entries.get? id s.deployments = some d → d.status = .planReady →
    ownerOf s d.credential .credential = some d.user ∧
      ownerOf s d.template .template = some d.user
  /-- What a state is kept of was applied, or applying it failed; or else it was stalled, and is
  being applied for ever. -/
  kept : ∀ id, (Entries.get? id s.states).isSome → ∃ d, Entries.get? id s.deployments = some d ∧
    (¬ stalled id → d.status = .succeeded ∨ d.status = .failed) ∧
      (stalled id → d.status = .applying)
  /-- Every resource is of a connection that is there. -/
  resources : ∀ r ∈ s.inventory, (Entries.get? r.connection s.connections).isSome

/-- What holds between tasks makes references valid. -/
theorem Valid.references (h : Valid own s) : References s (Busy s) where
  planned id d hd hready := by
    obtain ⟨hid, hown⟩ := h.deployments.get? hd
    obtain ⟨hcredential, hthere⟩ := h.backed id d hd hready
    obtain ⟨htemplate, hmade⟩ := h.made _ (Entries.mem_of_get? hd)
    obtain ⟨c, hc⟩ := Option.isSome_iff_exists.1 hthere
    obtain ⟨x, hx⟩ := Option.isSome_iff_exists.1 hmade
    have hx : Entries.get? d.template s.templates = some x := hx
    have hc' := (h.credentials.get? hc).2
    have hx' := (h.templates.get? hx).2
    simp only [ownerOf, hc, hx, Option.map_some, Option.some.injEq]
    exact ⟨hc'.trans hcredential, hx'.trans (htemplate.trans hown.symm)⟩
  kept id hid := by
    obtain ⟨d, hd, hstatus⟩ := h.deposited id hid
    have hbusy : Busy s id ↔ d.status.isBusy := by simp [Busy, hd]
    refine ⟨d, hd, ?_, ?_⟩ <;> rw [hbusy] <;> rcases hstatus with hs | hs | hs <;>
      simp [hs, Status.isBusy]
  resources := h.stocked

/-- **References stay valid** over any run of tasks of all users that draw different identifiers,
whatever the world does. A deployment that is planned has its credential and its template, and both
are its user's. A state is kept only of a deployment that was applied or that applying has failed
for; but a deployment for which an application left a state that is nested too deeply to be read is
being applied for ever. Every resource is of a connection that is there, and deleting a connection
drops it and its resources and nothing else. -/
theorem references_of_run {ts : List Task} (hs : Blank s)
    (hnodup : (ts.map (·.world.recordId)).Nodup) :
    References (afterAll s ts) (fun id => ∃ v ∈ visits s ts, v.2.Stalls v.1 id) ∧
      ∀ t id, t.request = .deleteConnection id → Deletes t (afterAll s ts) id := by
  obtain ⟨own, hown⟩ := exists_own hnodup
  have hfresh : ∀ t ∈ ts, t.Fresh s := fun t _ => by
    rw [Task.Fresh, hs.deployments]
    rfl
  obtain ⟨hvalid, hbusy⟩ := (hs.valid own).run hown hnodup hfresh
  have hcalm (id : String) : ¬ Busy s id := by
    rintro ⟨d, hd, -⟩
    rw [hs.deployments] at hd
    cases hd
  have hstalled : Busy (afterAll s ts) = fun id => ∃ v ∈ visits s ts, v.2.Stalls v.1 id :=
    funext fun id => propext (by rw [hbusy, or_iff_right (hcalm id)])
  exact ⟨hstalled ▸ hvalid.references, fun t id ht => t.deletes ht _⟩

/-! ### A sample -/

/-- An installation without records, for samples. -/
def sampleBlank : Installation where
  vault := sampleVault

/-- A user plans a deployment, and another connects an account. -/
def sampleTasks : List Task :=
  [⟨sampleWorld "t", "u", .manage (.saveTemplate "Site" "terraform \x7b\x7d" "aws" none)⟩,
    ⟨sampleWorld "c", "u",
      .manage (.addCredential "Role" "arn:aws:iam::123456789012:role/Deploy" "x")⟩,
    ⟨sampleWorld "d", "u", .manage (.plan "t" "c" "us-east-1")⟩,
    ⟨sampleWorld "n", "v",
      .createConnection "Account" "arn:aws:iam::123456789012:role/Read" "x" "us-east-1"⟩]

/-- The references when a deployment is planned and an account is connected. -/
theorem references_of_run_sample :
    (References (afterAll sampleBlank sampleTasks)
        (fun id => ∃ v ∈ visits sampleBlank sampleTasks, v.2.Stalls v.1 id) ∧
      ∀ t id, t.request = .deleteConnection id →
        Deletes t (afterAll sampleBlank sampleTasks) id) ∧
      (afterAll sampleBlank sampleTasks).deployments.map (·.2.status) = [.planReady] ∧
      ownerOf (afterAll sampleBlank sampleTasks) "n" .connection = some "v" :=
  ⟨references_of_run ⟨rfl, rfl, rfl, rfl, rfl, rfl⟩ (by decide), by decide +kernel,
    by decide +kernel⟩

end Tenancy

end Groundplan
