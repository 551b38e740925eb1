import Groundplan.Proofs.Deploy.KeptStates
import Groundplan.Proofs.Deploy.Provisioning

/-!
# What comes before infrastructure is changed

The tool changes infrastructure in two of its steps, when it applies a plan and when it destroys.
Only requests to apply and to destroy a deployment get that far, and each of them once at most. What
comes before is known event by event: the keys are issued for the credential of the deployment, the
workspace is new and holds the content of the template and the override for the keys, the
preparation ended well, and so did, in front of an application, a plan made just then. A destruction
finds the state that is kept.

## Main definitions

* `Resumed`: a deployment of a user, with what it refers to
* `Prepares`: what comes before both steps
* `AppliesFreshPlan`, `DestroysKept`: the events of a request that gets to a step
* `Supervised`: what a task changes, and behind what
* `Filled`: no kept state is empty

## Main results

* `starts_apply`, `starts_destroy`: the requests
* `Task.supervised`: one task
* `Task.filled_after`: what is kept is never empty
* `changes_of_run`: **what comes before each change** in a run
-/

namespace Groundplan.Deploy

variable {w : World} {s t u : Installation} {step : Step} {es fs : List Event} {user id : String}
  {d : Deployment} {c : Credential} {tpl : Template} {k : Keys} {α β : Type}
  {G : List Event → Prop}

/-! ## Before the work -/

/-- What comes before work on a deployment: slots are taken, charges made and records written. -/
def Enters (s t : Installation) : Prop :=
  ∃ ds slots cs, t = { s with deployments := ds, slots := slots, credits := cs }

theorem starts_inSlot {body : Work α}
    (hbody : ∀ t, Enters s t → Starts step t (body.run t).2 G) :
    Starts step s ((inSlot user body).run s).2 G := by
  refine starts_bind rfl fun _ t ht => ?_
  obtain rfl : { s with slots := (s.slots.acquire user).2 } = t := congrArg Prod.snd ht
  rw [Routine.run_ensuring]
  exact hbody _ ⟨_, _, _, rfl⟩

theorem starts_charge {m : Metered} {k : Int → Work α} (h : Enters s t)
    (hk : ∀ n u, Enters s u → Starts step u ((k n).run u).2 G) :
    Starts step t (((charge user m).asStep >>= k).run t).2 G := by
  obtain ⟨_, _, _, rfl⟩ := h
  refine starts_bind rfl fun n u hu => ?_
  obtain rfl := congrArg Prod.snd hu
  exact hk n _ ⟨_, _, _, rfl⟩

/-- The state in which the work in a new workspace begins, behind a call. -/
def Opens (s : Installation) (id : String) (u : Installation) : Prop :=
  (∃ ds cs call, Leaves s ds s.states cs [.called call] u) ∧ u.workspaces.files? id = some []

theorem Opens.settings (h : Opens s id u) : u.settings = s.settings := by
  obtain ⟨⟨_, _, _, _, _, _, _, rfl⟩, _⟩ := h
  rfl

theorem Opens.retrieved (h : Opens s id u) (id' : String) : retrieved u id' = retrieved s id' := by
  obtain ⟨⟨_, _, _, _, _, _, _, rfl⟩, _⟩ := h
  rfl

/-- What stands behind a preparation there. -/
theorem Opens.behind {id' content region : String} {G G' : String → List Event → Prop}
    (h : Opens s id u) (hG : ∀ text fs, G text fs → G' text fs) :
    Behind w u id' content region k G es → Behind w s id' content region k G' es := by
  rintro ⟨text, htext, init, fs, hes, hinit, hfs⟩
  exact ⟨text, h.settings ▸ htext, init, fs, hes, hinit, hG text fs hfs⟩

/-- A call that issued keys for a credential, in front of work in a new workspace. -/
def Entered (w : World) (s : Installation) (c : Credential) (region id : String)
    (G : Keys → List Event → Prop) (es : List Event) : Prop :=
  ∃ call k fs, es = .called call :: fs ∧ KeysFor w s c region call k ∧
    s.workspaces.files? id = none ∧ G k fs

/-- Work that begins with a record of its own. -/
theorem starts_begun {op : Operation} {keys : Work Keys} {body : Keys → Work Deployment}
    {G : Keys → List Event → Prop} (h : Enters s t) (hkeys : Calling w c d.region keys)
    (hbody : ∀ k u, Opens s d.id u → Starts step u ((body k).run u).2 (G k)) :
    Starts step t ((do
      change (putDeployment d)
      within w d op keys body : Work Deployment).run t).2 (Entered w s c d.region d.id G) := by
  obtain ⟨_, _, _, rfl⟩ := h
  refine starts_bind rfl fun _ u hu => ?_
  obtain rfl := congrArg Prod.snd hu
  refine starts_within hkeys fun k u call hu hfiles => hbody k u ?_
  obtain ⟨_, _, _, _, rfl⟩ := hu
  exact ⟨⟨_, _, call, _, _, _, _, rfl⟩, hfiles⟩

/-! ## Requests for a deployment -/

/-- A deployment of a user that may change as asked, with its credential and its template, which are
the user's as well. -/
structure Resumed (s : Installation) (user id : String) (target : Status) (d : Deployment)
    (c : Credential) (tpl : Template) : Prop where
  deployment : Entries.get? id s.deployments = some d ∧ d.user = user
  status : d.status.canBecome target
  credential : Entries.get? d.credential s.credentials = some c ∧ c.user = user
  template : Entries.get? d.template s.templates = some tpl ∧ tpl.user = user

/-- A request for a deployment goes on with what the deployment refers to. -/
theorem starts_enterDeployment {verb : String} {target : Status}
    {k : Deployment × Credential × Template → Work β}
    (hk : ∀ d c tpl, Resumed s user id target d c tpl →
      Starts step s ((k (d, c, tpl)).run s).2 G) :
    Starts step s ((enterDeployment user id target verb >>= k).run s).2 G := by
  rcases run_enterDeployment_cases user id verb target k s with
    ⟨f, h⟩ | ⟨d, c, tpl, hd, hstatus, hc, htpl, h⟩ <;> rw [h]
  · exact .silent rfl
  · exact hk d c tpl ⟨owned_eq_ok.1 hd, hstatus, owned_eq_ok.1 hc, owned_eq_ok.1 htpl⟩

/-- What a request for a deployment comes to once its work begins. -/
def Works (w : World) (s : Installation) (user id : String) (target : Status)
    (G : Deployment → Template → Keys → List Event → Prop) (es : List Event) : Prop :=
  ∃ d c tpl, Resumed s user id target d c tpl ∧ Entered w s c d.region d.id (G d tpl) es

/-- An application, by what its work comes to. -/
theorem starts_applying {G : Deployment → Template → Keys → List Event → Prop}
    (hbody : ∀ d tpl k u, Opens s d.id u →
      Starts step u ((applyWithin w tpl { d with status := .applying } k).run u).2 (G d tpl k)) :
    Starts step s ((apply w user id).run s).2 (Works w s user id .applying G) := by
  refine starts_enterDeployment fun d c tpl hd => starts_inSlot fun t ht => ?_
  refine starts_charge ht fun _ u hu => (starts_begun (d := { d with status := .applying }) hu
    (calling_assumeOrRefund w user c d.region .apply) (hbody d tpl)).mono fun es hes => ?_
  exact ⟨d, c, tpl, hd, hes⟩

/-- A destruction, by what its work comes to. -/
theorem starts_destroying {G : Deployment → Template → Keys → List Event → Prop}
    (hbody : ∀ d tpl k u, Opens s d.id u →
      Starts step u ((destroyWithin w tpl { d with status := .destroying } k).run u).2
        (G d tpl k)) :
    Starts step s ((destroy w user id).run s).2 (Works w s user id .destroying G) := by
  refine starts_enterDeployment fun d c tpl hd => starts_inSlot fun t ht => ?_
  refine (starts_begun (d := { d with status := .destroying }) ht
    (calling_assumeFor w c d.region) fun k u hu => ?_).mono fun es hes => ⟨d, c, tpl, hd, hes⟩
  exact (hbody d tpl k u hu).congr (events_recording _ _ _ _ _)

/-! ## The steps that change infrastructure -/

/-- **What comes before both steps** in a request for a deployment: the records of the user that the
deployment refers to, the call that issued keys, and the run that prepared a new workspace. -/
structure Prepares (w : World) (s : Installation) (user id : String) (target : Status)
    (d : Deployment) (tpl : Template) (text : String) (call : CloudCall) (init : ToolRun) :
    Prop where
  /-- The keys are for the credential and the region of the deployment, as is the override. -/
  keys : ∃ c k, Resumed s user id target d c tpl ∧ KeysFor w s c d.region call k ∧
    override s.settings.appName k d.region = .ok text
  new : s.workspaces.files? d.id = none
  init : Prepared w d.id tpl.content text init

/-- **The events of an application** that gets to applying a plan. -/
def AppliesFreshPlan (w : World) (s : Installation) (user id : String) (es : List Event) : Prop :=
  ∃ d tpl text call init plan run, Prepares w s user id .applying d tpl text call init ∧
    es = [.called call, .ran init, .ran plan, .ran run] ∧ plan.args = Step.plan.args ∧
    Finds d.id tpl.content text plan ∧ Succeeds w .plan ∧ run.args = Step.apply.args ∧
    Finds d.id tpl.content text run

/-- **The events of a destruction** that gets to destroying. -/
def DestroysKept (w : World) (s : Installation) (user id : String) (es : List Event) : Prop :=
  ∃ d tpl text call init run state, Prepares w s user id .destroying d tpl text call init ∧
    es = [.called call, .ran init, .ran run] ∧ run.args = Step.destroy.args ∧
    Finds d.id tpl.content text run ∧ retrieved s d.id = .ok state ∧
    ∀ kept, kept? state = some kept → Entries.get? stateFile run.files = some kept

/-- **Applying.** -/
theorem starts_apply (w : World) (s : Installation) (user id : String) :
    Starts .apply s ((apply w user id).run s).2 (AppliesFreshPlan w s user id) := by
  refine (starts_applying (G := fun d tpl k =>
    Behind w s d.id tpl.content d.region k (Applied w d.id tpl.content))
    fun d tpl k u hu => ?_).mono ?_
  · exact (starts_applyWithin (d := { d with status := .applying }) hu.2).mono fun es =>
      hu.behind fun _ _ h => h
  · rintro es ⟨d, c, tpl, hd, call, k, _, rfl, hkeys, hnew, text, htext, init, _, rfl, hinit, plan,
      run, rfl, hplan⟩
    exact ⟨d, tpl, text, call, init, plan, run, ⟨⟨c, k, hd, hkeys, htext⟩, hnew, hinit⟩, rfl, hplan⟩

/-- **Destroying.** -/
theorem starts_destroy (w : World) (s : Installation) (user id : String) :
    Starts .destroy s ((destroy w user id).run s).2 (DestroysKept w s user id) := by
  refine (starts_destroying (G := fun d tpl k =>
    Behind w s d.id tpl.content d.region k (Destroyed s d.id tpl.content))
    fun d tpl k u hu => ?_).mono ?_
  · refine (starts_destroyWithin (d := { d with status := .destroying }) hu.2).mono fun es =>
      hu.behind ?_
    rintro text fs ⟨run, state, hfs, hargs, hfinds, hkept, hwritten⟩
    exact ⟨run, state, hfs, hargs, hfinds, (hu.retrieved d.id).symm.trans hkept, hwritten⟩
  · rintro es ⟨d, c, tpl, hd, call, k, _, rfl, hkeys, hnew, text, htext, init, _, rfl, hinit, run,
      state, rfl, hrun⟩
    exact ⟨d, tpl, text, call, init, run, state, ⟨⟨c, k, hd, hkeys, htext⟩, hnew, hinit⟩, rfl,
      hrun⟩

/-! ## The other step, and requests that get to neither -/

/-- Nothing is asked for which the step would be needed. -/
theorem starts_false : Starts step s t (fun _ => False) ↔
    ∃ es, t.events = s.events ++ es ∧ Lacks step es := by
  simp only [Starts, or_false]

/-- Work that only runs other steps. -/
theorem quiet_of_runs {steps : List Step} (hes : t.events = s.events ++ es) (h : Runs steps es)
    (hstep : step ∉ steps) : Starts step s t fun _ => False :=
  starts_false.2 ⟨es, hes, h.lacks hstep⟩

/-- Applying runs no other step than its own. -/
theorem quiet_applyWithin (hs : Made d.id s) (hstep : step ∉ [.init, .plan, .apply]) :
    Starts step s ((applyWithin w tpl d k).run s).2 fun _ => False := by
  obtain ⟨-, -, es, hbeside, hruns, -⟩ :=
    (Routine.upholds_iff _ _ s).1 (inside_replan w tpl d k s hs)
  refine (quiet_of_runs (Leaves.events hbeside) hruns hstep).congr
    (Eq.trans ?_ (events_recording w.now d .apply _ s))
  exact events_bind (k := fun x : RunResult × Option String => concludeApply w d x.1 x.2)
    fun _ => silent_concludeApply w d _ _

theorem quiet_planWithin (hs : Made d.id s) (hstep : step ∉ [.init, .plan]) :
    Starts step s ((planWithin w tpl d k).run s).2 fun _ => False := by
  have hruns : (planWithin w tpl d k).Upholds (fun _ _ => True)
      (fun _ t => ∃ es, t.events = s.events ++ es ∧ Runs [.init, .plan] es) s :=
    upholds_planWithin hs (fun _ _ _ => trivial)
      (fun _ es _ hbeside hruns => ⟨es, Leaves.events hbeside, hruns⟩)
      fun _ _ _ es u hbeside hruns =>
        ⟨trivial, es, show u.events = _ from Leaves.events hbeside, hruns⟩
  obtain ⟨es, hes, hruns⟩ := ((Routine.upholds_iff _ _ s).1 hruns).2
  exact quiet_of_runs hes hruns hstep

theorem quiet_destroyWithin (hs : Made d.id s) (hstep : step ∉ [.init, .destroy]) :
    Starts step s ((destroyWithin w tpl d k).run s).2 fun _ => False := by
  have hruns : (destroyWithin w tpl d k).Upholds (fun _ _ => True)
      (fun _ t => ∃ es, t.events = s.events ++ es ∧ Runs [.init, .destroy] es) s :=
    upholds_destroyWithin hs (fun _ _ _ => trivial)
      (fun _ es _ hbeside hruns _ => ⟨es, Leaves.events hbeside, hruns⟩)
      fun _ es u hbeside hruns _ =>
        ⟨trivial, es, show u.events = _ from Leaves.events hbeside, hruns⟩
  obtain ⟨es, hes, hruns⟩ := ((Routine.upholds_iff _ _ s).1 hruns).2
  exact quiet_of_runs hes hruns hstep

theorem Opens.made (h : Opens s id u) : Made id u :=
  Option.isSome_iff_exists.2 ⟨_, h.2⟩

/-- Work that has nothing to come to does not begin. -/
theorem not_works {target : Status} : ¬ Works w s user id target (fun _ _ _ _ => False) es :=
  fun ⟨_, _, _, _, _, _, _, _, _, _, h⟩ => h

theorem quiet_apply (w : World) (s : Installation) (user id : String)
    (hstep : step ∉ [.init, .plan, .apply]) :
    Starts step s ((apply w user id).run s).2 fun _ => False :=
  (starts_applying (G := fun _ _ _ _ => False) fun d _ _ _ hu =>
    quiet_applyWithin (d := { d with status := .applying }) hu.made hstep).mono
    fun _ => not_works

theorem quiet_destroy (w : World) (s : Installation) (user id : String)
    (hstep : step ∉ [.init, .destroy]) :
    Starts step s ((destroy w user id).run s).2 fun _ => False :=
  (starts_destroying (G := fun _ _ _ _ => False) fun d _ _ _ hu =>
    quiet_destroyWithin (d := { d with status := .destroying }) hu.made hstep).mono
    fun _ => not_works

/-- **Planning gets to neither step.** -/
theorem quiet_plan (w : World) (s : Installation) (user template credential region : String)
    (hstep : step ∉ [.init, .plan]) :
    Starts step s ((plan w user template credential region).run s).2 fun _ => False := by
  rcases run_plan_cases w user template credential region s with ⟨f, h⟩ | ⟨tpl, c, h⟩ <;> rw [h]
  · exact .silent rfl
  · refine starts_inSlot fun t ht => starts_charge ht fun _ u hu => ?_
    refine (starts_begun (d := newDeployment w user tpl c region) (G := fun _ _ => False) hu
      (calling_assumeOrRefund w user c region .plan) fun k a ha => ?_).mono
      fun _ ⟨_, _, _, _, _, _, h⟩ => h
    exact (quiet_planWithin ha.made hstep).congr (events_recording _ _ _ _ _)

/-- A role that is to be kept is taken on once. -/
theorem calls_addCredential (w : World) (user name arn external : String) (s : Installation) :
    ∃ es, (addCredential w user name arn external s).2.events = s.events ++ es ∧ Calls es := by
  rcases addCredential_cases w user name arn external s with h | ⟨r, hr⟩
  · exact ⟨[], by rw [h, List.append_nil], .nil⟩
  · obtain ⟨es, hbeside, hcalls, -⟩ := assume_spec w r s
    refine ⟨es, ?_, hcalls⟩
    rcases hr with h | ⟨c, -, -, h⟩ <;> rw [h]
    · exact Leaves.events hbeside
    · exact (Leaves.events hbeside :)

/-- Requests that ask for no operation make calls at most. -/
theorem quiet_elsewhere {t : Task} (hop : t.request.operation? = none) (s : Installation) :
    Starts step s (t.after s) fun _ => False := by
  obtain ⟨w, user, request⟩ := t
  rw [Task.after, Task.work, Request.work.eq_def]
  -- None of these requests runs a step; only the one for a credential asks the world for anything.
  cases request with
  | saveTemplate name content provider description =>
    dsimp only
    rw [run_map]
    refine .silent ?_
    show (saveTemplate w user name content provider description s).2.events = s.events
    rcases saveTemplate_cases w user name content provider description s with h | ⟨x, -, -, h⟩ <;>
      rw [h]
  | addCredential name arn external =>
    dsimp only
    rw [run_map]
    obtain ⟨es, hes, hcalls⟩ := calls_addCredential w user name arn external s
    exact starts_false.2 ⟨es, hes, hcalls.lacks step⟩
  | toggleCredential id active =>
    dsimp only
    rw [run_map]
    refine .silent ?_
    show (toggleCredential w user id active s).2.events = s.events
    rw [toggleCredential, Action.bind_apply, credentialOf]
    cases ownCredential s user id <;> rfl
  | deleteCredential id =>
    dsimp only
    rw [run_map]
    refine .silent ?_
    show (deleteCredential user id s).2.events = s.events
    rw [deleteCredential, Action.bind_apply, credentialOf]
    cases ownCredential s user id with
    | error f => rfl
    | ok c =>
      dsimp only
      rw [Action.bind_apply, Action.get_apply]
      dsimp only
      split <;> rfl
  | _ => cases hop

/-! ## Tasks -/

/-- How often a step is started. -/
def started (step : Step) (es : List Event) : Nat :=
  es.countP fun
    | .ran run => run.args == step.args
    | _ => false

/-- **What a task changes, and behind what**: it applies a plan once at most, as a request to apply
and behind a plan made just then, and it destroys once at most, as a request to destroy and with
what is kept. -/
structure Supervised (t : Task) (s : Installation) : Prop where
  applies : started .apply (t.events s) = 0 ∨ started .apply (t.events s) = 1 ∧
    ∃ id, t.request = .apply id ∧ AppliesFreshPlan t.world s t.user id (t.events s)
  destroys : started .destroy (t.events s) = 0 ∨ started .destroy (t.events s) = 1 ∧
    ∃ id, t.request = .destroy id ∧ DestroysKept t.world s t.user id (t.events s)

theorem started_of_lacks (h : Lacks step es) : started step es = 0 := by
  rw [started, List.countP_eq_zero]
  rintro (_ | run | _) hrun
  · exact Bool.false_ne_true
  · simpa using h run hrun
  · exact Bool.false_ne_true

theorem AppliesFreshPlan.started (h : AppliesFreshPlan w s user id es) :
    started .apply es = 1 := by
  obtain ⟨d, tpl, text, call, init, plan, run, hprepares, rfl, hplan, -, -, hrun, -⟩ := h
  simp [Deploy.started, hprepares.init.args, hplan, hrun, Step.args]

theorem DestroysKept.started (h : DestroysKept w s user id es) : started .destroy es = 1 := by
  obtain ⟨d, tpl, text, call, init, run, state, hprepares, rfl, hrun, -⟩ := h
  simp [Deploy.started, hprepares.init.args, hrun, Step.args]

/-- The events of a task by those of its work. -/
theorem Task.started_or {t : Task} {s : Installation} (h : Starts step s (t.after s) G) :
    started step (t.events s) = 0 ∨ G (t.events s) := by
  obtain ⟨es, hes, hstarts⟩ := h
  rw [Task.events, hes, List.drop_left]
  exact hstarts.imp_left started_of_lacks

/-- A task that starts nothing that changes infrastructure. -/
theorem Task.supervised_of_quiet {t : Task} {s : Installation}
    (h : ∀ step ∉ [Step.init, .plan], Starts step s (t.after s) fun _ => False) :
    Supervised t s where
  applies := .inl ((Task.started_or (h .apply (by decide))).resolve_right id)
  destroys := .inl ((Task.started_or (h .destroy (by decide))).resolve_right id)

/-- **One task.** -/
theorem Task.supervised (t : Task) (s : Installation) : Supervised t s := by
  cases hop : t.request.operation? with
  | none => exact Task.supervised_of_quiet fun step _ => quiet_elsewhere hop s
  | some op =>
    obtain ⟨w, user, request⟩ := t
    cases request with
    | plan template credential region =>
      refine Task.supervised_of_quiet fun step hstep => ?_
      rw [Task.after, Task.work, Request.work, run_map]
      exact quiet_plan w s user template credential region hstep
    -- An application may apply, but its three steps do not destroy; and the other way round.
    | apply id =>
      have hafter : (Task.mk w user (.apply id)).after s = ((apply w user id).run s).2 := by
        rw [Task.after, Task.work, Request.work, run_map]
      constructor
      · refine (Task.started_or (hafter ▸ starts_apply w s user id)).imp_right fun h => ?_
        exact ⟨h.started, id, rfl, h⟩
      · exact .inl <| (Task.started_or (hafter ▸ quiet_apply w s user id (by decide))).resolve_right
          fun h => h
    | destroy id =>
      have hafter : (Task.mk w user (.destroy id)).after s = ((destroy w user id).run s).2 := by
        rw [Task.after, Task.work, Request.work, run_map]
      constructor
      · exact .inl <| (Task.started_or
          (hafter ▸ quiet_destroy w s user id (by decide))).resolve_right fun h => h
      · refine (Task.started_or (hafter ▸ starts_destroy w s user id)).imp_right fun h => ?_
        exact ⟨h.started, id, rfl, h⟩
    | _ => cases hop

/-! ## What is kept is not empty -/

/-- No kept state is empty. -/
def Filled (s : Installation) : Prop :=
  ∀ id, retrieved s id ≠ .ok (some "")

/-- An operation keeps no empty state. -/
theorem Course.filled {op : Operation} {ds : Entries Deployment} {ss : SealedRecords}
    {r : Except Failure Deployment} (h : Course w s d op ds ss es r)
    (hnonce : Seal.isNonce w.nonce = true) (hs : Filled s) (id : String) :
    ss.retrieve s.vault id ≠ .ok (some "") := by
  by_cases hid : id = d.id
  · subst hid
    -- What is kept of its own deployment: a state that it left, or what was kept before.
    have hkeptBy {kept : Option String}
        (hkept : ∀ text, Yields w d.id es text ↔ kept = some text) :
        (keptBy w d.id kept s).states.retrieve s.vault d.id ≠ .ok (some "") := by
      cases kept with
      | none => exact hs d.id
      | some text =>
        obtain ⟨_, _, _, _, _, _, _, _, _, hne⟩ := (hkept text).2 rfl
        show (s.states.store s.vault w.nonce d.id text).retrieve s.vault d.id ≠ _
        rw [SealedRecords.retrieve_store_self hnonce text]
        simpa using hne
    cases h with
    | failed => exact hs d.id
    | planned => exact hs d.id
    | applied _ hkept => exact hkeptBy hkept
    | broken hkept => exact hkeptBy hkept
    | stuck hkept => exact hkeptBy hkept
    | destroyed =>
      rw [SealedRecords.retrieve_delete_self]
      exact nofun
  · rw [h.retrieve_of_ne hid]
    exact hs id

/-- No task keeps an empty state. -/
theorem Task.filled_after {t : Task} {s : Installation}
    (hnonce : Seal.isNonce t.world.nonce = true) (hs : Filled s) : Filled (t.after s) := by
  intro id
  cases hop : t.request.operation? with
  | none =>
    have hu := t.elsewhere hop s
    rw [retrieved, hu.states, hu.vault]
    exact hs id
  | some op =>
    obtain ⟨r, -, hu⟩ := t.outcome hop s
    cases hu with
    | refused _ hu =>
      rw [hu.retrieved]
      exact hs id
    | began _ hu _ hcourse _ =>
      rw [hu.retrieved]
      exact hcourse.filled hnonce hs id

/-! ## A run -/

/-- **What comes before each change** in a run of tasks, whoever asks for them and whatever the
cloud and the tool answer. Each task changes only what it may, behind what has to come before. And
where no kept state was empty when the run began, none ever is, so that each destruction finds the
state that is kept, if there is one. -/
theorem changes_of_run (s : Installation) (ts : List Task) :
    (∀ v ∈ visits s ts, Supervised v.2 v.1) ∧
      (Filled s → (∀ t ∈ ts, Seal.isNonce t.world.nonce = true) →
        ∀ v ∈ visits s ts, Filled v.1) := by
  refine ⟨fun v _ => v.2.supervised v.1, fun hs hnonce => ?_⟩
  -- Induction on the run: what is kept before a task is not empty, nor is what it keeps.
  induction ts generalizing s with
  | nil => simp [visits]
  | cons t ts ih =>
    rw [List.forall_mem_cons] at hnonce
    rw [visits, List.forall_mem_cons]
    exact ⟨hs, ih _ (Task.filled_after hnonce.1 hs) hnonce.2⟩

/-- What comes before the changes of an application and a destruction, each of which gets to its
step. -/
theorem changes_of_run_sample :
    ((∀ v ∈ visits sampleInstallation [sampleApply, sampleDestroy], Supervised v.2 v.1) ∧
        ∀ v ∈ visits sampleInstallation [sampleApply, sampleDestroy], Filled v.1) ∧
      (visits sampleInstallation [sampleApply, sampleDestroy]).map (fun v =>
        (started .apply (v.2.events v.1), started .destroy (v.2.events v.1))) =
          [(1, 0), (0, 1)] := by
  have hfilled : Filled sampleInstallation := fun _ h => by cases h
  have hchanges := changes_of_run sampleInstallation [sampleApply, sampleDestroy]
  exact ⟨⟨hchanges.1, hchanges.2 hfilled (by decide)⟩, by decide +kernel⟩

end Groundplan.Deploy
