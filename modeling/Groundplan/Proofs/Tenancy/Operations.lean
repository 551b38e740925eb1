import Groundplan.Proofs.Deploy.Work
import Groundplan.Proofs.Tenancy.Actions

/-!
# Operations of a user among those of others

An operation on a deployment takes many steps, and others take theirs in between. What it goes by is
what it looked up at first: that the deployment is of its user, and that its template is there. This
is nothing that others undo, so every later step is a turn of the user as well.

## Main definitions

* `Works`: work on a deployment of a user among others

## Main results

* `Works.bind`, `Works.andThen`, `Works.ensuring`, `works_recording`: the combinations
* `works_within`: the work in a workspace, whatever comes of it
* `among_plan`, `among_apply`, `among_destroy`: **each operation among others**
-/

namespace Groundplan.Tenancy

open Deploy
open Routine (among_bind among_andThen)

variable {own : String → String} {v : String} {s t : Installation} {w : World} {d : Deployment}
  {α β : Type}

/-! ## Work on a deployment -/

/-- **Work on a deployment of a user** among others: each step is a turn of the user, and the
deployment is still one of the user at the end. -/
def Works (own : String → String) (v : String) (d : Deployment) (p : Work α) : Prop :=
  ∀ s, Mine own v d s → p.Among (Later own) (Turn own v) (fun _ t => Mine own v d t) s

theorem works_done (r : Except Failure α) : Works own v d (.done r) :=
  fun _ hs => hs

theorem works_pure (x : α) : Works own v d (pure x) :=
  works_done (.ok x)

theorem works_fail (f : Failure) : Works own v d (.fail f : Work α) :=
  works_done (.error f)

theorem Works.andThen {p : Work α} {k : Except Failure α → Work β} (hp : Works own v d p)
    (hk : ∀ r, Works own v d (k r)) : Works own v d (p.andThen k) := by
  intro s hs
  rw [among_andThen]
  exact (hp s hs).mono fun r t ht => hk r t ht

theorem Works.bind {p : Work α} {k : α → Work β} (hp : Works own v d p)
    (hk : ∀ x, Works own v d (k x)) : Works own v d (p >>= k) :=
  hp.andThen fun r =>
    match r with
    | .ok x => hk x
    | .error f => works_done (.error f)

/-- A single step that is a turn. -/
theorem works_step {a : Action α}
    (ha : ∀ s, Orderly own s → Mine own v d s → Turn own v s (a s).2) :
    Works own v d a.asStep := by
  intro s hs t ht
  have hd := hs.later ht
  have hturn := ha t ht.orderly hd
  exact ⟨hturn, hd.later hturn.toLater⟩

theorem works_quiet {a : Action α} (ha : Quiet a) : Works own v d a.asStep :=
  works_step fun _ hs _ => ha.turn hs

theorem works_change {f : Installation → Installation}
    (hf : ∀ s, Orderly own s → Mine own v d s → Turn own v s (f s)) : Works own v d (change f) :=
  works_step (a := fun s => (.ok (), f s)) hf

theorem Works.ensuring {p : Work α} {last : Installation → Installation} (hp : Works own v d p)
    (hlast : ∀ s, Orderly own s → Turn own v s (last s)) : Works own v d (p.ensuring last) :=
  hp.andThen fun r => works_step (a := fun s => (r, last s)) fun s hs _ => hlast s hs

/-- Writing the record of the deployment, however far it is. -/
theorem works_put {e : Deployment} (hid : e.id = d.id) (huser : e.user = d.user)
    (htemplate : e.template = d.template) : Works own v d (change (putDeployment e)) :=
  works_change fun _ hs hd => turn_putDeployment hs (hd.congr hid huser htemplate)

/-- The record that an operation ends with is written and returned. -/
theorem works_putPure {e : Deployment} (hid : e.id = d.id) (huser : e.user = d.user)
    (htemplate : e.template = d.template) :
    Works own v d (do change (putDeployment e); return e) :=
  (works_put hid huser htemplate).bind fun _ => works_pure e

theorem user_failed (d : Deployment) (now : Instant) (op : Operation) (f : Failure) :
    (d.failed now op f).user = d.user := by
  show (d.withOutput op f).user = d.user
  rw [Deployment.withOutput.eq_def]
  cases failedOutput? f <;> cases op <;> rfl

theorem template_failed (d : Deployment) (now : Instant) (op : Operation) (f : Failure) :
    (d.failed now op f).template = d.template := by
  show (d.withOutput op f).template = d.template
  rw [Deployment.withOutput.eq_def]
  cases failedOutput? f <;> cases op <;> rfl

/-- A failure is recorded with the deployment. -/
theorem works_recording {e : Deployment} {p : Work α} (now : Instant) (op : Operation)
    (hid : e.id = d.id) (huser : e.user = d.user) (htemplate : e.template = d.template)
    (hp : Works own v d p) : Works own v d (recording now e op p) := by
  refine hp.andThen fun r => ?_
  cases r with
  | ok x => exact works_done _
  | error f =>
    refine Works.andThen (works_put ?_ ?_ ?_) fun _ => works_fail f
    · rw [id_failed, hid]
    · rw [user_failed, huser]
    · rw [template_failed, htemplate]

/-! ## Parts of the operations -/

theorem works_assumeOrRefund (w : World) (c : Credential) (region : String) (m : Metered) :
    Works own v d (assumeOrRefund w v c region m) := by
  refine (works_quiet (quiet_assumeFor w c region)).andThen fun r => ?_
  cases r with
  | ok k => exact works_done _
  | error f =>
    dsimp only
    split
    · exact (works_change fun s hs _ => turn_refund hs m).andThen fun _ => works_fail f
    · exact works_fail f

/-- **The work in a workspace**: it is made, and removed whatever happens. -/
theorem works_within {op : Operation} {keys : Work Keys} {body : Keys → Work Deployment}
    (hkeys : Works own v d keys) (hbody : ∀ k, Works own v d (body k)) :
    Works own v d (within w d op keys body) := by
  refine (works_recording w.now op rfl rfl rfl ?_).bind fun k => ?_
  · exact hkeys.bind fun k => (works_quiet (quiet_onWorkspaces _)).bind fun _ => works_pure k
  · exact (hbody k).ensuring fun s hs => turn_of_records hs rfl

theorem works_expectSuccess (step : String) (r : RunResult) :
    Works own v d (expectSuccess step r) := by
  rw [expectSuccess]
  split
  · exact works_pure _
  · exact works_fail _

theorem works_prepare (w : World) (id : String) : Works own v d (prepare w id) :=
  (works_quiet (quiet_runStep w id .init)).bind fun r => works_expectSuccess "init" r

theorem works_auditTemplate (w : World) (t : Template) : Works own v d (auditTemplate w t) := by
  refine works_step fun s hs _ => ?_
  dsimp only
  cases Hcl.scannable t.content with
  | error f => exact .refl v hs
  | ok _ => exact turn_of_records hs rfl

/-- Planning in the workspace. -/
theorem works_planWithin (w : World) (t : Template) (k : Keys) :
    Works own v d (planWithin w t d k) := by
  refine (works_quiet (quiet_writeFiles _ _ k _)).bind fun _ => (works_prepare w _).bind fun _ => ?_
  refine (works_quiet (quiet_runPlan w _)).bind fun ⟨r, summary⟩ => ?_
  refine (works_expectSuccess "plan" r).bind fun _ => ?_
  refine (works_auditTemplate w t).bind fun report => ?_
  dsimp only
  exact works_putPure rfl rfl rfl

theorem works_counted (state : Option String) : Works own v d (counted state) := by
  rw [counted]
  split
  · exact works_pure _
  · exact works_fail _

theorem works_keepState (w : World) (text : String) :
    Works own v d (change (keepState w d.id text)) :=
  works_change fun _ hs hd => turn_keepState hs hd.id w text

/-- What is left of a failed application is counted with the deployment, which stays the same one
otherwise. -/
theorem works_keepPartial_bind {state : Option String} {k : Deployment → Work β}
    (hk : ∀ e, e.id = d.id → e.user = d.user → e.template = d.template → Works own v d (k e)) :
    Works own v d (keepPartial w d state >>= k) := by
  rw [keepPartial]
  split
  · rw [Routine.bind_bind]
    refine (works_keepState w _).bind fun _ => ?_
    rw [Routine.bind_bind]
    exact (works_counted _).bind fun n => hk _ rfl rfl rfl
  · exact hk d rfl rfl rfl

theorem works_concludeApply (w : World) (r : RunResult) (state : Option String) :
    Works own v d (concludeApply w d r state) := by
  rw [concludeApply]
  split
  · refine Works.bind ?_ fun _ => (works_counted _).bind fun n => ?_
    · rw [keep]
      split
      · exact works_keepState w _
      · exact works_pure _
    · dsimp only
      exact works_putPure rfl rfl rfl
  · refine works_keepPartial_bind fun e hid huser htemplate => ?_
    exact works_recording w.now .apply hid huser htemplate (works_fail _)

/-- Everything up to the run that applies. -/
theorem works_replan (w : World) (t : Template) (k : Keys) : Works own v d (replan w t d k) := by
  refine (works_quiet (quiet_writeFiles _ _ k _)).bind fun _ => (works_prepare w _).bind fun _ => ?_
  refine (works_quiet (quiet_runPlan w _)).bind fun ⟨r, _⟩ => ?_
  exact (works_expectSuccess "re-plan" r).bind fun _ => works_quiet (quiet_runApply w _)

theorem works_applyWithin (w : World) (t : Template) (k : Keys) :
    Works own v d (applyWithin w t d k) :=
  (works_recording w.now .apply rfl rfl rfl (works_replan w t k)).bind fun ⟨r, state⟩ =>
    works_concludeApply w r state

/-- Destroying in the workspace. -/
theorem works_destroyWithin (w : World) (t : Template) (k : Keys) :
    Works own v d (destroyWithin w t d k) := by
  refine (works_quiet (quiet_writeFiles _ _ k _)).bind fun _ => ?_
  refine (works_quiet fun _ => rfl).bind fun state => (works_prepare w _).bind fun _ => ?_
  refine (works_quiet (quiet_runDestroy w _ state)).bind fun r => ?_
  refine (works_expectSuccess "destroy" r).bind fun _ => ?_
  refine (works_change fun _ hs hd => turn_dropState hs hd.id).bind fun _ => ?_
  dsimp only
  exact works_putPure rfl rfl rfl

/-! ## Operations -/

/-- A look-up leaves everything as it is; what it finds is there when the others had their turns. -/
theorem among_look {o : Installation → Answer α} {k : α → Work β}
    {Q : Except Failure β → Installation → Prop}
    (herror : ∀ f t, Q (.error f) t)
    (hok : ∀ t x, Later own s t → o t = .ok x → (k x).Among (Later own) (Turn own v) Q t) :
    ((Action.asStep fun s => (o s, s)) >>= k).Among (Later own) (Turn own v) Q s := by
  refine among_bind fun t ht => ⟨.refl v ht.orderly, fun x hx => ?_, fun f _ => herror f t⟩
  exact hok t x ht hx

/-- Work within a slot of the user. -/
theorem works_inSlot {body : Work α} (hbody : Works own v d body) :
    Works own v d (inSlot v body) :=
  (works_step fun _ hs _ => turn_acquireSlot hs).bind fun _ =>
    hbody.ensuring fun _ hs => turn_releaseSlot hs

theorem works_charge (m : Metered) : Works own v d (charge v m).asStep :=
  works_step fun _ hs _ => turn_charge hs m

/-- Planning begins with a new record of the user. -/
theorem works_planInSlot {t : Template} {c : Credential} {region : String} :
    Works own v (newDeployment w v t c region) (planInSlot w v t c region) := by
  refine (works_charge .plan).bind fun _ => ?_
  dsimp only
  refine (works_put rfl rfl rfl).bind fun _ => ?_
  refine works_within (works_assumeOrRefund w c region .plan) fun k => ?_
  exact works_recording w.now .plan rfl rfl rfl (works_planWithin w t k)

/-- Work on a deployment that is one of the user. -/
theorem Works.among {p : Work α} (hp : Works own v d p) (hd : Mine own v d s) :
    p.Among (Later own) (Turn own v) (fun _ _ => True) s :=
  (hp s hd).mono fun _ _ _ => trivial

/-- **Planning among others.** -/
theorem among_plan (hid : own w.recordId = v) (template credential region : String) :
    (plan w v template credential region).Among (Later own) (Turn own v) (fun _ _ => True) s := by
  refine among_look (o := fun s => ownTemplate s v template) (fun _ _ => trivial)
    fun a t ha ht => ?_
  obtain ⟨hkey, -, hown⟩ := ha.orderly.templates.owned ht
  have hmade : (Entries.get? t.id a.templates).isSome := by
    rw [hkey, (owned_eq_ok.1 ht).1]
    rfl
  refine among_look (o := fun s => ownCredential s v credential) (fun _ _ => trivial)
    fun b c hb _ => ?_
  split
  · refine (works_inSlot works_planInSlot).among ⟨hid, rfl, ?_, hb.templates _ hmade⟩
    show own t.id = v
    rwa [hkey]
  · exact trivial

/-- What is looked up for an operation is a deployment of the user. -/
theorem among_enterDeployment {id verb : String} {target : Status}
    {k : Deployment × Credential × Template → Work β}
    (hk : ∀ t d c x, Mine own v d t →
      (k (d, c, x)).Among (Later own) (Turn own v) (fun _ _ => True) t) :
    (enterDeployment v id target verb >>= k).Among (Later own) (Turn own v)
      (fun _ _ => True) s := by
  rw [enterDeployment, Routine.bind_bind]
  refine among_look (o := fun s => ownDeployment s v id) (fun _ _ => trivial)
    fun a d ha hfound => ?_
  obtain ⟨hkey, huser, hown⟩ := ha.orderly.deployments.owned hfound
  obtain ⟨htemplate, hmade⟩ := ha.orderly.made _ (Entries.mem_of_get? (owned_eq_ok.1 hfound).1)
  have hd : Mine own v d a := ⟨by rwa [hkey], huser, htemplate.trans hown, hmade⟩
  split
  · exact trivial
  · -- The deployment is still there when its credential and its template are looked up.
    rw [Routine.bind_bind]
    refine among_look (o := fun s => ownCredential s v d.credential) (fun _ _ => trivial)
      fun b c hb _ => ?_
    rw [Routine.bind_bind]
    refine among_look (o := fun s => ownTemplate s v d.template) (fun _ _ => trivial)
      fun e x he _ => ?_
    exact hk e d c x ((hd.later hb).later he)

/-- Applying goes on with the record under another status. -/
theorem works_applyInSlot {t : Template} {c : Credential} :
    Works own v { d with status := .applying } (applyInSlot w v t c d) := by
  refine (works_charge .apply).bind fun _ => ?_
  dsimp only
  refine (works_put rfl rfl rfl).bind fun _ => ?_
  exact works_within (works_assumeOrRefund w c _ .apply) fun k => works_applyWithin w t k

/-- **Applying among others.** -/
theorem among_apply (id : String) :
    (apply w v id).Among (Later own) (Turn own v) (fun _ _ => True) s :=
  among_enterDeployment fun _ _ _ _ hd =>
    (works_inSlot works_applyInSlot).among (hd.congr rfl rfl rfl)

/-- Destroying goes on with the record under another status. -/
theorem works_destroyInSlot {t : Template} {c : Credential} :
    Works own v { d with status := .destroying } (destroyInSlot w t c d) := by
  refine (works_put rfl rfl rfl).bind fun _ => ?_
  refine works_within (works_quiet (quiet_assumeFor w c _)) fun k => ?_
  exact works_recording w.now .destroy rfl rfl rfl (works_destroyWithin w t k)

/-- **Destroying among others.** -/
theorem among_destroy (id : String) :
    (destroy w v id).Among (Later own) (Turn own v) (fun _ _ => True) s :=
  among_enterDeployment fun _ _ _ _ hd =>
    (works_inSlot works_destroyInSlot).among (hd.congr rfl rfl rfl)

end Groundplan.Tenancy
