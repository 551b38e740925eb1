import Groundplan.Proofs.Deploy.Work

/-!
# How operations end

The courses that planning, applying and destroying can take. An operation is refused, and then it
changed nothing; or it began with a record of its own, and then this record tells how it ended: what
became of the work is written there, and the state that an application left is kept. In one case
nothing more is written: when the resources of a state cannot be counted.

## Main definitions

* `Paid`: the balances after an operation
* `Course`: how an operation that began goes on and ends
* `Outcome`: how a request for an operation ends

## Main results

* `upholds_begun`: an operation that began takes its course
* `upholds_plan`, `upholds_apply`, `upholds_destroy`: **the courses of the operations**
-/

namespace Groundplan.Deploy

open Routine (upholds_bind upholds_andThen upholds_perform upholds_ensuring)

variable {s t u : Installation} {es fs : List Event} {α β : Type} {now : Instant} {d : Deployment}
  {op : Operation} {w : World} {Q : Except Failure Deployment → Installation → Prop}

/-! ## Balances -/

/-- What an operation costs; a destruction costs nothing. -/
def Operation.metered? : Operation → Option Metered
  | .plan => some .plan
  | .apply => some .apply
  | .destroy => none

/-- **The balances after an operation** that began: what costs nothing changes none; the cost is due
if keys were issued, or if something else than a refusal ended the operation; and otherwise every
balance is what it was. -/
inductive Paid (w : World) (user : String) (op : Operation) (before after : Credits)
    (es : List Event) : Except Failure Deployment → Prop where
  /-- The operation costs nothing. -/
  | free {r : Except Failure Deployment} (hop : op.metered? = none) (h : after = before) :
      Paid w user op before after es r
  /-- The operation was refused before any keys were issued. -/
  | nothing {m : Metered} {f : Failure} (hop : op.metered? = some m) (hkeys : ¬ Obtained w es)
      (hf : f.isRefusal) (h : ∀ v, after.balance v = before.balance v) :
      Paid w user op before after es (.error f)
  /-- The cost is due. -/
  | cost {m : Metered} {r : Except Failure Deployment} (hop : op.metered? = some m)
      (hdue : Obtained w es ∨ ∃ f, r = .error f ∧ ¬ f.isRefusal)
      (hcover : m.cost ≤ before.balance user)
      (hself : after.balance user = before.balance user - m.cost)
      (hother : ∀ v, v ≠ user → after.balance v = before.balance v) :
      Paid w user op before after es r

/-- The balances after a charge. -/
def charged (c : Credits) (user : String) (m : Metered) : Credits :=
  c.set user (c.balance user - m.cost)

/-- Keys were issued for what was charged. -/
theorem Paid.ofObtained {user : String} {m : Metered} {c : Credits} {r : Except Failure Deployment}
    (hop : op.metered? = some m) (hcover : m.cost ≤ c.balance user) (hkeys : Obtained w es) :
    Paid w user op c (charged c user m) es r :=
  .cost hop (.inl hkeys) hcover (Credits.balance_set_self _ _ _)
    fun _ hv => Credits.balance_set_of_ne hv _ _

/-- What was charged is given back if the role was refused. -/
theorem Paid.ofStopped {user : String} {m : Metered} {c cs : Credits} {f : Failure}
    (hop : op.metered? = some m) (hcover : m.cost ≤ c.balance user)
    (hkeys : Obtained w es → cs = charged c user m)
    (hnot : ¬ Obtained w es → cs = if f.isRefusal then ((charged c user m).refund user m).2
      else charged c user m) :
    Paid w user op c cs es (.error f) := by
  by_cases h : Obtained w es
  · rw [hkeys h]
    exact .ofObtained hop hcover h
  rw [hnot h]
  by_cases hf : f.isRefusal
  · -- The charge and the refund cancel.
    refine .nothing hop h hf fun v => ?_
    rw [if_pos hf, Credits.refund, charged]
    by_cases hv : v = user
    · subst hv
      rw [Credits.balance_set_self, Credits.balance_set_self, Int.sub_add_cancel]
    · rw [Credits.balance_set_of_ne hv, Credits.balance_set_of_ne hv]
  · rw [if_neg hf]
    exact .cost hop (.inr ⟨f, rfl, hf⟩) hcover (Credits.balance_set_self _ _ _)
      fun _ hv => Credits.balance_set_of_ne hv _ _

/-- A charge is refused, or it is made. -/
theorem upholds_charge {user : String} {m : Metered} {k : Int → Work Deployment}
    (hR : ∀ s t, Untouched s t → R s t)
    (hrefused : ∀ f t, f.isRefusal → Beside s [] t → Q (.error f) t)
    (hok : ∀ n, m.cost ≤ s.credits.balance user →
      (k n).Upholds R Q { s with credits := charged s.credits user m }) :
    ((charge user m).asStep >>= k).Upholds R Q s := by
  rw [upholds_bind, Action.asStep, upholds_perform, charge, Action.draw, Credits.charge]
  dsimp only
  split
  · exact ⟨hR _ _ rfl, hrefused _ _ rfl .rfl⟩
  · exact ⟨hR _ _ rfl, hok _ (by omega)⟩

/-! ## Courses -/

/-- **How an operation that began goes on and ends**: the deployments, the kept states, the events
and the result, by the record that it began with. -/
inductive Course (w : World) (s : Installation) (d : Deployment) :
    Operation → Entries Deployment → SealedRecords → List Event → Except Failure Deployment →
      Prop where
  /-- It fails without a state. -/
  | failed {op : Operation} {es : List Event} {f : Failure}
      (hnone : ∀ text, ¬ Yields w d.id es text) :
      Course w s d op (Entries.set d.id (d.failed w.now op f) s.deployments) s.states es (.error f)
  /-- The plan is made. -/
  | planned {es : List Event} (r : RunResult) (summary : PlanSummary) (report : Policy.Report)
      (hnone : ∀ text, ¬ Yields w d.id es text) :
      Course w s d .plan (Entries.set d.id (d.planned r summary report) s.deployments) s.states es
        (.ok (d.planned r summary report))
  /-- The plan is applied, and the state that this left is kept. -/
  | applied {es : List Event} {kept : Option String} {n : Nat} (r : RunResult)
      (hkept : ∀ text, Yields w d.id es text ↔ kept = some text)
      (hcount : resourceCount kept = .ok n) :
      Course w s d .apply (Entries.set d.id (d.applied w.now r n) s.deployments)
        (keptBy w d.id kept s).states es (.ok (d.applied w.now r n))
  /-- Applying fails, and the state that it left so far is kept. -/
  | broken {es : List Event} {kept : Option String} {n : Nat} {f : Failure}
      (hkept : ∀ text, Yields w d.id es text ↔ kept = some text)
      (hcount : resourceCount kept = .ok n) :
      Course w s d .apply
        (Entries.set d.id ((d.counting kept n).failed w.now .apply f) s.deployments)
        (keptBy w d.id kept s).states es (.error f)
  /-- A state is kept, but what it lists cannot be counted: the record stays as it was begun. -/
  | stuck {es : List Event} {kept : Option String} {f : Failure}
      (hkept : ∀ text, Yields w d.id es text ↔ kept = some text)
      (hcount : resourceCount kept = .error f) :
      Course w s d .apply (Entries.set d.id d s.deployments) (keptBy w d.id kept s).states es
        (.error f)
  /-- All is destroyed, and the state is dropped. -/
  | destroyed {es : List Event} (r : RunResult)
      (hnone : ∀ text, ¬ Yields w d.id es text) :
      Course w s d .destroy (Entries.set d.id (d.destroyed w.now r) s.deployments)
        (s.states.delete d.id) es (.ok (d.destroyed w.now r))

/-- **How a request for an operation ends**: it is refused and nothing has happened, or it began
with a record and took its course. -/
inductive Outcome (w : World) (s : Installation) (user : String) (op : Operation)
    (Begins : Deployment → Prop) : Except Failure Deployment → Installation → Prop where
  | refused {f : Failure} {t : Installation} (hf : f.isRefusal) (ht : Beside s [] t) :
      Outcome w s user op Begins (.error f) t
  | began {d : Deployment} {r : Except Failure Deployment} {t : Installation}
      {ds : Entries Deployment} {ss : SealedRecords} {cs : Credits} {es : List Event}
      (hd : Begins d) (ht : Leaves s ds ss cs es t)
      (hpaid : Paid w user op s.credits cs es r) (hcourse : Course w s d op ds ss es r)
      (hfiles : Restores s d.id es) : Outcome w s user op Begins r t

/-- The state in which the work on a record begins. -/
def begun (s : Installation) (cs : Credits) (d : Deployment) : Installation :=
  { s with credits := cs, deployments := Entries.set d.id d s.deployments }

variable {H : Prop} {cs : Credits} {Begins : Deployment → Prop} {user : String}

/-- The record that an operation began with may become what its status allows. -/
theorem statusStep_put_begun {e : Deployment} (h : Untouched (begun s cs d) t) (hid : e.id = d.id)
    (hstatus : d.status.canBecome e.status) : StatusStep t (putDeployment e t) := by
  refine statusStep_put ?_ hstatus
  rw [h, hid]
  exact Entries.get?_set_self _ _ _

theorem statusStep_put_failed (h : Untouched (begun s cs d) t)
    (hstatus : d.status.canBecome .failed) (f : Failure) :
    StatusStep t (putDeployment (d.failed w.now op f) t) :=
  statusStep_put_begun h (id_failed _ _ _ _) (by rwa [status_failed hstatus])

/-- What is left behind once the record has been written again. -/
theorem leaves_put_begun {e : Deployment} (h : Beside (begun s cs d) es t) (hid : e.id = d.id) :
    Leaves s (Entries.set d.id e s.deployments) s.states cs es (putDeployment e t) := by
  obtain ⟨_, _, _, _, rfl⟩ := h
  exact ⟨_, _, _, _, by rw [putDeployment, begun, hid, Entries.set_set]⟩

/-- Keeping a state changes nothing else. -/
theorem untouched_keptBy (w : World) (id : String) (kept : Option String) (s : Installation) :
    Untouched s (keptBy w id kept s) := by
  cases kept <;> rfl

theorem Leaves.keptBy {ds : Entries Deployment} (h : Leaves s ds s.states cs es t) (w : World)
    (id : String) (kept : Option String) :
    Leaves s ds (keptBy w id kept s).states cs es (keptBy w id kept t) := by
  obtain ⟨_, _, _, _, rfl⟩ := h
  cases kept <;> exact ⟨_, _, _, _, rfl⟩

theorem putDeployment_keptBy (w : World) (id : String) (kept : Option String) (d : Deployment)
    (s : Installation) :
    putDeployment d (keptBy w id kept s) = keptBy w id kept (putDeployment d s) := by
  cases kept <;> rfl

theorem Leaves.dropState {ds : Entries Deployment} (h : Leaves s ds s.states cs es t)
    (id : String) : Leaves s ds (s.states.delete id) cs es (dropState id t) := by
  obtain ⟨_, _, _, _, rfl⟩ := h
  exact ⟨_, _, _, _, rfl⟩

/-- What the work on a record comes to, behind some calls. -/
def Worked (w : World) (s : Installation) (d : Deployment) (op : Operation) (cs : Credits)
    (es : List Event) (r : Except Failure Deployment) (u : Installation) : Prop :=
  ∃ ds ss steps fs, Leaves s ds ss cs (es ++ fs) u ∧ Runs steps fs ∧
    Course w s d op ds ss (es ++ fs) r ∧ Restores s d.id (es ++ fs)

/-- **An operation that began takes its course**, if the work in its workspace does. -/
theorem upholds_begun {keys : Work Keys} {back : Credits → Credits} {body : Keys → Work Deployment}
    (hd : Begins d) (hstatus : d.status.canBecome .failed) (hgrants : Grants w keys back)
    (hpaid : ∀ es r, Obtained w es → Paid w user op s.credits cs es r)
    (hstopped : ∀ es f cs', (Obtained w es → cs' = cs) →
      (¬ Obtained w es → cs' = if f.isRefusal then back cs else cs) →
      Paid w user op s.credits cs' es (.error f))
    (hbody : ∀ k es t, Made d.id t → Beside (begun s cs d) es t → Calls es →
      (body k).Upholds (fun a b => H → StatusStep a b) (Worked w s d op cs es) t) :
    (within w d op keys body).Upholds (fun a b => H → StatusStep a b)
      (Outcome w s user op Begins) (begun s cs d) := by
  refine upholds_within (fun _ _ h _ => h.statusStep) hgrants ?_ ?_ ?_
  · exact fun f t ht _ => statusStep_put_failed ht hstatus f
  · -- It could not be entered: there were calls only, so no state was left and nothing destroyed.
    intro f es cs' t ht hcalls hkeys hnot
    have hlacks := hcalls.lacks .destroy
    refine .began hd ?_ (hstopped es f cs' hkeys hnot)
      (.failed fun text => not_yields_of_lacks (hcalls.lacks .apply)) hlacks.restores
    obtain ⟨_, _, _, _, rfl⟩ := ht
    exact ⟨_, _, _, _, by rw [begun, Entries.set_set]⟩
  · intro k es t hm hb hcalls hkeys
    refine (hbody k es t hm hb hcalls).mono (fun _ _ h => h) ?_
    rintro r u ⟨ds, ss, steps, fs, hl, hruns, hcourse, hfiles⟩
    exact .began hd (hl.removeWorkspace d.id) (hpaid _ r ((obtained_append hruns).2 hkeys)) hcourse
      hfiles

/-! ## The courses of the operations -/

variable {tpl : Template} {k : Keys}

/-- The work of planning, on a record that is planning. -/
theorem upholds_planWork (hstatus : d.status = .planning) (hm : Made d.id t)
    (hb : Beside (begun s cs d) es t) (hcalls : Calls es) :
    (recording w.now d .plan (planWithin w tpl d k)).Upholds (fun a b => H → StatusStep a b)
      (Worked w s d .plan cs es) t := by
  -- Neither the calls nor the runs of a plan apply or destroy anything.
  have hyields (fs : List Event) (hruns : Runs [.init, .plan] fs) (text : String) :
      ¬ Yields w d.id (es ++ fs) text :=
    not_yields_of_lacks ((hcalls.lacks .apply).append (hruns.lacks (by decide)))
  have hfiles (fs : List Event) (hruns : Runs [.init, .plan] fs) : Restores s d.id (es ++ fs) :=
    Lacks.restores ((hcalls.lacks .destroy).append (hruns.lacks (by decide)))
  refine upholds_recording.2 (upholds_planWithin hm (fun _ _ h _ => h.statusStep) ?_ ?_)
  · intro f fs u hu hruns
    exact ⟨fun _ => statusStep_put_failed (hb.trans hu).untouched (by rw [hstatus]; rfl) f,
      _, _, _, fs, leaves_put_begun (hb.trans hu) (id_failed _ _ _ _), hruns,
      .failed (hyields fs hruns), hfiles fs hruns⟩
  · intro r summary report fs u hu hruns
    exact ⟨fun _ => statusStep_put_begun (hb.trans hu).untouched rfl (by rw [hstatus]; rfl),
      _, _, _, fs, leaves_put_begun (hb.trans hu) rfl, hruns,
      .planned r summary report (hyields fs hruns), hfiles fs hruns⟩

/-- The work of applying, on a record that is being applied. -/
theorem upholds_applyWork (hstatus : d.status = .applying) (hm : Made d.id t)
    (hb : Beside (begun s cs d) es t) (hcalls : Calls es) :
    (applyWithin w tpl d k).Upholds (fun a b => H → StatusStep a b)
      (Worked w s d .apply cs es) t := by
  have hfail : d.status.canBecome .failed := by
    rw [hstatus]
    rfl
  have hfiles (fs : List Event) (hruns : Runs [.init, .plan, .apply] fs) :
      Restores s d.id (es ++ fs) :=
    Lacks.restores ((hcalls.lacks .destroy).append (hruns.lacks (by decide)))
  refine upholds_applyWithin hm (fun _ _ h _ => h.statusStep) ?_ ?_
  · -- It fails before there is a state.
    intro f fs u hu hruns hnone
    refine ⟨fun _ => statusStep_put_failed (hb.trans hu).untouched hfail f,
      _, _, _, fs, leaves_put_begun (hb.trans hu) (id_failed _ _ _ _), hruns,
      .failed fun text => ?_, hfiles fs hruns⟩
    rw [yields_append (hcalls.lacks .apply)]
    exact hnone text
  -- The run that applies ended somehow, and `kept? state` is what it left.
  intro r state fs u hu hruns hkept
  have hkept (text : String) : Yields w d.id (es ++ fs) text ↔ kept? state = some text := by
    rw [yields_append (hcalls.lacks .apply), hkept]
  have huntouched : Untouched (begun s cs d) (keptBy w d.id (kept? state) u) :=
    (untouched_keptBy w d.id (kept? state) u).trans (hb.trans hu).untouched
  have hleaves (e : Deployment) (hid : e.id = d.id) :
      Leaves s (Entries.set d.id e s.deployments) (keptBy w d.id (kept? state) s).states cs
        (es ++ fs) (putDeployment e (keptBy w d.id (kept? state) u)) := by
    rw [putDeployment_keptBy]
    exact (leaves_put_begun (hb.trans hu) hid).keptBy w d.id (kept? state)
  refine upholds_concludeApply (fun _ _ h _ => h.statusStep) ?_ ?_ ?_
  · -- The state cannot be counted, and the record is not written again.
    intro f hcount
    refine ⟨_, _, _, fs, ?_, hruns, .stuck hkept hcount, hfiles fs hruns⟩
    obtain ⟨_, _, _, _, rfl⟩ := hb.trans hu
    cases kept? state <;> exact ⟨_, _, _, _, rfl⟩
  · -- The run succeeded.
    rintro n _ hcount rfl
    exact ⟨fun _ => statusStep_put_begun huntouched rfl (by rw [hstatus]; rfl),
      _, _, _, fs, hleaves _ rfl, hruns, .applied r hkept hcount, hfiles fs hruns⟩
  · -- The run failed.
    rintro n e f _ hcount rfl rfl
    have hid : (d.counting (kept? state) n).id = d.id := by cases kept? state <;> rfl
    have hcounting : (d.counting (kept? state) n).status = d.status := by
      cases kept? state <;> rfl
    refine ⟨fun _ => statusStep_put_begun huntouched ((id_failed _ _ _ _).trans hid) ?_,
      _, _, _, fs, hleaves _ ((id_failed _ _ _ _).trans hid), hruns, .broken hkept hcount,
      hfiles fs hruns⟩
    rwa [status_failed (by rwa [hcounting])]

/-- The work of destroying, on a record that is being destroyed. -/
theorem upholds_destroyWork (hstatus : d.status = .destroying) (hm : Made d.id t)
    (hb : Beside (begun s cs d) es t) (hcalls : Calls es) :
    (recording w.now d .destroy (destroyWithin w tpl d k)).Upholds
      (fun a b => H → StatusStep a b) (Worked w s d .destroy cs es) t := by
  have hyields (fs : List Event) (hruns : Runs [.init, .destroy] fs) (text : String) :
      ¬ Yields w d.id (es ++ fs) text :=
    not_yields_of_lacks ((hcalls.lacks .apply).append (hruns.lacks (by decide)))
  -- What is kept when the work begins is what was kept when the operation began.
  have hfiles (fs : List Event) (h : Restores t d.id fs) : Restores s d.id (es ++ fs) := by
    refine (hcalls.lacks .destroy).restores.append fun run hrun hargs text hne htext => ?_
    refine h run hrun hargs text hne ?_
    obtain ⟨_, _, _, _, rfl⟩ := hb
    exact htext
  refine upholds_recording.2 (upholds_destroyWithin hm (fun _ _ h _ => h.statusStep) ?_ ?_)
  · intro f fs u hu hruns hf
    exact ⟨fun _ => statusStep_put_failed (hb.trans hu).untouched (by rw [hstatus]; rfl) f,
      _, _, _, fs, leaves_put_begun (hb.trans hu) (id_failed _ _ _ _), hruns,
      .failed (hyields fs hruns), hfiles fs hf⟩
  · intro r fs u hu hruns hf
    have hleaves := leaves_put_begun (hb.trans hu) (show (d.destroyed w.now r).id = d.id from rfl)
    exact ⟨fun _ => statusStep_put_begun (hb.trans hu).untouched rfl (by rw [hstatus]; rfl),
      _, _, _, fs, hleaves.dropState d.id, hruns, .destroyed r (hyields fs hruns), hfiles fs hf⟩

/-- Planning that holds a slot: the charge is refused, or the new record takes its course. -/
theorem upholds_planInSlot {c : Credential} {region : String}
    (hbegins : Begins (newDeployment w user tpl c region))
    (hfresh : H → Entries.get? w.recordId s.deployments = none) :
    (planInSlot w user tpl c region).Upholds (fun a b => H → StatusStep a b)
      (Outcome w s user .plan Begins) s := by
  rw [planInSlot]
  refine upholds_charge (fun _ _ h _ => h.statusStep) (fun f t hf ht => .refused hf ht) ?_
  intro _ hcover
  rw [upholds_bind]
  -- The new record is written before any work begins.
  refine ⟨fun hH => statusStep_put_new (hfresh hH) rfl, ?_⟩
  refine upholds_begun hbegins rfl (grants_assumeOrRefund w user c region .plan)
    (fun es r h => .ofObtained rfl hcover h) (fun es f cs' => .ofStopped rfl hcover) ?_
  exact fun k es t hm hb hcalls => upholds_planWork rfl hm hb hcalls

/-- Applying that holds a slot. -/
theorem upholds_applyInSlot {c : Credential} {old : Deployment}
    (hbegins : Begins { old with status := .applying })
    (hold : H → Entries.get? old.id s.deployments = some old) (hstatus : old.status = .planReady) :
    (applyInSlot w user tpl c old).Upholds (fun a b => H → StatusStep a b)
      (Outcome w s user .apply Begins) s := by
  rw [applyInSlot]
  refine upholds_charge (fun _ _ h _ => h.statusStep) (fun f t hf ht => .refused hf ht) ?_
  intro _ hcover
  rw [upholds_bind]
  refine ⟨fun hH => statusStep_put (hold hH) (by rw [hstatus]; rfl), ?_⟩
  refine upholds_begun hbegins rfl (grants_assumeOrRefund w user c _ .apply)
    (fun es r h => .ofObtained rfl hcover h) (fun es f cs' => .ofStopped rfl hcover) ?_
  exact fun k es t hm hb hcalls => upholds_applyWork rfl hm hb hcalls

/-- Destroying that holds a slot. -/
theorem upholds_destroyInSlot {c : Credential} {old : Deployment}
    (hbegins : Begins { old with status := .destroying })
    (hold : H → Entries.get? old.id s.deployments = some old)
    (hstatus : old.status.canBecome .destroying) :
    (destroyInSlot w tpl c old).Upholds (fun a b => H → StatusStep a b)
      (Outcome w s user .destroy Begins) s := by
  rw [destroyInSlot, upholds_bind]
  refine ⟨fun hH => statusStep_put (hold hH) hstatus, ?_⟩
  show (within w _ _ _ _).Upholds _ _ (begun s s.credits { old with status := .destroying })
  refine upholds_begun hbegins rfl (grants_assumeFor w c _) (fun es r h => .free rfl rfl)
    (fun es f cs' hkeys hnot => .free rfl ?_) ?_
  · by_cases h : Obtained w es
    · exact hkeys h
    · rw [hnot h, ite_self]
  · exact fun k es t hm hb hcalls => upholds_destroyWork rfl hm hb hcalls

/-! ## Requests -/

/-- What is beside the records has no part in a course. -/
theorem Course.ofBeside {ds : Entries Deployment} {ss : SealedRecords}
    {r : Except Failure Deployment} (h : Beside s [] t) (hcourse : Course w t d op ds ss es r) :
    Course w s d op ds ss es r := by
  obtain ⟨_, _, _, _, rfl⟩ := h
  cases hcourse with
  | failed hnone => exact .failed hnone
  | planned r summary report hnone => exact .planned r summary report hnone
  | @applied _ kept _ r hkept hcount => cases kept <;> exact .applied r hkept hcount
  | @broken _ kept _ _ hkept hcount => cases kept <;> exact .broken hkept hcount
  | @stuck _ kept _ hkept hcount => cases kept <;> exact .stuck hkept hcount
  | destroyed r hnone => exact .destroyed r hnone

theorem Outcome.ofBeside {r : Except Failure Deployment} (h : Beside s [] t)
    (ho : Outcome w t user op Begins r u) : Outcome w s user op Begins r u := by
  cases ho with
  | refused hf hu => exact .refused hf (h.trans hu)
  | began hd hu hpaid hcourse hfiles =>
    have hown := hcourse.ofBeside h
    obtain ⟨_, _, _, _, rfl⟩ := h
    obtain ⟨_, _, _, _, rfl⟩ := hu
    exact .began hd ⟨_, _, _, _, by rw [List.append_nil]⟩ hpaid hown hfiles

theorem Outcome.releaseSlot {r : Except Failure Deployment} (h : Outcome w s user op Begins r t)
    (user' : String) : Outcome w s user op Begins r (releaseSlot user' t) := by
  cases h with
  | refused hf ht =>
    obtain ⟨_, _, _, _, rfl⟩ := ht
    exact .refused hf ⟨_, _, _, _, rfl⟩
  | began hd ht hpaid hcourse hfiles =>
    obtain ⟨_, _, _, _, rfl⟩ := ht
    exact .began hd ⟨_, _, _, _, rfl⟩ hpaid hcourse hfiles

/-- A request is refused if there is no slot for it. -/
theorem upholds_inSlot {body : Work Deployment}
    (hbody : ∀ t, Beside s [] t → body.Upholds (fun a b => H → StatusStep a b)
      (Outcome w t user op Begins) t) :
    (inSlot user body).Upholds (fun a b => H → StatusStep a b) (Outcome w s user op Begins) s := by
  rw [inSlot, upholds_bind, Action.asStep, upholds_perform, acquireSlot, Action.draw, Slots.acquire]
  dsimp only
  split
  · -- All slots of the user are taken.
    exact ⟨fun _ => Untouched.statusStep rfl, .refused rfl .rfl⟩
  · have hb : Beside s [] { s with slots := { s.slots with
        held := Entries.set user (s.slots.active user + 1) s.slots.held } } :=
      ⟨_, _, _, _, by rw [List.append_nil]⟩
    refine ⟨fun _ => hb.untouched.statusStep, ?_⟩
    dsimp only
    rw [upholds_ensuring]
    refine (hbody _ hb).mono (fun _ _ h => h) fun r u hu => ⟨fun _ => Untouched.statusStep rfl, ?_⟩
    exact (hu.ofBeside hb).releaseSlot user

/-- A look-up leaves everything as it is. -/
theorem upholds_lookup {a : Action α} {o : Answer α} {next : α → Work β}
    {Q : Except Failure β → Installation → Prop} (ha : a s = (o, s))
    (herror : ∀ f, o = .error f → Q (.error f) s)
    (hok : ∀ x, o = .ok x → (next x).Upholds (fun a b => H → StatusStep a b) Q s) :
    (a.asStep >>= next).Upholds (fun a b => H → StatusStep a b) Q s := by
  rw [upholds_bind, Action.asStep, upholds_perform, ha]
  refine ⟨fun _ => Untouched.statusStep rfl, ?_⟩
  cases o with
  | error f => exact herror f rfl
  | ok x => exact hok x rfl

/-- **Planning** is refused, or it takes its course with a new record, of a template and a
credential that were found. -/
theorem upholds_plan_of_found {template credential region : String}
    (hbegins : ∀ t c, ownTemplate s user template = .ok t →
      ownCredential s user credential = .ok c → Begins (newDeployment w user t c region))
    (hfresh : H → Entries.get? w.recordId s.deployments = none) :
    (plan w user template credential region).Upholds (fun a b => H → StatusStep a b)
      (Outcome w s user .plan Begins) s := by
  rw [plan]
  refine upholds_lookup rfl (fun f h => .refused (refuses_of_owned h) .rfl) fun t ht => ?_
  refine upholds_lookup rfl (fun f h => .refused (refuses_of_owned h) .rfl) fun c hc => ?_
  split
  · refine upholds_inSlot fun a ha => upholds_planInSlot (hbegins t c ht hc) fun hH => ?_
    rw [ha.untouched]
    exact hfresh hH
  · exact .refused rfl .rfl

theorem upholds_plan (template credential region : String)
    (hfresh : H → Entries.get? w.recordId s.deployments = none) :
    (plan w user template credential region).Upholds (fun a b => H → StatusStep a b)
      (Outcome w s user .plan fun d => ∃ t c, d = newDeployment w user t c region) s :=
  upholds_plan_of_found (fun t c _ _ => ⟨t, c, rfl⟩) hfresh

/-- A request for a deployment is refused unless its user may change it so. -/
theorem upholds_enterDeployment {id verb : String} {target : Status}
    {next : Deployment × Credential × Template → Work Deployment}
    (hnext : ∀ old c t, Entries.get? id s.deployments = some old → old.user = user →
      old.status.canBecome target →
      (next (old, c, t)).Upholds (fun a b => H → StatusStep a b) (Outcome w s user op Begins) s) :
    (enterDeployment user id target verb >>= next).Upholds (fun a b => H → StatusStep a b)
      (Outcome w s user op Begins) s := by
  rw [upholds_bind, enterDeployment]
  refine upholds_lookup rfl (fun f h => .refused (refuses_of_owned h) .rfl) fun old hold => ?_
  obtain ⟨hget, huser⟩ := owned_eq_ok.1 hold
  split
  · exact .refused rfl .rfl
  rename_i hstatus
  refine upholds_lookup rfl (fun f h => .refused (refuses_of_owned h) .rfl) fun c _ => ?_
  refine upholds_lookup rfl (fun f h => .refused (refuses_of_owned h) .rfl) fun t _ => ?_
  exact hnext old c t hget huser (by simpa using hstatus)

/-- The record that an operation on a deployment begins with. -/
def Resumes (s : Installation) (user id : String) (status : Status) (d : Deployment) : Prop :=
  ∃ old, Entries.get? id s.deployments = some old ∧ old.user = user ∧
    old.status.canBecome status ∧ d = { old with status := status }

/-- Only what is planned can be applied. -/
theorem Status.eq_planReady_of_canBecome {x : Status} (h : x.canBecome .applying) :
    x = .planReady := by
  revert h
  cases x <;> decide

/-- **Applying** is refused, or it takes its course with a record that was planned. -/
theorem upholds_apply (id : String)
    (hid : H → ∀ d, Entries.get? id s.deployments = some d → d.id = id) :
    (apply w user id).Upholds (fun a b => H → StatusStep a b)
      (Outcome w s user .apply (Resumes s user id .applying)) s := by
  rw [apply]
  refine upholds_enterDeployment fun old c t hold huser hstatus => ?_
  refine upholds_inSlot fun a ha => ?_
  refine upholds_applyInSlot ⟨old, hold, huser, hstatus, rfl⟩ (fun hH => ?_)
    (Status.eq_planReady_of_canBecome hstatus)
  rw [ha.untouched, hid hH old hold]
  exact hold

/-- **Destroying** is refused, or it takes its course with a record that was finished. -/
theorem upholds_destroy (id : String)
    (hid : H → ∀ d, Entries.get? id s.deployments = some d → d.id = id) :
    (destroy w user id).Upholds (fun a b => H → StatusStep a b)
      (Outcome w s user .destroy (Resumes s user id .destroying)) s := by
  rw [destroy]
  refine upholds_enterDeployment fun old c t hold huser hstatus => ?_
  refine upholds_inSlot fun a ha => ?_
  refine upholds_destroyInSlot ⟨old, hold, huser, hstatus, rfl⟩ (fun hH => ?_) hstatus
  rw [ha.untouched, hid hH old hold]
  exact hold

end Groundplan.Deploy
