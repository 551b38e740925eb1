import Groundplan.Proofs.Deploy.Parts
import Groundplan.Proofs.Entries

/-!
# The work of operations

An operation is entered with keys and a workspace, it works there, and it leaves. Its record is
written when it begins and when it ends, and each time its status becomes what it can become.

## Main definitions

* `StatusStep`: what one step may do to deployments
* `Grants`: work that obtains keys
* `keptBy`: what is kept when an application left a state
* `Restores`: runs that destroy find the state that is kept

## Main results

* `upholds_within`: **an operation is entered, worked on and left**
* `upholds_planWithin`, `upholds_applyWithin`, `upholds_concludeApply`, `upholds_destroyWithin`:
  what the work comes to
-/

namespace Groundplan.Deploy

open Routine (upholds_bind upholds_andThen upholds_perform upholds_ensuring)

variable {s t u : Installation} {es fs : List Event} {α β : Type}

/-! ## Changes of deployments -/

/-- **What one step may do to deployments**: a new one is planning; one that is there stays there,
and its status stays or becomes what it can; and one that is destroyed stays as it is. -/
structure StatusStep (s t : Installation) : Prop where
  created : ∀ id d, Entries.get? id s.deployments = none → Entries.get? id t.deployments = some d →
    d.status = .planning
  kept : ∀ id d, Entries.get? id s.deployments = some d →
    ∃ e, Entries.get? id t.deployments = some e ∧
      (e.status = d.status ∨ d.status.canBecome e.status) ∧ (d.status = .destroyed → e = d)

theorem Untouched.statusStep (h : Untouched s t) : StatusStep s t := by
  constructor
  · intro id d hs ht
    rw [h, hs] at ht
    cases ht
  · intro id d hs
    exact ⟨d, by rwa [h], .inl rfl, fun _ => rfl⟩

theorem statusStep_put_new {d : Deployment} (h : Entries.get? d.id s.deployments = none)
    (hd : d.status = .planning) : StatusStep s (putDeployment d s) := by
  constructor
  · intro id e hs ht
    by_cases hid : id = d.id
    · subst hid
      rw [putDeployment, Entries.get?_set_self] at ht
      cases ht
      exact hd
    · rw [putDeployment, Entries.get?_set_of_ne hid, hs] at ht
      cases ht
  · intro id e hs
    have hid : id ≠ d.id := by
      rintro rfl
      rw [h] at hs
      cases hs
    exact ⟨e, by rwa [putDeployment, Entries.get?_set_of_ne hid], .inl rfl, fun _ => rfl⟩

theorem statusStep_put {d e : Deployment} (h : Entries.get? e.id s.deployments = some d)
    (hstatus : d.status.canBecome e.status) : StatusStep s (putDeployment e s) := by
  constructor
  · intro id x hs ht
    -- Nothing is new: the record that is written was there.
    have hid : id ≠ e.id := by
      rintro rfl
      rw [h] at hs
      cases hs
    rw [putDeployment, Entries.get?_set_of_ne hid, hs] at ht
    cases ht
  · intro id x hs
    by_cases hid : id = e.id
    · subst hid
      obtain rfl : d = x := by simpa [h] using hs
      refine ⟨e, Entries.get?_set_self _ _ _, .inr hstatus, fun hd => ?_⟩
      rw [hd, Status.not_canBecome_of_destroyed] at hstatus
      cases hstatus
    · exact ⟨x, by rwa [putDeployment, Entries.get?_set_of_ne hid], .inl rfl, fun _ => rfl⟩

theorem Leaves.deployments {ds : Entries Deployment} {ss : SealedRecords} {cs : Credits}
    (h : Leaves s ds ss cs es t) : t.deployments = ds := by
  obtain ⟨_, _, _, _, rfl⟩ := h
  rfl

/-- A record takes the place of the one that was written before it. -/
theorem Leaves.put {ds : Entries Deployment} {ss : SealedRecords} {cs : Credits}
    (h : Leaves s ds ss cs es t) (d : Deployment) :
    Leaves s (Entries.set d.id d ds) ss cs es (putDeployment d t) := by
  obtain ⟨_, _, _, _, rfl⟩ := h
  exact ⟨_, _, _, _, rfl⟩

/-! ## Failures -/

variable {R : Installation → Installation → Prop} {now : Instant} {d : Deployment} {op : Operation}
  {w : World}

@[simp] theorem id_withOutput (d : Deployment) (op : Operation) (f : Failure) :
    (d.withOutput op f).id = d.id := by
  rw [Deployment.withOutput.eq_def]
  cases failedOutput? f <;> cases op <;> rfl

@[simp] theorem status_withOutput (d : Deployment) (op : Operation) (f : Failure) :
    (d.withOutput op f).status = d.status := by
  rw [Deployment.withOutput.eq_def]
  cases failedOutput? f <;> cases op <;> rfl

@[simp] theorem id_failed (d : Deployment) (now : Instant) (op : Operation) (f : Failure) :
    (d.failed now op f).id = d.id :=
  id_withOutput d op f

/-- A deployment under way has failed after a failure. -/
theorem status_failed (h : d.status.canBecome .failed) (now : Instant) (op : Operation)
    (f : Failure) : (d.failed now op f).status = .failed := by
  simp [Deployment.failed, h]

/-- A failure is recorded, and stays one. -/
theorem upholds_recording {p : Work α} {Q : Except Failure α → Installation → Prop} :
    (recording now d op p).Upholds R Q s ↔ p.Upholds R (fun r t =>
      match r with
      | .ok a => Q (.ok a) t
      | .error f => R t (putDeployment (d.failed now op f) t) ∧
          Q (.error f) (putDeployment (d.failed now op f) t)) s := by
  rw [recording, upholds_andThen]
  refine Routine.upholds_congr fun r t => ?_
  cases r with
  | error f => rfl
  | ok a => rfl

/-- A part inside a workspace, and what is done with its result. -/
theorem Inside.upholds {id : String} {p : Work α} {P : Except Failure α → List Event → Prop}
    {Q : Except Failure α → Installation → Prop} (hp : Inside id p P) (hs : Made id s)
    (hR : ∀ s t, Untouched s t → R s t)
    (hQ : ∀ r t es, Made id t → Beside s es t → P r es → Q r t) : p.Upholds R Q s :=
  (hp s hs).mono hR fun r t ⟨hm, es, hb, hP⟩ => hQ r t es hm hb hP

theorem Inside.upholds_bind {id : String} {p : Work α} {k : α → Work β}
    {P : Except Failure α → List Event → Prop} {Q : Except Failure β → Installation → Prop}
    (hp : Inside id p P) (hs : Made id s) (hR : ∀ s t, Untouched s t → R s t)
    (herror : ∀ f t es, Beside s es t → P (.error f) es → Q (.error f) t)
    (hok : ∀ a t es, Made id t → Beside s es t → P (.ok a) es → (k a).Upholds R Q t) :
    (p >>= k).Upholds R Q s := by
  rw [Routine.upholds_bind]
  refine hp.upholds hs hR ?_
  rintro (f | a) t es hm hb hP
  · exact herror f t es hb hP
  · exact hok a t es hm hb hP

/-! ## Entering and leaving -/

/-- **Work that obtains keys** and leaves all records alone: it gives keys exactly if the token
service issued some; if it is refused, something is done to the balances. -/
def Grants (w : World) (keys : Work Keys) (back : Credits → Credits) : Prop :=
  ∀ s, keys.Upholds Untouched (fun r t => ∃ es cs, Leaves s s.deployments s.states cs es t ∧
    Calls es ∧ ((∃ k, r = .ok k) ↔ Obtained w es) ∧
    cs = match r with
      | .ok _ => s.credits
      | .error f => if f.isRefusal then back s.credits else s.credits) s

/-- A destruction gives nothing back. -/
theorem grants_assumeFor (w : World) (c : Credential) (region : String) :
    Grants w (assumeFor w c region).asStep fun cs => cs := by
  intro s
  obtain ⟨es, hb, hcalls, hkeys⟩ := assumeFor_spec w c region s
  refine ⟨hb.untouched, es, s.credits, hb, hcalls, hkeys, ?_⟩
  split
  · rfl
  · split <;> rfl

/-- A refused role is given back what was charged. -/
theorem grants_assumeOrRefund (w : World) (user : String) (c : Credential) (region : String)
    (m : Metered) :
    Grants w (assumeOrRefund w user c region m) fun cs => (cs.refund user m).2 := by
  intro s
  obtain ⟨es, hb, hcalls, hkeys⟩ := assumeFor_spec w c region s
  rw [assumeOrRefund, upholds_andThen, Action.asStep, upholds_perform]
  refine ⟨hb.untouched, ?_⟩
  generalize assumeFor w c region s = o at hb hkeys
  obtain ⟨f | k, t⟩ := o
  · obtain ⟨_, _, _, _, rfl⟩ := hb
    dsimp only
    by_cases hf : f.isRefusal
    · -- A refusal takes one more step, which gives the charge back.
      rw [if_pos hf]
      exact ⟨rfl, es, _, ⟨_, _, _, _, rfl⟩, hcalls, hkeys, (if_pos hf).symm⟩
    · rw [if_neg hf]
      exact ⟨es, _, ⟨_, _, _, _, rfl⟩, hcalls, hkeys, (if_neg hf).symm⟩
  · exact ⟨es, _, hb, hcalls, hkeys, rfl⟩

/-- A workspace is made, or it is not and nothing happened. -/
theorem makeWorkspace_spec (id : String) (s : Installation) :
    Beside s [] (makeWorkspace id s).2 ∧
      ((makeWorkspace id s).1 = .ok () → Made id (makeWorkspace id s).2) := by
  rw [makeWorkspace, onWorkspaces, Action.draw]
  refine ⟨⟨_, _, _, _, by rw [List.append_nil]⟩, fun h => ?_⟩
  have hfiles := @Workspaces.files?_create_self s.workspaces (s.workspaces.create id).2 id
    (Prod.ext h rfl)
  exact Option.isSome_iff_exists.2 ⟨_, hfiles⟩

/-- Removing a workspace touches nothing else. -/
theorem Leaves.removeWorkspace {ds : Entries Deployment} {ss : SealedRecords} {cs : Credits}
    (h : Leaves s ds ss cs es t) (id : String) : Leaves s ds ss cs es (removeWorkspace id t) := by
  obtain ⟨_, _, _, _, rfl⟩ := h
  exact ⟨_, _, _, _, rfl⟩

/-- **An operation is entered, worked on and left**: if it cannot be entered this is recorded, and
if it can there are keys and a workspace for it. -/
theorem upholds_within {keys : Work Keys} {back : Credits → Credits}
    {body : Keys → Work Deployment} {Q : Except Failure Deployment → Installation → Prop}
    (hR : ∀ s t, Untouched s t → R s t) (hkeys : Grants w keys back)
    (hput : ∀ f t, t.deployments = s.deployments → R t (putDeployment (d.failed w.now op f) t))
    (hstop : ∀ f es cs t,
      Leaves s (Entries.set d.id (d.failed w.now op f) s.deployments) s.states cs es t →
      Calls es → (Obtained w es → cs = s.credits) →
      (¬ Obtained w es → cs = if f.isRefusal then back s.credits else s.credits) → Q (.error f) t)
    (hbody : ∀ k es t, Made d.id t → Beside s es t → Calls es → Obtained w es →
      (body k).Upholds R (fun r u => Q r (removeWorkspace d.id u)) t) :
    (within w d op keys body).Upholds R Q s := by
  rw [within, upholds_bind, upholds_recording, enter, upholds_bind]
  refine (hkeys s).mono hR ?_
  rintro (f | k) t ⟨es, cs, hl, hcalls, hobt, rfl⟩
  · -- No keys were obtained.
    have hnot : ¬ Obtained w es := fun h => by
      obtain ⟨_, ⟨⟩⟩ := hobt.2 h
    refine ⟨hput f t ?_, hstop f es _ _ ?_ hcalls (fun h => absurd h hnot) fun _ => rfl⟩
    · obtain ⟨_, _, _, _, rfl⟩ := hl
      rfl
    · simpa only [id_failed] using hl.put (d.failed w.now op f)
  · have hobtained : Obtained w es := hobt.1 ⟨k, rfl⟩
    dsimp only
    rw [upholds_bind, Action.asStep, upholds_perform]
    obtain ⟨hbeside, hmade⟩ := makeWorkspace_spec d.id t
    refine ⟨hR _ _ hbeside.untouched, ?_⟩
    generalize makeWorkspace d.id t = o at hbeside hmade
    have hl' := hl.trans hbeside
    rw [List.append_nil] at hl'
    obtain ⟨f | _, t'⟩ := o
    · -- There are keys, but no workspace.
      refine ⟨hput f t' ?_, hstop f es _ _ ?_ hcalls (fun _ => rfl) (absurd hobtained)⟩
      · obtain ⟨_, _, _, _, rfl⟩ := hl'
        rfl
      · simpa only [id_failed] using hl'.put (d.failed w.now op f)
    · -- The work begins, and whatever comes of it the workspace is removed behind it.
      dsimp only
      rw [Routine.upholds_pure]
      dsimp only
      rw [upholds_ensuring]
      refine (hbody k es t' (hmade rfl) hl' hcalls hobtained).mono (fun _ _ h => h) ?_
      exact fun r u h => ⟨hR _ _ rfl, h⟩

/-! ## The work itself -/

variable {Q : Except Failure Deployment → Installation → Prop}

/-- Planning fails somewhere, or the plan is written to the record. -/
theorem upholds_planWithin {tpl : Template} {k : Keys} (hs : Made d.id s)
    (hR : ∀ s t, Untouched s t → R s t)
    (hfail : ∀ f es t, Beside s es t → Runs [.init, .plan] es → Q (.error f) t)
    (hok : ∀ r summary report es t, Beside s es t → Runs [.init, .plan] es →
      R t (putDeployment (d.planned r summary report) t) ∧
        Q (.ok (d.planned r summary report)) (putDeployment (d.planned r summary report) t)) :
    (planWithin w tpl d k).Upholds R Q s := by
  rw [planWithin]
  -- Files, preparation, plan, its check, and the audit: the events so far are carried along.
  refine (inside_writeFiles tpl.content k d.region).upholds_bind hs hR ?_ ?_
  · rintro f t _ hb rfl
    exact hfail f [] t hb (.nil _)
  rintro _ t₁ _ hm₁ hb₁ rfl
  refine (inside_prepare w).upholds_bind hm₁ hR ?_ ?_
  · exact fun f t es hb h => hfail f _ t (hb₁.trans hb) (h.mono (by decide))
  intro _ t₂ es₂ hm₂ hb₂ hinit
  have hb₂ := hb₁.trans hb₂
  have hinit : Runs [.init, .plan] ([] ++ es₂) := hinit.mono (by decide)
  refine (inside_runPlan w).upholds_bind hm₂ hR ?_ ?_
  · exact fun f t es hb h => hfail f _ t (hb₂.trans hb) (hinit.append (h.mono (by decide)))
  rintro ⟨r, summary⟩ t₃ es₃ hm₃ hb₃ hplan
  have hb₃ := hb₂.trans hb₃
  have hplan : Runs [.init, .plan] ([] ++ es₂ ++ es₃) := hinit.append (hplan.mono (by decide))
  refine (inside_expectSuccess "plan" r).upholds_bind hm₃ hR ?_ ?_
  · rintro f t _ hb rfl
    exact hfail f _ t (hb₃.trans hb) (hplan.append (.nil _))
  rintro _ t₄ _ hm₄ hb₄ rfl
  have hb₄ := hb₃.trans hb₄
  refine (inside_auditTemplate w tpl).upholds_bind hm₄ hR ?_ ?_
  · rintro f t _ hb rfl
    exact hfail f _ t (hb₄.trans hb) ((hplan.append (.nil _)).append (.nil _))
  rintro report t₅ _ hm₅ hb₅ rfl
  exact hok r summary report _ t₅ (hb₄.trans hb₅) ((hplan.append (.nil _)).append (.nil _))

/-- What is kept when an application left a state, and what if it left none. -/
def keptBy (w : World) (id : String) (kept : Option String) (s : Installation) : Installation :=
  kept.elim s fun text => keepState w id text s

/-- A deployment whose resources were counted, if there was a state to count them in. -/
def Deployment.counting (d : Deployment) (kept : Option String) (n : Nat) : Deployment :=
  kept.elim d fun _ => { d with resourceCount := n }

theorem upholds_counted {state : Option String} {k : Nat → Work Deployment}
    (herror : ∀ f, resourceCount state = .error f → Q (.error f) s)
    (hok : ∀ n, resourceCount state = .ok n → (k n).Upholds R Q s) :
    (counted state >>= k).Upholds R Q s := by
  rw [upholds_bind, counted]
  cases h : resourceCount state with
  | error f => exact herror f h
  | ok n => exact hok n h

/-- What follows the run that applies: a state is kept first of all, and unless its resources cannot
be counted, the record says how the run ended. -/
theorem upholds_concludeApply {r : RunResult} {state : Option String}
    (hR : ∀ s t, Untouched s t → R s t)
    (hstuck : ∀ f, resourceCount (kept? state) = .error f →
      Q (.error f) (keptBy w d.id (kept? state) s))
    (hok : ∀ n t, resourceCount (kept? state) = .ok n → t = keptBy w d.id (kept? state) s →
      R t (putDeployment (d.applied w.now r n) t) ∧
        Q (.ok (d.applied w.now r n)) (putDeployment (d.applied w.now r n) t))
    (hbroken : ∀ n e f t, resourceCount (kept? state) = .ok n →
      t = keptBy w d.id (kept? state) s → e = (d.counting (kept? state) n).failed w.now .apply f →
      R t (putDeployment e t) ∧ Q (.error f) (putDeployment e t)) :
    (concludeApply w d r state).Upholds R Q s := by
  rw [concludeApply]
  split
  · -- The run succeeded: what it left is kept and counted, and the record says so.
    rw [upholds_bind, keep]
    cases hkept : kept? state with
    | none =>
      rw [hkept] at hstuck hok
      exact upholds_counted hstuck fun n hn => hok n s hn rfl
    | some text =>
      rw [hkept] at hstuck hok
      exact ⟨hR _ _ rfl, upholds_counted hstuck fun n hn => hok n _ hn rfl⟩
  · -- The run failed: what it left so far is kept and counted as well, and the failure recorded.
    rw [upholds_bind, keepPartial]
    cases hkept : kept? state with
    | none =>
      rw [hkept] at hbroken
      rw [Routine.upholds_pure]
      exact upholds_recording.2 (hbroken 0 _ _ s rfl rfl rfl)
    | some text =>
      rw [hkept] at hstuck hbroken
      rw [upholds_bind]
      refine ⟨hR _ _ rfl, ?_⟩
      show Routine.Upholds R _ (counted (some text) >>= _) _
      refine upholds_counted hstuck fun n hn => ?_
      exact upholds_recording.2 (hbroken n _ _ _ hn rfl rfl)

/-- Applying fails before there is a state, or it goes on with what the run left. -/
theorem upholds_applyWithin {tpl : Template} {k : Keys} (hs : Made d.id s)
    (hR : ∀ s t, Untouched s t → R s t)
    (hfail : ∀ f es t, Beside s es t → Runs [.init, .plan, .apply] es →
      (∀ text, ¬ Yields w d.id es text) →
      R t (putDeployment (d.failed w.now .apply f) t) ∧
        Q (.error f) (putDeployment (d.failed w.now .apply f) t))
    (hend : ∀ r state es t, Beside s es t → Runs [.init, .plan, .apply] es →
      (∀ text, Yields w d.id es text ↔ kept? state = some text) →
      (concludeApply w d r state).Upholds R Q t) :
    (applyWithin w tpl d k).Upholds R Q s := by
  rw [applyWithin, upholds_bind, upholds_recording]
  refine (inside_replan w tpl d k).upholds hs hR ?_
  rintro (f | ⟨r, state⟩) t es - hb ⟨hruns, hyields⟩
  · -- It failed before the run that applies came to a result.
    refine hfail f es t hb hruns fun text hy => ?_
    obtain ⟨_, _, ⟨⟩, _⟩ := (hyields text).1 hy
  · refine hend r state es t hb hruns fun text => ?_
    rw [hyields]
    constructor
    · rintro ⟨_, _, ⟨⟩, hkept⟩
      exact hkept
    · intro hkept
      exact ⟨r, state, rfl, hkept⟩

/-- Runs that destroy find the state that is kept of a deployment. -/
def Restores (s : Installation) (id : String) (es : List Event) : Prop :=
  ∀ run, .ran run ∈ es → run.args = Step.destroy.args → ∀ text, text ≠ "" →
    s.states.retrieve s.vault id = .ok (some text) →
    Entries.get? stateFile run.files = some text

theorem Lacks.restores {id : String} (h : Lacks .destroy es) : Restores s id es :=
  fun run hrun hargs => absurd hargs (h run hrun)

theorem Restores.append {id : String} (h : Restores s id es) (h' : Restores s id fs) :
    Restores s id (es ++ fs) :=
  fun run hrun => (List.mem_append.1 hrun).elim (h run) (h' run)

/-- Destroying fails somewhere, or the state is dropped and the record says so. -/
theorem upholds_destroyWithin {tpl : Template} {k : Keys} (hs : Made d.id s)
    (hR : ∀ s t, Untouched s t → R s t)
    (hfail : ∀ f es t, Beside s es t → Runs [.init, .destroy] es → Restores s d.id es →
      Q (.error f) t)
    (hok : ∀ r es t, Beside s es t → Runs [.init, .destroy] es → Restores s d.id es →
      R (dropState d.id t) (putDeployment (d.destroyed w.now r) (dropState d.id t)) ∧
        Q (.ok (d.destroyed w.now r)) (putDeployment (d.destroyed w.now r) (dropState d.id t))) :
    (destroyWithin w tpl d k).Upholds R Q s := by
  rw [destroyWithin]
  refine (inside_writeFiles tpl.content k d.region).upholds_bind hs hR ?_ ?_
  · rintro f t _ hb rfl
    exact hfail f [] t hb (.nil _) (Runs.lacks (.nil []) (by simp)).restores
  rintro _ t₁ _ hm₁ hb₁ rfl
  -- Writing the files did not touch what is kept.
  have hkept : keptState d.id t₁ = (s.states.retrieve s.vault d.id, t₁) := by
    obtain ⟨_, _, _, _, rfl⟩ := hb₁
    rfl
  rw [upholds_bind, Action.asStep, upholds_perform, hkept]
  refine ⟨hR _ _ rfl, ?_⟩
  have hnone : Restores s d.id [] := fun _ h => by cases h
  cases hstate : s.states.retrieve s.vault d.id with
  -- What is kept cannot be unsealed.
  | error f => exact hfail f [] t₁ hb₁ (.nil _) hnone
  | ok state =>
    dsimp only
    refine (inside_prepare w).upholds_bind hm₁ hR ?_ ?_
    · exact fun f t es hb h => hfail f _ t (hb₁.trans hb) (h.mono (by decide))
        (h.lacks (by decide)).restores
    intro _ t₂ es₂ hm₂ hb₂ hinit
    have hb₂ := hb₁.trans hb₂
    -- Of the runs only the last destroys, and it finds the state that was unsealed.
    have hall (es : List Event) (hruns : Runs [.destroy] es)
        (hfiles : ∀ run, .ran run ∈ es → ∀ text, kept? state = some text →
          Entries.get? stateFile run.files = some text) :
        Runs [.init, .destroy] ([] ++ es₂ ++ es) ∧ Restores s d.id ([] ++ es₂ ++ es) := by
      refine ⟨(hinit.mono (by decide)).append (hruns.mono (by decide)), ?_⟩
      refine ((hinit.lacks (by decide)).restores).append fun run hrun _ text hne htext => ?_
      obtain rfl : state = some text := by simpa [hstate] using htext
      exact hfiles run hrun text (by simpa [kept?] using hne)
    refine (inside_runDestroy w state).upholds_bind hm₂ hR ?_ ?_
    · rintro f t es hb ⟨hruns, hfiles⟩
      exact hfail f _ t (hb₂.trans hb) (hall es hruns hfiles).1 (hall es hruns hfiles).2
    rintro r t₃ es₃ hm₃ hb₃ ⟨hruns, hfiles⟩
    have hb₃ := hb₂.trans hb₃
    obtain ⟨hruns, hfiles⟩ := hall es₃ hruns hfiles
    refine (inside_expectSuccess "destroy" r).upholds_bind hm₃ hR ?_ ?_
    · rintro f t _ hb rfl
      exact hfail f _ t (hb₃.trans hb) (hruns.append (.nil _)) (hfiles.append hnone)
    rintro _ t₄ _ hm₄ hb₄ rfl
    exact ⟨hR _ _ rfl, hok r _ t₄ (hb₃.trans hb₄) (hruns.append (.nil _)) (hfiles.append hnone)⟩

end Groundplan.Deploy
