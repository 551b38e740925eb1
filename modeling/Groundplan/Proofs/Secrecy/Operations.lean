import Groundplan.Proofs.Deploy.Confined
import Groundplan.Proofs.Secrecy.Keys

/-!
# Operations under other keys

An operation on a deployment writes its keys into a file of its workspace, for the tool to read.
Nothing else reads this file, and at the end it is removed with the workspace. So an operation that
is done again in the same state under other keys does the same: meanwhile the two states differ at
most in that file, and in what the world was asked; at the end they do not differ in any file.

## Main definitions

* `Same`: states that are the same but for events, and for workspaces that look alike
* `Twin`: what comes to matching answers and to such states in such states
* `unkeyed`: the other workspaces, and the files of one workspace without its keys

## Main results

* `Twin.action`, `Twin.andThen`, `Twin.bind`, `Twin.catch`: the combinations
* `twin_assume`: taking on a role
* `twin_within`: the work in a workspace
* `twin_plan`, `twin_apply`, `twin_destroy`: **each operation**
-/

namespace Groundplan

open Deploy

variable {α β γ δ ν : Type} {view : Workspaces → ν} {R : α → β → Prop} {S : γ → δ → Prop}
  {s t : Installation} {w : World} {h : CloudCall → Answer Data}

/-! ## Twins -/

/-- **States that are the same but for events**, and for workspaces that look alike in some view. -/
def Same (view : Workspaces → ν) (s t : Installation) : Prop :=
  ∃ ws es, view ws = view s.workspaces ∧ t = { s with workspaces := ws, events := es }

theorem Same.refl (view : Workspaces → ν) (s : Installation) : Same view s s :=
  ⟨s.workspaces, s.events, rfl, rfl⟩

/-- **Twins**: in states that are the same they come to answers that match, and to states that are
the same. They are given as actions or as routines that are run. -/
def Twin (view : Workspaces → ν) (R : α → β → Prop) (f : Installation → Answer α × Installation)
    (g : Installation → Answer β × Installation) : Prop :=
  ∀ s t, Same view s t → Matches R (f s).1 (g t).1 ∧ Same view (f s).2 (g t).2

/-! ### Combinations -/

/-- Two actions, one after another. -/
theorem Twin.action {a : Action α} {b : Action β} {k : α → Action γ} {l : β → Action δ}
    (ha : Twin view R a b) (hk : ∀ x y, R x y → Twin view S (k x) (l y)) :
    Twin view S (a >>= k) (b >>= l) := by
  intro s t hst
  obtain ⟨hmatch, hsame⟩ := ha s t hst
  rw [Action.bind_apply, Action.bind_apply]
  generalize a s = o at hmatch hsame
  generalize b t = p at hmatch hsame
  obtain ⟨r, s'⟩ := o
  obtain ⟨r', t'⟩ := p
  cases hmatch with
  | ok hxy => exact hk _ _ hxy s' t' hsame
  | error f => exact ⟨.error f, hsame⟩

/-- Actions the failure of which is caught. -/
theorem Twin.catch {a : Action α} {b : Action β} {k : Failure → Action α} {l : Failure → Action β}
    (ha : Twin view R a b) (hk : ∀ f, Twin view R (k f) (l f)) :
    Twin view R (tryCatch a k) (tryCatch b l) := by
  intro s t hst
  obtain ⟨hmatch, hsame⟩ := ha s t hst
  rw [Action.tryCatch_apply, Action.tryCatch_apply]
  generalize a s = o at hmatch hsame
  generalize b t = p at hmatch hsame
  obtain ⟨r, s'⟩ := o
  obtain ⟨r', t'⟩ := p
  cases hmatch with
  | ok hxy => exact ⟨.ok hxy, hsame⟩
  | error f => exact hk f s' t' hsame

theorem Twin.andThen {p : Work α} {q : Work β} {k : Except Failure α → Work γ}
    {l : Except Failure β → Work δ} (hp : Twin view R p.run q.run)
    (hk : ∀ r r', Matches R r r' → Twin view S (k r).run (l r').run) :
    Twin view S (p.andThen k).run (q.andThen l).run := by
  intro s t hst
  obtain ⟨hmatch, hsame⟩ := hp s t hst
  rw [Routine.run_andThen, Routine.run_andThen]
  exact hk _ _ hmatch _ _ hsame

/-- What fails alike, or answers alike, without doing anything. -/
theorem twin_answer {a : Answer α} {b : Answer β} (hab : Matches R a b) :
    Twin view R (fun s => (a, s)) fun s => (b, s) :=
  fun _ _ hst => ⟨hab, hst⟩

theorem Twin.bind {p : Work α} {q : Work β} {k : α → Work γ} {l : β → Work δ}
    (hp : Twin view R p.run q.run) (hk : ∀ x y, R x y → Twin view S (k x).run (l y).run) :
    Twin view S (p >>= k).run (q >>= l).run :=
  hp.andThen fun _ _ hmatch =>
    match hmatch with
    | .ok hxy => hk _ _ hxy
    | .error f => twin_answer (.error f)

/-- Actions with the same results, one after another. -/
theorem Twin.action_eq {a b : Action α} {k l : α → Action γ} {S : γ → γ → Prop}
    (ha : Twin view Eq a b) (hk : ∀ x, Twin view S (k x) (l x)) :
    Twin view S (a >>= k) (b >>= l) :=
  ha.action fun x _ hx => hx ▸ hk x

theorem Twin.bind_eq {p q : Work α} {k l : α → Work γ} {S : γ → γ → Prop}
    (hp : Twin view Eq p.run q.run) (hk : ∀ x, Twin view S (k x).run (l x).run) :
    Twin view S (p >>= k).run (q >>= l).run :=
  hp.bind fun x _ hx => hx ▸ hk x

/-- An action as a single step, and the work after it. -/
theorem Twin.step {a b : Action α} {k l : α → Work γ} {S : γ → γ → Prop} (ha : Twin view Eq a b)
    (hk : ∀ x, Twin view S (k x).run (l x).run) :
    Twin view S (a.asStep >>= k).run (b.asStep >>= l).run :=
  Twin.bind_eq (p := a.asStep) ha hk

/-- What neither reads nor writes workspaces and events is its own twin. -/
theorem twin_of_apart {f : Installation → Answer α × Installation}
    (hf : ∀ s ws es, f { s with workspaces := ws, events := es } =
      ((f s).1, { (f s).2 with workspaces := ws, events := es })) : Twin view Eq f f := by
  rintro s _ ⟨ws, es, hws, rfl⟩
  have hself := congrArg (fun o => o.2.workspaces) (hf s s.workspaces s.events)
  rw [hf s ws es]
  exact ⟨.of_eq rfl, ws, es, hws.trans (congrArg view hself.symm), rfl⟩

/-! ### Steps -/

theorem twin_pure {x : α} {y : β} (hxy : R x y) :
    Twin view R (pure x : Work α).run (pure y : Work β).run :=
  twin_answer (.ok hxy)

theorem twin_fail (f : Failure) : Twin view R (.fail f : Work α).run (.fail f : Work β).run :=
  twin_answer (.error f)

theorem twin_throw (f : Failure) : Twin view R (throw f : Action α) (throw f : Action β) :=
  twin_answer (.error f)

/-- The state is read, and what comes next depends on it. -/
theorem twin_get_bind {k : Installation → Action γ} {l : Installation → Action δ}
    (hk : ∀ s ws es, view ws = view s.workspaces →
      Twin view S (k s) (l { s with workspaces := ws, events := es })) :
    Twin view S (get >>= k) (get >>= l) := by
  rintro s _ ⟨ws, es, hws, rfl⟩
  exact hk s ws es hws s _ ⟨ws, es, hws, rfl⟩

/-- A look-up in the records. -/
theorem twin_look {o : Installation → Answer α}
    (ho : ∀ s ws es, o { s with workspaces := ws, events := es } = o s) :
    Twin view Eq (fun s => (o s, s)) fun s => (o s, s) :=
  twin_of_apart fun s ws es => by rw [ho]

/-- States that are the same are written. -/
theorem twin_set {s t : Installation} (hst : Same view s t) :
    Twin view Eq (set s : Action PUnit) (set t : Action PUnit) :=
  fun _ _ _ => ⟨.ok rfl, hst⟩

/-- It does not matter what is noted. -/
theorem twin_note (e e' : Event) : Twin view Eq (Action.note e) (Action.note e') := by
  rintro s _ ⟨ws, es, hws, rfl⟩
  exact ⟨.ok rfl, ws, es ++ [e'], hws, rfl⟩

/-- A change of the records. -/
theorem twin_change {f : Installation → Installation}
    (hf : ∀ s ws es, f { s with workspaces := ws, events := es } =
      { f s with workspaces := ws, events := es }) : Twin view Eq (change f).run (change f).run :=
  twin_of_apart fun s ws es => congrArg _ (hf s ws es)

theorem twin_modify {f : Installation → Installation}
    (hf : ∀ s ws es, f { s with workspaces := ws, events := es } =
      { f s with workspaces := ws, events := es }) :
    Twin view Eq (modify f : Action Unit) (modify f : Action Unit) :=
  twin_change hf

theorem twin_put (d : Deployment) :
    Twin view Eq (change (putDeployment d)).run (change (putDeployment d)).run :=
  twin_change fun _ _ _ => rfl

/-- A failure is recorded alike. -/
theorem twin_recording {p : Work α} {q : Work β} (now : Instant) (d : Deployment) (op : Operation)
    (hp : Twin view R p.run q.run) :
    Twin view R (recording now d op p).run (recording now d op q).run :=
  hp.andThen fun _ _ hmatch =>
    match hmatch with
    | .ok hxy => twin_answer (.ok hxy)
    | .error f => (twin_put _).andThen fun _ _ _ => twin_fail f

/-! ## Taking on a role -/

section Roles

variable (hw : w.Reissues { w with host := h })

include hw

/-- The token service is asked. -/
theorem twin_askHost {call : CloudCall} (hcall : call.operation = "assume_role") :
    Twin view Reissued (askHost w call) (askHost { w with host := h } call) :=
  (twin_note _ _).action fun _ _ _ => twin_answer (.ok (hw.issued call hcall))

/-- **Taking on a role** gives alike keys, or fails alike. -/
theorem twin_assume (r : SessionRequest) :
    Twin view Keys.Alike (assume w r) (assume { w with host := h } r) := by
  rw [assume, assume]
  refine Twin.action (twin_answer (.of_eq rfl)) fun _ _ _ => ?_
  refine twin_get_bind fun s ws es hws => ?_
  generalize s.sessionBreaker.allow w.now = o
  obtain ⟨allowed, b⟩ := o
  refine Twin.action (twin_set ⟨ws, es, hws, rfl⟩) fun _ _ _ => ?_
  cases allowed with
  | false => exact twin_throw _
  | true =>
    refine Twin.action (twin_askHost hw rfl) fun a a' ha => ?_
    obtain ⟨hkeys, hbreaker⟩ := matches_settle ha w.now
      (if r.region == "" then s.settings.region else r.region) b
    dsimp only
    rw [hbreaker]
    exact (twin_modify fun _ _ _ => rfl).action fun _ _ _ => twin_answer hkeys

theorem twin_assumeFor (c : Credential) (region : String) :
    Twin view Keys.Alike (assumeFor w c region) (assumeFor { w with host := h } c region) := by
  refine twin_get_bind fun s ws es _ => ?_
  exact Twin.action_eq (twin_answer (.of_eq rfl)) fun arn => twin_assume hw _

/-- A charge is given back alike. -/
theorem twin_assumeOrRefund (user : String) (c : Credential) (region : String) (m : Metered) :
    Twin view Keys.Alike (assumeOrRefund w user c region m).run
      (assumeOrRefund { w with host := h } user c region m).run := by
  refine Twin.andThen (p := (assumeFor w c region).asStep) (twin_assumeFor hw c region)
    fun r r' hmatch => ?_
  cases hmatch with
  | ok hk => exact twin_answer (.ok hk)
  | error f =>
    dsimp only
    split
    · exact (twin_change (f := refund user m) fun _ _ _ => rfl).andThen fun _ _ _ => twin_fail f
    · exact twin_fail f

end Roles

/-! ## Inside a workspace -/

/-- **The other workspaces, and the files of one workspace without its keys.** -/
def unkeyed (name : String) (ws : Workspaces) : Workspaces × Option Files :=
  (others name ws, (ws.files? name).map (Entries.erase overrideFile))

/-- The files of a workspace that are read are the same. -/
theorem file?_eq_of_unkeyed {name file : String} {ws ws' : Workspaces}
    (hws : unkeyed name ws' = unkeyed name ws) (hfile : file ≠ overrideFile) :
    ws'.file? name file = ws.file? name file := by
  have hread (ws : Workspaces) : ws.file? name file =
      ((ws.files? name).map (Entries.erase overrideFile)).bind (Entries.get? file) := by
    rw [Workspaces.file?]
    cases ws.files? name with
    | none => rfl
    | some files => exact (Entries.get?_erase_of_ne hfile files).symm
  rw [hread ws', hread ws]
  exact congrArg (fun v : Workspaces × Option Files => v.2.bind (Entries.get? file)) hws

theorem unkeyed_set (name : String) (files : Files) (ws : Workspaces) :
    unkeyed name (Entries.set name files ws) =
      (others name ws, some (Entries.erase overrideFile files)) := by
  rw [unkeyed, others_set, files?_set]
  rfl

/-- **A file is written alike** if it is the same one, or the one with the keys. -/
theorem unkeyed_write {name file content content' : String} {ws ws' : Workspaces}
    (hws : unkeyed name ws' = unkeyed name ws)
    (hcontent : file = overrideFile ∨ content = content') :
    (ws'.write name file content').1 = (ws.write name file content).1 ∧
      unkeyed name (ws'.write name file content').2 =
        unkeyed name (ws.write name file content).2 := by
  obtain ⟨hothers, hfiles⟩ := Prod.mk.inj hws
  rw [Workspaces.write, Workspaces.write]
  generalize ws'.files? name = o at hfiles
  generalize ws.files? name = p at hfiles
  cases o with
  | none =>
    cases p with
    | none => exact ⟨rfl, hws⟩
    | some files => cases hfiles
  | some files' =>
    cases p with
    | none => cases hfiles
    | some files =>
      refine ⟨rfl, ?_⟩
      have hfiles : Entries.erase overrideFile files' = Entries.erase overrideFile files :=
        Option.some.inj hfiles
      rw [unkeyed_set, unkeyed_set, hothers]
      by_cases hfile : file = overrideFile
      · -- Whatever is written into the file with the keys is left out.
        have hdrop (content : String) (files : Files) :
            Entries.erase overrideFile (Entries.set file content files) =
              Entries.erase overrideFile files :=
          Entries.filter_set (p := fun key => !(key == overrideFile)) (by simp [hfile]) files
        rw [hdrop, hdrop, hfiles]
      · obtain rfl := hcontent.resolve_left hfile
        rw [Entries.erase_set_of_ne hfile, Entries.erase_set_of_ne hfile, hfiles]

variable {name : String}

theorem twin_writeFile {file content content' : String}
    (hcontent : file = overrideFile ∨ content = content') :
    Twin (unkeyed name) Eq (writeFile name file content) (writeFile name file content') := by
  rintro s _ ⟨ws, es, hws, rfl⟩
  obtain ⟨hanswer, hfiles⟩ := unkeyed_write hws hcontent
  exact ⟨.of_eq hanswer.symm, _, es, hfiles, rfl⟩

/-- **The files of a deployment** are written alike with alike keys. -/
theorem twin_writeFiles {k l : Keys} (hk : k.Alike l) (content region : String) :
    Twin (unkeyed name) Eq (writeFiles name content k region)
      (writeFiles name content l region) := by
  refine (twin_writeFile (.inr rfl)).action_eq fun _ => twin_get_bind fun s ws es _ => ?_
  refine Twin.action (twin_answer (matches_override hk s.settings.appName region)) fun _ _ _ => ?_
  exact twin_writeFile (.inl rfl)

theorem unkeyed_leaveState {ws ws' : Workspaces} (hws : unkeyed name ws' = unkeyed name ws)
    (state : Option String) :
    unkeyed name (leaveState name state ws') = unkeyed name (leaveState name state ws) := by
  cases state with
  | none => exact hws
  | some text => exact (unkeyed_write hws (.inr rfl)).2

/-- **The tool answers by its arguments**, so that it answers alike. -/
theorem twin_runStep (w : World) (step : Step) :
    Twin (unkeyed name) Eq (runStep w name step) (runStep w name step) := by
  rintro s _ ⟨ws, es, hws, rfl⟩
  rw [runStep_apply, runStep_apply]
  exact ⟨.of_eq rfl, _, _, unkeyed_leaveState hws _, rfl⟩

theorem twin_expectSuccess (step : String) (r : RunResult) :
    Twin view Eq (expectSuccess step r).run (expectSuccess step r).run := by
  rw [expectSuccess]
  split
  · exact twin_pure rfl
  · exact twin_fail _

theorem twin_prepare (w : World) :
    Twin (unkeyed name) Eq (prepare w name).run (prepare w name).run :=
  (twin_runStep w .init).step fun r => twin_expectSuccess "init" r

theorem twin_runPlan (w : World) :
    Twin (unkeyed name) Eq (runPlan w name) (runPlan w name) :=
  (twin_runStep w .plan).action_eq fun _ =>
    Twin.action_eq (twin_answer (.of_eq rfl)) fun _ => twin_answer (.ok rfl)

/-- The state that an application leaves is not the file with the keys. -/
theorem twin_runApply (w : World) :
    Twin (unkeyed name) Eq (runApply w name) (runApply w name) := by
  refine (twin_runStep w .apply).action_eq fun r => twin_get_bind fun s ws es hws => ?_
  refine twin_answer (.ok ?_)
  rw [stateIn, stateIn, file?_eq_of_unkeyed hws (by decide)]

theorem twin_runDestroy (w : World) (state : Option String) :
    Twin (unkeyed name) Eq (runDestroy w name state) (runDestroy w name state) := by
  cases state with
  | none => exact twin_runStep w .destroy
  | some text =>
    rw [runDestroy]
    split
    · exact (twin_writeFile (.inr rfl)).action_eq fun _ => twin_runStep w .destroy
    · exact twin_runStep w .destroy

theorem twin_auditTemplate (w : World) (t : Template) :
    Twin view Eq (auditTemplate w t).run (auditTemplate w t).run := by
  refine twin_of_apart fun s ws es => ?_
  rw [auditTemplate, Routine.run_perform, Routine.run_perform]
  cases Hcl.scannable t.content with
  | error f => rfl
  | ok _ => rfl

theorem twin_counted (state : Option String) :
    Twin view Eq (counted state).run (counted state).run := by
  rw [counted]
  split
  · exact twin_pure rfl
  · exact twin_fail _

/-- The record that an operation ends with is written and returned. -/
theorem twin_putPure (d : Deployment) :
    Twin view Eq (do change (putDeployment d); return d : Work Deployment).run
      (do change (putDeployment d); return d : Work Deployment).run :=
  (twin_put d).bind_eq fun _ => twin_pure rfl

/-- **Planning in the workspace** with alike keys. -/
theorem twin_planWithin (w : World) (t : Template) (d : Deployment) {k l : Keys} (hk : k.Alike l) :
    Twin (unkeyed d.id) Eq (planWithin w t d k).run (planWithin w t d l).run := by
  refine (twin_writeFiles hk _ _).step fun _ => (twin_prepare w).bind_eq fun _ => ?_
  refine (twin_runPlan w).step fun ⟨r, summary⟩ => ?_
  refine (twin_expectSuccess "plan" r).bind_eq fun _ => ?_
  exact (twin_auditTemplate w t).bind_eq fun report => twin_putPure _

theorem twin_keepPartial (w : World) (d : Deployment) (state : Option String) :
    Twin view Eq (keepPartial w d state).run (keepPartial w d state).run := by
  rw [keepPartial]
  split
  · refine (twin_change fun _ _ _ => rfl).bind_eq fun _ => ?_
    exact (twin_counted _).bind_eq fun n => twin_pure rfl
  · exact twin_pure rfl

theorem twin_concludeApply (w : World) (d : Deployment) (r : RunResult) (state : Option String) :
    Twin view Eq (concludeApply w d r state).run (concludeApply w d r state).run := by
  rw [concludeApply]
  split
  · refine Twin.bind_eq ?_ fun _ => (twin_counted _).bind_eq fun n => twin_putPure _
    rw [keep]
    split
    · exact twin_change fun _ _ _ => rfl
    · exact twin_pure rfl
  · refine (twin_keepPartial w d state).bind_eq fun e => ?_
    exact twin_recording w.now e .apply (twin_fail _)

/-- Everything up to the run that applies. -/
theorem twin_replan (w : World) (t : Template) (d : Deployment) {k l : Keys} (hk : k.Alike l) :
    Twin (unkeyed d.id) Eq (replan w t d k).run (replan w t d l).run := by
  refine (twin_writeFiles hk _ _).step fun _ => (twin_prepare w).bind_eq fun _ => ?_
  refine (twin_runPlan w).step fun ⟨r, _⟩ => ?_
  exact (twin_expectSuccess "re-plan" r).bind_eq fun _ => twin_runApply w

/-- **Applying in the workspace** with alike keys. -/
theorem twin_applyWithin (w : World) (t : Template) (d : Deployment) {k l : Keys}
    (hk : k.Alike l) :
    Twin (unkeyed d.id) Eq (applyWithin w t d k).run (applyWithin w t d l).run :=
  (twin_recording w.now d .apply (twin_replan w t d hk)).bind_eq fun ⟨r, state⟩ =>
    twin_concludeApply w d r state

/-- **Destroying in the workspace** with alike keys. -/
theorem twin_destroyWithin (w : World) (t : Template) (d : Deployment) {k l : Keys}
    (hk : k.Alike l) :
    Twin (unkeyed d.id) Eq (destroyWithin w t d k).run (destroyWithin w t d l).run := by
  refine (twin_writeFiles hk _ _).step fun _ => ?_
  refine Twin.step (a := keptState d.id) (twin_look fun _ _ _ => rfl) fun state => ?_
  refine (twin_prepare w).bind_eq fun _ => (twin_runDestroy w state).step fun r => ?_
  refine (twin_expectSuccess "destroy" r).bind_eq fun _ => ?_
  exact (twin_change fun _ _ _ => rfl).bind_eq fun _ => twin_putPure _

/-! ## Operations -/

/-- **Work in a workspace** does the same with alike keys: the file with the keys is removed with
the workspace. -/
theorem twin_within {w' : World} {d : Deployment} {op : Operation} {keys keys' : Work Keys}
    {body body' : Keys → Work Deployment} (hnow : w'.now = w.now)
    (hkeys : Twin id Keys.Alike keys.run keys'.run)
    (hbody : ∀ k l, k.Alike l → Twin (unkeyed d.id) Eq (body k).run (body' l).run) :
    Twin id Eq (within w d op keys body).run (within w' d op keys' body').run := by
  intro s t hst
  obtain ⟨hmatch, hsame⟩ := hkeys s t hst
  rw [run_within, run_within, hnow]
  generalize keys.run s = o at hmatch hsame
  generalize keys'.run t = p at hmatch hsame
  obtain ⟨r, s'⟩ := o
  obtain ⟨r', t'⟩ := p
  obtain ⟨ws, es, hws, rfl⟩ : Same id s' t' := hsame
  obtain rfl : ws = s'.workspaces := hws
  cases hmatch with
  | error f => exact ⟨.error f, _, es, rfl, rfl⟩
  | @ok k l hk =>
    dsimp only
    -- Up to here the workspaces are the same, and so is the new one.
    generalize s'.workspaces.create d.id = o
    obtain ⟨f | _, ws⟩ := o
    · exact ⟨.error f, ws, es, rfl, rfl⟩
    · obtain ⟨hanswer, ws₁, es₁, hws₁, hstate⟩ := hbody k l hk
        { s' with workspaces := ws } { s' with workspaces := ws, events := es }
        ⟨ws, es, rfl, rfl⟩
      dsimp only
      rw [hstate]
      -- The workspace is removed, and what is left are the others.
      exact ⟨hanswer, _, es₁, congrArg Prod.fst hws₁, rfl⟩

/-- Work within a slot. -/
theorem twin_inSlot {p q : Work α} (user : String) (hp : Twin view Eq p.run q.run) :
    Twin view Eq (inSlot user p).run (inSlot user q).run := by
  refine Twin.step (a := acquireSlot user) (twin_of_apart fun _ _ _ => rfl) fun _ => ?_
  refine hp.andThen fun r r' hr => ?_
  rw [hr.eq]
  exact twin_of_apart (f := fun s => (r', releaseSlot user s)) fun _ _ _ => rfl

theorem twin_charge (user : String) (m : Metered) : Twin view Eq (charge user m) (charge user m) :=
  twin_of_apart fun _ _ _ => rfl

theorem twin_templateOf (user id : String) :
    Twin view Eq (templateOf user id) (templateOf user id) :=
  twin_look fun _ _ _ => rfl

theorem twin_credentialOf (user id : String) :
    Twin view Eq (credentialOf user id) (credentialOf user id) :=
  twin_look fun _ _ _ => rfl

theorem twin_deploymentOf (user id : String) :
    Twin view Eq (deploymentOf user id) (deploymentOf user id) :=
  twin_look fun _ _ _ => rfl

/-- What is looked up for an operation does not depend on the world. -/
theorem twin_enterDeployment (user id verb : String) (target : Status) :
    Twin view Eq (enterDeployment user id target verb).run
      (enterDeployment user id target verb).run := by
  refine (twin_deploymentOf user id).step fun d => ?_
  split
  · exact twin_fail _
  · refine (twin_credentialOf user _).step fun c => (twin_templateOf user _).step fun t => ?_
    exact twin_pure rfl

section Operations

variable (hw : w.Reissues { w with host := h })

include hw

/-- **Planning** under other keys. -/
theorem twin_plan (user template credential region : String) :
    Twin id Eq (plan w user template credential region).run
      (plan { w with host := h } user template credential region).run := by
  refine (twin_templateOf user _).step fun t => (twin_credentialOf user _).step fun c => ?_
  split
  · refine twin_inSlot user ((twin_charge user .plan).step fun _ => ?_)
    refine (twin_put _).bind_eq fun _ => ?_
    refine twin_within rfl (twin_assumeOrRefund hw user c region .plan) fun k l hk => ?_
    exact twin_recording w.now _ .plan (twin_planWithin w t _ hk)
  · exact twin_fail _

/-- **Applying** under other keys. -/
theorem twin_apply (user deployment : String) :
    Twin id Eq (apply w user deployment).run (apply { w with host := h } user deployment).run := by
  refine (twin_enterDeployment user _ _ _).bind_eq fun ⟨d, c, t⟩ => twin_inSlot user ?_
  refine (twin_charge user .apply).step fun _ => (twin_put _).bind_eq fun _ => ?_
  refine twin_within rfl (twin_assumeOrRefund hw user c _ .apply) fun k l hk => ?_
  exact twin_applyWithin w t _ hk

/-- **Destroying** under other keys. -/
theorem twin_destroy (user deployment : String) :
    Twin id Eq (destroy w user deployment).run
      (destroy { w with host := h } user deployment).run := by
  refine (twin_enterDeployment user _ _ _).bind_eq fun ⟨d, c, t⟩ => twin_inSlot user ?_
  refine (twin_put _).bind_eq fun _ => ?_
  refine twin_within rfl (twin_assumeFor hw c _) fun k l hk => ?_
  exact twin_recording w.now _ .destroy (twin_destroyWithin w t _ hk)

end Operations

end Groundplan
