import Groundplan.Proofs.Deploy.Work

/-!
# Work that keeps to its workspace

An operation works in a workspace of its own. Whatever it comes to, the slots and all other
workspaces are left alone meanwhile, and no failure of the work looks like one of the refusals that
are made before there is any. Of each of its failures something can be recorded.

## Main definitions

* `Failure.declines`: the refusals of a request for which nothing is done
* `Failure.IsInner`: the failures of work that has begun
* `World.External`: the cloud makes no refusals of this library
* `Proceeds`: an answer that does not decline
* `Alike`: the same slots, and workspaces that look the same
* `Confined`: work that leaves states alike, and does not decline

## Main results

* `Confined.andThen`, `Confined.bind`, `confined_recording`: the combinations
* `confined_planWithin`, `confined_applyWithin`, `confined_destroyWithin`: **the work inside a
  workspace keeps to it**
* `confined_within`: work on a deployment leaves the workspaces as they were
-/

namespace Groundplan

/-! ## Refusals that decline a request -/

/-- **The refusals of a request for which nothing is done**: what it names is not there or not the
user's, the deployment is in no state for it, the credential is switched off, or the user has no
slot or no credits left. -/
def Failure.declines : Failure → Bool
  | .refusal r =>
    match r.kind with
    | .notFound | .conflict | .rateLimited | .paymentRequired => true
    | .validation => r.message == "Deployment credential is inactive"
    | _ => false
  | _ => false

/-- **A failure of work that has begun**: it declines no request, and there is something to record
of it. -/
structure Failure.IsInner (f : Failure) : Prop where
  not_declines : f.declines = false
  recorded : Deploy.recordedMessage f ≠ ""

/-- A failure has a name, which is recorded where there is no message. -/
theorem Failure.name_ne_empty (f : Failure) : f.name ≠ "" := by
  cases f with
  | refusal r =>
    show r.kind.name ≠ ""
    cases r.kind <;> decide
  | connector fault => cases fault <;> simp [Failure.name, ConnectorFault.name]
  | mismatch m => cases m <;> decide
  | _ => simp [Failure.name]

theorem Failure.isInner_of_fault {f : Failure} (h : f.isRefusal = false) : f.IsInner where
  not_declines := by
    cases f with
    | refusal r => cases h
    | _ => rfl
  recorded := by
    rw [Deploy.recordedMessage]
    split
    · -- It has a message, since it is no refusal.
      simp_all
    · exact f.name_ne_empty

/-- A refusal that says something. -/
theorem Failure.isInner_of_message {f : Failure} (hrefuses : f.isRefusal)
    (hmessage : f.message ≠ "") (hdeclines : f.declines = false) : f.IsInner where
  not_declines := hdeclines
  recorded := by rwa [Deploy.recordedMessage, hrefuses]

theorem Failure.isInner_sandbox {message : String} (h : message ≠ "") :
    (Failure.sandbox message).IsInner :=
  isInner_of_message rfl h rfl

/-- The failure of a run names its step. -/
theorem Deploy.isInner_toolFailure (step : String) (r : Deploy.RunResult) :
    (Deploy.toolFailure step r).IsInner := by
  refine Failure.isInner_of_message rfl ?_ rfl
  show (if r.output == "" then _ else _) ≠ ""
  split <;> simp

/-- The cloud under the keys of this installation answers with faults of its own, and with none of
the refusals that this library makes. -/
def World.External (w : World) : Prop :=
  ∀ call f, w.host call = .error f → f.isRefusal = false

/-! ## Answers that do not decline -/

/-- **An answer that does not decline** a request, whether it is a result or not. -/
def Proceeds {α : Type} (a : Answer α) : Prop :=
  ∀ f, a = .error f → f.IsInner

section Answers

variable {α β : Type} {a : Answer α}

theorem proceeds_ok (x : α) : Proceeds (.ok x : Answer α) := fun _ h => by cases h

theorem proceeds_error {f : Failure} (h : f.IsInner) : Proceeds (.error f : Answer α) := by
  rintro _ ⟨⟩
  exact h

theorem proceeds_fault {f : Failure} (h : f.isRefusal = false) : Proceeds (.error f : Answer α) :=
  proceeds_error (Failure.isInner_of_fault h)

theorem proceeds_refusal {f : Failure} (hrefuses : f.isRefusal) (hmessage : f.message ≠ "")
    (hdeclines : f.declines = false) : Proceeds (.error f : Answer α) :=
  proceeds_error (Failure.isInner_of_message hrefuses hmessage hdeclines)

theorem Proceeds.bind {k : α → Answer β} (ha : Proceeds a) (hk : ∀ x, Proceeds (k x)) :
    Proceeds (a >>= k) := by
  cases a with
  | error f => exact proceeds_error (ha f rfl)
  | ok x => exact hk x

theorem Proceeds.map {g : α → β} (ha : Proceeds a) : Proceeds (a.map g) := by
  cases a with
  | error f => exact proceeds_error (ha f rfl)
  | ok x => exact proceeds_ok _

theorem proceeds_integerOf (text : String) : Proceeds (integerOf text) := by
  rw [integerOf]
  split
  · exact proceeds_ok _
  · exact proceeds_fault rfl
  · exact proceeds_fault rfl

theorem proceeds_getItem (key : String) (d : Data) : Proceeds (d.getItem key) := by
  rw [Data.getItem.eq_def]
  split
  · split
    · exact proceeds_ok _
    · exact proceeds_fault rfl
  · exact proceeds_fault rfl

theorem proceeds_getFieldD (d : Data) (key : String) (default : Data) :
    Proceeds (d.getFieldD key default) := by
  rw [Data.getFieldD]
  refine Proceeds.map ?_
  rw [Data.getField?.eq_def]
  split
  · exact proceeds_ok _
  · exact proceeds_fault rfl

theorem proceeds_issuedKeys (region : String) (reply : Data) :
    Proceeds (issuedKeys region reply) := by
  refine (proceeds_getItem _ _).bind fun _ => (proceeds_getItem _ _).bind fun _ => ?_
  refine (proceeds_getItem _ _).bind fun _ => (proceeds_getFieldD _ _ _).bind fun _ => ?_
  exact (proceeds_getFieldD _ _ _).bind fun _ => proceeds_ok _

theorem proceeds_checkRoleArn (arn : String) : Proceeds (checkRoleArn arn) := by
  rw [checkRoleArn]
  split
  · exact proceeds_ok _
  · exact proceeds_refusal rfl (by decide) (by decide)

theorem proceeds_reveal (v : Vault) (record blob : String) : Proceeds (v.reveal record blob) := by
  refine Proceeds.bind ?_ fun e => ?_
  · rw [readEnvelope]
    split
    · split
      · exact proceeds_ok _
      · exact proceeds_refusal rfl (by decide) rfl
    · exact proceeds_refusal rfl (by decide) rfl
  · split
    · exact proceeds_refusal rfl (by decide) rfl
    · split
      · exact proceeds_ok _
      · exact proceeds_fault rfl

theorem proceeds_scannable (text : String) : Proceeds (Hcl.scannable text) := by
  rw [Hcl.scannable]
  split
  · exact proceeds_ok _
  · exact proceeds_fault rfl

theorem proceeds_priceable (text : String) : Proceeds (Policy.priceable text) := by
  refine (proceeds_scannable text).bind fun _ => ?_
  dsimp only
  split
  · exact proceeds_ok _
  · exact proceeds_fault rfl

/-- What the token service answers does not decline a request, as long as it is the service's. -/
theorem proceeds_settle {now : Instant} {region : String} {b : Breaker} {answer : Answer Data}
    (h : ∀ f, answer = .error f → f.isRefusal = false) :
    Proceeds (settle now region b answer).1 := by
  cases answer with
  | ok reply => exact proceeds_issuedKeys region reply
  | error f =>
    rw [settle]
    split
    · split
      · exact proceeds_refusal rfl (by decide) (by decide)
      · exact proceeds_refusal rfl (by decide) rfl
    · exact proceeds_fault (h f rfl)

end Answers

namespace Deploy

variable {w : World} {view : Workspaces → Workspaces} {s t u : Installation} {name : String}
  {d : Deployment} {α β : Type}

theorem proceeds_planSummary (output : String) : Proceeds (planSummary output) := by
  rw [planSummary]
  split
  · exact proceeds_ok _
  · refine (proceeds_integerOf _).bind fun _ => (proceeds_integerOf _).bind fun _ => ?_
    exact (proceeds_integerOf _).bind fun _ => proceeds_ok _

theorem proceeds_resourceCount (state : Option String) : Proceeds (resourceCount state) := by
  rw [resourceCount.eq_def]
  split
  · exact proceeds_ok _
  · split
    · exact proceeds_ok _
    · exact proceeds_fault rfl
    · exact proceeds_ok _

theorem proceeds_literalOf (d : Data) : Proceeds (literalOf d) := by
  rw [literalOf.eq_def]
  split
  · exact proceeds_ok _
  · exact proceeds_fault rfl

theorem proceeds_override (app : String) (k : Keys) (region : String) :
    Proceeds (override app k region) := by
  refine (proceeds_literalOf _).bind fun _ => (proceeds_literalOf _).bind fun _ => ?_
  dsimp only
  split
  · exact (proceeds_literalOf _).map.bind fun _ => proceeds_ok _
  · exact (proceeds_ok _).bind fun _ => proceeds_ok _

theorem proceeds_ofReply (limits : RunLimits) (command : String) (good : List Int)
    (reply : ToolReply) : Proceeds (RunResult.ofReply limits command good reply) := by
  cases reply with
  | notStarted reason => exact proceeds_error (Failure.isInner_sandbox (by simp))
  | ran wrote pieces ending =>
    obtain ⟨r, hr⟩ := ofReply_ran limits command good wrote pieces ending
    rw [hr]
    exact proceeds_ok r

theorem proceeds_write (ws : Workspaces) (id file content : String) :
    Proceeds (ws.write id file content).1 := by
  rw [Workspaces.write]
  split
  · exact proceeds_fault rfl
  · exact proceeds_ok _

/-! ## States alike -/

/-- **The same slots, and workspaces that look the same** in some view. -/
structure Alike (view : Workspaces → Workspaces) (s t : Installation) : Prop where
  slots : t.slots = s.slots
  workspaces : view t.workspaces = view s.workspaces

theorem Alike.refl (view : Workspaces → Workspaces) (s : Installation) : Alike view s s :=
  ⟨rfl, rfl⟩

theorem Alike.trans (h : Alike view s t) (h' : Alike view t u) : Alike view s u :=
  ⟨h'.slots.trans h.slots, h'.workspaces.trans h.workspaces⟩

/-- Where the workspaces are the same, they look the same. -/
theorem Alike.of_eq (hslots : t.slots = s.slots) (hws : t.workspaces = s.workspaces) :
    Alike view s t :=
  ⟨hslots, congrArg view hws⟩

/-- All workspaces but one. -/
def others (name : String) (ws : Workspaces) : Workspaces :=
  ws.remove name

theorem others_set (ws : Workspaces) (files : Files) :
    others name (Entries.set name files ws) = others name ws :=
  Entries.filter_set (p := fun key => !(key == name)) (by simp) ws

theorem others_write (ws : Workspaces) (file content : String) :
    others name (ws.write name file content).2 = others name ws := by
  rw [Workspaces.write]
  split
  · rfl
  · exact others_set ws _

/-- Where there is no workspace of a name, all are others. -/
theorem others_of_none {ws : Workspaces} (h : ws.files? name = none) : others name ws = ws := by
  rw [others, Workspaces.remove, Entries.erase, List.filter_eq_self]
  intro e he
  have hkey := List.lookup_eq_none_iff.1 h e he
  simpa [Bool.beq_comm] using hkey

/-! ## Confined work -/

/-- **Work that leaves states alike, and does not decline** in a world whose cloud is not this
library. It is given as an action or as a routine that is run. -/
def Confined (w : World) (view : Workspaces → Workspaces)
    (f : Installation → Answer α × Installation) : Prop :=
  ∀ s, Alike view s (f s).2 ∧ (w.External → Proceeds (f s).1)

/-- What has nothing to do with workspaces. -/
theorem confined_beside {f : Installation → Answer α × Installation}
    (hslots : ∀ s, (f s).2.slots = s.slots) (hws : ∀ s, (f s).2.workspaces = s.workspaces)
    (hanswer : w.External → ∀ s, Proceeds (f s).1) : Confined w view f :=
  fun s => ⟨.of_eq (hslots s) (hws s), fun hw => hanswer hw s⟩

theorem confined_answer {a : Answer α} (ha : w.External → Proceeds a) :
    Confined w view fun s => (a, s) :=
  confined_beside (fun _ => rfl) (fun _ => rfl) fun hw _ => ha hw

/-- Two actions, one after another. -/
theorem Confined.action {a : Action α} {k : α → Action β} (ha : Confined w view a)
    (hk : ∀ x, Confined w view (k x)) : Confined w view (a >>= k) := by
  intro s
  obtain ⟨halike, hanswer⟩ := ha s
  rw [Action.bind_apply]
  generalize a s = o at halike hanswer
  obtain ⟨f | x, t⟩ := o
  · exact ⟨halike, fun hw => proceeds_error (hanswer hw f rfl)⟩
  · exact ⟨halike.trans (hk x t).1, (hk x t).2⟩

theorem Confined.andThen {p : Work α} {k : Except Failure α → Work β} (hp : Confined w view p.run)
    (hk : ∀ r, (w.External → Proceeds r) → Confined w view (k r).run) :
    Confined w view (p.andThen k).run := by
  intro s
  obtain ⟨halike, hanswer⟩ := hp s
  obtain ⟨hrest, hend⟩ := hk _ hanswer (p.run s).2
  rw [Routine.run_andThen]
  exact ⟨halike.trans hrest, hend⟩

theorem Confined.bind {p : Work α} {k : α → Work β} (hp : Confined w view p.run)
    (hk : ∀ x, Confined w view (k x).run) : Confined w view (p >>= k).run :=
  hp.andThen fun r hr => by
    cases r with
    | ok x => exact hk x
    | error f => exact confined_answer fun hw => proceeds_error (hr hw f rfl)

theorem confined_change {f : Installation → Installation} (hslots : ∀ s, (f s).slots = s.slots)
    (hws : ∀ s, (f s).workspaces = s.workspaces) : Confined w view (change f).run :=
  confined_beside hslots hws fun _ _ => proceeds_ok ()

theorem confined_put (d : Deployment) : Confined w view (change (putDeployment d)).run :=
  confined_change (fun _ => rfl) fun _ => rfl

theorem confined_pure (x : α) : Confined w view (pure x : Work α).run :=
  confined_answer fun _ => proceeds_ok x

theorem confined_fail {f : Failure} (hf : w.External → f.IsInner) :
    Confined w view (.fail f : Work α).run :=
  confined_answer fun hw => proceeds_error (hf hw)

/-- A failure is recorded in the state that it left. -/
theorem run_recording (now : Instant) (d : Deployment) (op : Operation) (p : Work α)
    (s : Installation) :
    (recording now d op p).run s =
      match p.run s with
      | (.ok x, t) => (.ok x, t)
      | (.error f, t) => (.error f, putDeployment (d.failed now op f) t) := by
  rw [recording, Routine.run_andThen]
  generalize p.run s = o
  obtain ⟨f | x, t⟩ := o <;> rfl

/-- Recording a failure does not make it another one. -/
theorem confined_recording {p : Work α} (now : Instant) (d : Deployment) (op : Operation)
    (hp : Confined w view p.run) : Confined w view (recording now d op p).run :=
  hp.andThen fun r hr => by
    cases r with
    | ok x => exact confined_answer fun _ => proceeds_ok x
    | error f => exact (confined_put _).andThen fun _ _ => confined_fail fun hw => hr hw f rfl

/-! ## Keys -/

theorem confined_get : Confined w view (get : Action Installation) :=
  confined_beside (fun _ => rfl) (fun _ => rfl) fun _ _ => proceeds_ok _

theorem confined_assume (r : SessionRequest) : Confined w view (assume w r) := by
  intro s
  rw [assume_eq]
  have harn := proceeds_checkRoleArn r.arn
  cases hcheck : checkRoleArn r.arn with
  | error f => exact ⟨.refl view s, fun _ => proceeds_error (harn f hcheck)⟩
  | ok _ =>
    dsimp only
    split
    · exact ⟨.of_eq rfl rfl, fun hw => proceeds_settle (hw _)⟩
    · -- The breaker did not let the call through.
      exact ⟨.of_eq rfl rfl, fun _ => proceeds_refusal rfl (by decide) rfl⟩

theorem confined_assumeFor (c : Credential) (region : String) :
    Confined w view (assumeFor w c region) :=
  confined_get.action fun _ => Confined.action (confined_answer fun _ => proceeds_reveal _ _ _)
    fun _ => confined_assume _

/-- A charge that is given back concerns no workspace. -/
theorem confined_assumeOrRefund (user : String) (c : Credential) (region : String) (m : Metered) :
    Confined w view (assumeOrRefund w user c region m).run := by
  refine Confined.andThen (confined_assumeFor c region) fun r hr => ?_
  cases r with
  | ok k => exact confined_answer fun _ => proceeds_ok k
  | error f =>
    have hf : w.External → f.IsInner := fun hw => hr hw f rfl
    dsimp only
    split
    · exact (confined_change (f := refund user m) (fun _ => rfl) fun _ => rfl).andThen fun _ _ =>
        confined_fail hf
    · exact confined_fail hf

/-! ## Inside the workspace -/

theorem confined_writeFile (file content : String) :
    Confined w (others name) (writeFile name file content) :=
  fun s => ⟨⟨rfl, others_write s.workspaces file content⟩, fun _ => proceeds_write _ _ _ _⟩

theorem confined_writeFiles (content : String) (k : Keys) (region : String) :
    Confined w (others name) (writeFiles name content k region) := by
  refine (confined_writeFile mainFile content).action fun _ => confined_get.action fun s => ?_
  refine Confined.action (confined_answer fun _ => proceeds_override _ _ _) fun text => ?_
  exact confined_writeFile overrideFile text

/-- A run of the tool leaves its state in its own workspace. -/
theorem confined_runStep (w : World) (step : Step) :
    Confined w (others name) (runStep w name step) := by
  intro s
  rw [runStep_apply]
  refine ⟨⟨rfl, ?_⟩, fun _ => proceeds_ofReply _ _ _ _⟩
  show others name (leaveState name _ s.workspaces) = others name s.workspaces
  rw [leaveState.eq_def]
  split
  · rfl
  · exact others_write s.workspaces stateFile _

theorem confined_expectSuccess (step : String) (r : RunResult) :
    Confined w view (expectSuccess step r).run := by
  rw [expectSuccess]
  split
  · exact confined_pure ()
  · exact confined_fail fun _ => isInner_toolFailure step r

theorem confined_prepare : Confined w (others name) (prepare w name).run :=
  Confined.bind (confined_runStep w .init) fun r => confined_expectSuccess "init" r

theorem confined_runPlan : Confined w (others name) (runPlan w name) :=
  (confined_runStep w .plan).action fun _ =>
    Confined.action (confined_answer fun _ => proceeds_planSummary _) fun _ =>
      confined_answer fun _ => proceeds_ok _

theorem confined_runApply : Confined w (others name) (runApply w name) :=
  (confined_runStep w .apply).action fun _ => confined_get.action fun _ =>
    confined_answer fun _ => proceeds_ok _

theorem confined_runDestroy (state : Option String) :
    Confined w (others name) (runDestroy w name state) := by
  cases state with
  | none => exact confined_runStep w .destroy
  | some text =>
    rw [runDestroy]
    split
    · exact (confined_writeFile stateFile text).action fun _ => confined_runStep w .destroy
    · exact confined_runStep w .destroy

theorem confined_auditTemplate (t : Template) : Confined w view (auditTemplate w t).run := by
  intro s
  rw [auditTemplate, Routine.run_perform]
  have hscan := proceeds_scannable t.content
  cases hscannable : Hcl.scannable t.content with
  | error f => exact ⟨.refl view s, fun _ => proceeds_error (hscan f hscannable)⟩
  | ok _ => exact ⟨.of_eq rfl rfl, fun _ => (proceeds_priceable t.content).map⟩

theorem confined_counted (state : Option String) : Confined w view (counted state).run := by
  rw [counted]
  have hcount := proceeds_resourceCount state
  split
  · exact confined_pure _
  · rename_i f hf
    exact confined_fail fun _ => hcount f hf

theorem confined_keepState (id text : String) :
    Confined w view (change (keepState w id text)).run :=
  confined_change (fun _ => rfl) fun _ => rfl

/-- The record that an operation ends with is written and returned. -/
theorem confined_putPure (d : Deployment) :
    Confined w view (do change (putDeployment d); return d : Work Deployment).run :=
  (confined_put d).bind fun _ => confined_pure d

/-- **Planning in the workspace.** -/
theorem confined_planWithin (t : Template) (d : Deployment) (k : Keys) :
    Confined w (others d.id) (planWithin w t d k).run := by
  refine Confined.bind (confined_writeFiles _ k _) fun _ => confined_prepare.bind fun _ => ?_
  refine Confined.bind confined_runPlan fun ⟨r, summary⟩ => ?_
  refine (confined_expectSuccess "plan" r).bind fun _ => ?_
  exact (confined_auditTemplate t).bind fun report => confined_putPure _

theorem confined_keep (id : String) (state : Option String) :
    Confined w view (keep w id state).run := by
  rw [keep]
  split
  · exact confined_keepState id _
  · exact confined_pure ()

theorem confined_keepPartial (d : Deployment) (state : Option String) :
    Confined w view (keepPartial w d state).run := by
  rw [keepPartial]
  split
  · exact (confined_keepState d.id _).bind fun _ => (confined_counted _).bind fun _ =>
      confined_pure _
  · exact confined_pure d

theorem confined_concludeApply (d : Deployment) (r : RunResult) (state : Option String) :
    Confined w view (concludeApply w d r state).run := by
  rw [concludeApply]
  split
  · refine (confined_keep d.id state).bind fun _ => (confined_counted _).bind fun n => ?_
    exact confined_putPure _
  · refine (confined_keepPartial d state).bind fun e => ?_
    exact confined_recording w.now e .apply (confined_fail fun _ => isInner_toolFailure "apply" r)

/-- Everything up to the run that applies. -/
theorem confined_replan (t : Template) (d : Deployment) (k : Keys) :
    Confined w (others d.id) (replan w t d k).run := by
  refine Confined.bind (confined_writeFiles _ k _) fun _ => confined_prepare.bind fun _ => ?_
  refine Confined.bind confined_runPlan fun ⟨r, _⟩ => ?_
  exact (confined_expectSuccess "re-plan" r).bind fun _ => confined_runApply

/-- **Applying in the workspace.** -/
theorem confined_applyWithin (t : Template) (d : Deployment) (k : Keys) :
    Confined w (others d.id) (applyWithin w t d k).run :=
  (confined_recording w.now d .apply (confined_replan t d k)).bind fun ⟨r, state⟩ =>
    confined_concludeApply d r state

/-- **Destroying in the workspace.** -/
theorem confined_destroyWithin (t : Template) (d : Deployment) (k : Keys) :
    Confined w (others d.id) (destroyWithin w t d k).run := by
  refine Confined.bind (confined_writeFiles _ k _) fun _ => ?_
  refine Confined.bind (p := (keptState d.id).asStep) ?_ fun state => ?_
  · refine confined_beside (fun _ => rfl) (fun _ => rfl) fun _ s => ?_
    show Proceeds (s.states.retrieve s.vault d.id)
    rw [SealedRecords.retrieve]
    split
    · exact proceeds_ok _
    · exact (proceeds_reveal _ _ _).map
  refine confined_prepare.bind fun _ => Confined.bind (confined_runDestroy state) fun r => ?_
  refine (confined_expectSuccess "destroy" r).bind fun _ => ?_
  exact (confined_change (f := dropState d.id) (fun _ => rfl) fun _ => rfl).bind fun _ =>
    confined_putPure _

/-! ## Entering and leaving -/

/-- A workspace is refused and nothing is made, or there is a new one where there was none. -/
theorem create_cases (ws : Workspaces) (name : String) :
    (∃ message, message ≠ "" ∧ ws.create name = (.error (.sandbox message), ws)) ∨
      ws.create name = (.ok (), Entries.set name [] ws) ∧ ws.files? name = none := by
  rw [Workspaces.create, workspaceName]
  split
  · rename_i f hname
    split at hname
    · cases hname
    · cases hname
      exact .inl ⟨_, by simp, rfl⟩
  · rename_i found hname
    split at hname
    · cases hname
      split
      · exact .inl ⟨_, by simp, rfl⟩
      · rename_i hnone
        exact .inr ⟨rfl, hnone⟩
    · cases hname

/-- How work on a deployment goes on with keys, and how it ends without them. -/
theorem run_within (d : Deployment) (op : Operation) (keys : Work Keys)
    (body : Keys → Work Deployment) (s : Installation) :
    (within w d op keys body).run s =
      match keys.run s with
      | (.error f, t) => (.error f, putDeployment (d.failed w.now op f) t)
      | (.ok k, t) =>
        match t.workspaces.create d.id with
        | (.error f, ws) => (.error f, putDeployment (d.failed w.now op f) { t with
            workspaces := ws })
        | (.ok _, ws) =>
          let o := (body k).run { t with workspaces := ws }
          (o.1, removeWorkspace d.id o.2) := by
  rw [within, Routine.run_bind, run_recording, enter, Routine.run_bind]
  -- It can fail for want of keys, and then for want of a workspace; once there is one, it is
  -- removed in the end.
  generalize keys.run s = o
  obtain ⟨f | k, t⟩ := o
  · rfl
  dsimp only
  rw [Routine.run_bind, Action.asStep, Routine.run_perform, makeWorkspace, onWorkspaces,
    Action.draw]
  generalize t.workspaces.create d.id = o
  obtain ⟨f | _, ws⟩ := o
  · rfl
  · exact Routine.run_ensuring _ _ _

/-- **Work on a deployment leaves the workspaces as they were**: its own is made and removed, and
the work keeps to it. -/
theorem confined_within {op : Operation} {keys : Work Keys} {body : Keys → Work Deployment}
    (hkeys : Confined w id keys.run) (hbody : ∀ k, Confined w (others d.id) (body k).run) :
    Confined w id (within w d op keys body).run := by
  intro s
  obtain ⟨halike, hanswer⟩ := hkeys s
  rw [run_within]
  generalize keys.run s = o at halike hanswer
  obtain ⟨f | k, t⟩ := o
  · -- No keys were obtained.
    dsimp only
    exact ⟨halike.trans (.of_eq rfl rfl), fun hw => proceeds_error (hanswer hw f rfl)⟩
  obtain ⟨message, hmessage, hcreate⟩ | ⟨hcreate, hnone⟩ := create_cases t.workspaces d.id
  · -- There are keys, but no workspace.
    dsimp only
    rw [hcreate]
    exact ⟨halike.trans (.of_eq rfl rfl), fun _ =>
      proceeds_error (Failure.isInner_sandbox hmessage)⟩
  · dsimp only
    rw [hcreate]
    dsimp only
    obtain ⟨hbeside, hend⟩ := hbody k { t with workspaces := Entries.set d.id [] t.workspaces }
    refine ⟨⟨hbeside.slots.trans halike.slots, ?_⟩, hend⟩
    -- What is left when the workspace is removed are the others, and these were all there were.
    calc others d.id _ = others d.id (Entries.set d.id [] t.workspaces) := hbeside.workspaces
      _ = others d.id t.workspaces := others_set _ _
      _ = t.workspaces := others_of_none hnone
      _ = s.workspaces := halike.workspaces

end Deploy

end Groundplan
