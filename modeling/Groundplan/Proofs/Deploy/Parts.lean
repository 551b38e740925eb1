import Groundplan.Deploy.Lifecycle
import Groundplan.Proofs.Action

/-!
# The parts of operations

Planning, applying and destroying are made of parts that leave all records alone: taking on a role,
making a workspace, filling it, running the tool in it, auditing. Each part is described by what it
comes to and by the events that it adds.

## Main definitions

* `Leaves`: what an operation leaves behind; `Beside`: the same, if that is what was there
* `Inside`: a part of the work inside a workspace
* `Obtained`: the token service issued keys
* `Yields`: an application left a state

## Main results

* `assumeFor_spec`: keys come from the token service
* `Inside.bind`: parts in a row
* `inside_replan`, `inside_auditTemplate`: a fresh plan and its application, and the audit
* `inside_runDestroy`: a destruction finds the state that is kept
-/

namespace Groundplan.Deploy

open Routine (upholds_bind upholds_andThen)

variable {s t u : Installation} {es fs : List Event} {α β : Type}

/-! ## What is left behind -/

/-- What an operation leaves behind of the installation that it began with: deployments, states,
balances and events as given, slots, workspaces, the breaker of sessions and the catalog in some
way, and the rest as it was. -/
def Leaves (s : Installation) (ds : Entries Deployment) (ss : SealedRecords) (cs : Credits)
    (es : List Event) (t : Installation) : Prop :=
  ∃ slots ws b c, t = { s with
    deployments := ds, states := ss, credits := cs, slots := slots, workspaces := ws,
    sessionBreaker := b, catalog := c, events := s.events ++ es }

/-- What a part of an operation leaves behind that only adds events. -/
abbrev Beside (s : Installation) (es : List Event) (t : Installation) : Prop :=
  Leaves s s.deployments s.states s.credits es t

theorem Beside.rfl : Beside s [] s :=
  ⟨s.slots, s.workspaces, s.sessionBreaker, s.catalog, by simp⟩

theorem Leaves.trans {ds : Entries Deployment} {ss : SealedRecords} {cs : Credits}
    (h : Leaves s ds ss cs es t) (h' : Beside t fs u) : Leaves s ds ss cs (es ++ fs) u := by
  obtain ⟨_, _, _, _, rfl⟩ := h
  obtain ⟨_, _, _, _, rfl⟩ := h'
  exact ⟨_, _, _, _, by rw [List.append_assoc]⟩

/-- A change that leaves the deployments alone. -/
def Untouched (s t : Installation) : Prop :=
  t.deployments = s.deployments

theorem Leaves.untouched (h : Beside s es t) : Untouched s t := by
  obtain ⟨_, _, _, _, rfl⟩ := h
  rfl

/-! ## Taking on a role -/

/-- All events are calls. -/
def Calls (es : List Event) : Prop :=
  ∀ e ∈ es, ∃ call, e = .called call

theorem Calls.nil : Calls [] := by simp [Calls]

/-- The token service issued keys in one of the calls among some events. -/
def Obtained (w : World) (es : List Event) : Prop :=
  ∃ call reply region keys, .called call ∈ es ∧ w.host call = .ok reply ∧
    issuedKeys region reply = .ok keys

/-- The region does not decide whether a reply issues keys. -/
theorem issuedKeys_map (region other : String) (reply : Data) :
    issuedKeys region reply =
      (fun k : Keys => { k with region := region }) <$> issuedKeys other reply := by
  simp only [issuedKeys, map_bind, map_pure]

theorem obtained_call {w : World} {call : CloudCall} {reply : Data} (region : String)
    (h : w.host call = .ok reply) :
    Obtained w [.called call] ↔ ∃ keys, issuedKeys region reply = .ok keys := by
  constructor
  · rintro ⟨call', reply', region', keys, hmem, hreply, hk⟩
    obtain rfl : call' = call := by simpa using hmem
    obtain rfl : reply' = reply := by simpa [h] using hreply.symm
    -- The keys that were issued may be for another region.
    exact ⟨{ keys with region := region }, by rw [issuedKeys_map region region', hk]; rfl⟩
  · rintro ⟨keys, hk⟩
    exact ⟨call, reply, region, keys, List.mem_singleton_self _, h, hk⟩

/-- The call that takes on a role. -/
def roleCall (w : World) (r : SessionRequest) (s : Installation) : CloudCall :=
  ⟨hostService, s.settings.region, "assume_role", r.params s.settings w.now⟩

/-- What the answer of the token service means for the caller, and the breaker after it. -/
theorem assume_eq (w : World) (r : SessionRequest) (s : Installation) :
    assume w r s =
      match checkRoleArn r.arn with
      | .error f => (.error f, s)
      | .ok _ =>
        let b := (s.sessionBreaker.allow w.now).2
        if (s.sessionBreaker.allow w.now).1 then
          let o := settle w.now (if r.region == "" then s.settings.region else r.region) b
            (w.host (roleCall w r s))
          (o.1, { s with sessionBreaker := o.2, events := s.events ++ [.called (roleCall w r s)] })
        else (.error (.unavailable tokenService), { s with sessionBreaker := b }) := by
  rw [assume, Action.bind_apply, Action.ofAnswer_apply]
  cases checkRoleArn r.arn with
  | error f => rfl
  | ok _ =>
    dsimp only
    rw [Action.bind_apply, Action.get_apply]
    dsimp only
    rw [Action.bind_apply, Action.set_apply]
    cases (s.sessionBreaker.allow w.now).1 <;> rfl

/-- **Taking on a role** gives keys exactly if the token service issued some, and leaves everything
but its breaker alone. -/
theorem assume_spec (w : World) (r : SessionRequest) (s : Installation) :
    ∃ es, Beside s es (assume w r s).2 ∧ Calls es ∧
      ((∃ k, (assume w r s).1 = .ok k) ↔ Obtained w es) := by
  rw [assume_eq]
  cases checkRoleArn r.arn with
  | error f => exact ⟨[], .rfl, .nil, by simp [Obtained]⟩
  | ok _ =>
    dsimp only
    split
    · refine ⟨[.called (roleCall w r s)], ⟨_, _, _, _, rfl⟩, by simp [Calls], ?_⟩
      cases h : w.host (roleCall w r s) with
      -- The service replied: its reply issues keys or it does not.
      | ok reply => exact (obtained_call _ h).symm
      -- The service failed: there are no keys, and there is no reply that could issue some.
      | error f =>
        constructor
        · rintro ⟨k, hk⟩
          rw [settle] at hk
          split at hk
          · split at hk <;> cases hk
          · cases hk
        · rintro ⟨call, reply, _, _, hmem, hreply, _⟩
          obtain rfl : call = roleCall w r s := by simpa using hmem
          rw [h] at hreply
          cases hreply
    · -- The breaker did not let the call through.
      exact ⟨[], ⟨_, _, _, _, by rw [List.append_nil]⟩, .nil, by simp [Obtained]⟩

/-- The keys of a credential come from the token service as well. -/
theorem assumeFor_spec (w : World) (c : Credential) (region : String) (s : Installation) :
    ∃ es, Beside s es (assumeFor w c region s).2 ∧ Calls es ∧
      ((∃ k, (assumeFor w c region s).1 = .ok k) ↔ Obtained w es) := by
  rw [assumeFor, Action.bind_apply, Action.get_apply]
  dsimp only
  rw [Action.bind_apply, Action.ofAnswer_apply]
  cases s.vault.reveal c.id c.sealedArn with
  | error f => exact ⟨[], .rfl, .nil, by simp [Obtained]⟩
  | ok arn => exact assume_spec w _ s

/-! ## Records that are kept -/

/-- **What saving a template writes**: nothing, or a template of the user under the identifier that
was drawn for it. -/
theorem saveTemplate_cases (w : World) (user name content provider : String)
    (description : Option String) (s : Installation) :
    (saveTemplate w user name content provider description s).2 = s ∨
      ∃ x : Template, x.id = w.recordId ∧ x.user = user ∧
        (saveTemplate w user name content provider description s).2 =
          { s with templates := Entries.set x.id x s.templates } := by
  rw [saveTemplate]
  cases templateProblem? name content provider with
  | some f => exact .inl rfl
  | none => exact .inr ⟨_, rfl, rfl, rfl⟩

/-- **What adding a credential writes**: nothing, or what taking on its role does, and a credential
of the user if the role was taken on. -/
theorem addCredential_cases (w : World) (user name arn external : String) (s : Installation) :
    (addCredential w user name arn external s).2 = s ∨ ∃ r,
      (addCredential w user name arn external s).2 = (assume w r s).2 ∨
        ∃ c : Credential, c.id = w.recordId ∧ c.user = user ∧
          (addCredential w user name arn external s).2 = putCredential c (assume w r s).2 := by
  rw [addCredential, Action.bind_apply, Action.ofAnswer_apply]
  cases checkRoleArn arn with
  | error f => exact .inl rfl
  | ok _ =>
    dsimp only
    split
    · exact .inl rfl
    · refine .inr ⟨⟨trimmed arn, "verify",
        .text (if external == "" then w.externalId else external), "", .null⟩, ?_⟩
      rw [Action.bind_apply]
      generalize assume w _ s = o
      obtain ⟨f | k, t⟩ := o
      · exact .inl rfl
      · exact .inr ⟨_, rfl, rfl, rfl⟩

/-! ## Inside a workspace -/

/-- A workspace is there. -/
def Made (id : String) (s : Installation) : Prop :=
  (s.workspaces.files? id).isSome

/-- **A part of the work inside a workspace**: if the workspace is there it stays there, no record
is touched on the way, and the result and the events are as is said. -/
def Inside (id : String) (p : Work α) (P : Except Failure α → List Event → Prop) : Prop :=
  ∀ s, Made id s → p.Upholds Untouched (fun r t => Made id t ∧ ∃ es, Beside s es t ∧ P r es) s

namespace Inside

variable {id : String} {P Q : Except Failure α → List Event → Prop}

theorem mono {p : Work α} (h : Inside id p P) (hQ : ∀ r es, P r es → Q r es) : Inside id p Q :=
  fun s hs => (h s hs).mono (fun _ _ h => h) fun r _ ⟨hm, es, hb, hP⟩ =>
    ⟨hm, es, hb, hQ r es hP⟩

theorem done {r : Except Failure α} (h : P r []) : Inside id (.done r) P :=
  fun _ hs => ⟨hs, [], .rfl, h⟩

/-- An action is a single step. -/
theorem ofAction {a : Action α}
    (h : ∀ s, Made id s → Made id (a s).2 ∧ ∃ es, Beside s es (a s).2 ∧ P (a s).1 es) :
    Inside id a.asStep P := by
  intro s hs
  obtain ⟨hm, es, hb, hP⟩ := h s hs
  exact ⟨hb.untouched, hm, es, hb, hP⟩

/-- **Parts in a row**: the events of the second come behind those of the first. -/
theorem bind {p : Work α} {k : α → Work β} {P' : α → Except Failure β → List Event → Prop}
    {Q : Except Failure β → List Event → Prop} (hp : Inside id p P)
    (hk : ∀ a, Inside id (k a) (P' a)) (herror : ∀ f es, P (.error f) es → Q (.error f) es)
    (hok : ∀ a es r fs, P (.ok a) es → P' a r fs → Q r (es ++ fs)) : Inside id (p >>= k) Q := by
  intro s hs
  rw [upholds_bind]
  refine (hp s hs).mono (fun _ _ h => h) ?_
  rintro (f | a) t ⟨hm, es, hb, hP⟩
  · exact ⟨hm, es, hb, herror f es hP⟩
  · refine (hk a t hm).mono (fun _ _ h => h) ?_
    rintro r u ⟨hm, fs, hb', hP'⟩
    exact ⟨hm, es ++ fs, hb.trans hb', hok a es r fs hP hP'⟩

end Inside

/-! ## Files -/

variable {id : String}

/-- A file is written into a workspace that is there. -/
theorem writeFile_apply {files : Files} (h : s.workspaces.files? id = some files)
    (file content : String) :
    writeFile id file content s =
      (.ok (), { s with
        workspaces := Entries.set id (Entries.set file content files) s.workspaces }) := by
  simp only [writeFile, onWorkspaces, Action.draw, Workspaces.write, h]

theorem files?_set (ws : Workspaces) (files : Files) :
    Workspaces.files? (Entries.set id files ws) id = some files :=
  Entries.get?_set_self id files ws

/-- Writing the files of a deployment makes no event. -/
theorem inside_writeFiles (content : String) (k : Keys) (region : String) :
    Inside id (writeFiles id content k region).asStep fun _ es => es = [] := by
  refine .ofAction fun s hs => ?_
  obtain ⟨files, hfiles⟩ := Option.isSome_iff_exists.1 hs
  -- The configuration is written first, and stays also if the keys make no override.
  rw [writeFiles, Action.bind_apply, writeFile_apply hfiles]
  dsimp only
  rw [Action.bind_apply, Action.get_apply]
  dsimp only
  rw [Action.bind_apply, Action.ofAnswer_apply]
  cases override s.settings.appName k region with
  | error f =>
    refine ⟨?_, [], ⟨_, _, _, _, by rw [List.append_nil]⟩, rfl⟩
    exact Option.isSome_iff_exists.2 ⟨_, files?_set _ _⟩
  | ok text =>
    dsimp only
    rw [writeFile_apply (files?_set _ _)]
    refine ⟨?_, [], ⟨_, _, _, _, by rw [List.append_nil]⟩, rfl⟩
    exact Option.isSome_iff_exists.2 ⟨_, files?_set _ _⟩

/-- Auditing makes no event. -/
theorem inside_auditTemplate (w : World) (t : Template) :
    Inside id (auditTemplate w t) fun _ es => es = [] := by
  intro s hs
  rw [auditTemplate, Routine.upholds_perform]
  cases Hcl.scannable t.content with
  | error f => exact ⟨rfl, hs, [], .rfl, rfl⟩
  | ok _ => exact ⟨rfl, hs, [], ⟨_, _, _, _, by rw [List.append_nil]⟩, rfl⟩

/-! ## Runs of the tool -/

/-- All events are runs of some steps. -/
def Runs (steps : List Step) (es : List Event) : Prop :=
  ∀ e ∈ es, ∃ run, e = .ran run ∧ ∃ step ∈ steps, run.args = step.args

theorem Runs.nil (steps : List Step) : Runs steps [] := by simp [Runs]

theorem Runs.append {steps : List Step} (h : Runs steps es) (h' : Runs steps fs) :
    Runs steps (es ++ fs) :=
  fun e he => (List.mem_append.1 he).elim (h e) (h' e)

theorem Runs.mono {steps more : List Step} (h : Runs steps es) (hm : ∀ x ∈ steps, x ∈ more) :
    Runs more es := fun e he =>
  let ⟨run, hrun, step, hstep, hargs⟩ := h e he
  ⟨run, hrun, step, hm _ hstep, hargs⟩

/-- No event is a run of a step. -/
def Lacks (step : Step) (es : List Event) : Prop :=
  ∀ run, .ran run ∈ es → run.args ≠ step.args

theorem Calls.lacks (h : Calls es) (step : Step) : Lacks step es := fun _ hrun =>
  let ⟨_, hcall⟩ := h _ hrun
  Event.noConfusion hcall

theorem Lacks.append {step : Step} (h : Lacks step es) (h' : Lacks step fs) :
    Lacks step (es ++ fs) :=
  fun run hrun => (List.mem_append.1 hrun).elim (h run) (h' run)

theorem Step.args_injective {a b : Step} (h : a.args = b.args) : a = b := by
  revert h
  cases a <;> cases b <;> decide

theorem Runs.lacks {steps : List Step} {step : Step} (h : Runs steps es) (hstep : step ∉ steps) :
    Lacks step es := by
  intro run hrun hargs
  obtain ⟨_, ⟨rfl⟩, other, hother, hargs'⟩ := h _ hrun
  exact hstep (Step.args_injective (hargs.symm.trans hargs') ▸ hother)

/-- Runs of the tool issue no keys. -/
theorem obtained_append {w : World} {steps : List Step} (h : Runs steps fs) :
    Obtained w (es ++ fs) ↔ Obtained w es := by
  constructor
  · rintro ⟨call, reply, region, keys, hmem, hrest⟩
    refine ⟨call, reply, region, keys, ?_, hrest⟩
    refine (List.mem_append.1 hmem).resolve_right fun hcall => ?_
    -- A call is no run.
    obtain ⟨_, ⟨⟩, _⟩ := h _ hcall
  · rintro ⟨call, reply, region, keys, hmem, hrest⟩
    exact ⟨call, reply, region, keys, List.mem_append_left _ hmem, hrest⟩

/-- What a run leaves, and what it comes to. -/
theorem runStep_apply (w : World) (id : String) (step : Step) (s : Installation) :
    runStep w id step s =
      (RunResult.ofReply (limits s.settings) step.word step.goodCodes (w.tool step.args),
        { s with
          workspaces := leaveState id (w.tool step.args).state? s.workspaces
          events := s.events ++ [.ran (step.toRun w id s.workspaces)] }) := rfl

/-- The files of a workspace with the state that a run wrote. -/
theorem files?_leaveState (state : Option String) {ws : Workspaces} {files : Files}
    (h : ws.files? id = some files) :
    (leaveState id state ws).files? id =
      some (state.elim files fun text => Entries.set stateFile text files) := by
  cases state with
  | none => exact h
  | some text =>
    rw [leaveState, Workspaces.write, h]
    exact files?_set _ _

theorem made_leaveState {ws : Workspaces} {state : Option String} (h : (ws.files? id).isSome) :
    ((leaveState id state ws).files? id).isSome := by
  obtain ⟨files, hfiles⟩ := Option.isSome_iff_exists.1 h
  exact Option.isSome_iff_exists.2 ⟨_, files?_leaveState state hfiles⟩

theorem inside_runStep (w : World) (step : Step) :
    Inside id (runStep w id step).asStep fun _ es => Runs [step] es := by
  refine .ofAction fun s hs => ?_
  rw [runStep_apply]
  exact ⟨made_leaveState hs, _, ⟨_, _, _, _, rfl⟩, by simp [Runs, Step.toRun]⟩

theorem inside_expectSuccess (step : String) (r : RunResult) :
    Inside id (expectSuccess step r) fun _ es => es = [] := by
  rw [expectSuccess]
  split
  · exact .done rfl
  · exact .done rfl

theorem inside_prepare (w : World) : Inside id (prepare w id) fun _ es => Runs [.init] es := by
  refine .bind (inside_runStep w .init) (fun r => inside_expectSuccess "init" r)
    (fun _ _ h => h) ?_
  rintro _ es _ _ h rfl
  rwa [List.append_nil]

/-- The counts are read from the output; nothing is done for them. -/
theorem runPlan_snd (w : World) (id : String) (s : Installation) :
    (runPlan w id s).2 = (runStep w id .plan s).2 := by
  rw [runPlan, Action.bind_apply]
  rcases runStep w id .plan s with ⟨f | r, t⟩
  · rfl
  · dsimp only
    rw [Action.bind_apply, Action.ofAnswer_apply]
    cases planSummary r.output <;> rfl

theorem inside_runPlan (w : World) :
    Inside id (runPlan w id).asStep fun _ es => Runs [.plan] es := by
  refine .ofAction fun s hs => ?_
  rw [runPlan_snd, runStep_apply]
  exact ⟨made_leaveState hs, _, ⟨_, _, _, _, rfl⟩, by simp [Runs, Step.toRun]⟩

/-! ## States -/

/-- **An application left a state** that is not empty, among some events: the tool wrote it in this
run, or it was there when the run began. -/
def Yields (w : World) (id : String) (es : List Event) (text : String) : Prop :=
  ∃ run wrote output ending, .ran run ∈ es ∧ run.args = Step.apply.args ∧
    run.workspace = some id ∧ w.tool run.args = .ran wrote output ending ∧
    (wrote.or (Entries.get? stateFile run.files)).map
      (fun s => String.ofList (Text.unifyBreaks s.toList)) = some text ∧ text ≠ ""

/-- Only applications leave states. -/
theorem not_yields_of_lacks {w : World} {text : String} (h : Lacks .apply es) :
    ¬ Yields w id es text :=
  fun ⟨run, _, _, _, hmem, hargs, _⟩ => h run hmem hargs

theorem yields_append {w : World} {text : String} (h : Lacks .apply es) :
    Yields w id (es ++ fs) text ↔ Yields w id fs text := by
  constructor
  · rintro ⟨run, wrote, output, ending, hmem, hargs, hrest⟩
    exact ⟨run, wrote, output, ending,
      (List.mem_append.1 hmem).resolve_left fun he => h run he hargs, hargs, hrest⟩
  · rintro ⟨run, wrote, output, ending, hmem, hrest⟩
    exact ⟨run, wrote, output, ending, List.mem_append_right _ hmem, hrest⟩

/-- A run that was started comes to a result. -/
theorem ofReply_ran (limits : RunLimits) (command : String) (good : List Int)
    (wrote : Option String) (output : List (List UInt8)) (ending : Ending) :
    ∃ r, RunResult.ofReply limits command good (.ran wrote output ending) = .ok r := by
  rw [RunResult.ofReply]
  split
  · exact ⟨_, rfl⟩
  · cases ending <;> exact ⟨_, rfl⟩

theorem runApply_apply (w : World) (id : String) (s : Installation) :
    runApply w id s =
      ((RunResult.ofReply (limits s.settings) Step.apply.word Step.apply.goodCodes
          (w.tool Step.apply.args)).map fun r =>
        (r, stateIn (leaveState id (w.tool Step.apply.args).state? s.workspaces) id),
      (runStep w id .apply s).2) := by
  rw [runApply, Action.bind_apply, runStep_apply]
  cases RunResult.ofReply (limits s.settings) Step.apply.word Step.apply.goodCodes
    (w.tool Step.apply.args) <;> rfl

/-- The state in a workspace after a run: the one that the run wrote, or the one from before. -/
theorem stateIn_leaveState (wrote : Option String) {ws : Workspaces} {files : Files}
    (h : ws.files? id = some files) :
    stateIn (leaveState id wrote ws) id =
      (wrote.or (Entries.get? stateFile files)).map
        fun s => String.ofList (Text.unifyBreaks s.toList) := by
  rw [stateIn, Workspaces.file?, files?_leaveState wrote h]
  cases wrote with
  | none => rfl
  | some text =>
    rw [Option.elim_some, Option.bind_some, Entries.get?_set_self]
    rfl

/-- What the work up to an application comes to, and the state that the application left, if that is
not empty. -/
def Applies (w : World) (id : String) (r : Except Failure (RunResult × Option String))
    (es : List Event) : Prop :=
  Runs [.init, .plan, .apply] es ∧
    ∀ text, Yields w id es text ↔ ∃ result state, r = .ok (result, state) ∧ kept? state = some text

/-- What is run before an application leaves no state. -/
theorem Applies.before {w : World} {r : Except Failure (RunResult × Option String)}
    (h : Runs [.init, .plan] es) (h' : Applies w id r fs) : Applies w id r (es ++ fs) := by
  refine ⟨(h.mono (by decide)).append h'.1, fun text => ?_⟩
  rw [yields_append (h.lacks (by decide)), h'.2]

theorem Applies.error {w : World} {f : Failure} (h : Runs [.init, .plan] es) :
    Applies w id (.error f) es := by
  refine ⟨h.mono (by decide), fun text => ?_⟩
  constructor
  · intro hy
    exact absurd hy (not_yields_of_lacks (h.lacks (by decide)))
  · rintro ⟨_, _, ⟨⟩, _⟩

theorem inside_runApply (w : World) : Inside id (runApply w id).asStep (Applies w id) := by
  refine .ofAction fun s hs => ?_
  obtain ⟨files, hfiles⟩ := Option.isSome_iff_exists.1 hs
  have hrun : (Step.apply.toRun w id s.workspaces).files = files := by
    rw [Step.toRun, hfiles]
    rfl
  rw [runApply_apply, runStep_apply]
  refine ⟨made_leaveState hs, [.ran (Step.apply.toRun w id s.workspaces)], ⟨_, _, _, _, rfl⟩,
    by simp [Runs, Step.toRun], fun text => ?_⟩
  constructor
  · -- The only run is this one, so the state that it left is the one in the workspace now.
    rintro ⟨run, wrote, output, ending, hmem, hargs, -, htool, hstate, hne⟩
    obtain rfl : run = Step.apply.toRun w id s.workspaces := by simpa using hmem
    rw [hargs] at htool
    obtain ⟨r, hr⟩ := ofReply_ran (limits s.settings) Step.apply.word Step.apply.goodCodes wrote
      output ending
    rw [htool, hr]
    refine ⟨r, _, rfl, ?_⟩
    rw [ToolReply.state?, stateIn_leaveState wrote hfiles, ← hrun, hstate, kept?]
    simp [hne]
  · rintro ⟨r, state, hr, hkept⟩
    cases htool : w.tool Step.apply.args with
    -- A run that could not be started has no result.
    | notStarted reason =>
      rw [htool] at hr
      cases hr
    | ran wrote output ending =>
      obtain ⟨r', hr'⟩ := ofReply_ran (limits s.settings) Step.apply.word Step.apply.goodCodes wrote
        output ending
      rw [htool, hr', ToolReply.state?, stateIn_leaveState wrote hfiles, ← hrun] at hr
      obtain ⟨rfl, hstate⟩ : r' = r ∧ _ = state := by simpa [Except.map] using hr
      rw [← hstate, kept?, Option.filter_eq_some_iff] at hkept
      exact ⟨_, wrote, output, ending, List.mem_singleton_self _, rfl, rfl, htool, hkept.1,
        by simpa using hkept.2⟩

/-- What comes before an application may be done first. -/
theorem inside_beforeApply {w : World} {p : Work α} {k : α → Work (RunResult × Option String)}
    (hp : Inside id p fun _ es => Runs [.init, .plan] es)
    (hk : ∀ a, Inside id (k a) (Applies w id)) : Inside id (p >>= k) (Applies w id) :=
  .bind hp hk (fun _ _ h => .error h) fun _ _ _ _ h h' => h'.before h

/-- **A fresh plan and its application**: only the application leaves a state. -/
theorem inside_replan (w : World) (t : Template) (d : Deployment) (k : Keys) :
    Inside d.id (replan w t d k) (Applies w d.id) := by
  -- Files, preparation and plan, one after another; each may fail, and then nothing is applied.
  refine inside_beforeApply ((inside_writeFiles t.content k d.region).mono ?_) fun _ => ?_
  · rintro _ _ rfl
    exact .nil _
  refine inside_beforeApply ((inside_prepare w).mono fun _ _ h => h.mono (by decide)) fun _ => ?_
  refine inside_beforeApply ((inside_runPlan w).mono fun _ _ h => h.mono (by decide)) fun r => ?_
  refine inside_beforeApply ((inside_expectSuccess "re-plan" r.1).mono ?_) fun _ =>
    inside_runApply w
  rintro _ _ rfl
  exact .nil _

/-- **A destruction finds the state that is kept**, if that is not empty. -/
theorem inside_runDestroy (w : World) (state : Option String) :
    Inside id (runDestroy w id state).asStep fun _ es => Runs [.destroy] es ∧
      ∀ run, .ran run ∈ es → ∀ text, kept? state = some text →
        Entries.get? stateFile run.files = some text := by
  refine .ofAction fun s hs => ?_
  obtain ⟨files, hfiles⟩ := Option.isSome_iff_exists.1 hs
  -- Before it runs, the state is written into the workspace, unless there is none.
  have hwrite : ∃ ws files, ws.files? id = some files ∧
      (∀ text, kept? state = some text → Entries.get? stateFile files = some text) ∧
      runDestroy w id state s = runStep w id .destroy { s with workspaces := ws } := by
    cases state with
    | none => exact ⟨s.workspaces, files, hfiles, by simp [kept?], rfl⟩
    | some text =>
      by_cases h : text = ""
      · subst h
        exact ⟨s.workspaces, files, hfiles, by simp [kept?], rfl⟩
      · refine ⟨_, _, files?_set s.workspaces (Entries.set stateFile text files), ?_, ?_⟩
        · rintro _ hkept
          obtain ⟨⟨⟩, _⟩ := Option.filter_eq_some_iff.1 hkept
          exact Entries.get?_set_self _ _ _
        · rw [runDestroy, if_pos (by simpa using h), Action.bind_apply, writeFile_apply hfiles]
  obtain ⟨ws, files, hws, hkept, hrun⟩ := hwrite
  rw [hrun, runStep_apply]
  refine ⟨made_leaveState (Option.isSome_iff_exists.2 ⟨_, hws⟩),
    [.ran (Step.destroy.toRun w id ws)], ⟨_, _, _, _, rfl⟩, by simp [Runs, Step.toRun], ?_⟩
  rintro run hmem text htext
  obtain rfl : run = Step.destroy.toRun w id ws := by simpa using hmem
  rw [Step.toRun, hws]
  exact hkept text htext

end Groundplan.Deploy
