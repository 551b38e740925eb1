import Groundplan.Proofs.Deploy.KeptStates
import Groundplan.Proofs.Deploy.Releases

/-!
# Work in a new workspace, event by event

An operation enters a new workspace with keys, writes its files, prepares the tool there, and then
runs it. In front of a run that changes infrastructure stand all that it needs: the call that issued
the keys, the files, a preparation that ended well, and in front of an application a plan that was
made just then and ended well.

## Main definitions

* `Succeeds`: the tool ends a step with a code that means success
* `Starts`: whether a step is started, and among which events; `Silent`: nothing is asked
* `Finds`: a run finds the files of a deployment
* `Prepared`, `Applied`, `Destroyed`: the runs of an operation
* `KeysFor`: the token service issued keys for a credential

## Main results

* `starts_applyWithin`, `starts_destroyWithin`: **the work in the workspace**
* `starts_within`: how it is entered
-/

namespace Groundplan.Deploy

open Routine (run_bind upholds_bind)

variable {w : World} {s t u : Installation} {step : Step} {es fs : List Event} {id text : String}
  {d : Deployment} {α β : Type} {G : List Event → Prop}

/-! ## Starting a step -/

/-- The tool ends a step by itself, with a code that means success. -/
def Succeeds (w : World) (step : Step) : Prop :=
  ∃ wrote output code, w.tool step.args = .ran wrote output (.exited code) ∧ code ∈ step.goodCodes

/-- A result that means success is that of a run that ended so. -/
theorem succeeds_of_result {limits : RunLimits} {r : RunResult}
    (h : RunResult.ofReply limits step.word step.goodCodes (w.tool step.args) = .ok r)
    (hr : r.success) : Succeeds w step := by
  rw [Succeeds]
  cases hreply : w.tool step.args with
  | notStarted reason =>
    rw [hreply] at h
    cases h
  | ran wrote output ending =>
    rw [hreply, RunResult.ofReply] at h
    split at h
    · -- There was no time for it.
      cases h
      cases hr
    · cases ending with
      | timedOut code =>
        cases h
        cases hr
      | exited code =>
        cases h
        exact ⟨wrote, output, code, rfl, List.contains_iff_mem.1 hr⟩

/-- **Whether a step is started** between two states: it is not, or the events are as is said. -/
def Starts (step : Step) (s t : Installation) (G : List Event → Prop) : Prop :=
  ∃ es, t.events = s.events ++ es ∧ (Lacks step es ∨ G es)

/-- Nothing is asked of the world. -/
theorem Starts.silent (h : t.events = s.events) : Starts step s t G :=
  ⟨[], by rw [h, List.append_nil], .inl fun _ hrun => by cases hrun⟩

theorem Starts.mono {G' : List Event → Prop} (h : Starts step s t G) (hG : ∀ es, G es → G' es) :
    Starts step s t G' :=
  let ⟨es, hes, hstarts⟩ := h
  ⟨es, hes, hstarts.imp_right (hG es)⟩

/-- Only the events count. -/
theorem Starts.congr (h : Starts step s t G) (hevents : u.events = t.events) :
    Starts step s u G := by
  obtain ⟨es, hes, hstarts⟩ := h
  exact ⟨es, hevents.trans hes, hstarts⟩

/-- What is asked first does not start the step. -/
theorem Starts.after {G' : List Event → Prop} (hes : t.events = s.events ++ es)
    (hlacks : Lacks step es) (h : Starts step t u G') (hG : ∀ fs, G' fs → G (es ++ fs)) :
    Starts step s u G := by
  obtain ⟨fs, hfs, hstarts⟩ := h
  exact ⟨es ++ fs, by rw [hfs, hes, List.append_assoc], hstarts.imp hlacks.append (hG fs)⟩

/-- A sequence whose first part asks nothing of the world. -/
theorem starts_bind {p : Work α} {k : α → Work β} (hp : (p.run s).2.events = s.events)
    (hk : ∀ x t, p.run s = (.ok x, t) → Starts step t ((k x).run t).2 G) :
    Starts step s ((p >>= k).run s).2 G := by
  rw [run_bind]
  generalize ho : p.run s = o at hp
  obtain ⟨f | x, t⟩ := o
  · exact .silent hp
  · obtain ⟨fs, hfs, hstarts⟩ := hk x t ho
    exact ⟨fs, by rw [hfs, hp], hstarts⟩

/-! ### Work that asks nothing of the world -/

/-- Work that asks nothing of the world. -/
def Silent (p : Work α) : Prop :=
  ∀ s, (p.run s).2.events = s.events

/-- What is asked of the world before work that asks nothing. -/
theorem events_bind {p : Work α} {k : α → Work β} (hk : ∀ x, Silent (k x)) :
    ((p >>= k).run s).2.events = (p.run s).2.events := by
  rw [run_bind]
  generalize p.run s = o
  obtain ⟨f | x, t⟩ := o
  · rfl
  · exact hk x t

theorem Silent.bind {p : Work α} {k : α → Work β} (hp : Silent p) (hk : ∀ x, Silent (k x)) :
    Silent (p >>= k) :=
  fun s => (events_bind hk).trans (hp s)

theorem silent_pure (x : α) : Silent (pure x : Work α) := fun _ => rfl

theorem silent_fail (f : Failure) : Silent (.fail f : Work α) := fun _ => rfl

theorem silent_change {f : Installation → Installation} (h : ∀ s, (f s).events = s.events) :
    Silent (change f) := h

theorem silent_put (d : Deployment) : Silent (change (putDeployment d)) :=
  silent_change fun _ => rfl

/-- Recording a failure asks nothing. -/
theorem events_recording (now : Instant) (d : Deployment) (op : Operation) (p : Work α)
    (s : Installation) : ((recording now d op p).run s).2.events = (p.run s).2.events := by
  rw [run_recording]
  generalize p.run s = o
  obtain ⟨f | x, t⟩ := o <;> rfl

theorem silent_expectSuccess (name : String) (r : RunResult) : Silent (expectSuccess name r) := by
  rw [expectSuccess]
  split
  · exact silent_pure ()
  · exact silent_fail _

theorem silent_counted (state : Option String) : Silent (counted state) := by
  rw [counted]
  split
  · exact silent_pure _
  · exact silent_fail _

theorem silent_keepState (w : World) (id text : String) : Silent (change (keepState w id text)) :=
  silent_change fun _ => rfl

/-- What follows an application asks nothing more. -/
theorem silent_concludeApply (w : World) (d : Deployment) (r : RunResult)
    (state : Option String) : Silent (concludeApply w d r state) := by
  rw [concludeApply]
  -- Whether the application succeeded or failed, only records are written.
  split
  · refine Silent.bind ?_ fun _ => (silent_counted _).bind fun n =>
      (silent_put _).bind fun _ => silent_pure _
    rw [keep]
    split
    · exact silent_keepState w d.id _
    · exact silent_pure ()
  · refine Silent.bind ?_ fun e s => ?_
    · rw [keepPartial]
      split
      · exact (silent_keepState w d.id _).bind fun _ => (silent_counted _).bind fun _ =>
          silent_pure _
      · exact silent_pure _
    · rw [events_recording]
      rfl

/-! ## Runs in a workspace -/

/-- A run finds the files of a deployment in its workspace: the content of its template, and the
override. -/
structure Finds (id content text : String) (run : ToolRun) : Prop where
  workspace : run.workspace = some id
  content : Entries.get? mainFile run.files = some content
  override : Entries.get? overrideFile run.files = some text

/-- A workspace holds the files of a deployment. -/
def HasFiles (id content text : String) (s : Installation) : Prop :=
  ∃ files, s.workspaces.files? id = some files ∧ Entries.get? mainFile files = some content ∧
    Entries.get? overrideFile files = some text

variable {content : String}

theorem HasFiles.finds (h : HasFiles id content text s) (w : World) (step : Step) :
    Finds id content text (step.toRun w id s.workspaces) := by
  obtain ⟨files, hfiles, hmain, hoverride⟩ := h
  rw [Step.toRun, hfiles]
  exact ⟨rfl, hmain, hoverride⟩

/-- The state is kept in a file of its own. -/
theorem get?_set_stateFile {files : Files} (hmain : Entries.get? mainFile files = some content)
    (hoverride : Entries.get? overrideFile files = some text) (state : String) :
    Entries.get? mainFile (Entries.set stateFile state files) = some content ∧
      Entries.get? overrideFile (Entries.set stateFile state files) = some text := by
  rw [Entries.get?_set_of_ne (by decide), Entries.get?_set_of_ne (by decide)]
  exact ⟨hmain, hoverride⟩

/-- A run leaves the files as they are, up to the state that it writes. -/
theorem HasFiles.runStep (h : HasFiles id content text s) (w : World) (step : Step) :
    HasFiles id content text (runStep w id step s).2 := by
  obtain ⟨files, hfiles, hmain, hoverride⟩ := h
  rw [runStep_apply]
  refine ⟨_, files?_leaveState _ hfiles, ?_⟩
  cases (w.tool step.args).state? with
  | none => exact ⟨hmain, hoverride⟩
  | some state => exact get?_set_stateFile hmain hoverride state

theorem events_runStep (w : World) (id : String) (step : Step) (s : Installation) :
    (runStep w id step s).2.events = s.events ++ [.ran (step.toRun w id s.workspaces)] := rfl

theorem run_expectSuccess (name : String) (r : RunResult) (s : Installation) :
    (expectSuccess name r).run s =
      (if r.success then .ok () else .error (toolFailure name r), s) := by
  rw [expectSuccess]
  split <;> rfl

/-- The preparation is one run, after which it goes on if this ended well. -/
theorem run_prepare (w : World) (id : String) (s : Installation) :
    ((prepare w id).run s).2 = (runStep w id .init s).2 ∧
      (((prepare w id).run s).1 = .ok () → Succeeds w .init) := by
  rw [prepare, run_bind, Action.asStep, Routine.run_perform, runStep_apply]
  dsimp only
  cases h : RunResult.ofReply (limits s.settings) Step.init.word Step.init.goodCodes
    (w.tool Step.init.args) with
  | error f =>
    refine ⟨rfl, fun hok => ?_⟩
    cases hok
  | ok r =>
    dsimp only
    rw [run_expectSuccess]
    refine ⟨rfl, fun hok => succeeds_of_result h ?_⟩
    by_contra hr
    rw [if_neg hr] at hok
    cases hok

/-- A plan whose result is looked at only if it ended well. -/
theorem runPlan_fst {r : RunResult} {summary : PlanSummary}
    (h : (runPlan w id s).1 = .ok (r, summary)) (hr : r.success) : Succeeds w .plan := by
  rw [runPlan, Action.bind_apply, runStep_apply] at h
  cases hresult : RunResult.ofReply (limits s.settings) Step.plan.word Step.plan.goodCodes
    (w.tool Step.plan.args) with
  | error f =>
    rw [hresult] at h
    cases h
  | ok r' =>
    rw [hresult] at h
    dsimp only at h
    rw [Action.bind_apply, Action.ofAnswer_apply] at h
    cases hsummary : planSummary r'.output with
    | error f =>
      rw [hsummary] at h
      cases h
    | ok x =>
      rw [hsummary] at h
      cases h
      exact succeeds_of_result hresult hr

/-- The run of another step. -/
theorem lacks_toRun {other : Step} (hother : other ≠ step) (w : World) (id : String)
    (ws : Workspaces) : Lacks step [.ran (other.toRun w id ws)] := by
  intro run hrun hargs
  obtain rfl : run = other.toRun w id ws := by simpa using hrun
  exact hother (Step.args_injective hargs)

/-- A sequence whose first part is the run of another step. -/
theorem starts_bind_run {other : Step} {p : Work α} {k : α → Work β} {H : List Event → Prop}
    (hp : (p.run s).2 = (runStep w id other s).2) (hother : other ≠ step)
    (hk : ∀ x, (p.run s).1 = .ok x →
      Starts step (runStep w id other s).2 ((k x).run (runStep w id other s).2).2 H)
    (hG : ∀ fs, H fs → G (.ran (other.toRun w id s.workspaces) :: fs)) :
    Starts step s ((p >>= k).run s).2 G := by
  have hlacks := lacks_toRun hother w id s.workspaces
  rw [run_bind]
  generalize p.run s = o at hp hk
  obtain ⟨f | x, t⟩ := o
  · obtain rfl : t = _ := hp
    exact ⟨_, rfl, .inl hlacks⟩
  · obtain rfl : t = _ := hp
    exact (hk x rfl).after (events_runStep w id other s) hlacks hG

/-! ## The work in the workspace -/

variable {tpl : Template} {k : Keys}

/-- The files that a new workspace is given. -/
def filesOf (content text : String) : Files :=
  [(mainFile, content), (overrideFile, text)]

/-- They are what writing the one and then the other makes. -/
theorem set_set_filesOf (content text : String) :
    Entries.set overrideFile text (Entries.set mainFile content []) = filesOf content text := by
  have hne : (overrideFile == mainFile) = false := by decide
  simp only [filesOf, Entries.set, hne, Bool.false_eq_true, if_false]

theorem hasFiles_of_filesOf (h : s.workspaces.files? id = some (filesOf content text)) :
    HasFiles id content text s :=
  ⟨_, h, rfl, rfl⟩

section Writing

variable {region : String} (h : s.workspaces.files? id = some [])

include h

/-- Keys that no override can be made of stop the writing behind the configuration. -/
theorem writeFiles_error {f : Failure}
    (hoverride : override s.settings.appName k region = .error f) :
    writeFiles id content k region s = (.error f, { s with
      workspaces := Entries.set id (Entries.set mainFile content []) s.workspaces }) := by
  rw [writeFiles, Action.bind_apply, writeFile_apply h]
  dsimp only
  rw [Action.bind_apply, Action.get_apply]
  dsimp only
  rw [Action.bind_apply, Action.ofAnswer_apply, hoverride]

theorem writeFiles_ok (hoverride : override s.settings.appName k region = .ok text) :
    writeFiles id content k region s = (.ok (), { s with
      workspaces := Entries.set id (filesOf content text)
        (Entries.set id (Entries.set mainFile content []) s.workspaces) }) := by
  rw [writeFiles, Action.bind_apply, writeFile_apply h]
  dsimp only
  rw [Action.bind_apply, Action.get_apply]
  dsimp only
  rw [Action.bind_apply, Action.ofAnswer_apply, hoverride]
  dsimp only
  rw [writeFile_apply (files?_set _ _), set_set_filesOf]

/-- Writing the files of a deployment into a new workspace. -/
theorem writeFiles_spec :
    Beside s [] (writeFiles id content k region s).2 ∧
      ∀ x, (writeFiles id content k region s).1 = .ok x → ∃ text,
        override s.settings.appName k region = .ok text ∧
        (writeFiles id content k region s).2.workspaces.files? id =
          some (filesOf content text) := by
  cases hoverride : override s.settings.appName k region with
  | error f =>
    rw [writeFiles_error h hoverride]
    exact ⟨⟨_, _, _, _, by rw [List.append_nil]⟩, nofun⟩
  | ok text =>
    rw [writeFiles_ok h hoverride]
    exact ⟨⟨_, _, _, _, by rw [List.append_nil]⟩, fun _ _ => ⟨text, rfl, files?_set _ _⟩⟩

end Writing

theorem Leaves.events {ds : Entries Deployment} {ss : SealedRecords} {cs : Credits}
    (h : Leaves s ds ss cs es t) : t.events = s.events ++ es := by
  obtain ⟨_, _, _, _, rfl⟩ := h
  rfl

theorem Beside.events_eq (h : Beside s [] t) : t.events = s.events := by
  rw [Leaves.events h, List.append_nil]

/-- **The preparation of a workspace**: it is new and has the files of the deployment and nothing
else, and the preparation ends well. -/
structure Prepared (w : World) (id content text : String) (run : ToolRun) : Prop where
  args : run.args = Step.init.args
  workspace : run.workspace = some id
  files : run.files = filesOf content text
  succeeds : Succeeds w .init

theorem prepared_init (h : s.workspaces.files? id = some (filesOf content text))
    (hinit : Succeeds w .init) :
    Prepared w id content text (Step.init.toRun w id s.workspaces) where
  args := rfl
  workspace := rfl
  files := by rw [Step.toRun, h]; rfl
  succeeds := hinit

/-- A plan that ends well, and the run that applies it. -/
def Applied (w : World) (id content text : String) (es : List Event) : Prop :=
  ∃ plan run, es = [.ran plan, .ran run] ∧ plan.args = Step.plan.args ∧
    Finds id content text plan ∧ Succeeds w .plan ∧ run.args = Step.apply.args ∧
    Finds id content text run

/-- A plan is applied only if it was made just then and ended well. -/
theorem starts_planned (h : HasFiles id content text s) :
    Starts .apply s ((do
      let (r, _) ← (runPlan w id).asStep
      expectSuccess "re-plan" r
      (runApply w id).asStep : Work (RunResult × Option String)).run s).2
      (Applied w id content text) := by
  -- The plan is a run of another step, and what it wrote leaves the files as they are.
  refine starts_bind_run (p := (runPlan w id).asStep)
    (H := fun fs => Succeeds w .plan ∧ ∃ run, fs = [.ran run] ∧ run.args = Step.apply.args ∧
      Finds id content text run) (runPlan_snd w id s) (by decide) ?_ ?_
  · rintro ⟨r, summary⟩ hplan
    have hfiles := h.runStep w .plan
    generalize (runStep w id .plan s).2 = t at hfiles
    refine starts_bind (p := expectSuccess "re-plan" r) ?_ fun _ u hu => ?_
    · rw [run_expectSuccess]
    · rw [run_expectSuccess] at hu
      have hr : r.success := by
        by_contra hr
        rw [if_neg hr] at hu
        cases hu
      obtain rfl : t = u := congrArg Prod.snd hu
      rw [Action.asStep, Routine.run_perform, runApply_apply]
      exact ⟨_, events_runStep w id .apply t,
        .inr ⟨runPlan_fst hplan hr, _, rfl, rfl, hfiles.finds w .apply⟩⟩
  · rintro _ ⟨hplan, run, rfl, hrun⟩
    exact ⟨_, run, rfl, rfl, h.finds w .plan, hplan, hrun⟩

/-- What is done in a new workspace behind the writing of its files. -/
theorem starts_written {p : Work β} {G : String → List Event → Prop}
    (h : s.workspaces.files? d.id = some [])
    (hp : ∀ text t, Beside s [] t → t.workspaces.files? d.id = some (filesOf content text) →
      Starts step t (p.run t).2 (G text)) :
    Starts step s ((do (writeFiles d.id content k d.region).asStep; p : Work β).run s).2 fun es =>
      ∃ text, override s.settings.appName k d.region = .ok text ∧ G text es := by
  obtain ⟨hbeside, hwrite⟩ : Beside s [] (writeFiles d.id content k d.region s).2 ∧ _ :=
    writeFiles_spec h
  refine starts_bind (p := (writeFiles d.id content k d.region).asStep) hbeside.events_eq
    fun x t ht => ?_
  obtain ⟨text, htext, hfiles⟩ := hwrite x (congrArg Prod.fst ht)
  obtain rfl : (writeFiles d.id content k d.region s).2 = t := congrArg Prod.snd ht
  exact (hp text _ hbeside hfiles).mono fun es hes => ⟨text, htext, hes⟩

/-- What is done in a new workspace behind its preparation. -/
theorem starts_prepared {p : Work β}
    (h : s.workspaces.files? id = some (filesOf content text)) (hstep : step ≠ .init)
    (hp : ∀ t, HasFiles id content text t → Starts step t (p.run t).2 G) :
    Starts step s ((do prepare w id; p : Work β).run s).2 fun es => ∃ init fs,
      es = .ran init :: fs ∧ Prepared w id content text init ∧ G fs := by
  obtain ⟨hprepare, hinit⟩ := run_prepare w id s
  refine starts_bind_run (H := fun fs => Succeeds w .init ∧ G fs) hprepare hstep.symm
    (fun _ hok => ?_) ?_
  · refine (hp _ ((hasFiles_of_filesOf h).runStep w .init)).mono fun fs hfs => ?_
    exact ⟨hinit hok, hfs⟩
  · rintro fs ⟨hsucceeds, hfs⟩
    exact ⟨_, fs, rfl, prepared_init h hsucceeds, hfs⟩

/-- Runs that stand behind a preparation, in a workspace with an override for keys and a region. -/
def Behind (w : World) (s : Installation) (id content region : String) (k : Keys)
    (G : String → List Event → Prop) (es : List Event) : Prop :=
  ∃ text, override s.settings.appName k region = .ok text ∧
    ∃ init fs, es = .ran init :: fs ∧ Prepared w id content text init ∧ G text fs

/-- **A plan is applied** only behind a preparation and a plan in the same workspace. -/
theorem starts_replan (h : s.workspaces.files? d.id = some []) :
    Starts .apply s ((replan w tpl d k).run s).2 <|
      Behind w s d.id tpl.content d.region k (Applied w d.id tpl.content) :=
  starts_written h fun _ _ _ hfiles => starts_prepared hfiles (by decide) fun _ => starts_planned

theorem starts_applyWithin (h : s.workspaces.files? d.id = some []) :
    Starts .apply s ((applyWithin w tpl d k).run s).2 <|
      Behind w s d.id tpl.content d.region k (Applied w d.id tpl.content) := by
  -- What is concluded from the application asks nothing, nor does recording that it failed.
  refine (starts_replan h).congr (Eq.trans ?_ (events_recording w.now d .apply _ s))
  exact events_bind (k := fun x : RunResult × Option String => concludeApply w d x.1 x.2)
    fun _ => silent_concludeApply w d _ _

/-! ### Destroying -/

/-- The run that destroys finds the state that it is given, and the files of the deployment. -/
theorem runDestroy_spec (w : World) (h : HasFiles id content text s) (state : Option String) :
    ∃ run, (runDestroy w id state s).2.events = s.events ++ [.ran run] ∧
      run.args = Step.destroy.args ∧ Finds id content text run ∧
      ∀ kept, kept? state = some kept → Entries.get? stateFile run.files = some kept := by
  cases state with
  | none => exact ⟨_, events_runStep w id .destroy s, rfl, h.finds w .destroy, nofun⟩
  | some state =>
    by_cases hstate : state = ""
    · subst hstate
      exact ⟨_, events_runStep w id .destroy s, rfl, h.finds w .destroy, nofun⟩
    · -- The state is written into the workspace first.
      obtain ⟨files, hfiles, hmain, hoverride⟩ := h
      have hset : Workspaces.files? (Entries.set id (Entries.set stateFile state files)
          s.workspaces) id = some (Entries.set stateFile state files) := files?_set _ _
      rw [runDestroy, if_pos (by simpa using hstate), Action.bind_apply, writeFile_apply hfiles]
      refine ⟨_, events_runStep w id .destroy _, rfl, HasFiles.finds
        ⟨_, hset, get?_set_stateFile hmain hoverride state⟩ w .destroy, fun kept hkept => ?_⟩
      obtain ⟨⟨⟩, _⟩ := Option.filter_eq_some_iff.1 hkept
      rw [Step.toRun]
      dsimp only
      rw [hset]
      exact Entries.get?_set_self _ _ _

/-- The run that destroys, with what is kept of the deployment. -/
def Destroyed (s : Installation) (id content text : String) (es : List Event) : Prop :=
  ∃ run state, es = [.ran run] ∧ run.args = Step.destroy.args ∧ Finds id content text run ∧
    retrieved s id = .ok state ∧
    ∀ kept, kept? state = some kept → Entries.get? stateFile run.files = some kept

/-- **Infrastructure is destroyed** only behind a preparation in the same workspace. -/
theorem starts_destroyWithin (h : s.workspaces.files? d.id = some []) :
    Starts .destroy s ((destroyWithin w tpl d k).run s).2 <|
      Behind w s d.id tpl.content d.region k (Destroyed s d.id tpl.content) := by
  refine starts_written h fun text t hbeside hfiles => ?_
  -- Writing the files has not touched what is kept.
  have hkept : retrieved t d.id = retrieved s d.id := by
    obtain ⟨_, _, _, _, rfl⟩ := hbeside
    rfl
  refine starts_bind rfl fun state u hu => ?_
  obtain ⟨hstate, rfl⟩ : retrieved t d.id = .ok state ∧ t = u := Prod.mk.inj hu
  refine starts_prepared hfiles (by decide) fun u hhas => ?_
  obtain ⟨run, hevents, hargs, hfinds, hwritten⟩ := runDestroy_spec w hhas state
  refine ⟨[.ran run], ?_, .inr ⟨run, state, rfl, hargs, hfinds, hkept ▸ hstate, hwritten⟩⟩
  rw [← hevents]
  exact events_bind fun r => (silent_expectSuccess "destroy" r).bind fun _ =>
    (silent_change (f := dropState d.id) fun _ => rfl).bind fun _ =>
      (silent_put _).bind fun _ => silent_pure _

/-! ## Entering -/

/-- **The token service issued keys** for the role of a credential and for a region, in a call. -/
def KeysFor (w : World) (s : Installation) (c : Credential) (region : String) (call : CloudCall)
    (k : Keys) : Prop :=
  ∃ arn reply, s.vault.reveal c.id c.sealedArn = .ok arn ∧
    call = roleCall w ⟨arn, "deploy", .text c.externalId, region, .null⟩ s ∧
    w.host call = .ok reply ∧
    issuedKeys (if region == "" then s.settings.region else region) reply = .ok k

/-- Work that obtains keys, if it does, by one call to the token service. -/
def Calling (w : World) (c : Credential) (region : String) (keys : Work Keys) : Prop :=
  ∀ s, (∃ es, (keys.run s).2.events = s.events ++ es ∧ Calls es) ∧
    ∀ k, (keys.run s).1 = .ok k → ∃ call, KeysFor w s c region call k ∧
      Beside s [.called call] (keys.run s).2 ∧ (keys.run s).2.workspaces = s.workspaces

theorem settle_ok {now : Instant} {region : String} {b : Breaker} {a : Answer Data} {k : Keys}
    (h : (settle now region b a).1 = .ok k) :
    ∃ reply, a = .ok reply ∧ issuedKeys region reply = .ok k := by
  cases a with
  | ok reply => exact ⟨reply, rfl, h⟩
  | error f =>
    rw [settle] at h
    split at h
    · split at h <;> cases h
    · cases h

theorem calling_assumeFor (w : World) (c : Credential) (region : String) :
    Calling w c region (assumeFor w c region).asStep := by
  intro s
  rw [Action.asStep, Routine.run_perform]
  refine ⟨?_, fun k hk => ?_⟩
  · obtain ⟨es, hb, hcalls, -⟩ := assumeFor_spec w c region s
    exact ⟨es, Leaves.events hb, hcalls⟩
  · rw [assumeFor, Action.bind_apply, Action.get_apply] at hk ⊢
    dsimp only at hk ⊢
    rw [Action.bind_apply, Action.ofAnswer_apply] at hk ⊢
    cases harn : s.vault.reveal c.id c.sealedArn with
    | error f =>
      rw [harn] at hk
      cases hk
    | ok arn =>
      rw [harn] at hk
      dsimp only at hk ⊢
      -- A role that is not well-formed, or that the breaker holds back, makes no call.
      rw [assume_eq] at hk ⊢
      dsimp only at hk ⊢
      cases hcheck : checkRoleArn arn with
      | error f =>
        rw [hcheck] at hk
        cases hk
      | ok _ =>
        rw [hcheck] at hk
        dsimp only at hk ⊢
        split at hk
        · rename_i hallowed
          rw [if_pos hallowed]
          obtain ⟨reply, hreply, hkeys⟩ := settle_ok hk
          exact ⟨_, ⟨arn, reply, harn, rfl, hreply, hkeys⟩, ⟨_, _, _, _, rfl⟩, rfl⟩
        · cases hk

/-- A charge that is given back asks nothing of the world. -/
theorem calling_assumeOrRefund (w : World) (user : String) (c : Credential) (region : String)
    (m : Metered) : Calling w c region (assumeOrRefund w user c region m) := by
  intro s
  have hcalling := calling_assumeFor w c region s
  rw [assumeOrRefund, Routine.run_andThen]
  generalize (assumeFor w c region).asStep.run s = o at hcalling
  obtain ⟨f | k, t⟩ := o
  · obtain ⟨es, hes, hcalls⟩ := hcalling.1
    dsimp only
    split
    · exact ⟨⟨es, hes, hcalls⟩, fun k hk => by cases hk⟩
    · exact ⟨⟨es, hes, hcalls⟩, fun k hk => by cases hk⟩
  · exact hcalling

/-- **How work on a deployment is entered**: with keys, and into a workspace that was not there. -/
theorem starts_within {op : Operation} {c : Credential} {keys : Work Keys}
    {body : Keys → Work Deployment} {G : Keys → List Event → Prop}
    (hkeys : Calling w c d.region keys)
    (hbody : ∀ k t call, Beside s [.called call] t → t.workspaces.files? d.id = some [] →
      Starts step t ((body k).run t).2 (G k)) :
    Starts step s ((within w d op keys body).run s).2 fun es => ∃ call k fs,
      es = .called call :: fs ∧ KeysFor w s c d.region call k ∧
        s.workspaces.files? d.id = none ∧ G k fs := by
  obtain ⟨⟨es, hes, hcalls⟩, hok⟩ := hkeys s
  rw [run_within]
  generalize keys.run s = o at hes hok
  obtain ⟨f | k, t⟩ := o
  · -- There are no keys.
    exact ⟨es, hes, .inl (hcalls.lacks step)⟩
  obtain ⟨call, hissued, hbeside, hws⟩ := hok k rfl
  have hlacks : Lacks step [.called call] :=
    Calls.lacks (fun _ he => ⟨call, List.mem_singleton.1 he⟩) step
  have hws : t.workspaces = s.workspaces := hws
  dsimp only
  obtain ⟨message, -, hcreate⟩ | ⟨hcreate, hnone⟩ := create_cases t.workspaces d.id
  · -- A workspace of that name is there already.
    have hevents : t.events = s.events ++ [.called call] := Leaves.events hbeside
    rw [hcreate]
    exact ⟨_, hevents, .inl hlacks⟩
  · rw [hcreate]
    dsimp only
    have hnew : Beside s [.called call]
        { t with workspaces := Entries.set d.id [] t.workspaces } := by
      obtain ⟨_, _, _, _, rfl⟩ := hbeside
      exact ⟨_, _, _, _, rfl⟩
    refine Starts.after (Leaves.events hnew) hlacks
      (hbody k _ call hnew (files?_set _ _)) fun fs hfs => ?_
    exact ⟨call, k, fs, rfl, hissued, hws ▸ hnone, hfs⟩

end Groundplan.Deploy
