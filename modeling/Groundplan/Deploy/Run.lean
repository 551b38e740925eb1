import Groundplan.Installation

/-!
# Running the tool in a workspace

The atomic operations of a deployment on its workspace: making it, writing its files, each run of
the tool, and removing it.

## Main definitions

* `makeWorkspace`, `writeFiles`, `removeWorkspace`
* `runStep`: one run of the tool
* `runPlan`, `runApply`, `runDestroy`: the runs that give more than their result
* `toolStatus`: whether the tool is there
-/

namespace Groundplan.Deploy

open Text

/-! ## Workspaces -/

/-- An action on the workspaces. -/
def onWorkspaces {α : Type} (f : Workspaces → Answer α × Workspaces) : Action α :=
  Action.draw fun s =>
    let (a, ws) := f s.workspaces
    (a, { s with workspaces := ws })

/-- **Makes the workspace** of an operation, which must not be there yet. -/
def makeWorkspace (id : String) : Action Unit :=
  onWorkspaces fun ws => ws.create id

/-- Writes a file into a workspace. -/
def writeFile (id file content : String) : Action Unit :=
  onWorkspaces fun ws => ws.write id file content

/-- **Writes the files of a deployment**: the configuration, and the keys beside it. -/
def writeFiles (id content : String) (k : Keys) (region : String) : Action Unit := do
  writeFile id mainFile content
  let s ← get
  let text ← Action.ofAnswer (override s.settings.appName k region)
  writeFile id overrideFile text

/-- **Removes a workspace**, if it is there. -/
def removeWorkspace (id : String) (s : Installation) : Installation :=
  { s with workspaces := s.workspaces.remove id }

/-! ## Runs -/

/-- The limits of runs. -/
def limits (s : Settings) : RunLimits := ⟨s.toolSeconds, s.toolBytes⟩

/-- The run of a step as it is begun. -/
def Step.toRun (step : Step) (w : World) (id : String) (ws : Workspaces) : ToolRun :=
  ⟨step.args, some id, (ws.files? id).getD [], runEnvironment w.environment⟩

/-- Puts the state that a run wrote into its workspace. -/
def leaveState (id : String) (state : Option String) (ws : Workspaces) : Workspaces :=
  match state with
  | none => ws
  | some text => (ws.write id stateFile text).2

/-- **One run of the tool** in a workspace. -/
def runStep (w : World) (id : String) (step : Step) : Action RunResult := do
  let s ← get
  -- The run is noted as it is begun, with the files that it finds.
  Action.note (.ran (step.toRun w id s.workspaces))
  let reply := w.tool step.args
  modify fun s => { s with workspaces := leaveState id reply.state? s.workspaces }
  Action.ofAnswer (RunResult.ofReply (limits s.settings) step.word step.goodCodes reply)

/-- A plan: the result of the run and the counts in its output. -/
def runPlan (w : World) (id : String) : Action (RunResult × PlanSummary) := do
  let r ← runStep w id .plan
  let summary ← Action.ofAnswer (planSummary r.output)
  return (r, summary)

/-- The state in a workspace, line breaks of every kind being line feeds. -/
def stateIn (ws : Workspaces) (id : String) : Option String :=
  (ws.file? id stateFile).map fun s => String.ofList (unifyBreaks s.toList)

/-- An application of the plan: the result of the run, and the state that it left, however it
ended. -/
def runApply (w : World) (id : String) : Action (RunResult × Option String) := do
  let r ← runStep w id .apply
  let s ← get
  return (r, stateIn s.workspaces id)

/-- A destruction, after the given state has been written into the workspace. -/
def runDestroy (w : World) (id : String) (state : Option String) : Action RunResult := do
  match state with
  | some text => if text != "" then writeFile id stateFile text
  | none => pure ()
  runStep w id .destroy

/-- **Whether the tool is there**, and its version. -/
def toolStatus (w : World) : Action Data := do
  Action.note (.ran ⟨versionArgs, none, [], w.environment⟩)
  let (available, version) ← Action.ofAnswer (versionOf (w.tool versionArgs))
  return .map [("available", .bool available), ("version", version)]

end Groundplan.Deploy
