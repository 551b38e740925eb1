import Groundplan.Deploy.PlanOutput
import Groundplan.Deploy.Workspace
import Groundplan.Json.Answer

/-!
# Runs of the provisioning tool

A run is one process with its arguments. Only the first bytes of its output are kept, and it is
stopped when its time is over.

## Main definitions

* `ToolReply`: how the tool answers to being run
* `Capture.take`, `capture`: the output that is kept, however it is cut into pieces
* `RunResult`, `RunResult.ofReply`: what a run comes to
* `Step`, `Step.args`: the steps of a deployment and their arguments
* `versionOf`: what the tool says of itself

## Main results

* `capture_eq`: the kept output does not depend on the pieces
-/

namespace Groundplan.Deploy

open Text

/-! ## Processes -/

/-- How a process of the tool ends. -/
inductive Ending where
  /-- By itself. -/
  | exited (code : Int)
  /-- Its time was over; the code it left with, if it did. -/
  | timedOut (code : Option Int)
deriving DecidableEq, Repr, Inhabited

/-- How the tool answers to being run. -/
inductive ToolReply where
  /-- It could not be started. -/
  | notStarted (reason : String)
  /-- It wrote a state or not, put out some bytes and ended. -/
  | ran (state : Option String) (output : List (List UInt8)) (ending : Ending)
deriving Repr, Inhabited

/-! ## Output -/

/-- The output that is kept of a run, and whether some was dropped. -/
structure Capture where
  kept : List UInt8
  dropped : Bool
deriving DecidableEq, Repr, Inhabited

/-- Keeps of a further piece what there is still room for. -/
def Capture.take (limit : Nat) (c : Capture) (piece : List UInt8) : Capture :=
  let room := limit - c.kept.length
  ⟨c.kept ++ piece.take room, c.dropped || decide (room < piece.length)⟩

/-- **The output that is kept** of pieces. -/
def capture (limit : Nat) (pieces : List (List UInt8)) : Capture :=
  pieces.foldl (Capture.take limit) ⟨[], false⟩

theorem foldl_take_eq (limit : Nat) (bs : List UInt8) (pieces : List (List UInt8)) :
    pieces.foldl (Capture.take limit) ⟨bs.take limit, decide (limit < bs.length)⟩ =
      ⟨(bs ++ pieces.flatten).take limit, decide (limit < (bs ++ pieces.flatten).length)⟩ := by
  induction pieces generalizing bs with
  | nil => simp
  | cons p ps ih =>
    have step : Capture.take limit ⟨bs.take limit, decide (limit < bs.length)⟩ p =
        ⟨(bs ++ p).take limit, decide (limit < (bs ++ p).length)⟩ := by
      simp only [Capture.take, List.length_take, List.take_append, Capture.mk.injEq]
      refine ⟨?_, ?_⟩
      · rcases Nat.le_total bs.length limit with h | h
        · simp [Nat.min_eq_right h]
        · simp [Nat.min_eq_left h, Nat.sub_eq_zero_of_le h]
      · rcases Nat.lt_or_ge limit bs.length with h | h
        · simp [h, Nat.lt_of_lt_of_le h (Nat.le_add_right _ _)]
        · simp [Nat.min_eq_right h, Nat.not_lt.mpr h]
          omega
    rw [List.foldl_cons, step, ih, List.flatten_cons, List.append_assoc]

/-- The kept output does not depend on the pieces: it is the start of the whole, and something is
dropped exactly when the whole is longer. -/
theorem capture_eq (limit : Nat) (pieces : List (List UInt8)) :
    capture limit pieces =
      ⟨pieces.flatten.take limit, decide (limit < pieces.flatten.length)⟩ := by
  simpa [capture] using foldl_take_eq limit [] pieces

/-! ## Results -/

/-- What a run comes to. -/
structure RunResult where
  success : Bool
  output : String
  code : Option Int
  error : Option String
  timedOut : Bool
  truncated : Bool
deriving Repr, Inhabited

/-- The view of a result. -/
def RunResult.toEntries (r : RunResult) : Entries Data :=
  [("success", .bool r.success), ("output", .text r.output),
    ("returncode", (r.code.map Data.int).getD .null), ("error", .ofText? r.error),
    ("timed_out", .bool r.timedOut), ("truncated", .bool r.truncated)]

/-- The limits of a run: the seconds it may take and the bytes of output that are kept. -/
structure RunLimits where
  seconds : Data.Numeric
  bytes : Int
deriving Repr, Inhabited

/-- Whether there are no seconds to take. -/
def RunLimits.isOver (limits : RunLimits) : Bool :=
  match limits.seconds.compare? (.int 0) with
  | some .gt => false
  | some _ => true
  | none => false

/-- The code of a process that was stopped. -/
def stoppedCode : Int := -9

/-- The code that a process leaves with when its time is over from the start. -/
def Ending.stopped : Ending → Option Int
  | .exited _ => some stoppedCode
  | .timedOut code => code

/-- The result of a run that took too long, with the output so far. -/
def RunResult.late (limits : RunLimits) (command output : String) (code : Option Int) : RunResult :=
  ⟨false, output, code,
    some ("terraform " ++ command ++ " timed out after " ++ limits.seconds.toData.plain ++ "s"),
    true, false⟩

/-- The result of a run that ended by itself. -/
def RunResult.ended (command : String) (good : List Int) (output : String) (code : Int)
    (truncated : Bool) : RunResult :=
  let success := good.contains code
  ⟨success, output, some code,
    if success then none
    else some ("terraform " ++ command ++ " exited with code " ++ decimalText code),
    false, truncated⟩

/-- **What a run comes to**, given the codes that mean success. With no seconds to take it is
stopped before anything of its output is read. -/
def RunResult.ofReply (limits : RunLimits) (command : String) (good : List Int) :
    ToolReply → Answer RunResult
  | .notStarted reason => .error (.sandbox ("Could not start terraform: " ++ reason))
  | .ran _ pieces ending =>
    if limits.isOver then .ok (.late limits command "" ending.stopped)
    else
      -- The output is cut as bytes and read as text then, so a character may be cut in two.
      let c := capture limits.bytes.toNat pieces
      let output := utf8Replace c.kept
      match ending with
      | .timedOut code => .ok (.late limits command output code)
      | .exited code => .ok (.ended command good output code c.dropped)

/-- The state that a run wrote. -/
def ToolReply.state? : ToolReply → Option String
  | .ran state _ _ => state
  | .notStarted _ => none

/-! ## Steps -/

/-- The steps of a deployment that run the tool. -/
inductive Step where
  | init
  | plan
  | apply
  | destroy
deriving DecidableEq, Repr, Inhabited

namespace Step

/-- The subcommand of a step. -/
def word : Step → String
  | .init => "init"
  | .plan => "plan"
  | .apply => "apply"
  | .destroy => "destroy"

/-- The file that a plan is kept in until it is applied. -/
def planFile : String := "tfplan"

/-- The arguments of a step. A plan tells by its code whether there are changes. -/
def args : Step → List String
  | .init => ["init", "-input=false", "-no-color"]
  | .plan => ["plan", "-input=false", "-no-color", "-detailed-exitcode", "-out=" ++ planFile]
  | .apply => ["apply", "-input=false", "-no-color", "-auto-approve", planFile]
  | .destroy => ["destroy", "-input=false", "-no-color", "-auto-approve"]

/-- The codes that mean success; a plan also ends well with changes. -/
def goodCodes : Step → List Int
  | .plan => [0, 2]
  | _ => [0]

end Step

/-! ## The environment of a run -/

/-- The variables of the host that a run does not see. -/
def hiddenVariables : List String :=
  ["AWS_ACCESS_KEY_ID", "AWS_SECRET_ACCESS_KEY", "AWS_SESSION_TOKEN", "AWS_PROFILE",
    "STATE_ENCRYPTION_KEY", "MISTRAL_API_KEY"]

/-- The variables that a run always has. -/
def forcedVariables : Entries String :=
  [("TF_IN_AUTOMATION", "1"), ("TF_INPUT", "0"), ("NO_COLOR", "1"), ("CHECKPOINT_DISABLE", "1")]

/-- The environment of a run on a host. -/
def runEnvironment (host : Entries String) : Entries String :=
  Entries.merge (host.filter fun v => !hiddenVariables.contains v.1) forcedVariables

/-- A run as it was begun: arguments, workspace, the files there, and the environment. -/
structure ToolRun where
  args : List String
  workspace : Option String
  files : Files
  environment : Entries String
deriving Repr, Inhabited

/-- The record of a run: its arguments, the files that it reads, line breaks of every kind being
line feeds, and of its environment what is set for it and what should not have come through. -/
def ToolRun.toData (r : ToolRun) : Data :=
  let file (name : String) : Data :=
    .ofText? ((Entries.get? name r.files).map fun s => String.ofList (unifyBreaks s.toList))
  let forced := r.environment.filter fun v => Entries.has v.1 forcedVariables
  let leaked := (r.environment.map (·.1)).filter hiddenVariables.contains
  .map [("args", .ofTexts r.args), ("main", file mainFile), ("override", file overrideFile),
    ("state", file stateFile),
    ("env", if r.workspace.isNone then .null
      else .map (forced.map (fun v => (v.1, .text v.2)) ++ [("leaked", .ofTexts leaked)]))]

/-- The record of a run in short: its arguments, and whether it finds a state. -/
def ToolRun.brief (r : ToolRun) : Data :=
  .map [("args", .ofTexts r.args), ("has_state", .bool (Entries.has stateFile r.files))]

/-! ## The version -/

/-- The arguments that ask for the version. -/
def versionArgs : List String := ["version", "-json"]

/-- The first line of a text, blanks around the text not counting. -/
def firstLine (s : String) : Data :=
  match plainLines (trim s.toList) with
  | [] => .null
  | l :: _ => .text (String.ofList l)

/-- The version that the output of a run gives: an entry of a JSON map, or the first line. -/
def versionText (output : String) : Answer Data :=
  match Json.read output with
  | .ok d => d.getFieldD "terraform_version" .null
  | .error .tooDeep => .error (.mismatch .depth)
  | .error _ => .ok (firstLine output)

/-- **Whether the tool runs, and its version.** -/
def versionOf (reply : ToolReply) : Answer (Bool × Data) :=
  match reply with
  | .ran _ pieces (.exited 0) => (versionText (utf8Replace pieces.flatten)).map fun v => (true, v)
  | _ => .ok (false, .null)

end Groundplan.Deploy
