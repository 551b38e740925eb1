import Groundplan.Deploy.Lifecycle

/-!
# The output that is kept of a run

The tool puts out its bytes in pieces, and where they are cut is a matter of chance. What is kept is
the start of all of them together, and what is told to be missing is missing from them together. So
the pieces make no difference to a run, and none to the operations that run the tool.

## Main definitions

* `ToolReply.Recut`: the same answer of the tool in other pieces
* `OutputKept`: what is to be known of the output that is kept

## Main results

* `ofReply_recut`: the result of a run
* `runStep_recut`, `plan_recut`, `apply_recut`, `destroy_recut`: the operations
* `output_kept`: **what is kept of an output**, for any limits and pieces
-/

namespace Groundplan.Deploy

open Text

/-! ## Pieces -/

/-- **The same answer of the tool** with its output cut at other places. -/
inductive ToolReply.Recut : ToolReply → ToolReply → Prop
  | notStarted (reason : String) : Recut (.notStarted reason) (.notStarted reason)
  | ran {pieces pieces' : List (List UInt8)} (h : pieces'.flatten = pieces.flatten)
      (state : Option String) (ending : Ending) :
      Recut (.ran state pieces ending) (.ran state pieces' ending)

section Replies

variable {pieces pieces' : List (List UInt8)} {r r' : ToolReply}

theorem capture_recut (h : pieces'.flatten = pieces.flatten) (limit : Nat) :
    capture limit pieces' = capture limit pieces := by
  rw [capture_eq, capture_eq, h]

theorem ofReply_recut (h : r.Recut r') (limits : RunLimits) (command : String) (good : List Int) :
    RunResult.ofReply limits command good r' = RunResult.ofReply limits command good r := by
  cases h with
  | notStarted reason => rfl
  | ran h state ending => rw [RunResult.ofReply, RunResult.ofReply, capture_recut h]

theorem state?_recut (h : r.Recut r') : r'.state? = r.state? := by
  cases h <;> rfl

theorem versionOf_recut (h : r.Recut r') : versionOf r' = versionOf r := by
  cases h with
  | notStarted reason => rfl
  | ran h state ending =>
    match ending with
    | .exited 0 => simp only [versionOf, h]
    | .exited (.ofNat (_ + 1)) => rfl
    | .exited (.negSucc _) => rfl
    | .timedOut _ => rfl

end Replies

/-! ## Operations -/

section Operations

variable {w : World} {tool : List String → ToolReply}

theorem runStep_recut (h : ∀ args, (w.tool args).Recut (tool args)) (id : String) (step : Step) :
    runStep { w with tool := tool } id step = runStep w id step := by
  simp only [runStep, state?_recut (h _), ofReply_recut (h _)]
  rfl

theorem toolStatus_recut (h : ∀ args, (w.tool args).Recut (tool args)) :
    toolStatus { w with tool := tool } = toolStatus w := by
  rw [toolStatus, versionOf_recut (h _), toolStatus]

theorem runPlan_recut (h : ∀ args, (w.tool args).Recut (tool args)) (id : String) :
    runPlan { w with tool := tool } id = runPlan w id := by
  rw [runPlan, runStep_recut h, runPlan]

theorem prepare_recut (h : ∀ args, (w.tool args).Recut (tool args)) (id : String) :
    prepare { w with tool := tool } id = prepare w id := by
  rw [prepare, runStep_recut h, prepare]

theorem plan_recut (h : ∀ args, (w.tool args).Recut (tool args))
    (user template credential region : String) :
    plan { w with tool := tool } user template credential region =
      plan w user template credential region := by
  have hwork : planWithin { w with tool := tool } = planWithin w := by
    funext t d k
    simp only [planWithin, prepare_recut h, runPlan_recut h]
    rfl
  simp only [plan, planInSlot, hwork]
  rfl

theorem apply_recut (h : ∀ args, (w.tool args).Recut (tool args)) (user id : String) :
    apply { w with tool := tool } user id = apply w user id := by
  have hreplan : replan { w with tool := tool } = replan w := by
    funext t d k
    simp only [replan, prepare_recut h, runPlan_recut h, runApply, runStep_recut h]
  have hwork : applyWithin { w with tool := tool } = applyWithin w := by
    funext t d k
    simp only [applyWithin, hreplan]
    rfl
  simp only [apply, applyInSlot, hwork]
  rfl

theorem destroy_recut (h : ∀ args, (w.tool args).Recut (tool args)) (user id : String) :
    destroy { w with tool := tool } user id = destroy w user id := by
  have hwork : destroyWithin { w with tool := tool } = destroyWithin w := by
    funext t d k
    simp only [destroyWithin, prepare_recut h, runDestroy, runStep_recut h]
  simp only [destroy, destroyInSlot, hwork]
  rfl

end Operations

/-! ## What is kept -/

/-- **What is to be known of an output** that comes in pieces, and of what is kept of it. -/
structure OutputKept (limits : RunLimits) (pieces : List (List UInt8)) : Prop where
  /-- The first bytes are kept, as many as there may be, -/
  kept : (capture limits.bytes.toNat pieces).kept = pieces.flatten.take limits.bytes.toNat
  /-- and some are dropped exactly if there are more. -/
  dropped : (capture limits.bytes.toNat pieces).dropped = true ↔
    limits.bytes.toNat < pieces.flatten.length
  /-- A command that ends by itself tells just that with its code, -/
  result : limits.isOver = false → ∀ command good state code, ∃ r,
    RunResult.ofReply limits command good (.ran state pieces (.exited code)) = .ok r ∧
      r.code = some code ∧ r.timedOut = false ∧
      r.output = utf8Replace (pieces.flatten.take limits.bytes.toNat) ∧
      (r.truncated = true ↔ limits.bytes.toNat < pieces.flatten.length)
  /-- and the same output in other pieces gives the same result. -/
  recut : ∀ pieces' : List (List UInt8), pieces'.flatten = pieces.flatten →
    ∀ command good state ending, RunResult.ofReply limits command good (.ran state pieces' ending) =
      RunResult.ofReply limits command good (.ran state pieces ending)

/-- **What is kept of an output**, wherever it is cut. -/
theorem output_kept (limits : RunLimits) (pieces : List (List UInt8)) :
    OutputKept limits pieces := by
  have hcapture := capture_eq limits.bytes.toNat pieces
  constructor
  · rw [hcapture]
  · rw [hcapture]
    exact decide_eq_true_iff
  · intro hover command good state code
    rw [RunResult.ofReply, hover, hcapture]
    exact ⟨_, rfl, rfl, rfl, rfl, decide_eq_true_iff⟩
  · intro pieces' h command good state ending
    exact ofReply_recut (.ran h state ending) limits command good

/-- A piece that ends at the limit drops nothing. -/
example : capture 4 [[1, 2], [3, 4]] = ⟨[1, 2, 3, 4], false⟩ := by decide

example : capture 4 [[1, 2, 3], [4, 5]] = ⟨[1, 2, 3, 4], true⟩ := by decide

end Groundplan.Deploy
