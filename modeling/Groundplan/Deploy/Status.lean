import Groundplan.Failure
import Groundplan.Text.Shown

/-!
# Deployment status

A deployment is planned, applied and destroyed, in this order only; what was destroyed stays so.

## Main definitions

* `Status`: the states of a deployment
* `Status.canBecome`: the changes that there are
* `Status.inProgress`: work is under way or pending
-/

namespace Groundplan.Deploy

/-- The states of a deployment. -/
inductive Status where
  | planning
  | planReady
  | applying
  | succeeded
  | failed
  | destroying
  | destroyed
deriving DecidableEq, Repr, Inhabited

namespace Status

/-- The states in the order of a deployment's life. -/
def all : List Status :=
  [.planning, .planReady, .applying, .succeeded, .failed, .destroying, .destroyed]

/-- The word for a state. -/
def word : Status → String
  | .planning => "PLANNING"
  | .planReady => "PLAN_READY"
  | .applying => "APPLYING"
  | .succeeded => "SUCCEEDED"
  | .failed => "FAILED"
  | .destroying => "DESTROYING"
  | .destroyed => "DESTROYED"

/-- The state that a value stands for: a word for one. -/
def ofData (d : Data) : Answer Status :=
  match all.find? fun x => d == .text x.word with
  | some x => .ok x
  | none => .error (.badValue (d.shown ++ " is not a valid DeploymentStatus"))

/-- **The changes that there are.** -/
def canBecome : Status → Status → Bool
  | .planning, .planReady => true
  | .planning, .failed => true
  | .planReady, .applying => true
  | .applying, .succeeded => true
  | .applying, .failed => true
  | .succeeded, .destroying => true
  | .failed, .destroying => true
  | .destroying, .destroyed => true
  | .destroying, .failed => true
  | _, _ => false

/-- What a state can become. -/
def successors (s : Status) : List Status :=
  all.filter s.canBecome

/-- Whether work is under way or pending. -/
def inProgress : Status → Bool
  | .planning => true
  | .planReady => true
  | .applying => true
  | .destroying => true
  | _ => false

/-- A destroyed deployment stays so. -/
theorem not_canBecome_of_destroyed (s : Status) : Status.destroyed.canBecome s = false := by
  cases s <;> rfl

end Status

end Groundplan.Deploy
