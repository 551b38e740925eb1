import Groundplan.Data

/-!
# Circuit breakers

A breaker stops calls to an outside service for a while after repeated failures. It is closed in
normal operation; it opens when failures reach a threshold; after a period it lets a few trial calls
through, half open, and the outcome of a trial closes or reopens it.

## Main definitions

* `Breaker`: settings and state; `Breaker.State`: closed, open, half open
* `Breaker.allow`: asks to make a call, at an instant
* `Breaker.succeed`, `Breaker.fail`, `Breaker.reset`: outcomes
* `Breakers`: the breakers of all services by name
-/

namespace Groundplan

/-- The states of a breaker. -/
inductive Breaker.State where
  | closed
  | opened
  | halfOpen
deriving DecidableEq, Repr, Inhabited

/-- The word for a state. -/
def Breaker.State.word : Breaker.State → String
  | .closed => "closed"
  | .opened => "open"
  | .halfOpen => "half_open"

/-- A breaker: its settings, its state, the failures since the last success or reset, the trial
calls let through, and when it opened. -/
structure Breaker where
  threshold : Int := 3
  /-- Seconds to stay open. -/
  openSeconds : Binary64 := 60
  maxTrials : Int := 1
  state : Breaker.State := .closed
  failures : Nat := 0
  trials : Nat := 0
  openedAt : Option Instant := none
deriving Repr, Inhabited

namespace Breaker

/-- A number of microseconds in seconds. -/
def secondsOf (micros : Int) : Binary64 :=
  if micros < 0 then -(Binary64.ofRatio false micros.natAbs 1000000)
  else Binary64.ofRatio false micros.natAbs 1000000

/-- Whether an open breaker has been open for less than its period. -/
def stillOpen (b : Breaker) (now : Instant) : Bool :=
  match b.openedAt with
  | some t => (secondsOf (now - t)).lt b.openSeconds
  | none => (0 : Binary64).lt b.openSeconds

/-- Lets a trial call through if there is one left. -/
def tryTrial (b : Breaker) : Bool × Breaker :=
  if (b.trials : Int) < b.maxTrials then (true, { b with trials := b.trials + 1 }) else (false, b)

/-- Asks to make a call. -/
def allow (b : Breaker) (now : Instant) : Bool × Breaker :=
  match b.state with
  | .closed => (true, b)
  | .opened =>
    if b.stillOpen now then (false, b)
    -- Its period is over, so this call is a trial.
    else tryTrial { b with state := .halfOpen, trials := 0 }
  | .halfOpen => tryTrial b

/-- A call has succeeded: failures are forgotten, and a half-open breaker closes. -/
def succeed (b : Breaker) : Breaker :=
  match b.state with
  | .halfOpen => { b with state := .closed, failures := 0, trials := 0, openedAt := none }
  | _ => { b with failures := 0 }

/-- A call has failed: a half-open breaker reopens, and a closed one opens at the threshold. -/
def fail (b : Breaker) (now : Instant) : Breaker :=
  let b := { b with failures := b.failures + 1 }
  match b.state with
  | .halfOpen => { b with state := .opened, trials := 0, openedAt := some now }
  | .closed =>
    if b.threshold ≤ b.failures then { b with state := .opened, openedAt := some now } else b
  | .opened => b

/-- Forces a breaker closed. -/
def reset (b : Breaker) : Breaker :=
  { b with state := .closed, failures := 0, trials := 0, openedAt := none }

/-- What an operator sees of a breaker: its state and the failures counted. -/
def view (b : Breaker) : Entries Data :=
  [("breaker", .text b.state.word), ("failures", .ofNat b.failures)]

end Breaker

/-- The breakers of all services by name; one is made on first use. -/
abbrev Breakers := Entries Breaker

/-- The breaker of a service. -/
def Breakers.named (bs : Breakers) (name : String) : Breaker :=
  (Entries.get? name bs).getD {}

/-- Closes every breaker. -/
def Breakers.resetAll (bs : Breakers) : Breakers :=
  bs.map fun b => (b.1, b.2.reset)

end Groundplan
