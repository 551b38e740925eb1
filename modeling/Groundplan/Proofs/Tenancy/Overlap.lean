import Groundplan.Proofs.Tenancy.Isolation

/-!
# Requests that overlap

A request looks its deployment up, and goes on with what it found: the slot, the charge and the
first write come in steps of their own. Whatever others write in between is not looked at again. So
a request that comes late is charged and writes its status over the one that is stored, and this is
a change that there is only if the stored status still allows it.

## Main definitions

* `Routine.ticks`, `Scene.turns`: several steps of a routine, and of tasks
* `Finds`: what a request goes on with once it has looked its deployment up
* `contest`: two applications of one deployment, and the order in which they take their steps

## Main results

* `late_application`, `late_destruction`: **what a request does that comes late**
* `overlapping_applications`: two applications that overlap are both charged and both run the tool,
  and the second begins after the first has succeeded
-/

namespace Groundplan.Routine

/-- Takes so many steps of a routine. -/
def ticks {σ ε α : Type} : Nat → Routine σ ε α → σ → Routine σ ε α × σ
  | 0, p, s => (p, s)
  | n + 1, p, s => (p.tick s).1.ticks n (p.tick s).2

end Groundplan.Routine

namespace Groundplan.Deploy

variable {w : World} {s t : Installation} {user id : String} {d : Deployment} {c : Credential}
  {x : Template}

/-- Writing a record with work under way keeps to the changes of status exactly if the status that
is stored is the same or can become it. -/
theorem statusStep_set_iff (ht : t.deployments = Entries.set d.id d s.deployments)
    (hnew : d.status ≠ .planning) (hlast : d.status ≠ .destroyed) :
    StatusStep s t ↔ ∃ old, Entries.get? d.id s.deployments = some old ∧
      (d.status = old.status ∨ old.status.canBecome d.status) := by
  have hself : Entries.get? d.id t.deployments = some d := by rw [ht, Entries.get?_set_self]
  constructor
  · intro h
    cases hold : Entries.get? d.id s.deployments with
    | none => exact absurd (h.created _ _ hold hself) hnew
    | some old =>
      obtain ⟨e, he, hstatus, -⟩ := h.kept _ _ hold
      obtain rfl : d = e := Option.some.inj (hself.symm.trans he)
      exact ⟨old, rfl, hstatus⟩
  · rintro ⟨old, hold, hstatus⟩
    constructor
    · intro id' e hs he
      have hid : id' ≠ d.id := by
        rintro rfl
        rw [hold] at hs
        cases hs
      rw [ht, Entries.get?_set_of_ne hid, hs] at he
      cases he
    · intro id' e hs
      by_cases hid : id' = d.id
      · subst hid
        obtain rfl : old = e := Option.some.inj (hold.symm.trans hs)
        refine ⟨d, hself, hstatus, fun hdestroyed => ?_⟩
        -- What is destroyed cannot become anything else.
        rw [hdestroyed, Status.not_canBecome_of_destroyed] at hstatus
        exact absurd (hstatus.resolve_right Bool.false_ne_true) hlast
      · exact ⟨e, by rw [ht, Entries.get?_set_of_ne hid, hs], .inl rfl, fun _ => rfl⟩

/-- A stored status stays, or becomes what it can. -/
theorem StatusStep.status (h : StatusStep s t) {before after : Status}
    (hs : (Entries.get? id s.deployments).map (·.status) = some before)
    (ht : (Entries.get? id t.deployments).map (·.status) = some after) :
    after = before ∨ before.canBecome after := by
  obtain ⟨old, hold, rfl⟩ := Option.map_eq_some_iff.1 hs
  obtain ⟨e, he, hstatus, -⟩ := h.kept id old hold
  rw [he] at ht
  obtain rfl := Option.some.inj ht
  exact hstatus

end Groundplan.Deploy

namespace Groundplan.Tenancy

open Deploy

variable {w : World} {s t : Installation} {user id : String} {d : Deployment} {c : Credential}
  {x : Template}

/-! ## Looking up and going on -/

/-- What a request finds when it looks its deployment up for a change of status. -/
structure Finds (s : Installation) (user id : String) (target : Status) (d : Deployment)
    (c : Credential) (x : Template) : Prop where
  deployment : ownDeployment s user id = .ok d
  status : d.status.canBecome target = true
  credential : ownCredential s user d.credential = .ok c
  template : ownTemplate s user d.template = .ok x

/-- A step that succeeds, and what comes behind it. -/
theorem ticks_step {α β : Type} {a : Action α} {k : α → Work β} {y : α} (n : Nat)
    (h : a s = (.ok y, t)) : (a.asStep >>= k).ticks (n + 1) s = (k y).ticks n t := by
  show ((Routine.done (a s).1).bind k).ticks n (a s).2 = _
  rw [h]
  rfl

/-- After three steps a request has looked everything up, and has changed nothing. -/
theorem ticks_enterDeployment {α : Type} {target : Status} {verb : String}
    {k : Deployment × Credential × Template → Work α} (h : Finds s user id target d c x) :
    (enterDeployment user id target verb >>= k).ticks 3 s = (k (d, c, x), s) := by
  have hdeployment : deploymentOf user id s = (.ok d, s) := congrArg (·, s) h.deployment
  have hcredential : credentialOf user d.credential s = (.ok c, s) := congrArg (·, s) h.credential
  have htemplate : templateOf user d.template s = (.ok x, s) := congrArg (·, s) h.template
  rw [enterDeployment, Routine.bind_bind, ticks_step 2 hdeployment, h.status, Bool.not_true,
    if_neg Bool.false_ne_true, Routine.bind_bind, ticks_step 1 hcredential, Routine.bind_bind,
    ticks_step 0 htemplate]
  rfl

theorem ticks_ensuring_step {α β : Type} {a : Action α} {k : α → Work β} {y : α}
    {last : Installation → Installation} (n : Nat) (h : a s = (.ok y, t)) :
    ((a.asStep >>= k).ensuring last).ticks (n + 1) s = ((k y).ensuring last).ticks n t := by
  show (((Routine.done (a s).1).bind k).ensuring last).ticks n (a s).2 = _
  rw [h]
  rfl

/-- A slot is taken, and the work begins. -/
theorem ticks_inSlot (body : Work Deployment) (n : Nat)
    (h : (s.slots.active user : Int) < s.slots.limit) :
    ∃ slots, (inSlot user body).ticks (n + 1) s =
      (body.ensuring (releaseSlot user)).ticks n { s with slots := slots } := by
  have hacquire : acquireSlot user s = (.ok (), { s with slots := { s.slots with
      held := Entries.set user (s.slots.active user + 1) s.slots.held } }) := by
    rw [acquireSlot, Action.draw, Slots.acquire, if_neg (by omega)]
  exact ⟨_, ticks_step n hacquire⟩

/-! ## Coming late -/

/-- **An application that comes late.** Whatever happened since it looked its deployment up, an
application that has a slot and can pay is charged and writes its record over the one that is
stored. That keeps to the changes of status exactly if the deployment is still planned, or is being
applied already. -/
theorem late_application (hfinds : Finds s user id .applying d c x)
    (hslot : (t.slots.active user : Int) < t.slots.limit)
    (hpay : Metered.apply.cost ≤ t.credits.balance user) :
    ∃ late, (((apply w user id).ticks 3 s).1.ticks 3 t).2 = late ∧
      late.credits.balance user = t.credits.balance user - Metered.apply.cost ∧
      late.deployments = Entries.set d.id { d with status := .applying } t.deployments ∧
      (StatusStep t late ↔ ∃ old, Entries.get? d.id t.deployments = some old ∧
        (old.status = .planReady ∨ old.status = .applying)) := by
  obtain ⟨slots, hslots⟩ := ticks_inSlot (applyInSlot w user x c d) 2 hslot
  -- The charge goes through, as the balance covers it.
  obtain ⟨hpoor, -⟩ | ⟨-, n, credits, hcharge, hbalance⟩ :=
    charge_cases user .apply { t with slots := slots }
  · exact absurd hpoor (Int.not_lt.2 hpay)
  have hlate : (((apply w user id).ticks 3 s).1.ticks 3 t).2 =
      putDeployment { d with status := .applying }
        { t with slots := slots, credits := credits } := by
    rw [apply, ticks_enterDeployment hfinds]
    dsimp only
    rw [hslots, applyInSlot, ticks_ensuring_step 1 hcharge]
    rfl
  refine ⟨_, hlate, hbalance, rfl, ?_⟩
  have hstatus (old : Deployment) : Status.applying = old.status ∨
      old.status.canBecome .applying ↔ old.status = .planReady ∨ old.status = .applying := by
    cases old.status <;> decide
  rw [statusStep_set_iff rfl (by simp) (by simp)]
  exact exists_congr fun old => and_congr_right fun _ => hstatus old

/-- **A destruction that comes late** writes its record over the one that is stored as well. -/
theorem late_destruction (hfinds : Finds s user id .destroying d c x)
    (hslot : (t.slots.active user : Int) < t.slots.limit) :
    ∃ late, (((destroy w user id).ticks 3 s).1.ticks 2 t).2 = late ∧
      late.deployments = Entries.set d.id { d with status := .destroying } t.deployments ∧
      (StatusStep t late ↔ ∃ old, Entries.get? d.id t.deployments = some old ∧
        (old.status = .succeeded ∨ old.status = .failed ∨ old.status = .destroying)) := by
  obtain ⟨slots, hslots⟩ := ticks_inSlot (destroyInSlot w x c d) 1 hslot
  have hlate : (((destroy w user id).ticks 3 s).1.ticks 2 t).2 =
      putDeployment { d with status := .destroying } { t with slots := slots } := by
    rw [destroy, ticks_enterDeployment hfinds]
    dsimp only
    rw [hslots]
    rfl
  refine ⟨_, hlate, rfl, ?_⟩
  have hstatus (old : Deployment) : Status.destroying = old.status ∨
      old.status.canBecome .destroying ↔
        old.status = .succeeded ∨ old.status = .failed ∨ old.status = .destroying := by
    cases old.status <;> decide
  rw [statusStep_set_iff rfl (by simp) (by simp)]
  exact exists_congr fun old => and_congr_right fun _ => hstatus old

/-! ## Two applications -/

namespace Scene

/-- Tasks take steps, one after another. -/
def turns (c : Scene) (is : List Nat) : Scene :=
  is.foldl turn c

end Scene

/-- The runs of the tool that apply something. -/
def applications (s : Installation) : List ToolRun :=
  s.runs.filter (·.args = Step.apply.args)

/-- Two applications of one deployment are begun. -/
def contest : Scene :=
  let application (recordId : String) : Task :=
    ⟨Deploy.sampleWorld recordId, "u", .manage (.apply "d")⟩
  { state := sampleInstallation
    begun := [application "e", application "f"].map fun t => (t, t.work) }

/-- The second application has looked the deployment up, the first was done then, and the second has
taken its slot and was charged. -/
def halfway : Scene :=
  contest.turns ([1, 1, 1] ++ List.replicate 16 0 ++ [1, 1])

/-- Both applications to their end. -/
def outcome : Scene :=
  halfway.turns (List.replicate 16 1)

/-- **Applications that overlap are not safe**: the second changes the status from succeeded to
being applied, both are charged, and both run the tool. -/
theorem overlapping_applications :
    ¬ StatusStep halfway.state (halfway.turn 1).state ∧
      outcome.state.credits.balance "u" =
        contest.state.credits.balance "u" - 2 * Metered.apply.cost ∧
      (applications outcome.state).length = 2 := by
  obtain ⟨hbefore, hafter, hbalance, hruns⟩ :
      (Entries.get? "d" halfway.state.deployments).map (·.status) = some .succeeded ∧
        (Entries.get? "d" (halfway.turn 1).state.deployments).map (·.status) = some .applying ∧
        outcome.state.credits.balance "u" =
          contest.state.credits.balance "u" - 2 * Metered.apply.cost ∧
        (applications outcome.state).length = 2 := by
    decide +kernel
  refine ⟨fun h => ?_, hbalance, hruns⟩
  exact absurd (h.status hbefore hafter) (by decide)

end Groundplan.Tenancy
