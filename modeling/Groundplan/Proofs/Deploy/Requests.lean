import Groundplan.Proofs.Deploy.Courses

/-!
# Runs of requests

What users ask of the deployment service, one request after another, each in a world of its own. A
request is answered by a routine; what the routines come to is known, so that what a run comes to
follows by going through its tasks.

## Main definitions

* `Request`, `Reply`: what is asked, and what is answered
* `Task`: a request of a user, and the world as it is while it is answered
* `Task.Fresh`: the identifier that the world gives is not in use
* `afterAll`, `visits`: the state after a run, and the tasks with the states that they met
* `Keyed`: every deployment is kept under its identifier

## Main results

* `Task.upholds`: **what a task may do**
* `Task.isChain`: its steps; `Task.elsewhere`, `Task.outcome`: how it ends
-/

namespace Groundplan.Deploy

open Routine (upholds_bind upholds_perform)

/-! ## Requests -/

/-- What users ask. -/
inductive Request where
  | saveTemplate (name content provider : String) (description : Option String)
  | addCredential (name arn external : String)
  | toggleCredential (id : String) (active : Bool)
  | deleteCredential (id : String)
  | plan (template credential region : String)
  | apply (id : String)
  | destroy (id : String)
deriving Repr, Inhabited

/-- What is answered. -/
inductive Reply where
  | template (t : Template)
  | credential (c : Credential)
  | deleted
  | deployment (d : Deployment)
deriving Repr, Inhabited

/-- How a request of a user is answered. -/
def Request.work (w : World) (user : String) : Request → Work Reply
  | .saveTemplate name content provider description =>
    .template <$> (Deploy.saveTemplate w user name content provider description).asStep
  | .addCredential name arn external =>
    .credential <$> (Deploy.addCredential w user name arn external).asStep
  | .toggleCredential id active => .credential <$> (Deploy.toggleCredential w user id active).asStep
  | .deleteCredential id => (fun _ => .deleted) <$> (Deploy.deleteCredential user id).asStep
  | .plan template credential region =>
    .deployment <$> Deploy.plan w user template credential region
  | .apply id => .deployment <$> Deploy.apply w user id
  | .destroy id => .deployment <$> Deploy.destroy w user id

/-- The operation that a request asks for, if it is one on deployments. -/
def Request.operation? : Request → Option Operation
  | .plan .. => some .plan
  | .apply _ => some .apply
  | .destroy _ => some .destroy
  | _ => none

/-- A request of a user, and the world as it is while it is answered. -/
structure Task where
  world : World
  user : String
  request : Request

namespace Task

/-- How a task is done. -/
def work (t : Task) : Work Reply :=
  t.request.work t.world t.user

/-- The answer to a task. -/
def answer (t : Task) (s : Installation) : Except Failure Reply :=
  (t.work.run s).1

/-- The state after a task. -/
def after (t : Task) (s : Installation) : Installation :=
  (t.work.run s).2

/-- What a task asked of the world. -/
def events (t : Task) (s : Installation) : List Event :=
  (t.after s).events.drop s.events.length

/-- A task draws a fresh identifier: no deployment has it. -/
def Fresh (t : Task) (s : Installation) : Prop :=
  Entries.get? t.world.recordId s.deployments = none

instance (t : Task) (s : Installation) : Decidable (t.Fresh s) :=
  decidable_of_iff (Entries.get? t.world.recordId s.deployments).isNone Option.isNone_iff_eq_none

end Task

/-! ## Runs -/

/-- The state after a run of tasks, one after another. -/
def afterAll (s : Installation) : List Task → Installation
  | [] => s
  | t :: ts => afterAll (t.after s) ts

/-- The tasks of a run, each with the state that it met. -/
def visits (s : Installation) : List Task → List (Installation × Task)
  | [] => []
  | t :: ts => (s, t) :: visits (t.after s) ts

/-- Every deployment is kept under its identifier. -/
def Keyed (s : Installation) : Prop :=
  ∀ id d, Entries.get? id s.deployments = some d → d.id = id

/-! ## What a task may do -/

/-- What requests that concern no deployment leave alone. -/
structure Elsewhere (s u : Installation) : Prop where
  vault : u.vault = s.vault
  deployments : u.deployments = s.deployments
  states : u.states = s.states
  credits : u.credits = s.credits

/-- The record that a request for an operation begins with. -/
def Request.Begins (w : World) (s : Installation) (user : String) : Request → Deployment → Prop
  | .plan _ _ region, d => ∃ t c, d = newDeployment w user t c region
  | .apply id, d => Resumes s user id .applying d
  | .destroy id, d => Resumes s user id .destroying d
  | _, _ => False

/-- **How a task ends**: the records of deployments are left alone, or an operation ends. -/
inductive Ends (t : Task) (s : Installation) : Except Failure Reply → Installation → Prop where
  | elsewhere {r : Except Failure Reply} {u : Installation} (hop : t.request.operation? = none)
      (hu : Elsewhere s u) : Ends t s r u
  | operation {op : Operation} {r : Except Failure Deployment} {u : Installation}
      (hop : t.request.operation? = some op)
      (hu : Outcome t.world s t.user op (t.request.Begins t.world s t.user) r u) :
      Ends t s (r.map .deployment) u

variable {R : Installation → Installation → Prop} {α β : Type}

theorem upholds_map {p : Work α} {f : α → β} {Q : Except Failure β → Installation → Prop}
    {s : Installation} :
    (f <$> p).Upholds R Q s ↔ p.Upholds R (fun r t => Q (r.map f) t) s := by
  show (p >>= fun a => pure (f a)).Upholds R Q s ↔ _
  rw [upholds_bind]
  refine Routine.upholds_congr fun r t => ?_
  cases r with
  | error f => rfl
  | ok a => rfl

theorem Elsewhere.self {s : Installation} : Elsewhere s s :=
  ⟨rfl, rfl, rfl, rfl⟩

theorem elsewhere_saveTemplate (w : World) (user name content provider : String)
    (description : Option String) (s : Installation) :
    Elsewhere s (saveTemplate w user name content provider description s).2 := by
  rcases saveTemplate_cases w user name content provider description s with h | ⟨x, -, -, h⟩ <;>
    rw [h]
  · exact .self
  · exact ⟨rfl, rfl, rfl, rfl⟩

theorem elsewhere_addCredential (w : World) (user name arn external : String) (s : Installation) :
    Elsewhere s (addCredential w user name arn external s).2 := by
  rcases addCredential_cases w user name arn external s with h | ⟨r, hr⟩
  · rw [h]
    exact .self
  · -- The role is taken on once, which leaves the breaker and an event behind.
    obtain ⟨es, ⟨_, _, _, _, hassume⟩, -⟩ := assume_spec w r s
    rw [hassume] at hr
    rcases hr with h | ⟨c, -, -, h⟩ <;> rw [h] <;> exact ⟨rfl, rfl, rfl, rfl⟩

theorem elsewhere_toggleCredential (w : World) (user id : String) (active : Bool)
    (s : Installation) : Elsewhere s (toggleCredential w user id active s).2 := by
  rw [toggleCredential, Action.bind_apply, credentialOf]
  cases ownCredential s user id <;> exact ⟨rfl, rfl, rfl, rfl⟩

theorem elsewhere_deleteCredential (user id : String) (s : Installation) :
    Elsewhere s (deleteCredential user id s).2 := by
  rw [deleteCredential, Action.bind_apply, credentialOf]
  cases ownCredential s user id with
  | error f => exact .self
  | ok _ =>
    dsimp only
    rw [Action.bind_apply, Action.get_apply]
    dsimp only
    split <;> exact ⟨rfl, rfl, rfl, rfl⟩

/-- A request that is answered in one step and concerns no deployment. -/
theorem upholds_elsewhere {t : Task} {s : Installation} {H : Prop} {a : Action α} {f : α → Reply}
    (hop : t.request.operation? = none) (ha : Elsewhere s (a s).2) :
    (f <$> a.asStep).Upholds (fun a b => H → StatusStep a b) (Ends t s) s :=
  upholds_map.2 ⟨fun _ => Untouched.statusStep ha.deployments, .elsewhere hop ha⟩

/-- A request for an operation does what the operation does. -/
theorem upholds_operation {t : Task} {s : Installation} {H : Prop} {op : Operation}
    {p : Work Deployment} (hop : t.request.operation? = some op)
    (hp : p.Upholds (fun a b => H → StatusStep a b)
      (Outcome t.world s t.user op (t.request.Begins t.world s t.user)) s) :
    (Reply.deployment <$> p).Upholds (fun a b => H → StatusStep a b) (Ends t s) s :=
  upholds_map.2 (hp.mono (fun _ _ h => h) fun _ _ hu => .operation hop hu)

/-- **What a task may do**: each of its steps keeps to the changes of status that there are, if
deployments are kept under their identifiers and the identifier of the task is fresh; and it ends as
requests end. -/
theorem Task.upholds (t : Task) (s : Installation) :
    t.work.Upholds (fun a b => Keyed s ∧ t.Fresh s → StatusStep a b) (Ends t s) s := by
  obtain ⟨w, user, request⟩ := t
  cases request with
  | saveTemplate => exact upholds_elsewhere rfl (elsewhere_saveTemplate w user _ _ _ _ s)
  | addCredential => exact upholds_elsewhere rfl (elsewhere_addCredential w user _ _ _ s)
  | toggleCredential => exact upholds_elsewhere rfl (elsewhere_toggleCredential w user _ _ s)
  | deleteCredential => exact upholds_elsewhere rfl (elsewhere_deleteCredential user _ s)
  | plan template credential region =>
    exact upholds_operation rfl (upholds_plan template credential region fun h => h.2)
  | apply id => exact upholds_operation rfl (upholds_apply id fun h => h.1 id)
  | destroy id => exact upholds_operation rfl (upholds_destroy id fun h => h.1 id)

/-- How a task ends. -/
theorem Task.ends (t : Task) (s : Installation) : Ends t s (t.answer s) (t.after s) :=
  ((Routine.upholds_iff _ _ s).1 (t.upholds s)).2

/-- A task that asks for no operation leaves the deployments alone. -/
theorem Task.elsewhere {t : Task} (hop : t.request.operation? = none) (s : Installation) :
    Elsewhere s (t.after s) := by
  have h := t.ends s
  -- The answer is given a name, since the case of an operation says what it is.
  generalize t.answer s = answer at h
  cases h with
  | elsewhere _ hu => exact hu
  | operation hop' hu =>
    rw [hop] at hop'
    cases hop'

/-- A task that asks for an operation ends as the operation does. -/
theorem Task.outcome {t : Task} {op : Operation} (hop : t.request.operation? = some op)
    (s : Installation) :
    ∃ r, t.answer s = r.map .deployment ∧
      Outcome t.world s t.user op (t.request.Begins t.world s t.user) r (t.after s) := by
  have h := t.ends s
  generalize t.answer s = answer at h
  cases h with
  | elsewhere hop' hu =>
    rw [hop] at hop'
    cases hop'
  | @operation _ r _ hop' hu =>
    rw [hop] at hop'
    cases hop'
    exact ⟨r, rfl, hu⟩

/-- The steps of a task with a fresh identifier. -/
theorem Task.isChain {t : Task} {s : Installation} (hs : Keyed s) (ht : t.Fresh s) :
    List.IsChain StatusStep (s :: t.work.trace s) :=
  ((Routine.upholds_iff _ _ s).1 ((t.upholds s).mono (fun _ _ h => h ⟨hs, ht⟩) fun _ _ h => h)).1

/-- The events of a task are those that it leaves behind. -/
theorem Task.events_eq {t : Task} {s : Installation} {ds : Entries Deployment}
    {ss : SealedRecords} {cs : Credits} {es : List Event} (h : Leaves s ds ss cs es (t.after s)) :
    t.events s = es := by
  obtain ⟨_, _, _, _, h⟩ := h
  rw [Task.events, h]
  exact List.drop_left

end Groundplan.Deploy
