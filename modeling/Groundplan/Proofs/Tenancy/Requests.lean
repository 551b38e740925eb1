import Groundplan.Proofs.Deploy.Requests
import Groundplan.Proofs.Tenancy.Operations

/-!
# What users ask for

The requests of users: to save and draft templates, to manage roles, deployments and connections,
and to read what they have. A request may be given identifiers of records. Where such a record is
not one of the user who asks, it makes no difference whether there is one at all: the request comes
to the same, and changes nothing.

## Main definitions

* `Request`, `Reply`: what is asked, and what is answered
* `Task`: a request of a user, and the world as it is while it is answered
* `Kind`, `ownerOf`: the kinds of records, and who owns a record
* `Request.given`, `Request.withId`: the identifier that a request is given
* `Request.denial`: what is answered to a user who does not own the record

## Main results

* `Task.among`: **a task among those of others**
* `Task.denied`: **a task that is given a record of another user**
-/

namespace Groundplan.Tenancy

open Deploy

/-! ## Requests -/

/-- What users ask for. -/
inductive Request where
  /-- To save a template, to manage a credential, or to plan, apply or destroy a deployment. -/
  | manage (r : Deploy.Request)
  | draft (description provider name : String) (present : List LiveResource)
  | createConnection (name arn external region : String)
  | deleteConnection (id : String)
  | syncConnection (id : String)
  | scanConnection (id : String)
  | getTemplate (id : String)
  | listTemplates
  | getReport (template : String)
  | getCredential (id : String)
  | listCredentials
  | getDeployment (id : String)
  | listDeployments (template : Option String)
  | getConnection (id : String)
  | listConnections
  | listResources (connection : String) (type : Option String)
  | getBalance

/-- What is answered. -/
inductive Reply where
  | managed (r : Deploy.Reply)
  | drafted (d : Draft.Drafted)
  | template (t : Template)
  | templates (ts : List Template)
  | report (r : Policy.Report)
  | credential (c : Credential)
  | credentials (cs : List Credential)
  | deployment (d : Deployment)
  | deployments (ds : List Deployment)
  | connection (c : Connection)
  | connections (cs : List Connection)
  | deleted
  | resources (rs : List LiveResource)
  | scanned (r : Scan.Report)
  | balance (n : Int)

/-- Reading something that is always there. -/
def reading {α : Type} (f : Installation → α) : Action α :=
  fun s => (.ok (f s), s)

/-- How a request of a user is answered. -/
def Request.work (w : World) (user : String) : Request → Work Reply
  | .manage r => .managed <$> r.work w user
  | .draft description provider name present =>
    .drafted <$> (Draft.draftTemplate w user description provider name present).asStep
  | .createConnection name arn external region =>
    .connection <$> (Groundplan.createConnection w user name arn external region).asStep
  | .deleteConnection id => (fun _ => .deleted) <$> (Groundplan.deleteConnection user id).asStep
  | .syncConnection id => .connection <$> (Groundplan.syncConnection w user id).asStep
  | .scanConnection id => .scanned <$> (Groundplan.scanConnection w user id).asStep
  | .getTemplate id => .template <$> (templateOf user id).asStep
  | .listTemplates => .templates <$> (reading fun s => templatesOf s user).asStep
  | .getReport template => .report <$> (Policy.latestReport user template).asStep
  | .getCredential id => .credential <$> (credentialOf user id).asStep
  | .listCredentials => .credentials <$> (reading fun s => credentialsOf s user).asStep
  | .getDeployment id => .deployment <$> (deploymentOf user id).asStep
  | .listDeployments template =>
    .deployments <$> (reading fun s => deploymentsOf s user template).asStep
  | .getConnection id => .connection <$> (connectionOf user id).asStep
  | .listConnections => .connections <$> (reading fun s => connectionsOf s user).asStep
  | .listResources connection type => .resources <$> (resourcesOf user connection type).asStep
  | .getBalance => .balance <$> (reading fun s => s.credits.balance user).asStep

/-- A request of a user, and the world as it is while it is answered. -/
structure Task where
  world : World
  user : String
  request : Request

namespace Task

/-- How a task is done. -/
def work (t : Task) : Work Reply :=
  t.request.work t.world t.user

/-- The answer to a task that is left alone. -/
def answer (t : Task) (s : Installation) : Except Failure Reply :=
  (t.work.run s).1

/-- The state after a task that is left alone. -/
def after (t : Task) (s : Installation) : Installation :=
  (t.work.run s).2

end Task

/-! ## Tasks among those of others -/

variable {own : String → String} {v : String} {s : Installation} {α β : Type}

theorem among_map {p : Work α} (f : α → β)
    (hp : p.Among (Later own) (Turn own v) (fun _ _ => True) s) :
    (f <$> p).Among (Later own) (Turn own v) (fun _ _ => True) s :=
  Routine.among_bind (hp.mono fun _ _ _ => ⟨fun _ _ => trivial, fun _ _ => trivial⟩)

/-- A request that is answered in one step. -/
theorem among_action {a : Action α} (f : α → β)
    (ha : ∀ s, Orderly own s → Turn own v s (a s).2) :
    (f <$> a.asStep).Among (Later own) (Turn own v) (fun _ _ => True) s :=
  among_map f fun t ht => ⟨ha t ht.orderly, trivial⟩

theorem among_quiet {a : Action α} (f : α → β) (ha : Quiet a) :
    (f <$> a.asStep).Among (Later own) (Turn own v) (fun _ _ => True) s :=
  among_action f fun _ hs => ha.turn hs

/-- What is asked of the deployment service, among others. -/
theorem among_manage {w : World} (hid : own w.recordId = v) (r : Deploy.Request) :
    (r.work w v).Among (Later own) (Turn own v) (fun _ _ => True) s := by
  cases r with
  | saveTemplate => exact among_action _ fun s hs => turn_saveTemplate hs hid _ _ _ _
  | addCredential => exact among_action _ fun s hs => turn_addCredential hs hid _ _ _
  | toggleCredential => exact among_action _ fun s hs => turn_toggleCredential hs w _ _
  | deleteCredential => exact among_action _ fun s hs => turn_deleteCredential hs _
  | plan template credential region => exact among_map _ (among_plan hid template credential region)
  | apply id => exact among_map _ (among_apply id)
  | destroy id => exact among_map _ (among_destroy id)

/-- **A task among those of others**: each of its steps is a turn of its user, if the identifier
that it draws is drawn for that user. -/
theorem Task.among (t : Task) (hid : own t.world.recordId = t.user) :
    t.work.Among (Later own) (Turn own t.user) (fun _ _ => True) s := by
  obtain ⟨w, user, request⟩ := t
  cases request with
  | manage r => exact among_map _ (among_manage hid r)
  | draft => exact among_action _ fun s hs => turn_draftTemplate hs hid _ _ _ _
  | createConnection => exact among_action _ fun s hs => turn_createConnection hs hid _ _ _ _
  | deleteConnection => exact among_action _ fun s hs => turn_deleteConnection hs _
  | syncConnection => exact among_action _ fun s hs => turn_syncConnection hs w _
  | scanConnection => exact among_action _ fun s hs => turn_scanConnection hs w _
  | getReport => exact among_quiet _ (quiet_latestReport user _)
  | listResources => exact among_quiet _ (Quiet.bind (fun _ => rfl) fun _ => fun _ => rfl)
  -- All that is left only reads.
  | _ => exact among_quiet _ fun _ => rfl

/-! ## Identifiers that are given -/

/-- The kinds of records that users own. -/
inductive Kind where
  | template
  | credential
  | deployment
  | connection
deriving DecidableEq, Repr, Inhabited

/-- The word for a kind in messages. -/
def Kind.word : Kind → String
  | .template => "Template"
  | .credential => "Credential"
  | .deployment => "Deployment"
  | .connection => "Connection"

/-- **Who owns a record**, if there is one. -/
def ownerOf (s : Installation) (id : String) : Kind → Option String
  | .template => (Entries.get? id s.templates).map Template.user
  | .credential => (Entries.get? id s.credentials).map Credential.user
  | .deployment => (Entries.get? id s.deployments).map Deployment.user
  | .connection => (Entries.get? id s.connections).map Connection.user

namespace Request

/-- The place that a request has for the identifier of a record of a kind: what is in it, and the
request with something else in it. -/
def place : Kind → Request → Option (String × (String → Request))
  | .template, .manage (.plan template credential region) =>
    some (template, fun id => .manage (.plan id credential region))
  | .template, .getTemplate template => some (template, .getTemplate)
  | .template, .getReport template => some (template, .getReport)
  | .template, .listDeployments (some template) =>
    some (template, fun id => .listDeployments (some id))
  | .credential, .manage (.toggleCredential credential active) =>
    some (credential, fun id => .manage (.toggleCredential id active))
  | .credential, .manage (.deleteCredential credential) =>
    some (credential, fun id => .manage (.deleteCredential id))
  | .credential, .manage (.plan template credential region) =>
    some (credential, fun id => .manage (.plan template id region))
  | .credential, .getCredential credential => some (credential, .getCredential)
  | .deployment, .manage (.apply deployment) => some (deployment, fun id => .manage (.apply id))
  | .deployment, .manage (.destroy deployment) => some (deployment, fun id => .manage (.destroy id))
  | .deployment, .getDeployment deployment => some (deployment, .getDeployment)
  | .connection, .deleteConnection connection => some (connection, .deleteConnection)
  | .connection, .syncConnection connection => some (connection, .syncConnection)
  | .connection, .scanConnection connection => some (connection, .scanConnection)
  | .connection, .getConnection connection => some (connection, .getConnection)
  | .connection, .listResources connection type =>
    some (connection, fun id => .listResources id type)
  | _, _ => none

/-- **The identifier of a record** of a kind that a request is given, if it is given any. -/
def given (kind : Kind) (r : Request) : Option String :=
  (r.place kind).map (·.1)

/-- **The same request with another identifier** of a kind. -/
def withId (other : String) (kind : Kind) (r : Request) : Request :=
  (r.place kind).elim r fun p => p.2 other

/-- **What is answered to a user who does not own the record** that the request is given. Which
record this is has no part in it. -/
def denial (s : Installation) (user : String) : Kind → Request → Except Failure Reply
  | .template, .listDeployments _ => .ok (.deployments [])
  | .credential, .manage (.plan template _ _) =>
    -- The template is looked up first.
    match ownTemplate s user template with
    | .error f => .error f
    | .ok _ => .error (.notFound Kind.credential.word)
  | kind, _ => .error (.notFound kind.word)

/-- What is in its place makes the request that it is. -/
theorem put_place {kind : Kind} {r : Request} {id : String} {put : String → Request}
    (h : r.place kind = some (id, put)) : put id = r := by
  unfold place at h
  split at h <;> cases h <;> rfl

end Request

/-! ## Records of others -/

variable {f : Failure} {user id : String} {w : World}

theorem owned_eq_notFound {owner : α → String} {what : String} {records : Entries α}
    (h : (Entries.get? id records).map owner ≠ some user) :
    owned owner what user id records = .error (.notFound what) := by
  rw [owned]
  cases hget : Entries.get? id records with
  | none => rfl
  | some x =>
    have hne : owner x ≠ user := by simpa [hget] using h
    simp [hne]

theorem eq_notFound_of_owned {owner : α → String} {what : String} {records : Entries α}
    (h : owned owner what user id records = .error f) : f = .notFound what := by
  rw [owned] at h
  split at h
  · split at h <;> cases h
    rfl
  · cases h
    rfl

/-- Who does not own a record is answered that it is not found, or that a list is empty. -/
theorem Request.denial_eq (s : Installation) (user : String) (kind : Kind) (r : Request) :
    (∃ what, r.denial s user kind = .error (.notFound what)) ∨
      ∃ template, r = .listDeployments template ∧
        r.denial s user kind = .ok (.deployments []) := by
  unfold denial
  split
  · exact .inr ⟨_, rfl, rfl⟩
  · split
    · rename_i f hf
      exact .inl ⟨_, by rw [eq_notFound_of_owned hf]⟩
    · exact .inl ⟨_, rfl⟩
  · exact .inl ⟨_, rfl⟩

/-- An action that begins with a look-up fails with it. -/
theorem look_error {o : Installation → Answer α} {k : α → Action β} (h : o s = .error f) :
    (((fun s => (o s, s)) : Action α) >>= k) s = (.error f, s) := by
  rw [Action.bind_apply, h]

/-- Work that begins with a look-up fails with it. -/
theorem run_look_error {o : Installation → Answer α} {k : α → Work β} (h : o s = .error f) :
    ((Action.asStep fun s => (o s, s)) >>= k).run s = (.error f, s) := by
  rw [Routine.run_bind, Action.asStep, Routine.run_perform, h]

theorem run_look {o : Installation → Answer α} {k : α → Work β} {x : α} (h : o s = .ok x) :
    ((Action.asStep fun s => (o s, s)) >>= k).run s = (k x).run s := by
  rw [Routine.run_bind, Action.asStep, Routine.run_perform, h]

theorem run_map_error {p : Work α} (g : α → β) (h : p.run s = (.error f, s)) :
    (g <$> p).run s = (.error f, s) := by
  show (p >>= fun x => pure (g x)).run s = _
  rw [Routine.run_bind, h]

/-- A request that is answered in one step, and begins with a look-up, fails with it. -/
theorem run_step_error {o : Installation → Answer α} {k : α → Action β} {γ : Type} (g : β → γ)
    (h : o s = .error f) :
    (g <$> Action.asStep (((fun s => (o s, s)) : Action α) >>= k)).run s = (.error f, s) :=
  run_map_error g (look_error h)

/-- The deployments of a user are made from templates of the user. -/
theorem deploymentsOf_eq_nil (hs : Orderly own s) (hid : ownerOf s id .template ≠ some user) :
    deploymentsOf s user (some id) = [] := by
  have hnone : ((s.deployments.map (·.2)).filter fun d =>
      d.user == user && ((some id).isNone || some id == some d.template)) = [] := by
    rw [List.filter_eq_nil_iff]
    intro d hd hfits
    obtain ⟨e, he, rfl⟩ := List.mem_map.1 hd
    obtain ⟨huser, rfl⟩ : e.2.user = user ∧ id = e.2.template := by simpa using hfits
    -- The template is there, and its owner is that of the deployment.
    obtain ⟨hown, hmade⟩ := hs.made e he
    obtain ⟨t, ht⟩ := Option.isSome_iff_exists.1 hmade
    refine hid ?_
    rw [ownerOf, ht, Option.map_some, (hs.templates.get? ht).2, hown,
      ← (hs.deployments e he).2, huser]
  rw [deploymentsOf, hnone, newestFirst, List.mergeSort_nil, List.take_nil]

/-- **A request that is given a record of another user**, or one that is not there, is denied and
changes nothing. -/
theorem Request.run_denied {kind : Kind} {r : Request} {put : String → Request} {other : String}
    (hs : Orderly own s) (hplace : r.place kind = some (id, put))
    (hother : ownerOf s other kind ≠ some user) :
    ((put other).work w user).run s = (r.denial s user kind, s) := by
  -- One case for each place; each request looks the record up first, but planning, which looks up
  -- the template before the credential.
  unfold place at hplace
  split at hplace <;> cases hplace
  · refine run_map_error _ (run_map_error _ ?_)
    exact run_look_error (o := fun s => ownTemplate s user other) (owned_eq_notFound hother)
  · exact run_map_error _ (congrArg (·, s) (owned_eq_notFound hother))
  · exact run_step_error (o := fun s => ownTemplate s user other) _ (owned_eq_notFound hother)
  · -- A list is not denied, but nothing is in it.
    show (Except.ok (Reply.deployments (deploymentsOf s user (some other))), s) = _
    rw [deploymentsOf_eq_nil hs hother]
    rfl
  · refine run_map_error _ ?_
    exact run_step_error (o := fun s => ownCredential s user other) _ (owned_eq_notFound hother)
  · refine run_map_error _ ?_
    exact run_step_error (o := fun s => ownCredential s user other) _ (owned_eq_notFound hother)
  · rename_i template region
    have hcredential : ownCredential s user other = .error (.notFound Kind.credential.word) :=
      owned_eq_notFound hother
    rw [denial]
    cases ht : ownTemplate s user template with
    | error f =>
      refine run_map_error _ (run_map_error _ ?_)
      exact run_look_error (o := fun s => ownTemplate s user template) ht
    | ok t =>
      refine run_map_error _ (run_map_error _ ?_)
      rw [plan]
      refine (run_look (o := fun s => ownTemplate s user template) ht).trans ?_
      exact run_look_error (o := fun s => ownCredential s user other) hcredential
  · exact run_map_error _ (congrArg (·, s) (owned_eq_notFound hother))
  · refine run_map_error _ (run_map_error _ ?_)
    rw [apply, enterDeployment, Routine.bind_bind]
    exact run_look_error (o := fun s => ownDeployment s user other) (owned_eq_notFound hother)
  · refine run_map_error _ (run_map_error _ ?_)
    rw [destroy, enterDeployment, Routine.bind_bind]
    exact run_look_error (o := fun s => ownDeployment s user other) (owned_eq_notFound hother)
  · exact run_map_error _ (congrArg (·, s) (owned_eq_notFound hother))
  · exact run_step_error (o := fun s => ownConnection s user other) _ (owned_eq_notFound hother)
  · exact run_step_error (o := fun s => ownConnection s user other) _ (owned_eq_notFound hother)
  · exact run_step_error (o := fun s => ownConnection s user other) _ (owned_eq_notFound hother)
  · exact run_map_error _ (congrArg (·, s) (owned_eq_notFound hother))
  · exact run_step_error (o := fun s => ownConnection s user other) _ (owned_eq_notFound hother)

namespace Task

/-- The same task with another identifier of a kind. -/
def withId (other : String) (kind : Kind) (t : Task) : Task :=
  { t with request := t.request.withId other kind }

/-- **A task that is given a record of another user** does what it does with an identifier that is
not there: it is denied, and changes nothing. -/
theorem denied {t : Task} {kind : Kind} {other : String} (hs : Orderly own s)
    (hgiven : t.request.given kind = some id) (hid : ownerOf s id kind ≠ some t.user)
    (hother : ownerOf s other kind ≠ some t.user) :
    (t.withId other kind).work.run s = t.work.run s ∧ t.after s = s ∧
      ((∃ what, t.answer s = .error (.notFound what)) ∨
        ∃ template, t.request = .listDeployments template ∧
          t.answer s = .ok (.deployments [])) := by
  rw [Request.given, Option.map_eq_some_iff] at hgiven
  obtain ⟨⟨_, put⟩, hplace, rfl⟩ := hgiven
  have hrun : t.work.run s = (t.request.denial s t.user kind, s) := by
    rw [work, ← Request.run_denied hs hplace hid, Request.put_place hplace]
  have hrun' : (t.withId other kind).work.run s = (t.request.denial s t.user kind, s) := by
    rw [← Request.run_denied hs hplace hother, work, withId, Request.withId, hplace]
    rfl
  refine ⟨hrun'.trans hrun.symm, by rw [after, hrun], ?_⟩
  rw [answer, hrun]
  exact Request.denial_eq s t.user kind t.request

end Task

end Groundplan.Tenancy
