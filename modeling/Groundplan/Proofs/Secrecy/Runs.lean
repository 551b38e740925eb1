import Groundplan.Proofs.Secrecy.Operations
import Groundplan.Proofs.Tenancy.References

/-!
# Answers do not depend on the keys

What users ask for is done the same whatever keys the token service issues meanwhile: the answers
and failures are the same, and so is all that is left behind. So nothing of the keys is in an answer
or a record, unless the provisioning tool put it out itself. What was asked of the world is not
compared: the files that the tool read held the keys.

## Main definitions

* `Errand`, `Job`: what is asked for, and the world as it is meanwhile
* `conclude`: the answers to a run of jobs, and the state after it
* `Job.Reissues`: the same job while other keys are issued

## Main results

* `twin_createConnection`, `twin_syncConnection`, `twin_scanConnection`: **connections**
* `Errand.twin`: **each errand**
* `conclude_reissued`: **the answers to a run, and what it leaves, do not depend on the keys**
-/

namespace Groundplan

open Deploy

variable {α β γ ν : Type} {view : Workspaces → ν} {w : World} {h : CloudCall → Answer Data}

/-! ## Templates and credentials -/

theorem twin_saveTemplate (w : World) (user name content provider : String)
    (description : Option String) :
    Twin view Eq (saveTemplate w user name content provider description)
      (saveTemplate { w with host := h } user name content provider description) := by
  have hhost : saveTemplate { w with host := h } user name content provider description =
      saveTemplate w user name content provider description := by
    funext s
    simp only [saveTemplate]
  rw [hhost]
  refine twin_of_apart fun s ws es => ?_
  rw [saveTemplate]
  cases templateProblem? name content provider with
  | some f => rfl
  | none => rfl

theorem twin_toggleCredential (w : World) (user id : String) (active : Bool) :
    Twin view Eq (toggleCredential w user id active)
      (toggleCredential { w with host := h } user id active) :=
  (twin_credentialOf user id).action_eq fun _ =>
    (twin_modify fun _ _ _ => rfl).action_eq fun _ => twin_answer (.ok rfl)

theorem twin_deleteCredential (user id : String) :
    Twin view Eq (deleteCredential user id) (deleteCredential user id) := by
  refine (twin_credentialOf user id).action_eq fun _ => twin_get_bind fun s ws es hws => ?_
  have hused : isInUse { s with workspaces := ws, events := es } id = isInUse s id := rfl
  rw [hused]
  split
  · exact twin_throw _
  · exact twin_set ⟨ws, es, hws, rfl⟩

/-! ## Drafts -/

theorem twin_outcome {a b : Action α} (ha : Twin view Eq a b) :
    Twin view Eq (Draft.outcome a) (Draft.outcome b) := by
  intro s t hst
  obtain ⟨hanswer, hsame⟩ := ha s t hst
  exact ⟨.ok hanswer.eq, hsame⟩

theorem twin_complete (w : World) (messages temperature : Data) :
    Twin view Eq (Draft.complete w messages temperature)
      (Draft.complete { w with host := h } messages temperature) := by
  refine twin_get_bind fun s ws es _ => ?_
  dsimp only
  split
  · exact twin_throw _
  split
  · exact twin_throw _
  · exact (twin_note _ _).action_eq fun _ => twin_answer (.of_eq rfl)

theorem twin_draftFiles (w : World) (prompt provider context : String) :
    Twin view Eq (Draft.draftFiles w prompt provider context)
      (Draft.draftFiles { w with host := h } prompt provider context) := by
  refine twin_get_bind fun s ws es hws => ?_
  generalize s.modelBreaker.allow w.now = o
  obtain ⟨allowed, b⟩ := o
  refine Twin.action_eq (twin_set ⟨ws, es, hws, rfl⟩) fun _ => ?_
  cases allowed with
  | false => exact twin_throw _
  | true =>
    refine (twin_outcome (twin_complete w _ _)).action_eq fun reply => ?_
    refine (twin_modify fun _ _ _ => rfl).action_eq fun _ => ?_
    exact Twin.action_eq (twin_answer (.of_eq rfl)) fun d => twin_answer (.of_eq rfl)

theorem twin_draftTemplate (w : World) (user description provider name : String)
    (present : List LiveResource) :
    Twin view Eq (Draft.draftTemplate w user description provider name present)
      (Draft.draftTemplate { w with host := h } user description provider name present) := by
  refine Twin.action_eq (twin_answer (.of_eq rfl)) fun r => (twin_charge user _).action_eq
    fun balance => (twin_outcome (twin_draftFiles w _ _ _)).action_eq fun files => ?_
  cases files with
  | ok files =>
    refine Twin.action_eq (twin_answer (.of_eq rfl)) fun content => ?_
    dsimp only
    split
    · exact twin_throw _
    · exact (twin_saveTemplate w user _ _ _ _).action_eq fun _ => twin_answer (.ok rfl)
  | error f =>
    dsimp only
    split
    · exact (twin_modify fun _ _ _ => rfl).action_eq fun _ => twin_throw f
    · exact twin_throw f

/-! ## Connections -/

theorem twin_connectionOf (user id : String) :
    Twin view Eq (connectionOf user id) (connectionOf user id) :=
  twin_look fun _ _ _ => rfl

theorem twin_deleteConnection (user id : String) :
    Twin view Eq (deleteConnection user id) (deleteConnection user id) :=
  (twin_connectionOf user id).action_eq fun _ => twin_modify fun _ _ _ => rfl

theorem twin_putResources (rs : List LiveResource) :
    Twin view Eq (putResources rs) (putResources rs) := by
  induction rs with
  | nil => exact twin_answer (.ok rfl)
  | cons r rs ih => exact Twin.action_eq (twin_of_apart fun _ _ _ => rfl) fun _ => ih

theorem twin_inquire (w : World) (q : Inquiry α) :
    Twin view Eq (Action.inquire w q) (Action.inquire { w with host := h } q) := by
  rintro s _ ⟨ws, es, hws, rfl⟩
  exact ⟨.of_eq rfl, ws, _, hws, rfl⟩

/-- Whose keys they are is told by where they are used. -/
theorem twin_checkKeys {k l : Keys} (hk : k.Alike l) :
    Twin view Eq (checkKeys w k) (checkKeys { w with host := h } l) := by
  rw [checkKeys, checkKeys, hk.region]
  refine (twin_note _ _).action_eq fun _ => ?_
  cases w.account.call ⟨"sts", l.region, "get_caller_identity", []⟩ with
  | ok identity => exact twin_answer (.of_eq rfl)
  | error f =>
    dsimp only
    split
    · exact twin_throw _
    · exact twin_throw _

theorem twin_latestReport (user template : String) :
    Twin view Eq (Policy.latestReport user template) (Policy.latestReport user template) := by
  refine (twin_templateOf user template).action_eq fun _ => twin_get_bind fun s ws es _ => ?_
  cases s.history.latest? template with
  | some r => exact twin_answer (.ok rfl)
  | none => exact twin_throw _

section Roles

variable (hw : w.Reissues { w with host := h })

include hw

theorem twin_addCredential (user name arn external : String) :
    Twin view Eq (addCredential w user name arn external)
      (addCredential { w with host := h } user name arn external) := by
  refine Twin.action_eq (twin_answer (.of_eq rfl)) fun _ => ?_
  dsimp only
  split
  · exact twin_throw _
  · refine (twin_assume hw _).action fun _ _ _ => twin_get_bind fun s ws es _ => ?_
    exact (twin_modify fun _ _ _ => rfl).action_eq fun _ => twin_answer (.ok rfl)

/-- **Creating a connection** under other keys. -/
theorem twin_createConnection (user name arn external region : String) :
    Twin view Eq (createConnection w user name arn external region)
      (createConnection { w with host := h } user name arn external region) := by
  refine Twin.action_eq (twin_answer (.of_eq rfl)) fun _ => ?_
  dsimp only
  split
  · exact twin_throw _
  split
  · exact twin_throw _
  refine twin_get_bind fun s ws es _ => ?_
  refine Twin.action_eq (Twin.catch ?_ fun f => ?_) fun _ => ?_
  · exact (twin_assume hw _).action fun _ _ _ => twin_answer (.ok rfl)
  · split
    · exact (twin_modify fun _ _ _ => rfl).action_eq fun _ => twin_throw f
    · exact twin_throw f
  · exact (twin_modify fun _ _ _ => rfl).action_eq fun _ => twin_answer (.ok rfl)

theorem twin_assumeConnection (c : Connection) (purpose : String) :
    Twin view Keys.Alike (assumeConnection w c purpose)
      (assumeConnection { w with host := h } c purpose) := by
  refine twin_get_bind fun s ws es _ => ?_
  exact Twin.action_eq (twin_answer (.of_eq rfl)) fun arn => twin_assume hw _

theorem twin_discoverConnection (c : Connection) :
    Twin view Eq (discoverConnection w c) (discoverConnection { w with host := h } c) := by
  refine (twin_assumeConnection hw c "sync").action fun _ _ _ => ?_
  refine (twin_inquire w _).action_eq fun found => ?_
  split
  · exact twin_throw _
  · exact twin_answer (.ok rfl)

/-- **Taking stock of a connection** under other keys. -/
theorem twin_syncConnection (user id : String) :
    Twin view Eq (syncConnection w user id) (syncConnection { w with host := h } user id) := by
  refine (twin_connectionOf user id).action_eq fun c => ?_
  refine Twin.action_eq ((twin_discoverConnection hw c).catch fun f => ?_) fun found => ?_
  · exact (twin_modify fun _ _ _ => rfl).action_eq fun _ => twin_throw _
  · refine (twin_putResources _).action_eq fun _ => ?_
    exact (twin_modify fun _ _ _ => rfl).action_eq fun _ => twin_answer (.ok rfl)

/-- **Scanning the account of a connection** under other keys. -/
theorem twin_scanConnection (user id : String) :
    Twin view Eq (scanConnection w user id) (scanConnection { w with host := h } user id) := by
  refine (twin_connectionOf user id).action_eq fun c => ?_
  refine (twin_assumeConnection hw c "scan").action fun k l hk => ?_
  refine (twin_checkKeys hk).action_eq fun account => (twin_charge user .scan).action_eq fun _ => ?_
  refine twin_get_bind fun s ws es _ => ?_
  rw [hk.region]
  exact twin_inquire w _

/-- The account of the host is asked for without any role. -/
theorem twin_hostAccount :
    Twin view Eq (hostAccount w) (hostAccount { w with host := h }) := by
  refine twin_get_bind fun s ws es _ => ?_
  refine Twin.action_eq (Twin.action_eq (twin_note _ _) fun _ => twin_answer (.ok ?_))
    fun identity => ?_
  · have hother : "get_caller_identity" ≠ "assume_role" := by decide
    exact (hw.host ⟨hostService, s.settings.region, "get_caller_identity", []⟩ hother).symm
  cases identity with
  | ok identity => exact twin_answer (.of_eq rfl)
  | error f =>
    dsimp only
    split
    · exact twin_answer (.ok rfl)
    · exact twin_throw f

theorem twin_connectionSetup :
    Twin view Eq (connectionSetup w) (connectionSetup { w with host := h }) := by
  refine (twin_hostAccount hw).action_eq fun account => twin_get_bind fun s ws es _ => ?_
  exact twin_answer (.ok rfl)

end Roles

/-! ## Errands -/

namespace Secrecy

open Tenancy (reading)

/-- **What is asked for**: what users ask for, what they need to make a role, whether the tool is
there, and the state that is kept of a deployment. -/
inductive Errand where
  | request (r : Tenancy.Request)
  | connectionSetup
  | deploymentSetup (external : String)
  | toolStatus
  | keptState (deployment : String)

/-- What is answered. -/
inductive Reply where
  | reply (r : Tenancy.Reply)
  | shown (es : Entries Data)
  | status (d : Data)
  | state (text : Option String)

/-- How an errand of a user is done. -/
def Errand.work (w : World) (user : String) : Errand → Work Reply
  | .request r => .reply <$> r.work w user
  | .connectionSetup => .shown <$> (Groundplan.connectionSetup w).asStep
  | .deploymentSetup external =>
    .shown <$> (reading fun s => Deploy.deploymentSetup w s.settings external).asStep
  | .toolStatus => .status <$> (Deploy.toolStatus w).asStep
  | .keptState deployment => .state <$> (Deploy.keptState deployment).asStep

/-- The result is put another way. -/
theorem twin_map {p q : Work α} (g : α → γ) (hp : Twin view Eq p.run q.run) :
    Twin view Eq (g <$> p).run (g <$> q).run :=
  hp.bind_eq fun _ => twin_pure rfl

/-- An errand that is done in one step. -/
theorem twin_asStep {a b : Action α} (g : α → γ) (ha : Twin view Eq a b) :
    Twin view Eq (g <$> a.asStep).run (g <$> b.asStep).run :=
  twin_map (p := a.asStep) g ha

theorem twin_toolStatus (w : World) :
    Twin view Eq (toolStatus w) (toolStatus { w with host := h }) :=
  (twin_note _ _).action_eq fun _ => Twin.action_eq (twin_answer (.of_eq rfl)) fun _ =>
    twin_answer (.ok rfl)

section Errands

variable (hw : w.Reissues { w with host := h }) (user : String)

include hw

theorem twin_manage (r : Deploy.Request) :
    Twin id Eq (r.work w user).run (r.work { w with host := h } user).run := by
  cases r with
  | saveTemplate => exact twin_asStep _ (twin_saveTemplate w user _ _ _ _)
  | addCredential => exact twin_asStep _ (twin_addCredential hw user _ _ _)
  | toggleCredential => exact twin_asStep _ (twin_toggleCredential w user _ _)
  | deleteCredential => exact twin_asStep _ (twin_deleteCredential user _)
  | plan => exact twin_map _ (twin_plan hw user _ _ _)
  | apply => exact twin_map _ (twin_apply hw user _)
  | destroy => exact twin_map _ (twin_destroy hw user _)

theorem twin_request (r : Tenancy.Request) :
    Twin id Eq (r.work w user).run (r.work { w with host := h } user).run := by
  cases r with
  | manage r => exact twin_map _ (twin_manage hw user r)
  | draft => exact twin_asStep _ (twin_draftTemplate w user _ _ _ _)
  | createConnection => exact twin_asStep _ (twin_createConnection hw user _ _ _ _)
  | deleteConnection => exact twin_asStep _ (twin_deleteConnection user _)
  | syncConnection => exact twin_asStep _ (twin_syncConnection hw user _)
  | scanConnection => exact twin_asStep _ (twin_scanConnection hw user _)
  | getReport => exact twin_asStep _ (twin_latestReport user _)
  | listResources id =>
    refine twin_asStep _ ((twin_connectionOf user id).action_eq fun _ => ?_)
    exact twin_of_apart fun _ _ _ => rfl
  -- All that is left only reads the records.
  | _ => exact twin_asStep _ (twin_of_apart fun _ _ _ => rfl)

/-- **Each errand** is done the same under other keys. -/
theorem Errand.twin (e : Errand) :
    Twin id Eq (e.work w user).run (e.work { w with host := h } user).run := by
  cases e with
  | request r => exact twin_map _ (twin_request hw user r)
  | connectionSetup => exact twin_asStep _ (twin_connectionSetup hw)
  | deploymentSetup external =>
    exact twin_asStep (a := reading fun s => Deploy.deploymentSetup w s.settings external) _
      (twin_of_apart fun _ _ _ => rfl)
  | toolStatus => exact twin_asStep _ (twin_toolStatus w)
  | keptState => exact twin_asStep _ (twin_look fun _ _ _ => rfl)

end Errands

/-! ## Runs -/

/-- An errand of a user, and the world as it is while it is done. -/
structure Job where
  world : World
  user : String
  errand : Errand

/-- How a job is done. -/
def Job.work (j : Job) : Work Reply :=
  j.errand.work j.world j.user

/-- **The same job while other keys are issued.** -/
structure Job.Reissues (j k : Job) : Prop where
  world : j.world.Reissues k.world
  user : k.user = j.user
  errand : k.errand = j.errand

/-- **The answers to a run of jobs**, one after another, and the state after it. -/
def conclude (s : Installation) : List Job → List (Except Failure Reply) × Installation
  | [] => ([], s)
  | j :: js =>
    let o := j.work.run s
    let rest := conclude o.2 js
    (o.1 :: rest.1, rest.2)

theorem Job.twin {j k : Job} (hjk : j.Reissues k) : Twin id Eq j.work.run k.work.run := by
  obtain ⟨w, _, _⟩ := j
  obtain ⟨w', user, errand⟩ := k
  obtain ⟨hw, rfl, rfl⟩ := hjk
  have hw : w.Reissues w' := hw
  obtain rest := hw.rest
  generalize w'.host = h at rest
  subst rest
  exact Errand.twin hw user errand

/-- States that are the same but for events have the same runs under other keys. -/
theorem conclude_same {js ks : List Job} (hjobs : List.Forall₂ Job.Reissues js ks)
    {s t : Installation} (hst : Same id s t) :
    (conclude t ks).1 = (conclude s js).1 ∧ Same id (conclude s js).2 (conclude t ks).2 := by
  -- Induction on the runs: each job starts in states in which all workspaces are the same.
  induction hjobs generalizing s t with
  | nil => exact ⟨rfl, hst⟩
  | cons hjk _ ih =>
    obtain ⟨hanswer, hsame⟩ := Job.twin hjk s t hst
    obtain ⟨hanswers, hend⟩ := ih hsame
    rw [conclude, conclude]
    exact ⟨by rw [hanswers, hanswer.eq], hend⟩

/-- **The answers to a run, and what it leaves, do not depend on the keys** that the token service
issues meanwhile: all answers and failures are the same, and so are all records, balances and
workspaces that are left; only what was asked of the world may differ. -/
theorem conclude_reissued {js ks : List Job} (hjobs : List.Forall₂ Job.Reissues js ks)
    (s : Installation) :
    (conclude s ks).1 = (conclude s js).1 ∧
      ∃ es, (conclude s ks).2 = { (conclude s js).2 with events := es } := by
  obtain ⟨hanswers, ws, es, hws, hend⟩ := conclude_same hjobs (.refl id s)
  obtain rfl : ws = (conclude s js).2.workspaces := hws
  exact ⟨hanswers, es, hend⟩

/-! ### A sample -/

/-- A reply of the token service that issues other keys. -/
def otherReply : Data :=
  .map [("Credentials", .map [("AccessKeyId", .text "other"), ("SecretAccessKey", .text "hidden")])]

/-- A world in which everything succeeds, and the token service issues the other keys. -/
def otherWorld (recordId : String) : World :=
  { sampleWorld recordId with
    host := fun call => .ok (if call.operation = "assume_role" then otherReply else sampleReply) }

theorem reissues_otherWorld (recordId : String) :
    (sampleWorld recordId).Reissues (otherWorld recordId) where
  rest := rfl
  host _ hcall := congrArg Except.ok (if_neg hcall)
  issued _ hcall := by
    refine .inr ⟨_, _, rfl, congrArg Except.ok (if_pos hcall), .cons ⟨rfl, ?_⟩ .nil⟩
    refine .inr ⟨rfl, _, _, rfl, rfl, .cons ⟨rfl, .inr ⟨by decide, ?_⟩⟩
      (.cons ⟨rfl, .inr ⟨by decide, ?_⟩⟩ .nil)⟩
    · exact .inr ⟨"key", "other", rfl, by decide, rfl, by decide⟩
    · exact .inr ⟨"secret", "hidden", rfl, by decide, rfl, by decide⟩

/-- A user plans a deployment, and connects an account. -/
def sampleJobs (world : String → World) : List Job :=
  [⟨world "t", "u", .request (.manage (.saveTemplate "Site" "terraform \x7b\x7d" "aws" none))⟩,
    ⟨world "c", "u", .request
      (.manage (.addCredential "Role" "arn:aws:iam::123456789012:role/Deploy" "x"))⟩,
    ⟨world "d", "u", .request (.manage (.plan "t" "c" "us-east-1"))⟩,
    ⟨world "n", "u", .request
      (.createConnection "Account" "arn:aws:iam::123456789012:role/Read" "x" "us-east-1")⟩]

/-- The answers are the same under the other keys, while the tool read other files. -/
theorem conclude_reissued_sample :
    List.Forall₂ Job.Reissues (sampleJobs sampleWorld) (sampleJobs otherWorld) ∧
      ((conclude Tenancy.sampleBlank (sampleJobs otherWorld)).1 =
          (conclude Tenancy.sampleBlank (sampleJobs sampleWorld)).1 ∧
        ∃ es, (conclude Tenancy.sampleBlank (sampleJobs otherWorld)).2 =
          { (conclude Tenancy.sampleBlank (sampleJobs sampleWorld)).2 with events := es }) ∧
      (conclude Tenancy.sampleBlank (sampleJobs sampleWorld)).1.map (·.isOk) =
        [true, true, true, true] ∧
      (conclude Tenancy.sampleBlank (sampleJobs otherWorld)).2.runs.map (·.files) ≠
        (conclude Tenancy.sampleBlank (sampleJobs sampleWorld)).2.runs.map (·.files) := by
  have hjob (id : String) (e : Errand) :
      Job.Reissues ⟨sampleWorld id, "u", e⟩ ⟨otherWorld id, "u", e⟩ :=
    ⟨reissues_otherWorld id, rfl, rfl⟩
  have hjobs : List.Forall₂ Job.Reissues (sampleJobs sampleWorld) (sampleJobs otherWorld) :=
    .cons (hjob _ _) (.cons (hjob _ _) (.cons (hjob _ _) (.cons (hjob _ _) .nil)))
  exact ⟨hjobs, conclude_reissued hjobs _, by decide +kernel⟩

end Secrecy

end Groundplan
