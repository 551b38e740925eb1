import Groundplan.Proofs.Deploy.KeptStates
import Groundplan.Proofs.Deploy.Releases

/-!
# Records that agree with their status

The fields of a deployment are written one by one, on the ways on which an operation succeeds and on
the one on which it fails. What is there when no operation is under way agrees with the status all
the same: when the deployment was completed, what it failed with, what its plan comes to, and how
long the texts are that are kept.

## Main definitions

* `Explained`: work of whose failures something can be recorded
* `Deployment.Agrees`: **a record agrees with its status**
* `Deployment.Begun`: the record that an operation begins with
* `Task.Plans`, `Task.Applies`: a plan is made, and one is to be applied
* `Recorded`: the records of a state, and the plans that were made

## Main results

* `Task.explained`: every failure of an operation says something
* `Course.agrees`: the record at the end of an operation
* `records_of_run`: **the records after a run**
-/

namespace Groundplan.Deploy

variable {w : World} {s t : Installation} {view : Workspaces → Workspaces} {user id : String}
  {d : Deployment} {op : Operation} {α β : Type}

/-! ## Failures of which something can be recorded -/

/-- **Every failure of the work says something**, or at least has a name that does. -/
def Explained (p : Installation → Answer α × Installation) : Prop :=
  ∀ s f, (p s).1 = .error f → recordedMessage f ≠ ""

theorem Confined.explained {p : Installation → Answer α × Installation} (h : Confined w view p)
    (hw : w.External) : Explained p :=
  fun s f hf => ((h s).2 hw f hf).recorded

theorem explained_fail {f : Failure} (h : recordedMessage f ≠ "") :
    Explained (.fail f : Work α).run := by
  rintro s _ ⟨⟩
  exact h

theorem explained_bind {a : Action α} {k : α → Work β} (ha : Explained a)
    (hk : ∀ x, Explained (k x).run) : Explained (a.asStep >>= k).run := by
  intro s f hf
  rw [Routine.run_bind, Action.asStep, Routine.run_perform] at hf
  have herror := ha s
  generalize a s = o at hf herror
  obtain ⟨g | x, t⟩ := o
  · cases hf
    exact herror f rfl
  · exact hk x t f hf

theorem explained_owned {owner : α → String} {what : String}
    {records : Installation → Entries α} :
    Explained fun s => (owned owner what user id (records s), s) := by
  intro s f hf
  have hmessage : recordedMessage (.notFound what) ≠ "" := by
    show what ++ " not found" ≠ ""
    simp
  dsimp only at hf
  rw [owned] at hf
  split at hf
  · split at hf <;> cases hf
    exact hmessage
  · cases hf
    exact hmessage

theorem explained_charge (user : String) (m : Metered) : Explained (charge user m) := by
  intro s f hf
  rw [charge, Action.draw, Credits.charge] at hf
  dsimp only at hf
  split at hf
  · cases hf
    show _ ++ _ ≠ ""
    simp
  · cases hf

theorem explained_inSlot {body : Work α} (hbody : Explained body.run) :
    Explained (inSlot user body).run := by
  refine explained_bind (fun s f hf => ?_) fun _ s f hf => ?_
  · rw [acquireSlot, Action.draw, Slots.acquire] at hf
    dsimp only at hf
    split at hf
    · cases hf
      show _ ++ _ ≠ ""
      simp
    · cases hf
  · rw [Routine.run_ensuring] at hf
    exact hbody s f hf

/-- Planning. -/
theorem explained_plan (hw : w.External) (template credential region : String) :
    Explained (plan w user template credential region).run := by
  refine explained_bind explained_owned fun t => explained_bind explained_owned fun c => ?_
  split
  · refine explained_inSlot (explained_bind (explained_charge user .plan) fun _ => ?_)
    refine (confined_begun (confined_assumeOrRefund user c region .plan) fun k => ?_).explained hw
    exact confined_recording w.now _ .plan (confined_planWithin t _ k)
  · exact explained_fail (by decide)

/-- A request for a deployment that is there. -/
theorem explained_enterDeployment {verb : String} {target : Status}
    {k : Deployment × Credential × Template → Work β} (hk : ∀ x, Explained (k x).run) :
    Explained (enterDeployment user id target verb >>= k).run := by
  rw [enterDeployment, Routine.bind_bind]
  refine explained_bind explained_owned fun d => ?_
  split
  · refine explained_fail ?_
    show _ ++ _ ≠ ""
    simp
  · rw [Routine.bind_bind]
    refine explained_bind explained_owned fun c => ?_
    rw [Routine.bind_bind]
    exact explained_bind explained_owned fun t => hk (d, c, t)

/-- Applying. -/
theorem explained_apply (hw : w.External) (id : String) : Explained (apply w user id).run := by
  refine explained_enterDeployment fun (d, c, t) => explained_inSlot ?_
  refine explained_bind (explained_charge user .apply) fun _ => ?_
  exact (confined_begun (confined_assumeOrRefund user c _ .apply) fun k =>
    confined_applyWithin t _ k).explained hw

/-- Destroying. -/
theorem explained_destroy (hw : w.External) (id : String) : Explained (destroy w user id).run := by
  refine explained_enterDeployment fun (d, c, t) => explained_inSlot ?_
  exact (confined_begun (confined_assumeFor c _) fun k =>
    confined_recording w.now _ .destroy (confined_destroyWithin t _ k)).explained hw

theorem Explained.map {p : Work α} (h : Explained p.run) (g : α → β) :
    Explained (g <$> p).run := by
  intro s f hf
  rw [run_map] at hf
  refine h s f ?_
  generalize (p.run s).1 = r at hf ⊢
  cases r with
  | error e => cases hf; rfl
  | ok x => cases hf

/-- **Every failure of an operation says something**, if the cloud makes no refusals of this
library. -/
theorem Task.explained {t : Task} (hop : t.request.operation? = some op)
    (hw : t.world.External) : Explained t.work.run := by
  obtain ⟨w, user, request⟩ := t
  cases request with
  | plan template credential region => exact (explained_plan hw template credential region).map _
  | apply id => exact (explained_apply hw id).map _
  | destroy id => exact (explained_destroy hw id).map _
  | _ => cases hop

/-! ## Records -/

/-- The texts that a record keeps of runs are not too long. -/
structure Deployment.Bounded (d : Deployment) : Prop where
  plan : ∀ text, d.planOutput = some text → text.length ≤ 50000
  apply : ∀ text, d.applyOutput = some text → text.length ≤ 50000

/-- **A record agrees with its status.** -/
structure Deployment.Agrees (d : Deployment) : Prop extends Deployment.Bounded d where
  completed : d.completedAt.isSome ↔
    d.status = .succeeded ∨ d.status = .failed ∨ d.status = .destroyed
  /-- What failed has an error, which says something and is not too long. -/
  failed : d.status = .failed → ∃ text, d.error = some text ∧ text ≠ "" ∧ text.length ≤ 2000
  /-- What has not failed has none. -/
  sound : d.status ≠ .failed → d.error = none
  summary : d.status = .planReady ∨ d.status = .succeeded → d.summary.isSome
  destroyed : d.status = .destroyed → d.resourceCount = 0

theorem length_cut_le (limit : Nat) (text : String) : (cut limit text).length ≤ limit := by
  rw [cut, String.length_ofList]
  exact List.length_take_le _ _

theorem cut_ne_empty {limit : Nat} {text : String} (hlimit : limit ≠ 0) (h : text ≠ "") :
    cut limit text ≠ "" := by
  rw [cut, Ne, ← String.toList_inj, String.toList_ofList, String.toList_empty, List.take_eq_nil_iff]
  exact not_or.2 ⟨hlimit, by simpa using h⟩

/-- A failure leaves the output of one run, cut to size. -/
theorem Deployment.Bounded.failed (h : d.Bounded) (now : Instant) (op : Operation) (f : Failure) :
    (d.failed now op f).Bounded := by
  have hwith : (d.withOutput op f).Bounded := by
    rw [Deployment.withOutput.eq_def]
    split
    · exact h
    · exact ⟨fun _ htext => Option.some.inj htext ▸ length_cut_le _ _, h.apply⟩
    · exact ⟨h.plan, fun _ htext => Option.some.inj htext ▸ length_cut_le _ _⟩
  exact ⟨hwith.plan, hwith.apply⟩

theorem summary_failed (d : Deployment) (now : Instant) (op : Operation) (f : Failure) :
    (d.failed now op f).summary = d.summary := by
  show (d.withOutput op f).summary = _
  rw [Deployment.withOutput.eq_def]
  split <;> rfl

/-- **A failure that is recorded.** -/
theorem Deployment.Bounded.agrees_failed (h : d.Bounded) (hstatus : d.status.canBecome .failed)
    {f : Failure} (hf : recordedMessage f ≠ "") (now : Instant) (op : Operation) :
    (d.failed now op f).Agrees where
  toBounded := h.failed now op f
  completed := iff_of_true rfl (.inr (.inl (status_failed hstatus now op f)))
  failed _ := ⟨_, rfl, cut_ne_empty (by decide) (by simp [hf]), length_cut_le _ _⟩
  sound hne := absurd (status_failed hstatus now op f) hne
  summary hsome := by
    rw [status_failed hstatus] at hsome
    rcases hsome with hsome | hsome <;> cases hsome
  destroyed hd := by
    rw [status_failed hstatus] at hd
    cases hd

/-! ## Operations -/

/-- **The record that an operation begins with**: it is under way, and unless it is to be destroyed
nothing has come of it yet; what is applied has a plan. -/
structure Deployment.Begun (d : Deployment) (op : Operation) : Prop extends
    Deployment.Bounded d where
  canFail : d.status.canBecome .failed
  pending : op ≠ .destroy → d.completedAt = none ∧ d.error = none
  planned : op = .apply → d.summary.isSome

/-- It has none of the statuses in which nothing is under way. -/
theorem Deployment.Begun.status_ne (h : d.Begun op) {status : Status}
    (hstatus : status.canBecome .failed = false) : d.status ≠ status := by
  rintro rfl
  exact Bool.false_ne_true (hstatus.symm.trans h.canFail)

/-- A record that stays as it was begun. -/
theorem Deployment.Begun.agrees (h : d.Begun op) (hop : op ≠ .destroy) : d.Agrees where
  toBounded := h.toBounded
  completed := by
    rw [(h.pending hop).1]
    refine iff_of_false Bool.false_ne_true ?_
    rintro (hs | hs | hs) <;> exact h.status_ne (by decide) hs
  failed hs := absurd hs (h.status_ne (by decide))
  sound _ := (h.pending hop).2
  summary hs := by rcases hs with hs | hs <;> exact absurd hs (h.status_ne (by decide))
  destroyed hs := absurd hs (h.status_ne (by decide))

variable {ds : Entries Deployment} {ss : SealedRecords} {es : List Event}
  {r : Except Failure Deployment}

/-- **The record at the end of an operation** agrees with its status, and it has a summary if it had
one or a plan was made. -/
theorem Course.agrees (h : Course w s d op ds ss es r) (hd : d.Begun op)
    (hr : ∀ f, r = .error f → recordedMessage f ≠ "") :
    ∃ e, ds = Entries.set d.id e s.deployments ∧ e.Agrees ∧
      (e.summary.isSome ↔ d.summary.isSome ∨ op = .plan ∧ ∃ x, r = .ok x) := by
  -- A failure makes no plan.
  have herror {f : Failure} {c : Option PlanSummary} (hc : c = d.summary) :
      c.isSome ↔ d.summary.isSome ∨
        op = .plan ∧ ∃ x : Deployment, (.error f : Except Failure Deployment) = .ok x := by
    rw [hc, or_iff_left]
    rintro ⟨-, x, ⟨⟩⟩
  cases h with
  | failed =>
    exact ⟨_, rfl, hd.agrees_failed hd.canFail (hr _ rfl) _ _, herror (summary_failed _ _ _ _)⟩
  | planned result summary report =>
    obtain ⟨hcompleted, hnone⟩ := hd.pending (by decide)
    refine ⟨_, rfl, ⟨⟨?_, hd.apply⟩, ?_, nofun, fun _ => hnone, fun _ => rfl, nofun⟩, ?_⟩
    · rintro _ ⟨⟩
      exact length_cut_le _ _
    · show d.completedAt.isSome ↔ _
      rw [hcompleted]
      exact iff_of_false Bool.false_ne_true (by rintro (hs | hs | hs) <;> cases hs)
    · exact iff_of_true rfl (.inr ⟨rfl, _, rfl⟩)
  | applied result =>
    have hsummary := hd.planned rfl
    refine ⟨_, rfl, ⟨⟨hd.plan, ?_⟩, ?_, nofun, fun _ => rfl, fun _ => hsummary, nofun⟩, ?_⟩
    · rintro _ ⟨⟩
      exact length_cut_le _ _
    · exact iff_of_true rfl (.inl rfl)
    · exact iff_of_true hsummary (.inl hsummary)
  | @broken _ kept n f =>
    -- What is counted of the state concerns none of this.
    have hbounded : (d.counting kept n).Bounded := by
      cases kept <;> exact ⟨hd.plan, hd.apply⟩
    have hstatus : (d.counting kept n).status.canBecome .failed := by
      cases kept <;> exact hd.canFail
    refine ⟨_, rfl, hbounded.agrees_failed hstatus (hr _ rfl) _ _, herror ?_⟩
    rw [summary_failed]
    cases kept <;> rfl
  | stuck => exact ⟨d, rfl, hd.agrees (by decide), herror rfl⟩
  | destroyed result =>
    refine ⟨_, rfl, ⟨⟨hd.plan, ?_⟩, ?_, nofun, fun _ => rfl, ?_, fun _ => rfl⟩, ?_⟩
    · rintro _ ⟨⟩
      exact length_cut_le _ _
    · exact iff_of_true rfl (.inr (.inr rfl))
    · rintro (hs | hs) <;> cases hs
    · rw [or_iff_left]
      · rfl
      · rintro ⟨hop, -⟩
        cases hop

/-- What an operation returns is its own record. -/
theorem Course.id_ok {e : Deployment} (h : Course w s d op ds ss es (.ok e)) : e.id = d.id := by
  cases h <;> rfl

/-! ## Tasks -/

/-- A task plans a deployment: it is asked to plan, and does not fail. -/
def Task.Plans (t : Task) (s : Installation) (id : String) : Prop :=
  t.request.operation? = some .plan ∧ ∃ d, t.answer s = .ok (.deployment d) ∧ d.id = id

/-- A task is asked to apply a deployment of its user that is planned. -/
def Task.Applies (t : Task) (s : Installation) (id : String) : Prop :=
  t.request = .apply id ∧
    ∃ d, Entries.get? id s.deployments = some d ∧ d.user = t.user ∧ d.status = .planReady

/-- **The records of a state**: each agrees with its status, and those have a summary for which a
plan was made. -/
structure Recorded (s : Installation) (planned : String → Prop) : Prop where
  agrees : ∀ id d, Entries.get? id s.deployments = some d → d.Agrees
  summary : ∀ id d, Entries.get? id s.deployments = some d → (d.summary.isSome ↔ planned id)
  known : ∀ id, planned id → (Entries.get? id s.deployments).isSome

variable {planned : String → Prop}

/-- **The record that a request begins with**, new or resumed. -/
theorem Request.Begins.begun {request : Request} (h : Recorded s planned) (hs : Keyed s)
    (hfresh : Entries.get? w.recordId s.deployments = none)
    (hop : request.operation? = some op) (hd : request.Begins w s user d) :
    d.Begun op ∧ (d.summary.isSome ↔ planned d.id) := by
  cases request with
  | plan template credential region =>
    cases hop
    obtain ⟨t, c, rfl⟩ := hd
    have hbounded : (newDeployment w user t c region).Bounded := by
      constructor <;> · intro _ htext; cases htext
    refine ⟨⟨hbounded, rfl, fun _ => ⟨rfl, rfl⟩, fun hop => by cases hop⟩,
      iff_of_false Bool.false_ne_true ?_⟩
    -- Its identifier is fresh, so no plan was made for it.
    intro hplanned
    have hknown := h.known _ hplanned
    rw [newDeployment, hfresh] at hknown
    cases hknown
  | apply id =>
    cases hop
    obtain ⟨old, hold, -, hcan, rfl⟩ := hd
    obtain rfl := hs id old hold
    have hagrees := h.agrees _ old hold
    -- What may be applied is planned, so it has a summary and was neither completed nor failed.
    have hready := Status.eq_planReady_of_canBecome hcan
    refine ⟨⟨⟨hagrees.plan, hagrees.apply⟩, rfl, fun _ => ⟨?_, ?_⟩, fun _ => ?_⟩,
      h.summary _ old hold⟩
    · have hcompleted := hagrees.completed
      rw [hready] at hcompleted
      simpa using hcompleted
    · exact hagrees.sound (by rw [hready]; exact Status.noConfusion)
    · exact hagrees.summary (.inl hready)
  | destroy id =>
    cases hop
    obtain ⟨old, hold, -, -, rfl⟩ := hd
    obtain rfl := hs id old hold
    have hagrees := h.agrees _ old hold
    exact ⟨⟨⟨hagrees.plan, hagrees.apply⟩, rfl, fun hne => absurd rfl hne, fun hop => by cases hop⟩,
      h.summary _ old hold⟩
  | _ => cases hop

section Kept

variable {planned' : String → Prop} (h : Recorded s planned)

include h

/-- Deployments that are left alone, when no plan is made. -/
theorem Recorded.congr (ht : t.deployments = s.deployments)
    (hplanned : ∀ id, planned' id ↔ planned id) : Recorded t planned' := by
  obtain rfl : planned' = planned := funext fun id => propext (hplanned id)
  exact ⟨ht ▸ h.agrees, ht ▸ h.summary, ht ▸ h.known⟩

/-- One record is written. -/
theorem Recorded.set {e : Deployment} (ht : t.deployments = Entries.set id e s.deployments)
    (he : e.Agrees) (hown : e.summary.isSome ↔ planned' id)
    (hothers : ∀ other, other ≠ id → (planned' other ↔ planned other)) :
    Recorded t planned' := by
  -- One record is written, and all the others are as before.
  have hget (other : String) : Entries.get? other t.deployments =
      if other = id then some e else Entries.get? other s.deployments := by
    rw [ht]
    split
    · rename_i hid
      rw [hid, Entries.get?_set_self]
    · rename_i hid
      exact Entries.get?_set_of_ne hid _ _
  refine ⟨fun other x hx => ?_, fun other x hx => ?_, fun other hplanned => ?_⟩
  · rw [hget] at hx
    split at hx
    · cases hx
      exact he
    · exact h.agrees other x hx
  · rw [hget] at hx
    split at hx
    · rename_i hid
      cases hx
      rw [hown, hid]
    · rename_i hid
      rw [h.summary other x hx, hothers other hid]
  · rw [hget]
    split
    · rfl
    · rename_i hid
      exact h.known other ((hothers other hid).1 hplanned)

end Kept

/-- Only the operations make plans. -/
theorem Task.not_plans {t : Task} (hop : t.request.operation? = none) : ¬ t.Plans s id := by
  rintro ⟨hplan, -⟩
  rw [hop] at hplan
  cases hplan

/-- A task that fails makes no plan. -/
theorem Task.not_plans_of_error {t : Task} {f : Failure} (h : t.answer s = .error f) :
    ¬ t.Plans s id := by
  rintro ⟨-, d, hok, -⟩
  rw [h] at hok
  cases hok

/-- **A plan is made** exactly for the deployment of an operation that is a plan and succeeds. -/
theorem Task.plans_iff {t : Task} (hop : t.request.operation? = some op)
    (hanswer : t.answer s = r.map .deployment) (hcourse : Course w s d op ds ss es r) :
    t.Plans s id ↔ id = d.id ∧ op = .plan ∧ ∃ x, r = .ok x := by
  rw [Task.Plans, hop, hanswer, Option.some_inj]
  constructor
  · rintro ⟨rfl, x, hx, rfl⟩
    cases r with
    | error f => cases hx
    | ok y =>
      cases hx
      exact ⟨hcourse.id_ok, rfl, _, rfl⟩
  · rintro ⟨rfl, rfl, x, rfl⟩
    exact ⟨rfl, x, rfl, hcourse.id_ok⟩

/-- **One task** leaves records that agree with their status. -/
theorem Recorded.task {t : Task} (h : Recorded s planned) (hs : Keyed s) (ht : t.Fresh s)
    (hw : t.world.External) :
    Recorded (t.after s) fun id => planned id ∨ t.Plans s id := by
  cases hop : t.request.operation? with
  | none =>
    exact h.congr (t.elsewhere hop s).deployments fun id => or_iff_left (Task.not_plans hop)
  | some op =>
    obtain ⟨r, hanswer, hu⟩ := t.outcome hop s
    have hexplained := t.explained hop hw s
    cases hu with
    | refused _ hu =>
      exact h.congr hu.untouched fun id => or_iff_left (Task.not_plans_of_error hanswer)
    | began hd hu _ hcourse _ =>
      obtain ⟨hbegun, hsummary⟩ := hd.begun h hs ht hop
      obtain ⟨e, rfl, hagrees, hend⟩ := hcourse.agrees hbegun fun f hf => by
        subst hf
        exact hexplained f hanswer
      -- Only the deployment of the operation is written, and only for it a plan may be made.
      refine h.set hu.deployments hagrees ?_ fun id hid => or_iff_left fun hp =>
        hid ((Task.plans_iff hop hanswer hcourse).1 hp).1
      rw [hend, hsummary, Task.plans_iff hop hanswer hcourse, and_iff_right rfl]

/-! ## A run -/

/-- The records after a run, and the plans that were made before and in it. -/
theorem Recorded.run {ts : List Task} (h : Recorded s planned) (hs : Keyed s)
    (hfresh : ∀ v ∈ visits s ts, v.2.Fresh v.1) (hw : ∀ t ∈ ts, t.world.External) :
    Recorded (afterAll s ts) fun id => planned id ∨ ∃ v ∈ visits s ts, v.2.Plans v.1 id := by
  -- Induction on the run, where the plans of the first task count among those made before.
  induction ts generalizing s planned with
  | nil => simpa [afterAll, visits] using h
  | cons t ts ih =>
    rw [visits, List.forall_mem_cons] at hfresh
    rw [List.forall_mem_cons] at hw
    have hnext := ih (h.task hs hfresh.1 hw.1) (Task.keyed_after hs hfresh.1) hfresh.2 hw.2
    simpa only [afterAll, visits, List.exists_mem_cons_iff, or_assoc] using hnext

/-- A visit of a run divides it. -/
theorem split_of_mem_visits {ts : List Task} {v : Installation × Task} (hv : v ∈ visits s ts) :
    ∃ before later, ts = before ++ v.2 :: later ∧ v.1 = afterAll s before := by
  induction ts generalizing s with
  | nil => cases hv
  | cons t ts ih =>
    rw [visits, List.mem_cons] at hv
    rcases hv with rfl | hv
    · exact ⟨[], ts, rfl, rfl⟩
    · obtain ⟨before, later, hts, hstate⟩ := ih hv
      exact ⟨t :: before, later, by rw [hts, List.cons_append], hstate⟩

/-- **The records after a run** that begins without deployments, if each task draws a fresh
identifier and the cloud makes no refusals of this library. Every record agrees with its status. It
has a summary exactly if a task of the run made its plan, in particular if one was asked to apply
it when it was planned, whatever has come of that and whatever was done since. -/
theorem records_of_run {ts : List Task} (hs : s.deployments = [])
    (hfresh : ∀ v ∈ visits s ts, v.2.Fresh v.1) (hw : ∀ t ∈ ts, t.world.External) :
    Recorded (afterAll s ts) (fun id => ∃ v ∈ visits s ts, v.2.Plans v.1 id) ∧
      ∀ v ∈ visits s ts, ∀ id, v.2.Applies v.1 id →
        ∃ d, Entries.get? id (afterAll s ts).deployments = some d ∧ d.summary.isSome := by
  have hnone (id : String) : Entries.get? id s.deployments = none := by
    rw [hs]
    rfl
  have hkeyed : Keyed s := fun id d hd => by
    rw [hnone] at hd
    cases hd
  have hstart : Recorded s fun _ => False := by
    refine ⟨fun id d hd => ?_, fun id d hd => ?_, fun _ => False.elim⟩ <;>
    · rw [hnone] at hd
      cases hd
  have hrun {us : List Task} (hus : ∀ v ∈ visits s us, v.2.Fresh v.1)
      (hexternal : ∀ t ∈ us, t.world.External) :
      Recorded (afterAll s us) fun id => ∃ v ∈ visits s us, v.2.Plans v.1 id := by
    simpa only [false_or] using hstart.run hkeyed hus hexternal
  refine ⟨hrun hfresh hw, fun v hv id happlies => ?_⟩
  -- When it was asked to be applied its plan had been made, by a task that is still in the run.
  obtain ⟨-, d, hd, -, hready⟩ := happlies
  obtain ⟨before, later, rfl, hstate⟩ := split_of_mem_visits hv
  rw [hstate] at hd
  have hbefore := hrun (fun u hu => hfresh u (visits_append s _ _ ▸ List.mem_append_left _ hu))
    fun t ht => hw t (List.mem_append_left _ ht)
  obtain ⟨u, hu, hplans⟩ :=
    (hbefore.summary id d hd).1 ((hbefore.agrees id d hd).summary (.inl hready))
  have hplanned : ∃ u ∈ visits s (before ++ v.2 :: later), u.2.Plans u.1 id :=
    ⟨u, visits_append s _ _ ▸ List.mem_append_left _ hu, hplans⟩
  obtain ⟨e, he⟩ := Option.isSome_iff_exists.1 ((hrun hfresh hw).known id hplanned)
  exact ⟨e, he, ((hrun hfresh hw).summary id e he).2 hplanned⟩

/-! ### A sample -/

/-- The installation of the samples before anything is planned. -/
def sampleUnplanned : Installation := { sampleInstallation with deployments := [] }

/-- A deployment is planned. -/
def samplePlanning : Task := ⟨sampleWorld "d", "u", .plan "t" "c" "us-east-1"⟩

/-- A deployment is planned, applied and destroyed. -/
def sampleLife : List Task := [samplePlanning, sampleApply, sampleDestroy]

/-- The records after the life of a deployment, the end of which it reaches. -/
theorem records_of_run_sample :
    (Recorded (afterAll sampleUnplanned sampleLife)
        (fun id => ∃ v ∈ visits sampleUnplanned sampleLife, v.2.Plans v.1 id) ∧
      ∀ v ∈ visits sampleUnplanned sampleLife, ∀ id, v.2.Applies v.1 id →
        ∃ d, Entries.get? id (afterAll sampleUnplanned sampleLife).deployments = some d ∧
          d.summary.isSome) ∧
      (afterAll sampleUnplanned sampleLife).deployments.map (·.2.status) = [.destroyed] := by
  have hexternal (recordId : String) : (sampleWorld recordId).External := fun _ _ h => by cases h
  refine ⟨records_of_run rfl ?_ ?_, by decide +kernel⟩
  · exact fresh_visits (fun _ _ h => by cases h) (by decide) fun _ _ => rfl
  · simp [sampleLife, samplePlanning, sampleApply, sampleDestroy, hexternal]

end Groundplan.Deploy
