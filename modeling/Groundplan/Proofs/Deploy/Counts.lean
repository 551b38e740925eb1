import Groundplan.Proofs.Deploy.Records
import Groundplan.Proofs.Deploy.Summaries

/-!
# Counted resources

How many resources a deployment has is written in three places. Its plan says how many there will
be, an application counts those of the state that it leaves, and a destruction leaves none. What is
there when no operation is under way is the count of the kept state, but for one way to end: an
application that fails without leaving a state does not touch the number, which is then still that
of the plan.

## Main definitions

* `Deployment.plannedCount`: the number of resources that a plan makes or changes
* `Task.Completes`: a task applies a deployment, and does not fail
* `Tally`: **the number of a record**, by the kept state
* `Counted`: the numbers of a state

## Main results

* `Tally.counts_iff`: when a number is right
* `Course.tallied`: the number at the end of an operation
* `Counted.task`, `Counted.run`: what a task and a run leave
* `counts_of_run`: **the numbers after a run**
-/

namespace Groundplan.Deploy

variable {w : World} {s t : Installation} {user id : String} {d : Deployment} {op : Operation}
  {state : Option String} {applied : Prop}

/-! ## Definitions -/

/-- The number of resources that the plan of a deployment makes or changes. -/
def Deployment.plannedCount (d : Deployment) : Int :=
  match d.summary with
  | none => 0
  | some p => p.add + p.change

/-- A task applies a deployment: it is asked to, and does not fail. -/
def Task.Completes (t : Task) (s : Installation) (id : String) : Prop :=
  t.request = .apply id ∧ ∃ reply, t.answer s = .ok reply

/-- The number of a record is the number of resources that a state lists. -/
def Deployment.Counts (d : Deployment) (state : Option String) : Prop :=
  ∃ n : Nat, Deploy.resourceCount state = .ok n ∧ d.resourceCount = n

/-- **The number of a record**, by the state that is kept and whether an application succeeded. -/
structure Tally (d : Deployment) (state : Option String) (applied : Prop) : Prop where
  counted : state ≠ none ∨ applied → d.Counts state
  planned : state = none → ¬ applied → d.resourceCount = d.plannedCount

/-- The number of a record when no operation is under way. A record that stays as an application
began has a state that cannot be counted. -/
structure Tallied (d : Deployment) (state : Option String) (applied : Prop) : Prop where
  tally : d.status = .succeeded ∨ d.status = .failed → Tally d state applied
  /-- What is planned was not applied, and so nothing is kept of it. -/
  ready : d.status = .planReady → Tally d state applied ∧ state = none ∧ ¬ applied
  completed : d.status = .succeeded → applied

theorem plannedCount_failed (d : Deployment) (now : Instant) (op : Operation) (f : Failure) :
    (d.failed now op f).plannedCount = d.plannedCount := by
  rw [Deployment.plannedCount, summary_failed, Deployment.plannedCount]

theorem resourceCount_failed (d : Deployment) (now : Instant) (op : Operation) (f : Failure) :
    (d.failed now op f).resourceCount = d.resourceCount := by
  show (d.withOutput op f).resourceCount = _
  rw [Deployment.withOutput.eq_def]
  split <;> rfl

/-- The number is right if something is kept or was applied, or if nothing was planned. -/
theorem Tally.counts_iff (h : Tally d state applied) :
    d.Counts state ↔ state ≠ none ∨ applied ∨ d.plannedCount = 0 := by
  rw [← or_assoc]
  by_cases hcounted : state ≠ none ∨ applied
  · exact iff_of_true (h.counted hcounted) (.inl hcounted)
  · rw [or_iff_right hcounted]
    rw [not_or, not_not] at hcounted
    obtain ⟨rfl, hnot⟩ := hcounted
    rw [Deployment.Counts, h.planned rfl hnot]
    constructor
    · rintro ⟨n, ⟨⟩, hcount⟩
      exact hcount
    · exact fun hzero => ⟨0, rfl, hzero⟩

/-- A failure does not touch the number. -/
theorem Tally.failed (h : Tally d state applied) (hstatus : d.status.canBecome .failed)
    (now : Instant) (op : Operation) (f : Failure) : Tallied (d.failed now op f) state applied := by
  have hfailed := status_failed hstatus now op f
  refine ⟨fun _ => ⟨?_, ?_⟩, fun hready => ?_, fun hsucceeded => ?_⟩
  · rw [Deployment.Counts, resourceCount_failed]
    exact h.counted
  · rw [resourceCount_failed, plannedCount_failed]
    exact h.planned
  · rw [hfailed] at hready
    cases hready
  · rw [hfailed] at hsucceeded
    cases hsucceeded

/-! ## Operations -/

variable {ds : Entries Deployment} {ss : SealedRecords} {es : List Event}
  {r : Except Failure Deployment}

/-- What is kept of a deployment for which nothing was kept before. -/
theorem retrieve_keptBy_self (hnonce : Seal.isNonce w.nonce = true)
    (hkept : s.states.retrieve s.vault id = .ok none) (kept : Option String) :
    (keptBy w id kept s).states.retrieve s.vault id = .ok kept := by
  cases kept with
  | none => exact hkept
  | some text => exact SealedRecords.retrieve_store_self hnonce text

/-- **The number at the end of an operation.** -/
theorem Course.tallied (h : Course w s d op ds ss es r) (hnonce : Seal.isNonce w.nonce = true)
    (hstatus : d.status.canBecome .failed) (hkept : s.states.retrieve s.vault d.id = .ok state)
    (hd : Tally d state applied) (hnew : op ≠ .destroy → state = none ∧ ¬ applied) :
    ∃ e state', ds = Entries.set d.id e s.deployments ∧ ss.retrieve s.vault d.id = .ok state' ∧
      Tallied e state' (applied ∨ op = .apply ∧ ∃ x, r = .ok x) := by
  -- A failure completes no application.
  have herror {f : Failure} : (applied ∨ op = .apply ∧
      ∃ x : Deployment, (.error f : Except Failure Deployment) = .ok x) ↔ applied := by
    rw [or_iff_left]
    rintro ⟨-, x, ⟨⟩⟩
  cases h with
  | failed => exact ⟨_, state, rfl, hkept, by rw [herror]; exact hd.failed hstatus _ _ _⟩
  | planned result summary report =>
    obtain ⟨rfl, hnot⟩ := hnew (by decide)
    have hstill : ¬ (applied ∨ Operation.plan = .apply ∧
        ∃ x, (.ok (d.planned result summary report) : Except Failure Deployment) = .ok x) := by
      rintro (happlied | ⟨⟨⟩, -⟩)
      exact hnot happlied
    refine ⟨_, none, rfl, hkept, ?_, fun _ => ⟨⟨?_, fun _ _ => rfl⟩, rfl, hstill⟩, nofun⟩
    · rintro (hs | hs) <;> cases hs
    · exact fun hsome => absurd (hsome.resolve_left fun hne => hne rfl) hstill
  | @applied _ kept n result _ hcount =>
    obtain ⟨rfl, -⟩ := hnew (by decide)
    have hdone : applied ∨ Operation.apply = .apply ∧
        ∃ x, (.ok (d.applied w.now result n) : Except Failure Deployment) = .ok x :=
      .inr ⟨rfl, _, rfl⟩
    exact ⟨_, kept, rfl, retrieve_keptBy_self hnonce hkept kept,
      fun _ => ⟨fun _ => ⟨n, hcount, rfl⟩, fun _ hnot => absurd hdone hnot⟩, nofun, fun _ => hdone⟩
  | @broken _ kept n f _ hcount =>
    obtain ⟨rfl, hnot⟩ := hnew (by decide)
    refine ⟨_, kept, rfl, retrieve_keptBy_self hnonce hkept kept, ?_⟩
    rw [herror]
    -- Only a state that was left is counted.
    cases kept with
    | none => exact hd.failed hstatus _ _ _
    | some text =>
      have hcounting : Tally (d.counting (some text) n) (some text) applied :=
        ⟨fun _ => ⟨n, hcount, rfl⟩, nofun⟩
      exact hcounting.failed hstatus _ _ _
  | @stuck _ kept f _ hcount =>
    obtain ⟨rfl, -⟩ := hnew (by decide)
    have hbusy {status : Status} (h : status.canBecome .failed = false) : d.status ≠ status := by
      rintro rfl
      exact Bool.false_ne_true (h.symm.trans hstatus)
    refine ⟨d, kept, rfl, retrieve_keptBy_self hnonce hkept kept, ?_, ?_, ?_⟩
    · rintro (hs | hs) <;> exact absurd hs (hbusy rfl)
    · exact fun hs => absurd hs (hbusy rfl)
    · exact fun hs => absurd hs (hbusy rfl)
  | destroyed =>
    refine ⟨_, none, rfl, SealedRecords.retrieve_delete_self, ?_, nofun, nofun⟩
    rintro (hs | hs) <;> cases hs

/-! ## Tasks -/

/-- **The numbers of a state**: those of its records, by what is kept of them. Of a deployment that
is not there nothing is kept. -/
structure Counted (s : Installation) (applied : String → Prop) : Prop where
  unknown : ∀ id, Entries.get? id s.deployments = none →
    retrieved s id = .ok none ∧ ¬ applied id
  known : ∀ id d, Entries.get? id s.deployments = some d →
    ∃ state, retrieved s id = .ok state ∧ Tallied d state (applied id)

variable {applied applied' : String → Prop}

/-- **The number that a request begins with.** -/
theorem Request.Begins.tally {request : Request} (h : Counted s applied) (hs : Keyed s)
    (hfresh : Entries.get? w.recordId s.deployments = none)
    (hop : request.operation? = some op) (hd : request.Begins w s user d) :
    ∃ state, retrieved s d.id = .ok state ∧ Tally d state (applied d.id) ∧
      (op ≠ .destroy → state = none ∧ ¬ applied d.id) := by
  -- A plan starts a record; an application and a destruction take one up that is there.
  cases request with
  | plan template credential region =>
    obtain ⟨t, c, rfl⟩ := hd
    obtain ⟨hkept, hnot⟩ := h.unknown _ hfresh
    exact ⟨none, hkept, ⟨fun _ => ⟨0, rfl, rfl⟩, fun _ _ => rfl⟩, fun _ => ⟨rfl, hnot⟩⟩
  | apply id =>
    obtain ⟨old, hold, -, hcan, rfl⟩ := hd
    obtain rfl := hs id old hold
    obtain ⟨state, hkept, htallied⟩ := h.known _ old hold
    obtain ⟨htally, hnew⟩ := htallied.ready (Status.eq_planReady_of_canBecome hcan)
    exact ⟨state, hkept, ⟨htally.counted, htally.planned⟩, fun _ => hnew⟩
  | destroy id =>
    cases hop
    obtain ⟨old, hold, -, hcan, rfl⟩ := hd
    obtain rfl := hs id old hold
    obtain ⟨state, hkept, htallied⟩ := h.known _ old hold
    have hended : old.status = .succeeded ∨ old.status = .failed := by
      revert hcan
      cases old.status <;> decide
    have htally := htallied.tally hended
    exact ⟨state, hkept, ⟨htally.counted, htally.planned⟩, fun hne => absurd rfl hne⟩
  | _ => cases hop

section Kept

variable (h : Counted s applied)

include h

/-- Records and states that are left alone, when no application succeeds. -/
theorem Counted.congr (ht : t.deployments = s.deployments)
    (hkept : ∀ id, retrieved t id = retrieved s id) (happlied : ∀ id, applied' id ↔ applied id) :
    Counted t applied' := by
  obtain rfl : applied' = applied := funext fun id => propext (happlied id)
  refine ⟨fun id hid => ?_, fun id d hd => ?_⟩
  · rw [hkept]
    exact h.unknown id (ht ▸ hid)
  · rw [hkept]
    exact h.known id d (ht ▸ hd)

/-- One record is written, and what is kept of it. -/
theorem Counted.set {e : Deployment} (ht : t.deployments = Entries.set id e s.deployments)
    (hkept : retrieved t id = .ok state) (he : Tallied e state (applied' id))
    (hothers : ∀ other, other ≠ id →
      retrieved t other = retrieved s other ∧ (applied' other ↔ applied other)) :
    Counted t applied' := by
  refine ⟨fun other hother => ?_, fun other d hd => ?_⟩ <;> by_cases hid : other = id
  · rw [ht, hid, Entries.get?_set_self] at hother
    cases hother
  · rw [ht, Entries.get?_set_of_ne hid] at hother
    rw [(hothers other hid).1, (hothers other hid).2]
    exact h.unknown other hother
  · subst hid
    rw [ht, Entries.get?_set_self] at hd
    cases hd
    exact ⟨state, hkept, he⟩
  · rw [ht, Entries.get?_set_of_ne hid] at hd
    rw [(hothers other hid).1, (hothers other hid).2]
    exact h.known other d hd

end Kept

/-- **An application succeeds** exactly for the deployment of an operation that is one. -/
theorem Task.completes_iff {t : Task} (hs : Keyed s) (hop : t.request.operation? = some op)
    (hd : t.request.Begins t.world s t.user d) (hanswer : t.answer s = r.map .deployment) :
    t.Completes s id ↔ id = d.id ∧ op = .apply ∧ ∃ x, r = .ok x := by
  rw [Task.Completes, hanswer]
  constructor
  · rintro ⟨hrequest, reply, hreply⟩
    rw [hrequest] at hop
    refine ⟨(hd.id_apply hs hrequest).symm, (Option.some.inj hop).symm, ?_⟩
    cases r with
    | error f => cases hreply
    | ok x => exact ⟨x, rfl⟩
  · rintro ⟨rfl, rfl, x, rfl⟩
    refine ⟨?_, _, rfl⟩
    cases hrequest : t.request with
    | apply id => rw [hd.id_apply hs hrequest]
    | _ =>
      rw [hrequest] at hop
      cases hop

/-- **One task** leaves the numbers of its state. -/
theorem Counted.task {t : Task} (h : Counted s applied) (hs : Keyed s) (ht : t.Fresh s)
    (hnonce : Seal.isNonce t.world.nonce = true) :
    Counted (t.after s) fun id => applied id ∨ t.Completes s id := by
  cases hop : t.request.operation? with
  | none =>
    have hu := t.elsewhere hop s
    refine h.congr hu.deployments (fun id => ?_) fun id => or_iff_left ?_
    · rw [retrieved, retrieved, hu.states, hu.vault]
    · rintro ⟨hrequest, -⟩
      rw [hrequest] at hop
      cases hop
  | some op =>
    obtain ⟨r, hanswer, hu⟩ := t.outcome hop s
    -- An operation that is refused begins nothing; any other leads to what its course came to.
    cases hu with
    | refused _ hu =>
      refine h.congr hu.untouched (fun id => hu.retrieved id) fun id => or_iff_left ?_
      rintro ⟨-, reply, hreply⟩
      rw [hanswer] at hreply
      cases hreply
    | began hd hu _ hcourse _ =>
      obtain ⟨state, hkept, htally, hnew⟩ := hd.tally h hs ht hop
      have hbusy := (hd.busy hs ht).1
      rw [isBusy_eq_canBecome] at hbusy
      obtain ⟨e, state', rfl, hkept', htallied⟩ := hcourse.tallied hnonce hbusy hkept htally hnew
      have hcompletes (id : String) : t.Completes s id ↔ id = _ ∧ op = .apply ∧ ∃ x, r = .ok x :=
        Task.completes_iff hs hop hd hanswer
      refine h.set hu.deployments ((hu.retrieved _).trans hkept') ?_ fun id hid => ⟨?_, ?_⟩
      · rwa [hcompletes, and_iff_right rfl]
      · rw [hu.retrieved, hcourse.retrieve_of_ne hid, retrieved]
      · exact or_iff_left fun hc => hid ((hcompletes id).1 hc).1

/-! ## A run -/

/-- The numbers after a run, and the applications that succeeded before and in it. -/
theorem Counted.run {ts : List Task} (h : Counted s applied) (hs : Keyed s)
    (hfresh : ∀ v ∈ visits s ts, v.2.Fresh v.1)
    (hnonce : ∀ t ∈ ts, Seal.isNonce t.world.nonce = true) :
    Counted (afterAll s ts) fun id => applied id ∨ ∃ v ∈ visits s ts, v.2.Completes v.1 id := by
  -- Induction on the run, where the first task counts among those before.
  induction ts generalizing s applied with
  | nil => simpa [afterAll, visits] using h
  | cons t ts ih =>
    rw [visits, List.forall_mem_cons] at hfresh
    rw [List.forall_mem_cons] at hnonce
    have hnext := ih (h.task hs hfresh.1 hnonce.1) (Task.keyed_after hs hfresh.1) hfresh.2 hnonce.2
    simpa only [afterAll, visits, List.exists_mem_cons_iff, or_assoc] using hnext

/-- **The numbers after a run** that begins with nothing, if each task draws a fresh identifier.
What is kept of a deployment that succeeded or failed can be unsealed and counted. The number of its
record is that of the resources that are listed there, and zero if nothing is kept, unless it failed
before any application succeeded or left a state: then it is still what the plan came to, which is
right only if this was nothing. -/
theorem counts_of_run {ts : List Task} (hs : s.deployments = [])
    (hstates : ∀ id, retrieved s id = .ok none) (hfresh : ∀ v ∈ visits s ts, v.2.Fresh v.1)
    (hnonce : ∀ t ∈ ts, Seal.isNonce t.world.nonce = true)
    (hd : Entries.get? id (afterAll s ts).deployments = some d)
    (hended : d.status = .succeeded ∨ d.status = .failed) :
    ∃ state, retrieved (afterAll s ts) id = .ok state ∧
      (d.Counts state ↔
        state ≠ none ∨ (∃ v ∈ visits s ts, v.2.Completes v.1 id) ∨ d.plannedCount = 0) ∧
      (d.status = .succeeded → d.Counts state) ∧
      (state = none → (¬ ∃ v ∈ visits s ts, v.2.Completes v.1 id) →
        d.resourceCount = d.plannedCount) := by
  have hnone (id : String) : Entries.get? id s.deployments = none := by
    rw [hs]
    rfl
  -- There are no records at the start, so all of them are counted.
  have hkeyed : Keyed s := fun id d hd => by
    rw [hnone] at hd
    cases hd
  have hstart : Counted s fun _ => False :=
    ⟨fun id _ => ⟨hstates id, not_false⟩, fun id d hd => by rw [hnone] at hd; cases hd⟩
  obtain ⟨state, hkept, htallied⟩ := (hstart.run hkeyed hfresh hnonce).known id d hd
  simp only [false_or] at htallied
  have htally := htallied.tally hended
  exact ⟨state, hkept, htally.counts_iff, fun hs => htally.counted (.inr (htallied.completed hs)),
    htally.planned⟩

/-- A deployment is planned with four resources, and then the tool fails before it is applied. -/
def sampleBreakdown : List Task :=
  [⟨planningWorld "Plan: 3 to add, 1 to change, 0 to destroy.\n", "u", .plan "t" "c" "us-east-1"⟩,
    ⟨{ sampleWorld "f" with tool := fun _ => .ran none [] (.exited 1) }, "u", .apply "e"⟩]

/-- Nothing was made and nothing is kept, and the record still has the number of its plan. -/
theorem counts_of_run_sample :
    ∃ d, Entries.get? "e" (afterAll sampleUnplanned sampleBreakdown).deployments = some d ∧
      d.status = .failed ∧ d.resourceCount = 4 ∧
      ∃ state, retrieved (afterAll sampleUnplanned sampleBreakdown) "e" = .ok state ∧
        ¬ d.Counts state := by
  have hends : let last := afterAll sampleUnplanned sampleBreakdown
      (Entries.get? "e" last.deployments).map (fun d => (d.status, d.resourceCount)) =
        some (.failed, 4) ∧ (retrieved last "e").toOption = some none := by
    decide +kernel
  obtain ⟨d, hd, hfields⟩ := Option.map_eq_some_iff.1 hends.1
  have hkept := hends.2
  rw [Prod.mk.injEq] at hfields
  have hfresh : ∀ v ∈ visits sampleUnplanned sampleBreakdown, v.2.Fresh v.1 :=
    fresh_visits (fun _ _ h => by cases h) (by decide) fun _ _ => rfl
  have hnonce : ∀ t ∈ sampleBreakdown, Seal.isNonce t.world.nonce = true := by decide
  obtain ⟨state, hstate, -⟩ :=
    counts_of_run rfl (fun _ => rfl) hfresh hnonce hd (.inr hfields.1)
  refine ⟨d, hd, hfields.1, hfields.2, state, hstate, ?_⟩
  rw [hstate] at hkept
  cases hkept
  rintro ⟨n, hn, hcount⟩
  cases hn
  rw [hfields.2] at hcount
  cases hcount

end Groundplan.Deploy
