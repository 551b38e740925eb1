import Groundplan.Proofs.Deploy.Requests

/-!
# Statuses over a run

Every step of every task keeps to the changes of status that there are. After a task, the record of
its deployment says how it ended, so that nothing is left under way, but in one case: an application
that left a state whose resources cannot be counted. Such a deployment is being applied for ever.

## Main definitions

* `Busy`: an operation on a deployment is under way
* `Task.Yields`, `Task.Stalls`: an application left a state, and one that cannot be read
* `Idle`: the installations that runs begin with

## Main results

* `Task.writes`, `Task.busy_iff`: what one task writes, and what it leaves under way
* `fresh_visits`: tasks that draw different identifiers
* `statuses_of_run`: **the statuses over a run**
-/

namespace Groundplan.Deploy

/-! ## Definitions -/

/-- An operation is under way. -/
def Status.isBusy : Status → Bool
  | .planning => true
  | .applying => true
  | .destroying => true
  | _ => false

/-- An operation on a deployment is under way. -/
def Busy (s : Installation) (id : String) : Prop :=
  ∃ d, Entries.get? id s.deployments = some d ∧ d.status.isBusy

/-- A task applies a deployment, and this leaves a state that is not empty. -/
def Task.Yields (t : Task) (s : Installation) (id text : String) : Prop :=
  t.request = .apply id ∧ Deploy.Yields t.world id (t.events s) text

/-- A task applies a deployment, and this leaves a state that is nested too deeply to be read. -/
def Task.Stalls (t : Task) (s : Installation) (id : String) : Prop :=
  ∃ text, t.Yields s id text ∧ Json.read text = .error .tooDeep

/-- **An installation is idle**: its deployments are kept under their identifiers, and none is under
way. -/
structure Idle (s : Installation) : Prop where
  keyed : Keyed s
  calm : ∀ id, ¬ Busy s id

theorem idle_of_forall {s : Installation}
    (h : ∀ e ∈ s.deployments, e.2.id = e.1 ∧ ¬ e.2.status.isBusy) : Idle s :=
  ⟨fun _ _ hd => (h _ (Entries.mem_of_get? hd)).1,
    fun _ ⟨_, hd, hbusy⟩ => (h _ (Entries.mem_of_get? hd)).2 hbusy⟩

theorem idle_fresh (settings : Settings) : Idle (.fresh settings) :=
  idle_of_forall fun _ he => absurd he List.not_mem_nil

/-! ## One operation -/

variable {w : World} {s u : Installation} {t : Task} {d : Deployment} {op : Operation}
  {ds : Entries Deployment} {ss : SealedRecords} {es : List Event}
  {r : Except Failure Deployment}

theorem isBusy_eq_canBecome (x : Status) : x.isBusy = x.canBecome .failed := by
  cases x <;> rfl

/-- The resources of a state can be counted unless it is nested too deeply to be read. -/
theorem resourceCount_eq_error {text : String} :
    (∃ f, resourceCount (some text) = .error f) ↔ Json.read text = .error .tooDeep := by
  rw [resourceCount]
  constructor
  · rintro ⟨f, hf⟩
    split at hf
    · cases hf
    · assumption
    · cases hf
  · intro h
    exact ⟨_, by rw [h]⟩

/-- **The record at the end of a course** is the one from its beginning, under way only if the
application left a state that cannot be counted. -/
theorem Course.record (h : Course w s d op ds ss es r) (hbusy : d.status.isBusy) :
    ∃ e, ds = Entries.set d.id e s.deployments ∧ e.id = d.id ∧
      (e.status.isBusy ↔
        ∃ text, Deploy.Yields w d.id es text ∧ Json.read text = .error .tooDeep) := by
  have hfail : d.status.canBecome .failed := isBusy_eq_canBecome d.status ▸ hbusy
  -- Where there is no state, or one that was counted, none is nested too deeply.
  have hquiet (hnone : ∀ text, ¬ Deploy.Yields w d.id es text) :
      ¬ ∃ text, Deploy.Yields w d.id es text ∧ Json.read text = .error .tooDeep :=
    fun ⟨text, hy, _⟩ => hnone text hy
  have hcounted {kept : Option String} {n : Nat}
      (hkept : ∀ text, Deploy.Yields w d.id es text ↔ kept = some text)
      (hcount : resourceCount kept = .ok n) :
      ¬ ∃ text, Deploy.Yields w d.id es text ∧ Json.read text = .error .tooDeep := by
    rintro ⟨text, hy, hdeep⟩
    obtain ⟨f, hf⟩ := resourceCount_eq_error.2 hdeep
    rw [(hkept text).1 hy, hf] at hcount
    cases hcount
  cases h with
  | failed hnone =>
    refine ⟨_, rfl, id_failed _ _ _ _, ?_⟩
    rw [status_failed hfail]
    exact iff_of_false (by decide) (hquiet hnone)
  | planned _ _ _ hnone => exact ⟨_, rfl, rfl, iff_of_false Bool.false_ne_true (hquiet hnone)⟩
  | applied _ hkept hcount =>
    exact ⟨_, rfl, rfl, iff_of_false Bool.false_ne_true (hcounted hkept hcount)⟩
  | @broken _ kept n f hkept hcount =>
    have hid : (d.counting kept n).id = d.id := by cases kept <;> rfl
    have hstatus : (d.counting kept n).status = d.status := by cases kept <;> rfl
    refine ⟨_, rfl, (id_failed _ _ _ _).trans hid, ?_⟩
    rw [status_failed (by rwa [hstatus])]
    exact iff_of_false (by decide) (hcounted hkept hcount)
  | @stuck _ kept f hkept hcount =>
    refine ⟨d, rfl, rfl, iff_of_true hbusy ?_⟩
    cases kept with
    | none => cases hcount
    | some text => exact ⟨text, (hkept text).2 rfl, resourceCount_eq_error.1 ⟨f, hcount⟩⟩
  | destroyed _ hnone => exact ⟨_, rfl, rfl, iff_of_false Bool.false_ne_true (hquiet hnone)⟩

/-- Only an application leaves a state. -/
theorem Course.not_yields (h : Course w s d op ds ss es r) (hop : op ≠ .apply) (text : String) :
    ¬ Deploy.Yields w d.id es text := by
  cases h with
  | failed hnone => exact hnone text
  | planned _ _ _ hnone => exact hnone text
  | destroyed _ hnone => exact hnone text
  | applied => exact absurd rfl hop
  | broken => exact absurd rfl hop
  | stuck => exact absurd rfl hop

/-! ## One task -/

/-- The record that an operation begins with is under way, and was not before. -/
theorem Request.Begins.busy {request : Request} {user : String} (hs : Keyed s)
    (hfresh : Entries.get? w.recordId s.deployments = none) (h : request.Begins w s user d) :
    d.status.isBusy ∧ ¬ Busy s d.id := by
  -- Nothing that is under way becomes under way: the old status is no busy one.
  have hresumes {id : String} {target : Status} (htarget : target.isBusy)
      (h : Resumes s user id target d) : d.status.isBusy ∧ ¬ Busy s d.id := by
    obtain ⟨old, hold, -, hstatus, rfl⟩ := h
    refine ⟨htarget, ?_⟩
    rintro ⟨e, he, hbusy⟩
    obtain rfl : old = e := by simpa [hs id old hold, hold] using he
    revert hstatus htarget hbusy
    cases old.status <;> cases target <;> decide
  cases request with
  | plan =>
    obtain ⟨t, c, rfl⟩ := h
    refine ⟨rfl, ?_⟩
    rintro ⟨e, he, _⟩
    rw [newDeployment, hfresh] at he
    cases he
  | apply id => exact hresumes rfl h
  | destroy id => exact hresumes rfl h
  | _ => cases h

/-- The record that an application begins with is the one that was asked for. -/
theorem Request.Begins.id_apply {request : Request} {user id : String} (hs : Keyed s)
    (h : request.Begins w s user d) (hrequest : request = .apply id) : d.id = id := by
  subst hrequest
  obtain ⟨old, hold, -, -, rfl⟩ := h
  exact hs id old hold

theorem Task.stalls_iff (hs : Keyed s) (hop : t.request.operation? = some op)
    (hd : t.request.Begins t.world s t.user d) (hu : Leaves s ds ss cs es (t.after s))
    (hcourse : Course t.world s d op ds ss es r) (id : String) :
    t.Stalls s id ↔ id = d.id ∧
      ∃ text, Deploy.Yields t.world d.id es text ∧ Json.read text = .error .tooDeep := by
  unfold Task.Stalls Task.Yields
  rw [Task.events_eq hu]
  constructor
  · rintro ⟨text, ⟨hrequest, hy⟩, hdeep⟩
    obtain rfl := hd.id_apply hs hrequest
    exact ⟨rfl, text, hy, hdeep⟩
  · rintro ⟨hid, text, hy, hdeep⟩
    subst hid
    refine ⟨text, ⟨?_, hy⟩, hdeep⟩
    -- A state was left, so the operation is an application, and of this deployment.
    obtain rfl : op = .apply := by
      by_contra hne
      exact hcourse.not_yields hne text hy
    cases hrequest : t.request with
    | apply id => rw [hd.id_apply hs hrequest]
    | _ =>
      rw [hrequest] at hop
      cases hop

/-- The record that an operation begins with is new, or it was there. -/
theorem Request.Begins.id_eq_or {request : Request} {user : String} (hs : Keyed s)
    (h : request.Begins w s user d) :
    d.id = w.recordId ∨ (Entries.get? d.id s.deployments).isSome := by
  have hresumes {id : String} {target : Status} (h : Resumes s user id target d) :
      (Entries.get? d.id s.deployments).isSome := by
    obtain ⟨old, hold, -, -, rfl⟩ := h
    rw [hs id old hold, hold]
    rfl
  cases request with
  | plan =>
    obtain ⟨_, _, rfl⟩ := h
    exact .inl rfl
  | apply id => exact .inr (hresumes h)
  | destroy id => exact .inr (hresumes h)
  | _ => cases h

/-- **What one task writes**: no record, or one, which is new or of a deployment that was not under
way, and which is under way exactly if the task stalled it. -/
theorem Task.writes (hs : Keyed s) (ht : t.Fresh s) :
    ((t.after s).deployments = s.deployments ∧ ∀ id, ¬ t.Stalls s id) ∨
      ∃ e, (t.after s).deployments = Entries.set e.id e s.deployments ∧
        (e.id = t.world.recordId ∨ (Entries.get? e.id s.deployments).isSome) ∧
        ¬ Busy s e.id ∧ ∀ id, t.Stalls s id ↔ id = e.id ∧ e.status.isBusy := by
  -- Only an operation writes records, and only if it is not refused.
  cases hop : t.request.operation? with
  | none =>
    refine .inl ⟨(t.elsewhere hop s).deployments, ?_⟩
    rintro id ⟨_, ⟨hrequest, -⟩, -⟩
    rw [hrequest] at hop
    cases hop
  | some op =>
    obtain ⟨r, -, hu⟩ := t.outcome hop s
    cases hu with
    | refused hf hu =>
      refine .inl ⟨hu.untouched, ?_⟩
      rintro id ⟨_, ⟨-, _, _, _, _, hmem, _⟩, -⟩
      rw [Task.events_eq hu] at hmem
      cases hmem
    | @began d _ _ ds _ _ es hd hu _ hcourse _ =>
      obtain ⟨hbusy, hidle⟩ := Request.Begins.busy hs ht hd
      obtain ⟨e, hds, hid, hend⟩ := hcourse.record hbusy
      refine .inr ⟨e, ?_, ?_, ?_, fun id => ?_⟩
      · rw [hu.deployments, hds, hid]
      · rw [hid]
        exact hd.id_eq_or hs
      · rwa [hid]
      · rw [Task.stalls_iff hs hop hd hu hcourse, hid, hend]

/-- Deployments stay under their identifiers. -/
theorem Task.keyed_after (hs : Keyed s) (ht : t.Fresh s) : Keyed (t.after s) := by
  intro id x hx
  rcases Task.writes hs ht with ⟨hsame, -⟩ | ⟨e, hset, -⟩
  · rw [hsame] at hx
    exact hs id x hx
  · rw [hset] at hx
    by_cases hid : id = e.id
    · subst hid
      rw [Entries.get?_set_self] at hx
      cases hx
      rfl
    · rw [Entries.get?_set_of_ne hid] at hx
      exact hs id x hx

/-- **What one task leaves under way**: what was under way before, and what it stalled itself. -/
theorem Task.busy_iff (hs : Keyed s) (ht : t.Fresh s) (id : String) :
    Busy (t.after s) id ↔ Busy s id ∨ t.Stalls s id := by
  rcases Task.writes hs ht with ⟨hsame, hnot⟩ | ⟨e, hset, -, hidle, hstalls⟩
  · rw [Busy, hsame, or_iff_left (hnot id), Busy]
  · rw [hstalls]
    by_cases hid : id = e.id
    · -- The record of this task: it was not under way before.
      subst hid
      rw [or_iff_right hidle, Busy, hset, Entries.get?_set_self]
      simp
    · rw [Busy, hset, Entries.get?_set_of_ne hid, or_iff_left fun h => hid h.1, Busy]

/-- A task makes no record under an identifier that is neither in use nor its own. -/
theorem Task.get?_after (hs : Keyed s) (ht : t.Fresh s) {id : String}
    (h : Entries.get? id s.deployments = none) (hid : id ≠ t.world.recordId) :
    Entries.get? id (t.after s).deployments = none := by
  rcases Task.writes hs ht with ⟨hsame, -⟩ | ⟨e, hset, huse, -⟩
  · rw [hsame, h]
  · have hne : id ≠ e.id := by
      rintro rfl
      rcases huse with hown | hsome
      · exact hid hown
      · rw [h] at hsome
        cases hsome
    rw [hset, Entries.get?_set_of_ne hne, h]

/-! ## A run -/

/-- What a run leaves under way. -/
theorem busy_afterAll_iff {ts : List Task} (hs : Keyed s)
    (hfresh : ∀ v ∈ visits s ts, v.2.Fresh v.1) (id : String) :
    Busy (afterAll s ts) id ↔ Busy s id ∨ ∃ v ∈ visits s ts, v.2.Stalls v.1 id := by
  -- Induction on the tasks; each adds what it stalls to what was under way before it.
  induction ts generalizing s with
  | nil => simp [afterAll, visits]
  | cons t ts ih =>
    rw [visits, List.forall_mem_cons] at hfresh
    rw [afterAll, ih (Task.keyed_after hs hfresh.1) hfresh.2, Task.busy_iff hs hfresh.1, visits,
      List.exists_mem_cons_iff, or_assoc]

/-- Deployments stay under their identifiers. -/
theorem keyed_visits {ts : List Task} (hs : Keyed s) (hfresh : ∀ v ∈ visits s ts, v.2.Fresh v.1) :
    ∀ v ∈ visits s ts, Keyed v.1 := by
  induction ts generalizing s with
  | nil => simp [visits]
  | cons t ts ih =>
    rw [visits, List.forall_mem_cons] at hfresh ⊢
    exact ⟨hs, ih (Task.keyed_after hs hfresh.1) hfresh.2⟩

/-- Tasks that draw different identifiers, none of them in use, draw fresh ones. -/
theorem fresh_visits {ts : List Task} (hs : Keyed s)
    (hnodup : (ts.map (·.world.recordId)).Nodup) (hfresh : ∀ t ∈ ts, t.Fresh s) :
    ∀ v ∈ visits s ts, v.2.Fresh v.1 := by
  induction ts generalizing s with
  | nil => simp [visits]
  | cons t ts ih =>
    rw [List.map_cons, List.nodup_cons] at hnodup
    rw [List.forall_mem_cons] at hfresh
    rw [visits, List.forall_mem_cons]
    refine ⟨hfresh.1, ih (Task.keyed_after hs hfresh.1) hnodup.2 fun u hu => ?_⟩
    refine Task.get?_after hs hfresh.1 (hfresh.2 u hu) fun h => hnodup.1 ?_
    exact List.mem_map.2 ⟨u, hu, h⟩

/-- **The statuses over a run** that begins idle. Every step of every task creates a deployment that
is planning, or leaves each status as it is or changes it to one that it can become, and leaves what
is destroyed as it is. After the run, whichever it was, a deployment is under way exactly if one of
its applications left a state that is nested too deeply to be read. -/
theorem statuses_of_run {ts : List Task} (hs : Idle s)
    (hfresh : ∀ v ∈ visits s ts, v.2.Fresh v.1) :
    (∀ v ∈ visits s ts, List.IsChain StatusStep (v.1 :: v.2.work.trace v.1)) ∧
      ∀ id, Busy (afterAll s ts) id ↔ ∃ v ∈ visits s ts, v.2.Stalls v.1 id := by
  refine ⟨fun v hv => Task.isChain (keyed_visits hs.keyed hfresh v hv) (hfresh v hv), fun id => ?_⟩
  rw [busy_afterAll_iff hs.keyed hfresh, or_iff_right (hs.calm id)]

/-! ## A sample -/

/-- A vault without keys, for samples. -/
def sampleVault : Vault := ⟨fun _ => []⟩

/-- A nonce for samples. -/
def sampleNonce : List UInt8 := List.replicate 12 0

/-- A deployment that is planned. -/
def sampleDeployment : Deployment where
  id := "d"
  user := "u"
  template := "t"
  credential := "c"
  region := "us-east-1"
  status := .planReady
  createdAt := 0

/-- An installation with one deployment, which is planned. -/
def sampleInstallation : Installation where
  vault := sampleVault
  templates := [("t", ⟨"t", "u", "Site", "terraform \x7b\x7d", "terraform", none, 0⟩)]
  credentials := [("c", ⟨"c", "u", "Role",
    sampleVault.conceal sampleNonce "c" "arn:aws:iam::123456789012:role/Deploy", "x", true, 0, 0⟩)]
  deployments := [("d", sampleDeployment)]

/-- The reply of the token service that issues keys. -/
def sampleReply : Data :=
  .map [("Credentials", .map [("AccessKeyId", .text "key"), ("SecretAccessKey", .text "secret")])]

/-- A world in which everything succeeds, and an application leaves an empty list as its state. -/
def sampleWorld (recordId : String) : World where
  now := 0
  recordId := recordId
  reportId := "report"
  externalId := "x"
  nonce := sampleNonce
  environment := []
  host := fun _ => .ok sampleReply
  account := ⟨fun _ => .ok .null, fun _ => [], fun _ _ => false⟩
  tool := fun args => .ran (if args = Step.apply.args then some "[]" else none) [] (.exited 0)
  model := fun _ => .timedOut

/-- The deployment is applied. -/
def sampleApply : Task := ⟨sampleWorld "e", "u", .apply "d"⟩

/-- The deployment is destroyed. -/
def sampleDestroy : Task := ⟨sampleWorld "f", "u", .destroy "d"⟩

theorem idle_sample : Idle sampleInstallation :=
  idle_of_forall (by decide)

/-- The statuses while a deployment is applied and destroyed. -/
theorem statuses_of_run_sample :
    (∀ v ∈ visits sampleInstallation [sampleApply, sampleDestroy],
        List.IsChain StatusStep (v.1 :: v.2.work.trace v.1)) ∧
      ∀ id, Busy (afterAll sampleInstallation [sampleApply, sampleDestroy]) id ↔
        ∃ v ∈ visits sampleInstallation [sampleApply, sampleDestroy], v.2.Stalls v.1 id :=
  statuses_of_run idle_sample (fresh_visits idle_sample.keyed (by decide) (by decide))

end Groundplan.Deploy
