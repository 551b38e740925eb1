import Groundplan.Proofs.Deploy.Statuses
import Groundplan.Proofs.Seal.Vault

/-!
# Kept states

What an application leaves is all that is known of the resources that it made, so it is kept until
they are destroyed. A deployment that was applied is not applied again, and nothing but its own
destruction touches what is kept of it: whatever else is done, by whomever, and however a
destruction fails.

## Main definitions

* `retrieved`: the state that is kept of a deployment, unsealed
* `Task.Destroys`: a task destroys a deployment
* `Holds`: a deployment that was applied, and what is kept of it

## Main results

* `Task.holds_of_yields`: what an application leaves is kept
* `Holds.task`, `Holds.run`: **what is kept stays until the deployment is destroyed**
* `Holds.restored`: a destruction begins from what is kept
* `state_kept_until_destroyed`: the kept state over a run
-/

namespace Groundplan.Deploy

/-! ## Definitions -/

/-- The state that is kept of a deployment, unsealed. -/
def retrieved (s : Installation) (id : String) : Answer (Option String) :=
  s.states.retrieve s.vault id

/-- A task destroys a deployment: it is asked to, and does not fail. -/
def Task.Destroys (t : Task) (s : Installation) (id : String) : Prop :=
  t.request = .destroy id ∧ ∃ reply, t.answer s = .ok reply

/-- **A deployment that was applied**, and what is kept of it: as long as it is not destroyed this
is some state, and it cannot be applied again. -/
structure Holds (s : Installation) (id : String) (state : Option String) : Prop where
  applied : ∃ d, Entries.get? id s.deployments = some d ∧ d.status ≠ .planReady ∧
    (state = none → d.status = .destroyed)
  kept : retrieved s id = .ok state

variable {s : Installation} {t : Task} {w : World} {d : Deployment} {op : Operation}
  {ds : Entries Deployment} {ss : SealedRecords} {es : List Event} {r : Except Failure Deployment}
  {id text : String} {state : Option String}

/-! ## Courses -/

/-- A course concerns its own deployment: the records of others stay. -/
theorem Course.get?_of_ne (h : Course w s d op ds ss es r) (hid : id ≠ d.id) :
    Entries.get? id ds = Entries.get? id s.deployments := by
  cases h <;> exact Entries.get?_set_of_ne hid _ _

/-- Keeping a state leaves what is kept of other deployments as it is. -/
theorem retrieve_keptBy_of_ne (w : World) (kept : Option String) (s : Installation)
    (h : id ≠ d.id) :
    (keptBy w d.id kept s).states.retrieve s.vault id = s.states.retrieve s.vault id := by
  cases kept with
  | none => rfl
  | some text => exact SealedRecords.retrieve_store_of_ne h text

/-- The states of other deployments stay as well. -/
theorem Course.retrieve_of_ne (h : Course w s d op ds ss es r) (hid : id ≠ d.id) :
    ss.retrieve s.vault id = s.states.retrieve s.vault id := by
  cases h with
  | failed => rfl
  | planned => rfl
  | applied => exact retrieve_keptBy_of_ne w _ s hid
  | broken => exact retrieve_keptBy_of_ne w _ s hid
  | stuck => exact retrieve_keptBy_of_ne w _ s hid
  | destroyed => exact SealedRecords.retrieve_delete_of_ne hid

/-- **What an application leaves is kept**, however the application ends, and its record waits for
no other. -/
theorem Course.keeps (h : Course w s d .apply ds ss es r) (hstatus : d.status = .applying)
    (hnonce : Seal.isNonce w.nonce = true) (hy : Deploy.Yields w d.id es text) :
    (∃ e, Entries.get? d.id ds = some e ∧ e.status ≠ .planReady) ∧
      ss.retrieve s.vault d.id = .ok (some text) := by
  have hstored {kept : Option String} (hkept : kept = some text) :
      (keptBy w d.id kept s).states.retrieve s.vault d.id = .ok (some text) := by
    subst hkept
    exact SealedRecords.retrieve_store_self hnonce text
  cases h with
  | failed hnone => exact absurd hy (hnone text)
  | applied r hkept =>
    refine ⟨⟨_, Entries.get?_set_self _ _ _, ?_⟩, hstored ((hkept text).1 hy)⟩
    exact Status.noConfusion
  | @broken _ kept n _ hkept =>
    refine ⟨⟨_, Entries.get?_set_self _ _ _, ?_⟩, hstored ((hkept text).1 hy)⟩
    have hcounting : (d.counting kept n).status = d.status := by cases kept <;> rfl
    rw [status_failed (by rw [hcounting, hstatus]; rfl)]
    exact Status.noConfusion
  | stuck hkept =>
    refine ⟨⟨d, Entries.get?_set_self _ _ _, ?_⟩, hstored ((hkept text).1 hy)⟩
    rw [hstatus]
    exact Status.noConfusion

/-- A destruction fails and leaves the state where it is, or it succeeds and drops it. -/
theorem Course.of_destroy (h : Course w s d .destroy ds ss es r)
    (hstatus : d.status = .destroying) :
    (∃ f e, r = .error f ∧ Entries.get? d.id ds = some e ∧ e.status = .failed ∧ ss = s.states) ∨
      ∃ e, r = .ok e ∧ Entries.get? d.id ds = some e ∧ e.status = .destroyed ∧
        ss.retrieve s.vault d.id = .ok none := by
  cases h with
  | failed =>
    refine .inl ⟨_, _, rfl, Entries.get?_set_self _ _ _, ?_, rfl⟩
    exact status_failed (by rw [hstatus]; rfl) _ _ _
  | destroyed =>
    exact .inr ⟨_, rfl, Entries.get?_set_self _ _ _, rfl, SealedRecords.retrieve_delete_self⟩

/-! ## One task -/

/-- What is kept after an operation. -/
theorem Leaves.retrieved {cs : Credits} {u : Installation} (h : Leaves s ds ss cs es u)
    (id : String) : retrieved u id = ss.retrieve s.vault id := by
  obtain ⟨_, _, _, _, rfl⟩ := h
  rfl

/-- Where the record and the state stay, what is held is held. -/
theorem Holds.of_same {u : Installation} (h : Holds s id state)
    (hrecord : Entries.get? id u.deployments = Entries.get? id s.deployments)
    (hkept : retrieved u id = retrieved s id) : Holds u id state := by
  refine ⟨?_, hkept.trans h.kept⟩
  rw [hrecord]
  exact h.applied

/-- **What an application leaves is kept.** -/
theorem Task.holds_of_yields (hs : Keyed s) (hy : t.Yields s id text)
    (hnonce : Seal.isNonce t.world.nonce = true) : Holds (t.after s) id (some text) := by
  obtain ⟨hrequest, hy⟩ := hy
  have hop : t.request.operation? = some .apply := by rw [hrequest]; rfl
  obtain ⟨r, -, hu⟩ := t.outcome hop s
  cases hu with
  | refused _ hu =>
    -- Nothing was run, so nothing was left.
    rw [Task.events_eq hu] at hy
    obtain ⟨_, _, _, _, hmem, _⟩ := hy
    cases hmem
  | began hd hu _ hcourse _ =>
    obtain rfl := hd.id_apply hs hrequest
    rw [Task.events_eq hu] at hy
    rw [hrequest] at hd
    obtain ⟨old, -, -, -, rfl⟩ := hd
    obtain ⟨⟨e, hget, hstatus⟩, hkept⟩ := hcourse.keeps rfl hnonce hy
    refine ⟨⟨e, ?_, hstatus, nofun⟩, (hu.retrieved _).trans hkept⟩
    rw [hu.deployments, hget]

/-- Of a deployment that was applied, only a destruction can begin, and only if it was not destroyed
already. -/
theorem Holds.begins {user : String} {request : Request} (h : Holds s d.id state) (hs : Keyed s)
    (hfresh : Entries.get? w.recordId s.deployments = none) (hd : request.Begins w s user d) :
    request = .destroy d.id ∧ d.status = .destroying ∧ state ≠ none := by
  obtain ⟨old, hold, hspent, hnone⟩ := h.applied
  -- What is resumed is the record that is held.
  have hresumes {id : String} {target : Status} (h : Resumes s user id target d) :
      d.id = id ∧ d.status = target ∧ old.status.canBecome target := by
    obtain ⟨other, hother, -, hstatus, rfl⟩ := h
    have hid := hs id other hother
    obtain rfl : other = old := by simpa [hid, hother] using hold
    exact ⟨hid, rfl, hstatus⟩
  cases request with
  | plan =>
    obtain ⟨t, c, rfl⟩ := hd
    rw [newDeployment, hfresh] at hold
    cases hold
  | apply id =>
    obtain ⟨-, -, hstatus⟩ := hresumes hd
    exact absurd (Status.eq_planReady_of_canBecome hstatus) hspent
  | destroy id =>
    obtain ⟨rfl, hstatus, hcan⟩ := hresumes hd
    refine ⟨rfl, hstatus, fun hstate => ?_⟩
    rw [hnone hstate, Status.not_canBecome_of_destroyed] at hcan
    cases hcan
  | _ => cases hd

/-- The destruction of what was applied fails and leaves what is kept, or it succeeds and drops
it. -/
theorem Holds.destruction {cs : Credits} {u : Installation} (h : Holds s d.id state)
    (hstate : state ≠ none) (hstatus : d.status = .destroying) (hu : Leaves s ds ss cs es u)
    (hcourse : Course w s d .destroy ds ss es r) :
    (∃ f, r = .error f) ∧ Holds u d.id state ∨ (∃ e, r = .ok e) ∧ Holds u d.id none := by
  rcases hcourse.of_destroy hstatus with ⟨f, e, rfl, hget, he, rfl⟩ | ⟨e, rfl, hget, he, hkept⟩
  · refine .inl ⟨⟨f, rfl⟩, ⟨e, ?_, ?_, fun hnone => absurd hnone hstate⟩, ?_⟩
    · rw [hu.deployments, hget]
    · rw [he]
      exact Status.noConfusion
    · rw [hu.retrieved]
      exact h.kept
  · refine .inr ⟨⟨e, rfl⟩, ⟨e, ?_, ?_, fun _ => he⟩, ?_⟩
    · rw [hu.deployments, hget]
    · rw [he]
      exact Status.noConfusion
    · rw [hu.retrieved, hkept]

/-- **What is kept stays** through any task, unless the task destroys the deployment. -/
theorem Holds.task (h : Holds s id state) (hs : Keyed s) (ht : t.Fresh s) :
    (t.Destroys s id → Holds (t.after s) id none) ∧
      (¬ t.Destroys s id → Holds (t.after s) id state) := by
  -- A task that leaves the record and the state alone, and does not destroy the deployment.
  have hsame (hnot : ¬ t.Destroys s id)
      (hrecord : Entries.get? id (t.after s).deployments = Entries.get? id s.deployments)
      (hkept : retrieved (t.after s) id = retrieved s id) :
      (t.Destroys s id → Holds (t.after s) id none) ∧
        (¬ t.Destroys s id → Holds (t.after s) id state) :=
    ⟨fun hd => absurd hd hnot, fun _ => h.of_same hrecord hkept⟩
  cases hop : t.request.operation? with
  | none =>
    have hu := t.elsewhere hop s
    refine hsame ?_ (by rw [hu.deployments]) ?_
    · rintro ⟨hrequest, -⟩
      rw [hrequest] at hop
      cases hop
    · rw [retrieved, retrieved, hu.states, hu.vault]
  | some op =>
    obtain ⟨r, hanswer, hu⟩ := t.outcome hop s
    cases hu with
    | refused hf hu =>
      refine hsame ?_ (by rw [hu.deployments]) (hu.retrieved id)
      rintro ⟨-, reply, hreply⟩
      rw [hanswer] at hreply
      cases hreply
    | @began d _ _ _ _ _ _ hd hu _ hcourse _ =>
      by_cases hid : id = d.id
      · -- An operation on the deployment itself, which can only be its destruction.
        subst hid
        obtain ⟨hrequest, hstatus, hstate⟩ := h.begins hs ht hd
        obtain rfl : op = .destroy := by
          rw [hrequest] at hop
          exact (Option.some.inj hop).symm
        rcases h.destruction hstate hstatus hu hcourse with ⟨⟨f, rfl⟩, hkept⟩ | ⟨⟨e, rfl⟩, hgone⟩
        · refine ⟨?_, fun _ => hkept⟩
          rintro ⟨-, reply, hreply⟩
          rw [hanswer] at hreply
          cases hreply
        · refine ⟨fun _ => hgone, fun hnot => ?_⟩
          exact absurd ⟨hrequest, .deployment e, hanswer⟩ hnot
      · -- An operation on another deployment.
        refine hsame ?_ ?_ ?_
        · rintro ⟨hrequest, -⟩
          rw [hrequest] at hd
          obtain ⟨old, hold, -, -, rfl⟩ := hd
          exact hid (hs id old hold).symm
        · rw [hu.deployments, hcourse.get?_of_ne hid]
        · rw [hu.retrieved, hcourse.retrieve_of_ne hid, retrieved]

/-- A destruction of what was applied is only run if something is kept, and begins from this. -/
theorem Holds.restored (h : Holds s id state) (hs : Keyed s) (hrequest : t.request = .destroy id)
    {run : ToolRun} (hrun : .ran run ∈ t.events s) (hargs : run.args = Step.destroy.args) :
    ∃ text, state = some text ∧ (text ≠ "" → Entries.get? stateFile run.files = some text) := by
  have hop : t.request.operation? = some .destroy := by rw [hrequest]; rfl
  obtain ⟨r, -, hu⟩ := t.outcome hop s
  cases hu with
  | refused _ hu =>
    rw [Task.events_eq hu] at hrun
    cases hrun
  | began hd hu _ _ hfiles =>
    rw [hrequest] at hd
    obtain ⟨old, hold, -, hcan, rfl⟩ := hd
    obtain rfl := hs id old hold
    rw [Task.events_eq hu] at hrun
    cases state with
    -- What was destroyed is not destroyed again.
    | none =>
      obtain ⟨e, he, -, hnone⟩ := h.applied
      obtain rfl : old = e := by simpa [hold] using he
      rw [hnone rfl, Status.not_canBecome_of_destroyed] at hcan
      cases hcan
    | some text => exact ⟨text, rfl, fun hne => hfiles run hrun hargs text hne h.kept⟩

/-! ## A run -/

theorem afterAll_append (s : Installation) (ts us : List Task) :
    afterAll s (ts ++ us) = afterAll (afterAll s ts) us := by
  induction ts generalizing s with
  | nil => rfl
  | cons t ts ih => exact ih _

theorem visits_append (s : Installation) (ts us : List Task) :
    visits s (ts ++ us) = visits s ts ++ visits (afterAll s ts) us := by
  induction ts generalizing s with
  | nil => rfl
  | cons t ts ih =>
    rw [List.cons_append, visits, visits, afterAll, ih]
    rfl

/-- Deployments are under their identifiers after a run. -/
theorem keyed_afterAll {ts : List Task} (hs : Keyed s)
    (hfresh : ∀ v ∈ visits s ts, v.2.Fresh v.1) : Keyed (afterAll s ts) := by
  induction ts generalizing s with
  | nil => exact hs
  | cons t ts ih =>
    rw [visits, List.forall_mem_cons] at hfresh
    exact ih (Task.keyed_after hs hfresh.1) hfresh.2

/-- **What is kept through a run**: the state stays until a task destroys the deployment, and from
then on there is none. Every task of the run meets the one or the other. -/
theorem Holds.run {ts : List Task} (h : Holds s id state) (hs : Keyed s)
    (hfresh : ∀ v ∈ visits s ts, v.2.Fresh v.1) :
    ((∃ v ∈ visits s ts, v.2.Destroys v.1 id) → Holds (afterAll s ts) id none) ∧
      ((∀ v ∈ visits s ts, ¬ v.2.Destroys v.1 id) → Holds (afterAll s ts) id state) ∧
      ∀ v ∈ visits s ts, Holds v.1 id state ∨ Holds v.1 id none := by
  -- Induction on the tasks. From the task that destroys the deployment on, the state is `none`, and
  -- then both sides of the statement say the same.
  induction ts generalizing s state with
  | nil => exact ⟨by simp [visits], fun _ => h, by simp [visits]⟩
  | cons t ts ih =>
    rw [visits, List.forall_mem_cons] at hfresh
    simp only [visits, List.exists_mem_cons_iff, List.forall_mem_cons, afterAll]
    have hkeyed := Task.keyed_after hs hfresh.1
    by_cases hd : t.Destroys s id
    · obtain ⟨hgone, hstill, hmet⟩ := ih ((h.task hs hfresh.1).1 hd) hkeyed hfresh.2
      refine ⟨fun _ => ?_, fun hnot => absurd hd hnot.1, .inl h, fun v hv => .inr ?_⟩
      · by_cases hmore : ∃ v ∈ visits (t.after s) ts, v.2.Destroys v.1 id
        · exact hgone hmore
        · exact hstill fun v hv hdv => hmore ⟨v, hv, hdv⟩
      · rcases hmet v hv with hnone | hnone
        · exact hnone
        · exact hnone
    · obtain ⟨hgone, hstill, hmet⟩ := ih ((h.task hs hfresh.1).2 hd) hkeyed hfresh.2
      exact ⟨fun hsome => hgone (hsome.resolve_left hd), fun hnot => hstill hnot.2, .inl h, hmet⟩

/-- **The kept state over a run.** Once an application left a state that is not empty, exactly this
is kept of the deployment after whatever else is done, until a task destroys the deployment; after
that nothing is kept. Whenever a destruction of the deployment gets as far as running the tool to
destroy, it finds exactly this state in its workspace. -/
theorem state_kept_until_destroyed {before later : List Task} {a : Task} (hs : Keyed s)
    (hfresh : ∀ v ∈ visits s (before ++ a :: later), v.2.Fresh v.1)
    (hyields : a.Yields (afterAll s before) id text)
    (hnonce : Seal.isNonce a.world.nonce = true) :
    let run := visits (a.after (afterAll s before)) later
    let last := afterAll s (before ++ a :: later)
    ((∀ v ∈ run, ¬ v.2.Destroys v.1 id) → retrieved last id = .ok (some text)) ∧
      ((∃ v ∈ run, v.2.Destroys v.1 id) → retrieved last id = .ok none) ∧
      ∀ v ∈ run, v.2.request = .destroy id → ∀ r, .ran r ∈ v.2.events v.1 →
        r.args = Step.destroy.args → Entries.get? stateFile r.files = some text := by
  rw [visits_append, visits, List.forall_mem_append, List.forall_mem_cons] at hfresh
  obtain ⟨hbefore, ha, hlater⟩ := hfresh
  have hkeyed := keyed_afterAll hs hbefore
  have hnext := Task.keyed_after hkeyed ha
  have hne : text ≠ "" := by
    obtain ⟨_, _, _, _, _, _, _, _, _, _, hne⟩ := hyields
    exact hne
  -- The application leaves the state in place, and every later task meets it there or finds none.
  have hstart := Task.holds_of_yields hkeyed hyields hnonce
  obtain ⟨hgone, hstill, hmet⟩ := hstart.run hnext hlater
  rw [afterAll_append, afterAll]
  refine ⟨fun h => (hstill h).kept, fun h => (hgone h).kept, fun v hv hrequest r hr hargs => ?_⟩
  have hv' := keyed_visits hnext hlater v hv
  rcases hmet v hv with hkept | hdropped
  · obtain ⟨_, ⟨⟩, hfile⟩ := hkept.restored hv' hrequest hr hargs
    exact hfile hne
  · obtain ⟨_, ⟨⟩, _⟩ := hdropped.restored hv' hrequest hr hargs

/-! ## A sample -/

/-- The state that an event shows an application to have left, if it is not empty. -/
def yielded? (w : World) (id : String) : Event → Option String
  | .ran run =>
    if run.args = Step.apply.args ∧ run.workspace = some id then
      match w.tool run.args with
      | .ran wrote _ _ =>
        kept? ((wrote.or (Entries.get? stateFile run.files)).map
          fun s => String.ofList (Text.unifyBreaks s.toList))
      | .notStarted _ => none
    else none
  | _ => none

theorem yields_iff : Yields w id es text ↔ ∃ e ∈ es, yielded? w id e = some text := by
  constructor
  · rintro ⟨run, wrote, output, ending, hmem, hargs, hid, htool, hstate, hne⟩
    refine ⟨_, hmem, ?_⟩
    rw [yielded?, if_pos ⟨hargs, hid⟩, htool]
    dsimp only
    rw [hstate, kept?]
    simp [hne]
  · rintro ⟨e, hmem, he⟩
    -- Only a run of the tool can leave a state.
    cases e with
    | ran run =>
      rw [yielded?] at he
      split at he
      · rename_i h
        split at he
        · rename_i wrote output ending htool
          rw [kept?, Option.filter_eq_some_iff] at he
          exact ⟨run, wrote, output, ending, hmem, h.1, h.2, htool, he.1, by simpa using he.2⟩
        · cases he
      · cases he
    | called => cases he
    | drafted => cases he

instance : Decidable (Yields w id es text) :=
  decidable_of_iff _ yields_iff.symm

/-- The state while a deployment is applied and destroyed. -/
theorem state_kept_until_destroyed_sample :
    let run := visits (sampleApply.after sampleInstallation) [sampleDestroy]
    let last := afterAll sampleInstallation [sampleApply, sampleDestroy]
    ((∀ v ∈ run, ¬ v.2.Destroys v.1 "d") → retrieved last "d" = .ok (some "[]")) ∧
      ((∃ v ∈ run, v.2.Destroys v.1 "d") → retrieved last "d" = .ok none) ∧
      ∀ v ∈ run, v.2.request = .destroy "d" → ∀ r, .ran r ∈ v.2.events v.1 →
        r.args = Step.destroy.args → Entries.get? stateFile r.files = some "[]" :=
  @state_kept_until_destroyed sampleInstallation "d" "[]" [] [sampleDestroy] sampleApply
    idle_sample.keyed (fresh_visits idle_sample.keyed (by decide) (by decide))
    ⟨rfl, by decide +kernel⟩ (by decide)

end Groundplan.Deploy
