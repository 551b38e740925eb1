import Groundplan.Proofs.Deploy.Changes
import Groundplan.Proofs.Deploy.PlanOutput
import Groundplan.Proofs.Policy.Reports

/-!
# The summary of a plan

Of what a plan puts out, only the first bytes are kept, and the counts are those of the first summary
there. So they are the ones that the tool sums up with if the line of the tool is kept so far and no
summary stands in front of it. A deployment is then planned with these counts, whoever asks for it.

## Main definitions

* `SumsUp`: a plan that ends well, and is summed up in what is kept of its output
* `Reaches`: work that fails before a plan is begun, or comes to what is said
* `Shows`: a deployment that is planned with the counts

## Main results

* `SumsUp.runPlan`: the run that plans
* `reaches_plan`: a request to plan
* `summary_of_plan`: **the counts of a plan are those of the tool**
-/

namespace Groundplan.Deploy

open Routine (run_bind)
open Text

variable {w : World} {s t u : Installation} {es : List Event} {α : Type} {d : Deployment}
  {settings : Settings} {a b c : Nat} {before behind : List UInt8} {code : Int}

/-! ## The run that plans -/

/-- **A plan that is summed up**: it ends by itself with a code that means success, and puts out
some bytes, the line, and whatever follows. The line is kept up to the last count, and what stands
in front of it has no summary. -/
structure SumsUp (w : World) (settings : Settings) (a b c : Nat) (before behind : List UInt8)
    (code : Int) : Prop where
  ends : ∃ wrote pieces, w.tool Step.plan.args = .ran wrote pieces (.exited code) ∧
    pieces.flatten = before ++ (utf8Bytes (summaryLine a b c) ++ behind)
  good : code = 0 ∨ code = 2
  inTime : (limits settings).isOver = false
  short : IsShort a ∧ IsShort b ∧ IsShort c
  kept : before.length + (utf8Bytes (summaryCounts a b c)).length ≤ settings.toolBytes.toNat
  first : ¬ HasSummary (utf8Replace before).toList

theorem utf8Bytes_append (x y : String) : utf8Bytes (x ++ y) = utf8Bytes x ++ utf8Bytes y := by
  rw [utf8Bytes_eq, String.toList_append, List.flatMap_append, ← utf8Bytes_eq, ← utf8Bytes_eq]

/-- **What is kept of an output**, as a text: what stands in front of the line is read by itself. -/
theorem toList_kept {limit : Nat} (behind : List UInt8)
    (h : before.length + (utf8Bytes (summaryCounts a b c)).length ≤ limit) :
    ∃ rest, (utf8Replace ((before ++ (utf8Bytes (summaryLine a b c) ++ behind)).take limit)).toList =
      (utf8Replace before).toList ++ ((summaryCounts a b c).toList ++ rest) := by
  obtain ⟨tail, htail, -⟩ := (isSummary_counts a b c).eq_cons
  -- The line begins with an ASCII character.
  obtain ⟨bs, hbs⟩ : ∃ bs, utf8Bytes (summaryCounts a b c) = 80 :: bs := by
    rw [utf8Bytes_eq, htail, List.flatMap_cons]
    exact ⟨_, rfl⟩
  have hletter : (80 : UInt8).toNat < 0x80 := by decide
  rw [summaryLine, utf8Bytes_append, List.take_append, List.take_of_length_le (by omega),
    List.append_assoc, List.take_append, List.take_of_length_le (by omega), hbs, List.cons_append,
    utf8Replace_append before hletter, ← List.cons_append, ← hbs, utf8Replace_utf8Bytes_append]
  exact ⟨_, rfl⟩

/-- What the run comes to. -/
theorem SumsUp.result (h : SumsUp w settings a b c before behind code) :
    ∃ r, RunResult.ofReply (limits settings) Step.plan.word Step.plan.goodCodes
        (w.tool Step.plan.args) = .ok r ∧
      r.success = true ∧ r.code = some code ∧ planSummary r.output = .ok ⟨a, b, c⟩ := by
  obtain ⟨wrote, pieces, htool, hpieces⟩ := h.ends
  obtain ⟨rest, hrest⟩ := toList_kept behind h.kept
  have hgood : Step.plan.goodCodes.contains code = true := by
    rcases h.good with rfl | rfl <;> rfl
  have hsummary := planSummary_of_line h.short.1 h.short.2.1 h.short.2.2 h.first hrest
  rw [htool, RunResult.ofReply, h.inTime, limits, capture_eq, hpieces]
  exact ⟨_, rfl, hgood, rfl, hsummary⟩

/-- **The run that plans** ends well, and the counts are those of the line. -/
theorem SumsUp.runPlan (h : SumsUp w s.settings a b c before behind code) (id : String) :
    ∃ r, (runPlan w id s).1 = .ok (r, ⟨a, b, c⟩) ∧ r.success = true ∧ r.code = some code := by
  obtain ⟨r, hresult, hsuccess, hcode, hsummary⟩ := h.result
  refine ⟨r, ?_, hsuccess, hcode⟩
  rw [Deploy.runPlan, Action.bind_apply, runStep_apply, hresult]
  dsimp only
  rw [Action.bind_apply, Action.ofAnswer_apply, hsummary]
  rfl

/-! ## Work that leads to a plan -/

/-- **Work that leads to a plan**: no plan is begun and the work fails, or what is said holds of its
result and of the state that it leaves. -/
def Reaches (s : Installation) (o : Except Failure α × Installation)
    (P : Except Failure α → Installation → Prop) : Prop :=
  ∃ es, o.2.events = s.events ++ es ∧ (Lacks .plan es ∧ (∃ f, o.1 = .error f) ∨ P o.1 o.2)

variable {P Q : Except Failure α → Installation → Prop} {β : Type}

theorem Reaches.error {f : Failure} (hes : t.events = s.events ++ es) (hlacks : Lacks .plan es) :
    Reaches s (.error f, t) P :=
  ⟨es, hes, .inl ⟨hlacks, f, rfl⟩⟩

/-- What is done first does not begin a plan. -/
theorem Reaches.later {o : Except Failure α × Installation} (hes : t.events = s.events ++ es)
    (hlacks : Lacks .plan es) (h : Reaches t o P) : Reaches s o P := by
  obtain ⟨fs, hfs, hreaches⟩ := h
  refine ⟨es ++ fs, by rw [hfs, hes, List.append_assoc], hreaches.imp_left ?_⟩
  exact fun ⟨hlacks', hf⟩ => ⟨hlacks.append hlacks', hf⟩

theorem reaches_bind {p : Work β} {k : β → Work α} (hes : (p.run s).2.events = s.events ++ es)
    (hlacks : Lacks .plan es)
    (hk : ∀ x t, p.run s = (.ok x, t) → Reaches t ((k x).run t) P) :
    Reaches s ((p >>= k).run s) P := by
  rw [run_bind]
  generalize ho : p.run s = o at hes
  obtain ⟨f | x, t⟩ := o
  · exact .error hes hlacks
  · exact (hk x t ho).later hes hlacks

/-- A sequence whose first part asks nothing of the world. -/
theorem reaches_silent {p : Work β} {k : β → Work α} (hp : (p.run s).2.events = s.events)
    (hk : ∀ x t, p.run s = (.ok x, t) → Reaches t ((k x).run t) P) :
    Reaches s ((p >>= k).run s) P :=
  reaches_bind (hp.trans (List.append_nil _).symm) (fun _ hrun => by cases hrun) hk

/-- A change afterwards may leave what is said as it is. -/
theorem Reaches.mono {r : Except Failure α} (h : Reaches s (r, t) P) (hevents : u.events = t.events)
    (hP : P r t → Q r u) : Reaches s (r, u) Q :=
  let ⟨es, hes, hreaches⟩ := h
  ⟨es, hevents.trans hes, hreaches.imp_right hP⟩

/-- Work that ends without a plan. -/
theorem reaches_fail (f : Failure) : Reaches s ((.fail f : Work α).run s) P :=
  .error (List.append_nil _).symm fun _ hrun => by cases hrun

/-! ## Deployments that are planned -/

/-- **A deployment that is planned with the counts**: the request returns one if its template can be
audited, and the one that it returns is kept. -/
structure Shows (a b c : Nat) (content : String) (r : Except Failure Deployment)
    (t : Installation) : Prop where
  returns : Policy.Auditable content → ∃ d, r = .ok d
  kept : ∀ d, r = .ok d → d.summary = some ⟨a, b, c⟩ ∧ d.resourceCount = a + b ∧
    Entries.get? d.id t.deployments = some d

variable {content : String} {r : Except Failure Deployment} {tpl : Template}

theorem Shows.congr (h : Shows a b c content r t) (ht : u.deployments = t.deployments) :
    Shows a b c content r u :=
  ⟨h.returns, fun d hd => ht ▸ h.kept d hd⟩

/-- Recording a failure leaves what is returned as it is. -/
theorem Reaches.recording {p : Work Deployment} {now : Instant} {op : Operation}
    (h : Reaches s (p.run s) (Shows a b c content)) :
    Reaches s ((recording now d op p).run s) (Shows a b c content) := by
  rw [run_recording]
  generalize p.run s = o at h
  obtain ⟨f | x, t⟩ := o
  · refine h.mono rfl fun hshows => ⟨hshows.returns, fun d hd => ?_⟩
    cases hd
  · exact h

theorem silent_auditTemplate (w : World) (tpl : Template) : Silent (auditTemplate w tpl) := by
  intro s
  rw [auditTemplate, Routine.run_perform]
  cases Hcl.scannable tpl.content <;> rfl

/-- Planning, behind the preparation. -/
theorem reaches_planned (h : SumsUp w s.settings a b c before behind code) (tpl : Template)
    (d : Deployment) :
    Reaches s ((do
      let (r, summary) ← (runPlan w d.id).asStep
      expectSuccess "plan" r
      let report ← auditTemplate w tpl
      let d := d.planned r summary report
      change (putDeployment d)
      return d : Work Deployment).run s) (Shows a b c tpl.content) := by
  obtain ⟨r, hr, hsuccess, -⟩ := h.runPlan d.id
  have hevents : (runPlan w d.id s).2.events = _ := congrArg Installation.events (runPlan_snd w d.id s)
  rw [run_bind, Action.asStep, Routine.run_perform]
  generalize runPlan w d.id s = o at hr hevents
  obtain ⟨_, t⟩ := o
  obtain rfl := hr
  dsimp only
  rw [run_bind, run_expectSuccess, if_pos hsuccess]
  dsimp only
  -- The counts are there, so all that may still fail is the audit.
  have haudit := (Policy.auditTemplate_eq w tpl t).1
  have hsilent := silent_auditTemplate w tpl t
  rw [run_bind]
  generalize (auditTemplate w tpl).run t = o at haudit hsilent
  obtain ⟨f | report, u⟩ := o
  · refine ⟨_, hsilent.trans hevents, .inr ⟨fun haudits => ?_, fun d hd => ?_⟩⟩
    · cases haudit haudits
    · cases hd
  · refine ⟨_, hsilent.trans hevents, .inr ⟨fun _ => ⟨_, rfl⟩, ?_⟩⟩
    rintro d ⟨⟩
    exact ⟨rfl, rfl, Entries.get?_set_self _ _ _⟩

/-- Planning in a new workspace. -/
theorem reaches_planWithin (h : SumsUp w s.settings a b c before behind code)
    (hfiles : s.workspaces.files? d.id = some []) (tpl : Template) (k : Keys) :
    Reaches s ((planWithin w tpl d k).run s) (Shows a b c tpl.content) := by
  have hwrite : Beside s [] (writeFiles d.id tpl.content k d.region s).2 :=
    (writeFiles_spec hfiles).1
  refine reaches_silent hwrite.events_eq fun _ t ht => ?_
  obtain rfl : (writeFiles d.id tpl.content k d.region s).2 = t := congrArg Prod.snd ht
  generalize (writeFiles d.id tpl.content k d.region s).2 = t at hwrite
  obtain ⟨hstate, -⟩ := run_prepare w d.id t
  refine reaches_bind (by rw [hstate, events_runStep]) (lacks_toRun (by decide) w d.id _)
    fun _ u hu => ?_
  -- Neither the files nor the preparation change the settings.
  have hsettings : u.settings = s.settings := by
    obtain rfl : (runStep w d.id .init t).2 = u := hstate.symm.trans (congrArg Prod.snd hu)
    obtain ⟨_, _, _, _, rfl⟩ := hwrite
    rfl
  exact reaches_planned (hsettings ▸ h) tpl d

/-- **How work on a deployment is entered.** -/
theorem reaches_within {cred : Credential} {op : Operation} {keys : Work Keys}
    {body : Keys → Work Deployment} (hkeys : Calling w cred d.region keys)
    (hbody : ∀ k t, t.settings = s.settings → t.workspaces.files? d.id = some [] →
      Reaches t ((body k).run t) (Shows a b c content)) :
    Reaches s ((within w d op keys body).run s) (Shows a b c content) := by
  obtain ⟨⟨es, hes, hcalls⟩, hok⟩ := hkeys s
  rw [run_within]
  generalize keys.run s = o at hes hok
  obtain ⟨f | k, t⟩ := o
  · -- There are no keys.
    exact .error hes (hcalls.lacks .plan)
  obtain ⟨call, -, hbeside, -⟩ := hok k rfl
  dsimp only
  obtain ⟨message, -, hcreate⟩ | ⟨hcreate, -⟩ := create_cases t.workspaces d.id
  · -- A workspace of that name is there already.
    rw [hcreate]
    exact .error hes (hcalls.lacks .plan)
  · rw [hcreate]
    dsimp only
    have hsettings : t.settings = s.settings := by
      obtain ⟨_, _, _, _, rfl⟩ := hbeside
      rfl
    have hreaches := hbody k { t with workspaces := Entries.set d.id [] t.workspaces } hsettings
      (files?_set _ _)
    exact (hreaches.later hes (hcalls.lacks .plan)).mono rfl fun hshows => hshows.congr rfl

theorem reaches_planInSlot (h : SumsUp w s.settings a b c before behind code) (user : String)
    (tpl : Template) (cred : Credential) (region : String) :
    Reaches s ((planInSlot w user tpl cred region).run s) (Shows a b c tpl.content) := by
  rw [planInSlot]
  refine reaches_silent rfl fun n t ht => ?_
  obtain rfl := congrArg Prod.snd ht
  refine reaches_silent rfl fun _ t ht => ?_
  obtain rfl := congrArg Prod.snd ht
  refine reaches_within (calling_assumeOrRefund w user cred region .plan) fun k t ht hfiles => ?_
  exact (reaches_planWithin (ht ▸ h) hfiles tpl k).recording

/-- **A request to plan.** -/
theorem reaches_plan (h : SumsUp w s.settings a b c before behind code)
    (user template credential region : String) :
    Reaches s ((plan w user template credential region).run s) fun r t =>
      ∃ tpl, Entries.get? template s.templates = some tpl ∧ Shows a b c tpl.content r t := by
  -- The template and the credential are looked up, and the state stays as it is.
  refine reaches_silent rfl fun tpl t ht => ?_
  obtain ⟨htpl, rfl⟩ : ownTemplate s user template = .ok tpl ∧ s = t := Prod.mk.inj ht
  refine reaches_silent rfl fun cred t ht => ?_
  obtain rfl : s = t := congrArg Prod.snd ht
  split
  · refine reaches_silent rfl fun _ t ht => ?_
    obtain rfl : { s with slots := (s.slots.acquire user).2 } = t := congrArg Prod.snd ht
    rw [Routine.run_ensuring]
    have hslot := reaches_planInSlot (s := { s with slots := (s.slots.acquire user).2 }) h user tpl
      cred region
    exact hslot.mono rfl fun hshows => ⟨tpl, (owned_eq_ok.1 htpl).1, hshows.congr rfl⟩
  · exact reaches_fail _

/-- **The counts of a plan are those of the tool**, if it sums up with a line that is kept up to the
last count, behind a text without a summary. Then the run that plans has these counts, in any state;
and whoever asks for a plan, once the run that plans is begun, the deployment is returned with them
if its template can be audited, and what is returned is what is kept. -/
theorem summary_of_plan (h : SumsUp w s.settings a b c before behind code) :
    (∀ id, ∃ r, (runPlan w id s).1 = .ok (r, ⟨a, b, c⟩) ∧ r.success = true ∧ r.code = some code) ∧
      ∀ user template credential region,
        Reaches s ((plan w user template credential region).run s) fun r t =>
          ∃ tpl, Entries.get? template s.templates = some tpl ∧ Shows a b c tpl.content r t :=
  ⟨h.runPlan, reaches_plan h⟩

/-! ### Samples -/

/-- A world in which planning puts out a text, and there are changes. -/
def planningWorld (output : String) : World :=
  { sampleWorld "e" with
    tool := fun args =>
      if args = Step.plan.args then .ran none [utf8Bytes output] (.exited 2)
      else .ran none [] (.exited 0) }

theorem tool_planningWorld (output : String) :
    (planningWorld output).tool Step.plan.args = .ran none [utf8Bytes output] (.exited 2) := rfl

/-- A plan that is summed up behind other text. -/
theorem summary_of_plan_sample :
    let w := planningWorld ("  + create\n" ++ summaryLine 1 0 2 ++ "\n")
    SumsUp w sampleInstallation.settings 1 0 2 (utf8Bytes "  + create\n") (utf8Bytes "\n") 2 ∧
      ((∀ id, ∃ r, (runPlan w id sampleInstallation).1 = .ok (r, ⟨1, 0, 2⟩) ∧ r.success = true ∧
          r.code = some 2) ∧
        ∀ user template credential region,
          Reaches sampleInstallation
            ((plan w user template credential region).run sampleInstallation) fun r t =>
              ∃ tpl, Entries.get? template sampleInstallation.templates = some tpl ∧
                Shows 1 0 2 tpl.content r t) := by
  have h : SumsUp (planningWorld ("  + create\n" ++ summaryLine 1 0 2 ++ "\n"))
      sampleInstallation.settings 1 0 2 (utf8Bytes "  + create\n") (utf8Bytes "\n") 2 :=
    { ends := ⟨none, _, tool_planningWorld _, by decide +kernel⟩
      good := .inr rfl
      inTime := rfl
      short := ⟨by decide, by decide, by decide⟩
      kept := by decide +kernel
      first := findSummary?_eq_none_iff.1 (by decide +kernel) }
  exact ⟨h, summary_of_plan h⟩

/-- **Counts that are not those of the tool**: where the line is cut off there are none, and where a
summary stands in front of the line they are the counts of that one. -/
theorem summary_differs :
    (runPlan (planningWorld (summaryLine 1 0 2)) "d" { sampleInstallation with
        settings := { sampleInstallation.settings with toolBytes := 16 } }).1.toOption.map
      (fun o => (o.1.success, o.2)) = some (true, ⟨0, 0, 0⟩) ∧
    (runPlan (planningWorld ("Plan: 9 to add, 9 to change, 9 to destroy\n" ++ summaryLine 1 0 2))
        "d" sampleInstallation).1.toOption.map
      (fun o => (o.1.success, o.2)) = some (true, ⟨9, 9, 9⟩) := by
  decide +kernel

end Groundplan.Deploy
