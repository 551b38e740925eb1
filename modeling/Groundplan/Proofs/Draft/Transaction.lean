import Groundplan.Draft.Template
import Groundplan.Proofs.Draft.Reply
import Groundplan.Proofs.Hcl.CutOut

/-!
# Drafting as a transaction

A draft is paid for: the books after it show one new template for the price, or the price for a
draft that cannot be used, or nothing if the request is declined or the model cannot be had. This is
so unless the reply is one of a few that are not foreseen: then the price is gone, nothing is saved,
and the failure is none of those.

## Main definitions

* `Settles`: the books after a draft
* `Transacted`: the outcomes that are foreseen, each with its books
* `Reaches`: a request that reaches the model
* `Stray`: the replies that are not foreseen

## Main results

* `draftTemplate_of_stray`, `draftTemplate_of_usable`: what becomes of such a reply, and of a draft
* `draftTemplate_transacted_iff`: **the outcome is one that is foreseen exactly if the reply is**
-/

namespace Groundplan.Hcl

/-- A text with resources is not all blanks. -/
theorem trim_ne_nil_of_resources {text : String} (h : (parse text).resources ≠ []) :
    Text.trim text.toList ≠ [] := by
  intro hblank
  have hsections : sections text.toList = [] := by
    rw [sections, ← List.append_nil text.toList,
      sectionsFrom_blanks 1 [] (Text.trim_eq_nil_iff.1 hblank), sectionsFrom_nil]
    rfl
  exact h (by rw [parse, parseWithin, outcomes, hsections]; rfl)

end Groundplan.Hcl

namespace Groundplan.Draft

open Deploy (Template trimmed)

variable {w : World} {s t : Installation} {user : String}

/-! ## The books -/

/-- **The books after a draft**: what a user paid, and the templates. Other balances are as they
were, and nothing else is touched but the breaker of the text model and the events. -/
structure Settles (s : Installation) (user : String) (price : Int) (templates : Entries Template)
    (t : Installation) : Prop where
  balance : t.credits.balance user = s.credits.balance user - price
  others : ∀ other, other ≠ user → t.credits.balance other = s.credits.balance other
  rest : t = { s with
    templates := templates, credits := t.credits, modelBreaker := t.modelBreaker,
    events := t.events }

/-- **The outcomes that are foreseen**, each with its books. -/
inductive Transacted (s : Installation) (user : String) : Answer Drafted → Installation → Prop where
  /-- One new template of the user, with resources, for the price. -/
  | saved {d : Drafted} {t : Installation} {c : Hcl.Configuration}
      (howner : d.template.user = user) (hload : Hcl.load d.template.content = .ok c)
      (hresources : c.resources ≠ [])
      (hbooks : Settles s user 10 (s.templates ++ [(d.template.id, d.template)]) t) :
      Transacted s user (.ok d) t
  /-- A draft that cannot be used, for the same price. -/
  | unusable {r : Refusal} {t : Installation} (hkind : r.kind = .generation)
      (hbooks : Settles s user 10 s.templates t) : Transacted s user (.error (.refusal r)) t
  /-- A request that is declined, or a model that cannot be had, for nothing. -/
  | declined {r : Refusal} {t : Installation}
      (hkind : r.kind = .validation ∨ r.kind = .paymentRequired ∨ r.kind = .externalService)
      (hbooks : Settles s user 0 s.templates t) : Transacted s user (.error (.refusal r)) t

theorem Settles.refl (s : Installation) (user : String) : Settles s user 0 s.templates s :=
  ⟨(Int.sub_zero _).symm, fun _ _ => rfl, rfl⟩

/-- What a charge of the price of a draft does. -/
theorem charge_generation (s : Installation) (user : String) :
    charge user .generation s =
      if s.credits.balance user < 10 then
        (.error (.paymentRequired "GENERATION" 10 (s.credits.balance user)), s)
      else (.ok (s.credits.balance user - 10),
        { s with credits := s.credits.set user (s.credits.balance user - 10) }) := by
  rw [charge, Action.draw, Credits.charge]
  by_cases hpoor : s.credits.balance user < 10
  · rw [if_pos hpoor, if_pos (show _ < Metered.generation.cost from hpoor)]
    rfl
  · rw [if_neg hpoor, if_neg (show ¬ _ < Metered.generation.cost from hpoor)]
    rfl

/-- The books after a charge, whatever becomes of the breaker and the events. -/
theorem settles_charged (s : Installation) (user : String) (b : Breaker) (events : List Event) :
    Settles s user 10 s.templates
      { s with
        credits := s.credits.set user (s.credits.balance user - 10), modelBreaker := b,
        events := events } :=
  ⟨Credits.balance_set_self _ _ _, fun _ h => Credits.balance_set_of_ne h _ _, rfl⟩

/-- The price is given back to the user who paid it. -/
theorem Settles.refund (h : Settles s user 10 s.templates t) :
    Settles s user 0 s.templates (refund user .generation t) where
  balance := by
    have hself : (Groundplan.refund user .generation t).credits.balance user =
        t.credits.balance user + 10 := Credits.balance_set_self _ _ _
    rw [hself, h.balance]
    omega
  others other hother := (Credits.balance_set_of_ne hother _ _).trans (h.others other hother)
  rest := by
    conv_lhs => rw [Groundplan.refund, h.rest]
    rfl

/-- A template is saved. -/
theorem Settles.save {templates : Entries Template} (h : Settles s user 10 s.templates t) :
    Settles s user 10 templates { t with templates := templates } where
  balance := h.balance
  others := h.others
  rest := by
    conv_lhs => rw [h.rest]

/-! ## Saving a draft -/

section Saving

variable {r : Request} {files : Entries String} {main : String} {n : Int}
  {c : Hcl.Configuration} {description provider name : String}

/-- What is known of a request that is in order. -/
theorem checkRequest_eq_ok (h : checkRequest description provider name = .ok r) :
    trimmed r.description ≠ "" ∧ Deploy.providers.contains r.provider = true ∧ r.name = name := by
  rw [checkRequest] at h
  split at h
  · cases h
  · rename_i hblank
    split at h
    · cases h
    · dsimp only at h
      split at h
      · rename_i hprovider
        cases h
        exact ⟨by simpa using hblank, hprovider, rfl⟩
      · cases h

/-- A request is declined for what is wrong with it. -/
theorem checkRequest_eq_error {f : Failure}
    (h : checkRequest description provider name = .error f) :
    ∃ message, f = .validation message := by
  rw [checkRequest] at h
  split at h
  · cases h
    exact ⟨_, rfl⟩
  · split at h
    · cases h
      exact ⟨_, rfl⟩
    · dsimp only at h
      split at h <;> cases h
      exact ⟨_, rfl⟩

theorem trimmed_eq_empty_iff {text : String} : trimmed text = "" ↔ Text.trim text.toList = [] := by
  rw [trimmed, ← String.toList_inj, String.toList_ofList]
  rfl

/-- A draft is without a name exactly if the name that is given is all blanks: the start of a
description serves as a name otherwise. -/
theorem trimmed_templateName_iff (h : trimmed r.description ≠ "") :
    trimmed r.templateName = "" ↔ r.name ≠ "" ∧ trimmed r.name = "" := by
  rw [Request.templateName]
  by_cases hname : r.name = ""
  · rw [if_pos (by simpa using hname)]
    refine iff_of_false (fun hblank => ?_) fun hgiven => hgiven.1 hname
    rw [trimmed_eq_empty_iff, String.toList_ofList, trimmed, String.toList_ofList,
      Text.trim_eq_nil_iff] at hblank
    cases hstart : Text.trim r.description.toList with
    | nil => exact h (trimmed_eq_empty_iff.2 hstart)
    | cons x rest =>
      have hx : Text.isBlank x = false := Text.head?_trim x (by rw [hstart]; rfl)
      rw [hstart] at hblank
      rw [hblank x (by simp [nameChars])] at hx
      cases hx
  · rw [if_neg (by simpa using hname)]
    exact (and_iff_right hname).symm

/-- A draft is read, and saved if it has resources. -/
theorem saveDraft_eq (hmain : Entries.get? requiredFile files = some main) :
    saveDraft w user r files n t =
      match Hcl.load main with
      | .error f => (.error f, t)
      | .ok c =>
        if c.resources.isEmpty then
          (.error (.generation "Generated configuration contains no resource blocks."), t)
        else
          match Deploy.saveTemplate w user r.templateName main r.provider
            (some (trimmed r.description)) t with
          | (.ok x, t) => (.ok ⟨x, files, c.resources.length, n⟩, t)
          | (.error f, t) => (.error f, t) := by
  rw [saveDraft, Action.bind_apply, Action.ofAnswer_apply, hmain, Option.getD_some, Hcl.load]
  -- What is read is the text itself, so only whether it can be cut into blocks counts.
  cases hscan : Hcl.scannable main with
  | error f => rfl
  | ok content =>
    obtain rfl : main = content := by
      rw [Hcl.scannable] at hscan
      split at hscan <;> cases hscan
      rfl
    dsimp only [Except.map]
    split
    · rfl
    · rw [Action.bind_apply]
      rcases Deploy.saveTemplate w user r.templateName main r.provider
        (some (trimmed r.description)) t with ⟨f | x, t'⟩ <;> rfl

/-- A draft without a name is not saved. -/
theorem saveTemplate_unnamed {text : String} {d : Option String} (hname : trimmed name = "") :
    Deploy.saveTemplate w user name text provider d t =
      (.error (.validation "Template name is required"), t) := by
  rw [Deploy.saveTemplate, Deploy.templateProblem?, if_pos (by simpa using hname)]
  rfl

/-- What has a name, a content and a provider is saved. -/
theorem saveTemplate_ok {text : String} {d : Option String} (hname : trimmed name ≠ "")
    (htext : trimmed text ≠ "") (hprovider : Deploy.providers.contains provider = true) :
    Deploy.saveTemplate w user name text provider d t =
      (.ok ⟨w.recordId, user, trimmed name, text, provider, d, w.now⟩,
        { t with
          templates := Entries.set w.recordId
            ⟨w.recordId, user, trimmed name, text, provider, d, w.now⟩ t.templates }) := by
  rw [Deploy.saveTemplate, Deploy.templateProblem?, if_neg (by simpa using hname),
    if_neg (by simpa using htext), hprovider]
  rfl

end Saving

/-! ## Drafting a template -/

/-- **A request that reaches the model**: it is in order, its user can pay, the breaker lets it
through, and there is a key. -/
structure Reaches (w : World) (s : Installation) (user description provider name : String)
    (r : Request) : Prop where
  request : checkRequest description provider name = .ok r
  covered : 10 ≤ s.credits.balance user
  allowed : (s.modelBreaker.allow w.now).1 = true
  keyed : s.settings.modelKey ≠ ""

/-- **A reply that is not foreseen**: it is not heard, its answer is garbled, the draft in it cannot
be cut into blocks, or the draft has resources and there is only a name of blanks for it. -/
inductive Stray (name : String) (reply : ModelReply) : Prop where
  | unheard (hheard : isHeard reply = false)
  | garbled {answer : Data} (hreply : replyData reply = .ok answer) (hgarbled : Garbled answer)
  | nested {answer : Data} {main : String} (hreply : replyData reply = .ok answer)
      (hholds : Holds answer main) (hnested : Hcl.isScannable main.toList = false)
  | unnamed {answer : Data} {main : String} {c : Hcl.Configuration}
      (hreply : replyData reply = .ok answer) (hholds : Holds answer main)
      (hload : Hcl.load main = .ok c) (hresources : c.resources ≠ []) (hname : name ≠ "")
      (hblank : trimmed name = "")

/-- A reply with a draft that has resources, and a name for it. -/
def Usable (name : String) (reply : ModelReply) (main : String) : Prop :=
  ∃ answer c, replyData reply = .ok answer ∧ Holds answer main ∧ Hcl.load main = .ok c ∧
    c.resources ≠ [] ∧ (trimmed name = "" → name = "")

section Drafting

variable {r : Request} {description provider name : String} {present : List LiveResource}
  {c : Hcl.Configuration}

theorem load_eq_ok {main : String} {c : Hcl.Configuration} (h : Hcl.load main = .ok c) :
    c = Hcl.parse main := by
  rw [Hcl.load, Hcl.scannable] at h
  split at h <;> cases h
  rfl

/-- What comes of a request that is paid for. -/
theorem draftTemplate_paid (w : World) (present : List LiveResource)
    (hrequest : checkRequest description provider name = .ok r)
    (hcovered : 10 ≤ s.credits.balance user) :
    ∃ n t, Settles s user 10 s.templates t ∧
      draftTemplate w user description provider name present s =
        match drafted w s r.description r.provider (contextOf present) with
        | .ok files => saveDraft w user r files n t
        | .error f => (.error f, if isUnavailable f then refund user .generation t else t) := by
  rw [draftTemplate, Action.bind_apply, Action.ofAnswer_apply, hrequest]
  dsimp only
  rw [Action.bind_apply, charge_generation, if_neg (by omega)]
  dsimp only
  -- The model is asked after the charge, and answers as it would have before it.
  obtain ⟨b, events, hfiles⟩ := draftFiles_apply w
    { s with credits := s.credits.set user (s.credits.balance user - 10) } r.description r.provider
    (contextOf present)
  refine ⟨s.credits.balance user - 10, _, settles_charged s user b events, ?_⟩
  rw [drafted_charged] at hfiles
  rw [Action.bind_apply, outcome_apply, hfiles]
  dsimp only
  cases drafted w s r.description r.provider (contextOf present) with
  | ok files => rfl
  | error f =>
    dsimp only
    split <;> rfl

/-- The books after a failure: the price is given back if the model could not be had. -/
theorem draftTemplate_of_error (h : Reaches w s user description provider name r) {f : Failure}
    (hdrafted : drafted w s r.description r.provider (contextOf present) = .error f) :
    (draftTemplate w user description provider name present s).1 = .error f ∧
      Settles s user (if isUnavailable f then 0 else 10) s.templates
        (draftTemplate w user description provider name present s).2 := by
  obtain ⟨n, t, hbooks, heq⟩ := draftTemplate_paid w present h.request h.covered
  rw [heq, hdrafted]
  dsimp only
  cases isUnavailable f with
  | false => exact ⟨rfl, hbooks⟩
  | true => exact ⟨rfl, hbooks.refund⟩

/-- A fault is not taken for a model that cannot be had, and takes the price. -/
theorem draftTemplate_of_fault (h : Reaches w s user description provider name r) {f : Failure}
    (hf : f.isRefusal = false)
    (hdrafted : drafted w s r.description r.provider (contextOf present) = .error f) :
    ∃ f, (draftTemplate w user description provider name present s).1 = .error f ∧
      (f.isRefusal = false ∨ f = .validation "Template name is required") ∧
      Settles s user 10 s.templates
        (draftTemplate w user description provider name present s).2 := by
  have hunavailable : isUnavailable f = false := by
    cases f with
    | refusal r => cases hf
    | _ => rfl
  obtain ⟨hfails, hbooks⟩ := draftTemplate_of_error h hdrafted
  rw [hunavailable] at hbooks
  exact ⟨f, hfails, .inl hf, hbooks⟩

/-- A draft that cannot be used takes the price. -/
theorem transacted_of_unusable (h : Reaches w s user description provider name r)
    {message : String} (hdrafted : drafted w s r.description r.provider (contextOf present) =
      .error (.generation message)) :
    Transacted s user (draftTemplate w user description provider name present s).1
      (draftTemplate w user description provider name present s).2 := by
  obtain ⟨hfails, hbooks⟩ := draftTemplate_of_error h hdrafted
  rw [hfails]
  exact .unusable rfl hbooks

/-- What comes back with an answer is the files in it. -/
theorem drafted_of_answer (h : Reaches w s user description provider name r) {answer : Data}
    (hreply : replyData (replyTo w s r.description r.provider (contextOf present)) = .ok answer) :
    drafted w s r.description r.provider (contextOf present) = filesOf answer := by
  rw [drafted_of_reached _ _ _ h.allowed h.keyed, hreply]
  rfl

/-- A draft that is there is paid for and then saved, or not. -/
theorem draftTemplate_of_holds (h : Reaches w s user description provider name r) {answer : Data}
    {main : String}
    (hreply : replyData (replyTo w s r.description r.provider (contextOf present)) = .ok answer)
    (hholds : Holds answer main) :
    ∃ files n t, Settles s user 10 s.templates t ∧
      Entries.get? requiredFile files = some main ∧
      draftTemplate w user description provider name present s = saveDraft w user r files n t := by
  obtain ⟨files, hfiles, hmain⟩ := filesOf_of_holds hholds
  obtain ⟨n, t, hbooks, heq⟩ := draftTemplate_paid w present h.request h.covered
  rw [drafted_of_answer h hreply, hfiles] at heq
  exact ⟨files, n, t, hbooks, hmain, heq⟩

/-- **A reply that is not foreseen** takes the price, saves nothing, and fails with a fault or for
want of a name. -/
theorem draftTemplate_of_stray (h : Reaches w s user description provider name r)
    (hstray : Stray name (replyTo w s r.description r.provider (contextOf present))) :
    ∃ f, (draftTemplate w user description provider name present s).1 = .error f ∧
      (f.isRefusal = false ∨ f = .validation "Template name is required") ∧
      Settles s user 10 s.templates
        (draftTemplate w user description provider name present s).2 := by
  cases hstray with
  | unheard hheard =>
    obtain ⟨f, hreply, hf, hmodel⟩ := replyData_of_unheard hheard
    refine draftTemplate_of_fault h hf ?_
    rw [drafted_of_reached _ _ _ h.allowed h.keyed, hreply, settle_error hmodel]
    rfl
  | garbled hreply hgarbled =>
    obtain ⟨f, hfiles, hf⟩ := filesOf_of_garbled hgarbled
    exact draftTemplate_of_fault h hf ((drafted_of_answer h hreply).trans hfiles)
  | nested hreply hholds hnested =>
    obtain ⟨files, n, t, hbooks, hmain, heq⟩ := draftTemplate_of_holds h hreply hholds
    rw [heq, saveDraft_eq hmain, Hcl.load, Hcl.scannable, hnested]
    exact ⟨_, rfl, .inl rfl, hbooks⟩
  | unnamed hreply hholds hload hresources hname hblank =>
    obtain ⟨files, n, t, hbooks, hmain, heq⟩ := draftTemplate_of_holds h hreply hholds
    obtain ⟨hdescription, -, rfl⟩ := checkRequest_eq_ok h.request
    rw [heq, saveDraft_eq hmain, hload]
    dsimp only
    rw [if_neg (by simpa using hresources),
      saveTemplate_unnamed ((trimmed_templateName_iff hdescription).2 ⟨hname, hblank⟩)]
    exact ⟨_, rfl, .inr rfl, hbooks⟩

/-- **A usable draft is saved.** -/
theorem draftTemplate_of_usable (h : Reaches w s user description provider name r) {main : String}
    (husable : Usable name (replyTo w s r.description r.provider (contextOf present)) main)
    (hfresh : w.recordId ∉ s.templates.map (·.1)) :
    ∃ d, (draftTemplate w user description provider name present s).1 = .ok d ∧
      d.template.content = main ∧
      Transacted s user (.ok d) (draftTemplate w user description provider name present s).2 := by
  obtain ⟨answer, c, hreply, hholds, hload, hresources, hname⟩ := husable
  obtain ⟨files, n, t, hbooks, hmain, heq⟩ := draftTemplate_of_holds h hreply hholds
  obtain ⟨hdescription, hprovider, rfl⟩ := checkRequest_eq_ok h.request
  have hcontent : trimmed main ≠ "" := by
    rw [Ne, trimmed_eq_empty_iff]
    exact Hcl.trim_ne_nil_of_resources (load_eq_ok hload ▸ hresources)
  -- A name that is given is not all blanks, and without one the description is the name.
  have hnamed : trimmed r.templateName ≠ "" := fun hblank =>
    have hgiven := (trimmed_templateName_iff hdescription).1 hblank
    hgiven.1 (hname hgiven.2)
  have htemplates : t.templates = s.templates := by rw [hbooks.rest]
  rw [heq, saveDraft_eq hmain, hload]
  dsimp only
  rw [if_neg (by simpa using hresources), saveTemplate_ok hnamed hcontent hprovider]
  refine ⟨_, rfl, rfl, .saved rfl hload hresources ?_⟩
  rw [htemplates, Entries.set_of_notMem hfresh]
  exact hbooks.save

/-- A draft with resources is saved if there is a name for it, and one without them is of no use. -/
theorem transacted_of_holds (h : Reaches w s user description provider name r)
    (hfresh : w.recordId ∉ s.templates.map (·.1)) {answer : Data} {main : String}
    (hreply : replyData (replyTo w s r.description r.provider (contextOf present)) = .ok answer)
    (hholds : Holds answer main) (hload : Hcl.load main = .ok c)
    (hname : c.resources ≠ [] → trimmed name = "" → name = "") :
    Transacted s user (draftTemplate w user description provider name present s).1
      (draftTemplate w user description provider name present s).2 := by
  by_cases hresources : c.resources = []
  · obtain ⟨files, n, t, hbooks, hmain, heq⟩ := draftTemplate_of_holds h hreply hholds
    rw [heq, saveDraft_eq hmain, hload]
    dsimp only
    rw [if_pos (by simpa using hresources)]
    exact .unusable rfl hbooks
  · obtain ⟨d, hok, -, htransacted⟩ := draftTemplate_of_usable h
      ⟨answer, c, hreply, hholds, hload, hresources, hname hresources⟩ hfresh
    rwa [hok]

/-- The model refuses the request, or it cannot be had. -/
theorem transacted_of_refused (h : Reaches w s user description provider name r) {m : String}
    (hreply : replyData (replyTo w s r.description r.provider (contextOf present)) =
      .error (.model m)) :
    Transacted s user (draftTemplate w user description provider name present s).1
      (draftTemplate w user description provider name present s).2 := by
  have hdrafted := drafted_of_reached r.description r.provider (contextOf present) h.allowed h.keyed
  rw [hreply] at hdrafted
  rcases settle_model w.now (s.modelBreaker.allow w.now).2 m with ⟨message, hm⟩ | hm
  · exact transacted_of_unusable h (by rw [hdrafted, hm]; rfl)
  · rw [hm] at hdrafted
    obtain ⟨hfails, hbooks⟩ := draftTemplate_of_error h (hdrafted.trans rfl)
    rw [hfails]
    exact .declined (.inr (.inr rfl)) hbooks

/-- Every other reply is foreseen. -/
theorem transacted_of_not_stray (h : Reaches w s user description provider name r)
    (hfresh : w.recordId ∉ s.templates.map (·.1))
    (hstray : ¬ Stray name (replyTo w s r.description r.provider (contextOf present))) :
    Transacted s user (draftTemplate w user description provider name present s).1
      (draftTemplate w user description provider name present s).2 := by
  -- The reply is heard, and what is heard is an answer or the refusal of the model.
  cases hheard : isHeard (replyTo w s r.description r.provider (contextOf present)) with
  | false => exact absurd (.unheard hheard) hstray
  | true =>
    rcases replyData_of_heard hheard with ⟨answer, hreply⟩ | ⟨m, hreply⟩
    · -- The answer is garbled, has a draft in it, or has none.
      by_cases hgarbled : Garbled answer
      · exact absurd (.garbled hreply hgarbled) hstray
      by_cases hholds : ∃ main, Holds answer main
      · obtain ⟨main, hholds⟩ := hholds
        cases hscan : Hcl.isScannable main.toList with
        | false => exact absurd (.nested hreply hholds hscan) hstray
        | true =>
          have hload : Hcl.load main = .ok (Hcl.parse main) := by
            rw [Hcl.load, Hcl.scannable, hscan]
            rfl
          refine transacted_of_holds h hfresh hreply hholds hload fun hresources hblank => ?_
          by_contra hname
          exact hstray (.unnamed hreply hholds hload hresources hname hblank)
      · obtain ⟨message, hfiles⟩ := filesOf_of_neither (fun main hm => hholds ⟨main, hm⟩) hgarbled
        exact transacted_of_unusable h ((drafted_of_answer h hreply).trans hfiles)
    · exact transacted_of_refused h hreply

/-- A request that does not reach the model is declined. -/
theorem transacted_of_not_reaches
    (h : ∀ r, ¬ Reaches w s user description provider name r) :
    Transacted s user (draftTemplate w user description provider name present s).1
      (draftTemplate w user description provider name present s).2 := by
  cases hrequest : checkRequest description provider name with
  | error f =>
    obtain ⟨message, rfl⟩ := checkRequest_eq_error hrequest
    rw [draftTemplate, Action.bind_apply, Action.ofAnswer_apply, hrequest]
    exact .declined (.inl rfl) (.refl s user)
  | ok r =>
    by_cases hcovered : 10 ≤ s.credits.balance user
    · -- it is paid for, but the breaker or the missing key keeps it from the model
      have hunreached : (s.modelBreaker.allow w.now).1 = false ∨ s.settings.modelKey = "" := by
        by_contra hboth
        rw [not_or, Bool.not_eq_false] at hboth
        exact h r ⟨hrequest, hcovered, hboth.1, hboth.2⟩
      obtain ⟨n, t, hbooks, heq⟩ := draftTemplate_paid w present hrequest hcovered
      rw [heq, drafted_of_unreached hunreached]
      exact .declined (.inr (.inr rfl)) hbooks.refund
    · rw [draftTemplate, Action.bind_apply, Action.ofAnswer_apply, hrequest]
      dsimp only
      rw [Action.bind_apply, charge_generation, if_pos (by omega)]
      exact .declined (.inr (.inl rfl)) (.refl s user)

/-- What is neither a result nor one of the refusals that are foreseen, is no outcome that is. -/
theorem not_transacted {f : Failure} (hbooks : Settles s user 10 s.templates t)
    (hf : f.isRefusal = false ∨ f = .validation "Template name is required") :
    ¬ Transacted s user (.error f) t := by
  rintro (_ | ⟨hkind, -⟩ | ⟨-, hfree⟩)
  · rcases hf with hf | hf
    · cases hf
    · cases hf
      cases hkind
  · have hbalance := hbooks.balance
    rw [hfree.balance] at hbalance
    omega

/-- **Drafting is a transaction exactly where the reply is foreseen.** A request has one of the
outcomes that are foreseen, with its books, if and only if it does not reach the model or the reply
is none of those that are not foreseen; those take the price for nothing and fail in some other way.
A usable draft is saved as it is. -/
theorem draftTemplate_transacted_iff (w : World) (s : Installation)
    (user description provider name : String) (present : List LiveResource)
    (hfresh : w.recordId ∉ s.templates.map (·.1)) :
    let o := draftTemplate w user description provider name present s
    let reply (r : Request) := replyTo w s r.description r.provider (contextOf present)
    (Transacted s user o.1 o.2 ↔
      ∀ r, Reaches w s user description provider name r → ¬ Stray name (reply r)) ∧
    (∀ r, Reaches w s user description provider name r → Stray name (reply r) →
      ∃ f, o.1 = .error f ∧ (f.isRefusal = false ∨ f = .validation "Template name is required") ∧
        Settles s user 10 s.templates o.2) ∧
    ∀ r main, Reaches w s user description provider name r → Usable name (reply r) main →
      ∃ d, o.1 = .ok d ∧ d.template.content = main := by
  refine ⟨⟨fun htransacted r hreaches hstray => ?_, fun hforeseen => ?_⟩,
    fun r => draftTemplate_of_stray, fun r main hreaches husable => ?_⟩
  · -- A reply that is not foreseen fails in a way that none of the outcomes has.
    obtain ⟨f, hfails, hf, hbooks⟩ := draftTemplate_of_stray hreaches hstray
    rw [hfails] at htransacted
    exact not_transacted hbooks hf htransacted
  · by_cases hreaches : ∃ r, Reaches w s user description provider name r
    · obtain ⟨r, hreaches⟩ := hreaches
      exact transacted_of_not_stray hreaches hfresh (hforeseen r hreaches)
    · exact transacted_of_not_reaches fun r hr => hreaches ⟨r, hr⟩
  · obtain ⟨d, hok, hcontent, -⟩ := draftTemplate_of_usable hreaches husable hfresh
    exact ⟨d, hok, hcontent⟩

/-- An installation with a key for the text model and without any records. -/
def sampleDesk : Installation where
  settings := { modelKey := "key" }
  vault := ⟨fun _ => []⟩

/-- A body that is no JSON takes the price for nothing. -/
theorem draftTemplate_transacted_iff_sample :
    let o := draftTemplate sampleFaults "u" "a site" "aws" "" [] sampleDesk
    sampleFaults.recordId ∉ sampleDesk.templates.map (·.1) ∧
      ¬ Transacted sampleDesk "u" o.1 o.2 ∧ o.2.credits.balance "u" = 90 := by
  have hfresh : sampleFaults.recordId ∉ sampleDesk.templates.map (·.1) := by simp [sampleDesk]
  have hreaches : Reaches sampleFaults sampleDesk "u" "a site" "aws" "" ⟨"a site", "aws", ""⟩ :=
    ⟨rfl, by decide, rfl, by decide⟩
  have hstray : Stray "" (replyTo sampleFaults sampleDesk "a site" "aws" (contextOf [])) :=
    .unheard (by decide +kernel)
  obtain ⟨hiff, htaken, -⟩ :=
    draftTemplate_transacted_iff sampleFaults sampleDesk "u" "a site" "aws" "" [] hfresh
  obtain ⟨f, -, -, hbooks⟩ := htaken _ hreaches hstray
  exact ⟨hfresh, fun htransacted => hiff.1 htransacted _ hreaches hstray, hbooks.balance⟩

end Drafting

end Groundplan.Draft
