import Groundplan.Draft.Generation
import Groundplan.Proofs.Upstream

/-!
# Replies with a draft

What comes back for a request: an answer holds a draft, or is garbled, or is refused as it should
be; a reply that is not heard is a fault; and everything else is a failure of the model.

## Main definitions

* `Holds`: the draft in an answer
* `Garbled`: an answer that fails in a way that is not foreseen
* `drafted`: what comes back for a draft

## Main results

* `filesOf_of_holds`, `filesOf_of_garbled`, `filesOf_of_neither`: the files in an answer
* `replyData_of_heard`, `replyData_of_unheard`: what a reply comes to
* `draftFiles_apply`: asking for a draft
-/

namespace Groundplan.Draft

/-! ## The draft in a reply -/

/-- **The draft in an answer**: the text that it has for the required file, without fences. -/
def Holds (answer : Data) (main : String) : Prop :=
  ∃ text d es m, contentOf answer = .ok (.text text) ∧ Json.read (stripFences text) = .ok d ∧
    d.field? "files" = some (.map es) ∧ Entries.get? requiredFile es = some (.text m) ∧
    main = stripFences m

/-- An answer the content of which is a value other than a text, and not an empty one, or a JSON
text that is refused for its numbers or its depth. -/
inductive Garbled (answer : Data) : Prop where
  | value {content : Data} (hcontent : contentOf answer = .ok content)
      (htext : content.text? = none) (htruthy : content.isTruthy = true)
  | json {text : String} {f : Json.Fault} (hcontent : contentOf answer = .ok (.text text))
      (hread : Json.read (stripFences text) = .error f) (hfault : f ≠ .malformed)

/-- The text of a file stays under its name. -/
theorem get?_textEntries {es : Entries Data} {name m : String}
    (h : Entries.get? name es = some (.text m)) :
    Entries.get? name (textEntries es) = some (stripFences m) := by
  induction es with
  | nil => cases h
  | cons e es ih =>
    obtain ⟨key, v⟩ := e
    rw [Entries.get?, List.lookup_cons] at h
    by_cases hkey : name = key
    · subst hkey
      simp only [BEq.rfl, Option.some.injEq] at h
      subst h
      simp [textEntries, Data.text?, Entries.get?]
    · rw [show (name == key) = false from by simpa using hkey] at h
      -- What is no text is left out, and hides nothing.
      cases hv : v.text? with
      | none =>
        rw [textEntries, List.filterMap_cons_none (by simp [hv])]
        exact ih h
      | some m' =>
        rw [textEntries, List.filterMap_cons_some (by simp [hv]; rfl), Entries.get?,
          List.lookup_cons, show (name == key) = false from by simpa using hkey]
        exact ih h

/-- A text is read as JSON and then looked into. -/
theorem filesOf_of_text {answer : Data} {text : String}
    (hcontent : contentOf answer = .ok (.text text)) :
    filesOf answer =
      match Json.read (stripFences text) with
      | .ok d => filesIn d
      | .error .malformed =>
        .error (.generation "AI returned invalid response. Please try again.")
      | .error .tooDeep => .error (.mismatch .depth)
      | .error (.longInteger n) => .error (.badValue (longIntegerMessage n)) := by
  rw [filesOf, hcontent]
  show ((Except.ok (stripFences text) : Answer String) >>= fun text => _) = _
  rw [show ∀ k : String → Answer (Entries String), (Except.ok (stripFences text) >>= k) =
    k (stripFences text) from fun _ => rfl, Json.decode]
  cases Json.read (stripFences text) with
  | ok d => rfl
  | error f => cases f <;> rfl

/-- A draft that is there is found. -/
theorem filesOf_of_holds {answer : Data} {main : String} (h : Holds answer main) :
    ∃ files, filesOf answer = .ok files ∧ Entries.get? requiredFile files = some main := by
  obtain ⟨text, d, es, m, hcontent, hread, hfiles, hmain, rfl⟩ := h
  refine ⟨textEntries es, ?_, get?_textEntries hmain⟩
  rw [filesOf_of_text hcontent, hread]
  dsimp only
  rw [filesIn, hfiles]
  dsimp only
  rw [hmain]

/-- What is garbled fails with a fault that is none of this library's refusals. -/
theorem filesOf_of_garbled {answer : Data} (h : Garbled answer) :
    ∃ f, filesOf answer = .error f ∧ f.isRefusal = false := by
  cases h with
  | @value content hcontent htext htruthy =>
    refine ⟨.mismatch .kind, ?_, rfl⟩
    have hcleaned : cleaned content = .error (.mismatch .kind) := by
      rw [cleaned.eq_def]
      split
      · cases htext
      · rw [if_pos htruthy]
    rw [filesOf, hcontent]
    dsimp only
    rw [hcleaned]
    rfl
  | @json text f hcontent hread hfault =>
    rw [filesOf_of_text hcontent, hread]
    cases f with
    | malformed => exact absurd rfl hfault
    | longInteger n => exact ⟨_, rfl, rfl⟩
    | tooDeep => exact ⟨_, rfl, rfl⟩

/-- Any other answer is refused. -/
theorem filesOf_of_neither {answer : Data} (hholds : ∀ main, ¬ Holds answer main)
    (hgarbled : ¬ Garbled answer) : ∃ message, filesOf answer = .error (.generation message) := by
  cases hcontent : contentOf answer with
  | error f =>
    rw [filesOf, hcontent]
    exact ⟨_, rfl⟩
  | ok content =>
    cases htext : content.text? with
    | none =>
      -- an empty value reads like an empty text, which is no JSON
      have htruthy : content.isTruthy = false := by
        by_contra h
        exact hgarbled (.value hcontent htext (by simpa using h))
      have hcleaned : cleaned content = .ok "" := by
        rw [cleaned.eq_def]
        split
        · cases htext
        · rw [if_neg (by rw [htruthy]; decide)]
      rw [filesOf, hcontent]
      dsimp only
      rw [hcleaned]
      exact ⟨_, rfl⟩
    | some text =>
      obtain rfl : content = .text text := by
        cases content with
        | text m => exact congrArg Data.text (Option.some.inj htext)
        | _ => cases htext
      rw [filesOf_of_text hcontent]
      cases hread : Json.read (stripFences text) with
      | error f =>
        cases f with
        | malformed => exact ⟨_, rfl⟩
        | longInteger n => exact absurd (.json hcontent hread (by simp)) hgarbled
        | tooDeep => exact absurd (.json hcontent hread (by simp)) hgarbled
      | ok d =>
        dsimp only
        rw [filesIn.eq_def]
        split
        · rename_i es hfiles
          split
          · rename_i m hmain
            exact absurd ⟨text, d, es, m, hcontent, hread, hfiles, hmain, rfl⟩ (hholds _)
          · exact ⟨_, rfl⟩
        · exact ⟨_, rfl⟩

/-! ## What comes back -/

section Replies

variable {w : World} {s : Installation} {reply : ModelReply} {prompt provider context : String}

/-- A fault in a JSON text is no refusal. -/
theorem isRefusal_decodeBytes {bs : List UInt8} {f : Failure}
    (h : Json.decodeBytes bs = .error f) : f.isRefusal = false := by
  rw [Json.decodeBytes] at h
  split at h
  · rw [Json.decode] at h
    split at h <;> cases h <;> rfl
  · cases h
    rfl

/-- The message of a refusal cannot be had only if its body cannot be read. -/
theorem decodeBytes_of_detailOf {body fault : String} {f : Failure}
    (h : detailOf body fault = .error f) : Json.decodeBytes (Text.utf8Bytes body) = .error f := by
  rw [detailOf] at h
  split at h
  · cases h
  · rename_i f' hbody
    cases h
    exact hbody
  · split at h
    · cases h
    · split at h <;> cases h

/-- What is not heard is a fault, neither a refusal nor the model's. -/
theorem replyData_of_unheard (h : isHeard reply = false) :
    ∃ f, replyData reply = .error f ∧ f.isRefusal = false ∧ ∀ m, f ≠ .model m := by
  have of_body {bs : List UInt8} {f : Failure} (hf : Json.decodeBytes bs = .error f) :
      f.isRefusal = false ∧ ∀ m, f ≠ .model m :=
    ⟨isRefusal_decodeBytes hf, fun m hm => decodeBytes_ne_model bs m (hm ▸ hf)⟩
  cases reply with
  | replied body =>
    rw [isHeard] at h
    rw [replyData]
    cases hbody : Json.decodeBytes (Text.utf8Bytes body) with
    | ok answer => simp [hbody, Except.isOk, Except.toBool] at h
    | error f => exact ⟨f, rfl, of_body hbody⟩
  | refused status body fault =>
    rw [isHeard] at h
    rw [replyData]
    cases hdetail : detailOf body fault with
    | ok detail => simp [hdetail, Except.isOk, Except.toBool] at h
    | error f => exact ⟨f, rfl, of_body (decodeBytes_of_detailOf hdetail)⟩
  | timedOut => cases h
  | unreachable reason => cases h

/-- What is heard is an answer, or a failure of the model. -/
theorem replyData_of_heard (h : isHeard reply = true) :
    (∃ answer, replyData reply = .ok answer) ∨ ∃ m, replyData reply = .error (.model m) := by
  cases reply with
  | replied body =>
    rw [isHeard] at h
    rw [replyData]
    cases hbody : Json.decodeBytes (Text.utf8Bytes body) with
    | ok answer => exact .inl ⟨answer, rfl⟩
    | error f => simp [hbody, Except.isOk, Except.toBool] at h
  | refused status body fault =>
    rw [isHeard] at h
    rw [replyData]
    cases hdetail : detailOf body fault with
    | ok detail => exact .inr ⟨_, rfl⟩
    | error f => simp [hdetail, Except.isOk, Except.toBool] at h
  | timedOut => exact .inr ⟨_, rfl⟩
  | unreachable reason => exact .inr ⟨_, rfl⟩

/-- What comes back for a draft, as the breaker and the reply have it. -/
def drafted (w : World) (s : Installation) (prompt provider context : String) :
    Answer (Entries String) :=
  if (s.modelBreaker.allow w.now).1 then
    (settle w.now (s.modelBreaker.allow w.now).2 (draftReply w s prompt provider context)).1 >>=
      filesOf
  else .error (.unavailable modelService)

/-- What comes back does not depend on the credits. -/
theorem drafted_charged (credits : Credits) :
    drafted w { s with credits := credits } prompt provider context =
      drafted w s prompt provider context := rfl

/-- A request for a draft leaves only its event behind. -/
theorem complete_apply (w : World) (s : Installation) (prompt provider context : String) :
    ∃ events, complete w (draftMessages prompt provider context) draftTemperature s =
      (draftReply w s prompt provider context, { s with events := events }) := by
  rw [complete_eq]
  split
  · exact ⟨s.events, rfl⟩
  · exact ⟨_, rfl⟩

/-- Asking for a draft touches only the breaker and the events. -/
theorem draftFiles_apply (w : World) (s : Installation) (prompt provider context : String) :
    ∃ b events, draftFiles w prompt provider context s =
      (drafted w s prompt provider context, { s with modelBreaker := b, events := events }) := by
  rw [draftFiles, Action.bind_apply, Action.get_apply, drafted]
  dsimp only
  rw [Action.bind_apply, Action.set_apply]
  dsimp only
  -- The breaker keeps the request from the model, or the model is asked and its outcome noted.
  cases (s.modelBreaker.allow w.now).1 with
  | false => exact ⟨_, _, rfl⟩
  | true =>
    obtain ⟨events, hcomplete⟩ := complete_apply w
      { s with modelBreaker := (s.modelBreaker.allow w.now).2 } prompt provider context
    rw [if_neg (by decide), if_pos rfl, Action.bind_apply, outcome_apply, hcomplete]
    refine ⟨(settle w.now (s.modelBreaker.allow w.now).2
      (draftReply w s prompt provider context)).2, events, ?_⟩
    show (Action.ofAnswer (settle w.now _ (draftReply w s prompt provider context)).1 >>= fun d =>
      Action.ofAnswer (filesOf d)) _ = _
    rw [Action.bind_apply, Action.ofAnswer_apply]
    cases (settle w.now (s.modelBreaker.allow w.now).2
      (draftReply w s prompt provider context)).1 <;> rfl

/-- A breaker that lets nothing through, or no key, and the model cannot be had. -/
theorem drafted_of_unreached
    (h : (s.modelBreaker.allow w.now).1 = false ∨ s.settings.modelKey = "") :
    drafted w s prompt provider context = .error (.unavailable modelService) := by
  rw [drafted]
  cases hallow : (s.modelBreaker.allow w.now).1 with
  | false => rfl
  | true =>
    have hkey : s.settings.modelKey = "" := h.resolve_left (by simp [hallow])
    rw [if_pos rfl, draftReply, hkey, if_pos BEq.rfl, settle, if_neg (by decide)]
    rfl

/-- The reply to a request for a draft. -/
def replyTo (w : World) (s : Installation) (prompt provider context : String) : ModelReply :=
  w.model (draftRequest s prompt provider context)

/-- With a key, and if the breaker lets it through, the reply decides. -/
theorem drafted_of_reached (prompt provider context : String)
    (hallow : (s.modelBreaker.allow w.now).1 = true)
    (hkey : s.settings.modelKey ≠ "") :
    drafted w s prompt provider context =
      ((settle w.now (s.modelBreaker.allow w.now).2
        (replyData (replyTo w s prompt provider context))).1 >>= filesOf) := by
  rw [drafted, if_pos hallow, draftReply, if_neg (by simpa using hkey), replyTo]

/-- What a failure other than the model's comes to is that failure. -/
theorem settle_error {now : Instant} {b : Breaker} {f : Failure} (h : ∀ m, f ≠ .model m) :
    (settle now b (.error f)).1 = .error f := by
  cases f with
  | model m => exact absurd rfl (h m)
  | _ => rfl

/-- A failure of the model is one of the request's content, or the model cannot be had. -/
theorem settle_model (now : Instant) (b : Breaker) (m : String) :
    (∃ message, (settle now b (.error (.model m))).1 = .error (.generation message)) ∨
      (settle now b (.error (.model m))).1 = .error (.unavailable modelService) := by
  rw [settle]
  split
  · exact .inl ⟨_, rfl⟩
  · exact .inr rfl

end Replies

end Groundplan.Draft
