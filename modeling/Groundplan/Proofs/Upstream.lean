import Groundplan.Draft.Generation
import Groundplan.Pricing.PriceList
import Groundplan.Proofs.Deploy.Parts

/-!
# Calls behind a breaker

Taking on a role, looking up a price and asking the text model each ask a breaker before they call
out. What comes back is either taken for an outcome of the service, and then it is recorded with the
breaker once, or it is a fault of some other kind, and then nothing is recorded. A breaker that let
its last trial through and learns nothing of it stays half open, and lets no call through any more.

## Main definitions

* `Breaker.Recorded`: an outcome was recorded
* `Breaker.Spent`: half open without a trial left
* `Breaker.Concluded`: how a call ends for the breaker that let it through
* `isHeard`, `Pricing.isHeard`, `Draft.isHeard`: what is taken for an outcome

## Main results

* `Breaker.Spent.allow`: a spent breaker lets no call through
* `assume_concluded`, `Pricing.lookUpProduct_concluded`, `Draft.draftFiles_concluded`: the calls
* `calls_concluded`: all of them
-/

namespace Groundplan

open Deploy (roleCall assume_eq)

/-! ## Breakers -/

namespace Breaker

variable {b c : Breaker} {now : Instant}

/-- One outcome, a success or a failure, was recorded at an instant. -/
def Recorded (b : Breaker) (now : Instant) (c : Breaker) : Prop :=
  c = b.succeed ∨ c = b.fail now

/-- Half open without a trial left. -/
def Spent (b : Breaker) : Prop :=
  b.state = .halfOpen ∧ b.maxTrials ≤ b.trials

/-- An outcome ends the trial of a half-open breaker. -/
theorem Recorded.state_ne (h : Recorded b now c) : c.state ≠ .halfOpen := by
  obtain rfl | rfl := h
  · rw [succeed]
    split
    · simp
    · assumption
  · rw [fail]
    dsimp only
    cases hb : b.state with
    | closed => dsimp only; split <;> simp
    | opened => simp
    | halfOpen => simp

/-- **A spent breaker lets no call through**, now or later. -/
theorem Spent.allow (h : b.Spent) (later : Instant) : b.allow later = (false, b) := by
  obtain ⟨hstate, htrials⟩ := h
  rw [Breaker.allow, hstate]
  exact if_neg (Int.not_lt.mpr htrials)

/-- A trial that was let through is counted. -/
theorem spent_of_tryTrial (h : b.tryTrial.1 = true) (hstate : b.state = .halfOpen)
    (hmax : b.maxTrials ≤ 1) : b.tryTrial.2.Spent := by
  rw [tryTrial] at h ⊢
  split at h
  · rename_i hlt
    rw [if_pos hlt]
    exact ⟨hstate, by dsimp only; omega⟩
  · cases h

/-- The only trial of a breaker that is not closed is its last. -/
theorem spent_of_allow (h : (b.allow now).1 = true) (hstate : b.state ≠ .closed)
    (hmax : b.maxTrials ≤ 1) : (b.allow now).2.Spent := by
  rw [allow] at h ⊢
  cases hb : b.state with
  | closed => exact absurd hb hstate
  | opened =>
    simp only [hb] at h ⊢
    split at h
    · cases h
    · rename_i hover
      rw [if_neg hover]
      exact spent_of_tryTrial h rfl hmax
  | halfOpen =>
    simp only [hb] at h ⊢
    exact spent_of_tryTrial h hb hmax

/-- **How a call ends for the breaker that let it through.** An outcome that is heard is recorded
once, and the breaker is not left half open. One that is not heard leaves the breaker as it was when
it let the call through; if the call was its only trial, it lets none through any more. -/
structure Concluded (b : Breaker) (now : Instant) (heard : Bool) (after : Breaker) : Prop where
  recorded : heard = true → Recorded (b.allow now).2 now after ∧ after.state ≠ .halfOpen
  unrecorded : heard = false → after = (b.allow now).2
  locked : heard = false → b.state ≠ .closed → b.maxTrials ≤ 1 →
    ∀ later, after.allow later = (false, after)

/-- A call is concluded if what is heard is recorded and the rest leaves the breaker alone. -/
theorem Concluded.of_allowed {heard : Bool} (hallow : (b.allow now).1 = true)
    (hheard : heard = true → Recorded (b.allow now).2 now c)
    (hunheard : heard = false → c = (b.allow now).2) : Concluded b now heard c where
  recorded h := ⟨hheard h, (hheard h).state_ne⟩
  unrecorded := hunheard
  locked h hstate hmax later := by
    rw [hunheard h]
    exact (spent_of_allow hallow hstate hmax).allow later

end Breaker

open Breaker (Concluded)

/-! ## Taking on a role -/

/-- What the token service's breaker is told of: replies, whatever is in them, and faults of the
cloud. -/
def isHeard : Answer Data → Bool
  | .ok _ => true
  | .error f => f.isCloudFault

theorem settle_recorded {now : Instant} {region : String} {b : Breaker} {answer : Answer Data}
    (h : isHeard answer = true) : b.Recorded now (settle now region b answer).2 := by
  cases answer with
  | ok reply => exact .inl rfl
  | error f =>
    have hfault : f.isCloudFault = true := h
    rw [settle, if_pos hfault]
    split
    · exact .inl rfl
    · exact .inr rfl

theorem settle_unrecorded {now : Instant} {region : String} {b : Breaker} {answer : Answer Data}
    (h : isHeard answer = false) : (settle now region b answer).2 = b := by
  cases answer with
  | ok reply => cases h
  | error f =>
    have hfault : ¬ f.isCloudFault = true := by simpa [isHeard] using h
    rw [settle, if_neg hfault]

/-- Taking on a role tells the breaker of the token service what is heard. -/
theorem assume_concluded {w : World} {r : SessionRequest} {s : Installation}
    (harn : checkRoleArn r.arn = .ok ()) (hallow : (s.sessionBreaker.allow w.now).1 = true) :
    Concluded s.sessionBreaker w.now (isHeard (w.host (roleCall w r s)))
      (assume w r s).2.sessionBreaker := by
  rw [assume_eq, harn]
  dsimp only
  rw [if_pos hallow]
  exact .of_allowed hallow settle_recorded settle_unrecorded

/-! ## Looking up a price -/

namespace Pricing

/-- What the price list's breaker is told of: replies that are read to their end, faults of the
cloud, and those faults in a reply that are taken for the service's. -/
def isHeard (reply : Answer Data) : Bool :=
  match reply.bind onDemandRate with
  | .ok _ => true
  | .error (.cloud ..) => true
  | .error f => isReplyFault f

namespace PriceDesk

variable {desk : PriceDesk} {key : String} {now : Instant} {reply : Answer Data}

theorem settle_recorded (h : isHeard reply = true) :
    desk.breaker.Recorded now (desk.settle key now reply).2.breaker := by
  rw [isHeard] at h
  rw [settle]
  cases hr : reply.bind onDemandRate with
  | ok price => exact .inl rfl
  | error f =>
    rw [hr] at h
    cases f with
    | cloud code operation text => exact .inr rfl
    | _ =>
      dsimp only at h ⊢
      rw [if_pos h]
      exact .inr rfl

theorem settle_unrecorded (h : isHeard reply = false) :
    (desk.settle key now reply).2 = desk := by
  rw [isHeard] at h
  rw [settle]
  cases hr : reply.bind onDemandRate with
  | ok price =>
    rw [hr] at h
    cases h
  | error f =>
    rw [hr] at h
    cases f with
    | cloud code operation text => cases h
    | _ =>
      dsimp only at h ⊢
      rw [if_neg (by rw [h]; decide)]

/-- Looking for a kept answer leaves the breaker alone. -/
theorem kept?_breaker : (desk.kept? key now).2.breaker = desk.breaker := by
  rw [kept?]
  split
  · rfl
  · split <;> rfl

end PriceDesk

/-- Looking up a price tells the breaker of the price list what is heard. -/
theorem lookUpProduct_concluded {ask : CloudCall → Answer Data} {now : Instant} {p : Product}
    {desk : PriceDesk} {place : String} (hkept : (desk.kept? p.key now).1 = none)
    (hplace : location? p.region = some place) (hallow : (desk.breaker.allow now).1 = true) :
    Concluded desk.breaker now (isHeard (ask (p.call place)))
      (desk.lookUpProduct ask now p).2.breaker := by
  have hbreaker : (desk.kept? p.key now).2.breaker = desk.breaker := PriceDesk.kept?_breaker
  rw [PriceDesk.lookUpProduct]
  rcases hk : desk.kept? p.key now with ⟨kept, desk'⟩
  rw [hk] at hkept hbreaker
  dsimp only at hkept hbreaker
  subst hkept
  dsimp only
  rw [hplace]
  dsimp only
  rw [hbreaker, if_pos hallow]
  refine .of_allowed hallow PriceDesk.settle_recorded fun h => ?_
  rw [PriceDesk.settle_unrecorded h]

end Pricing

/-! ## Asking the text model -/

namespace Draft

/-- What the text model's breaker is told of: bodies that are read, refusals whose bodies are read
or taken as they are, and that there was no reply. -/
def isHeard : ModelReply → Bool
  | .replied body => (Json.decodeBytes (Text.utf8Bytes body)).isOk
  | .refused _ body fault => (detailOf body fault).isOk
  | .timedOut => true
  | .unreachable _ => true

/-- The request for a draft. -/
def draftRequest (s : Installation) (prompt provider context : String) : Data :=
  completionRequest s.settings.modelName (draftMessages prompt provider context) draftTemperature

/-- What comes back for a draft: nothing without a key, and else what the reply comes to. -/
def draftReply (w : World) (s : Installation) (prompt provider context : String) : Answer Data :=
  if s.settings.modelKey == "" then .error (.model "AI API key is not configured")
  else replyData (w.model (draftRequest s prompt provider context))

/-- One request for a draft: what comes back, and its event. The request can always be written
down. -/
theorem complete_eq (w : World) (s : Installation) (prompt provider context : String) :
    complete w (draftMessages prompt provider context) draftTemperature s =
      (draftReply w s prompt provider context,
        if s.settings.modelKey == "" then s
        else { s with
          events := s.events ++ [.drafted (draftRequest s prompt provider context)] }) := by
  rw [complete, Action.bind_apply, Action.get_apply, draftReply]
  dsimp only
  split
  · rfl
  · rfl

@[simp] theorem outcome_apply {α : Type} (a : Action α) (s : Installation) :
    outcome a s = (.ok (a s).1, (a s).2) := rfl

/-- The breaker of the text model after a draft was asked for. -/
theorem draftFiles_breaker {w : World} {s : Installation} {prompt provider context : String}
    (hallow : (s.modelBreaker.allow w.now).1 = true) :
    (draftFiles w prompt provider context s).2.modelBreaker =
      (settle w.now (s.modelBreaker.allow w.now).2 (draftReply w s prompt provider context)).2 := by
  rw [draftFiles, Action.bind_apply, Action.get_apply]
  dsimp only
  rw [Action.bind_apply, Action.set_apply, hallow]
  dsimp only
  rw [if_neg (by decide), Action.bind_apply, outcome_apply, complete_eq]
  -- What is done with the outcome leaves the breaker alone.
  show ((Action.ofAnswer (settle w.now _ (draftReply w s prompt provider context)).1 >>= fun d =>
    Action.ofAnswer (filesOf d)) _).2.modelBreaker = _
  rw [Action.bind_apply, Action.ofAnswer_apply]
  cases (settle w.now (s.modelBreaker.allow w.now).2 (draftReply w s prompt provider context)).1 <;>
    rfl

theorem settle_recorded {now : Instant} {b : Breaker} {reply : ModelReply}
    (h : isHeard reply = true) : b.Recorded now (settle now b (replyData reply)).2 := by
  have of_model (message : String) :
      b.Recorded now (settle now b (.error (.model message))).2 := by
    rw [settle]
    split
    · exact .inl rfl
    · exact .inr rfl
  cases reply with
  | replied body =>
    rw [isHeard] at h
    rw [replyData]
    cases hbody : Json.decodeBytes (Text.utf8Bytes body) with
    | ok answer => exact .inl rfl
    | error f =>
      rw [hbody] at h
      cases h
  | refused status body fault =>
    rw [isHeard] at h
    rw [replyData]
    cases hdetail : detailOf body fault with
    | ok detail => exact of_model _
    | error f =>
      rw [hdetail] at h
      cases h
  | timedOut => exact of_model _
  | unreachable reason => exact of_model _

/-- A fault in a JSON text is not one of the model. -/
theorem decodeBytes_ne_model (bs : List UInt8) (message : String) :
    Json.decodeBytes bs ≠ .error (.model message) := by
  rw [Json.decodeBytes]
  split
  · rw [Json.decode]
    split <;> simp
  · simp

theorem detailOf_ne_model (body fault message : String) :
    detailOf body fault ≠ .error (.model message) := by
  rw [detailOf]
  split
  · simp
  · rename_i f hf
    intro h
    cases h
    exact decodeBytes_ne_model _ _ hf
  · split
    · simp
    · split <;> simp

/-- A fault that is not the model's leaves its breaker alone. -/
theorem settle_of_ne_model {now : Instant} {b : Breaker} {f : Failure}
    (h : ∀ message, f ≠ .model message) : (settle now b (.error f)).2 = b := by
  cases f with
  | model message => exact absurd rfl (h message)
  | _ => rfl

theorem settle_unrecorded {now : Instant} {b : Breaker} {reply : ModelReply}
    (h : isHeard reply = false) : (settle now b (replyData reply)).2 = b := by
  cases reply with
  | replied body =>
    rw [isHeard] at h
    rw [replyData]
    cases hbody : Json.decodeBytes (Text.utf8Bytes body) with
    | ok answer =>
      rw [hbody] at h
      cases h
    | error f =>
      exact settle_of_ne_model fun message hf => decodeBytes_ne_model _ message (hf ▸ hbody)
  | refused status body fault =>
    rw [isHeard] at h
    rw [replyData]
    cases hdetail : detailOf body fault with
    | ok detail =>
      rw [hdetail] at h
      cases h
    | error f =>
      exact settle_of_ne_model fun message hf => detailOf_ne_model _ _ message (hf ▸ hdetail)
  | timedOut => cases h
  | unreachable reason => cases h

/-- Asking for a draft tells the breaker of the text model what is heard; that there is no key
counts as heard. -/
theorem draftFiles_concluded {w : World} {s : Installation} {prompt provider context : String}
    (hallow : (s.modelBreaker.allow w.now).1 = true) :
    Concluded s.modelBreaker w.now
      (s.settings.modelKey == "" || isHeard (w.model (draftRequest s prompt provider context)))
      (draftFiles w prompt provider context s).2.modelBreaker := by
  rw [draftFiles_breaker hallow, draftReply]
  cases s.settings.modelKey == "" with
  | true => exact .of_allowed hallow (fun _ => .inr rfl) (by simp)
  | false => exact .of_allowed hallow settle_recorded settle_unrecorded

end Draft

/-! ## All calls -/

/-- **What the breakers learn of the calls that they let through**, whatever the services answer: an
outcome that is heard is recorded once, and the breaker is not left half open; one that is not heard
is not recorded, and if the call was the only trial of a breaker that was not closed, it lets no
call through any more. -/
theorem calls_concluded (w : World) :
    (∀ (r : SessionRequest) (s : Installation), checkRoleArn r.arn = .ok () →
      (s.sessionBreaker.allow w.now).1 = true →
      Concluded s.sessionBreaker w.now (isHeard (w.host (roleCall w r s)))
        (assume w r s).2.sessionBreaker) ∧
    (∀ (ask : CloudCall → Answer Data) (p : Pricing.Product) (desk : Pricing.PriceDesk)
      (place : String), (desk.kept? p.key w.now).1 = none →
      Pricing.location? p.region = some place → (desk.breaker.allow w.now).1 = true →
      Concluded desk.breaker w.now (Pricing.isHeard (ask (p.call place)))
        (desk.lookUpProduct ask w.now p).2.breaker) ∧
    ∀ (prompt provider context : String) (s : Installation),
      (s.modelBreaker.allow w.now).1 = true →
      Concluded s.modelBreaker w.now
        (s.settings.modelKey == "" ||
          Draft.isHeard (w.model (Draft.draftRequest s prompt provider context)))
        (Draft.draftFiles w prompt provider context s).2.modelBreaker :=
  ⟨fun _ _ => assume_concluded, fun _ _ _ _ => Pricing.lookUpProduct_concluded,
    fun _ _ _ _ => Draft.draftFiles_concluded⟩

/-- A world in which the token service fails for no reason that is known, and the text model answers
with what is no JSON. -/
def sampleFaults : World where
  now := 0
  recordId := "r"
  reportId := "report"
  externalId := "x"
  nonce := []
  environment := []
  host := fun _ => .error (.runtime "boom")
  account := ⟨fun _ => .ok .null, fun _ => [], fun _ _ => false⟩
  tool := fun _ => .ran none [] (.exited 0)
  model := fun _ => .replied "oops"

/-- An installation whose breakers have one trial left. -/
def sampleTrials : Installation where
  settings := { modelKey := "key" }
  vault := ⟨fun _ => []⟩
  sessionBreaker := { state := .halfOpen }
  modelBreaker := { state := .halfOpen }

/-- Faults that are not heard lock three breakers. -/
theorem calls_concluded_sample :
    let role : SessionRequest := { arn := "arn:aws:iam::123456789012:role/Deploy", purpose := "d" }
    let sessions := (assume sampleFaults role sampleTrials).2.sessionBreaker
    let ask : CloudCall → Answer Data := fun _ => .ok (.list [])
    let p := Pricing.machineProduct (some "t3.micro") "us-east-1" (some "Linux")
    let prices :=
      (Pricing.PriceDesk.lookUpProduct ask 0 p { breaker := { state := .halfOpen } }).2.breaker
    let drafts := (Draft.draftFiles sampleFaults "a site" "aws" "" sampleTrials).2.modelBreaker
    (∀ later, sessions.allow later = (false, sessions)) ∧
      (∀ later, prices.allow later = (false, prices)) ∧
      ∀ later, drafts.allow later = (false, drafts) :=
  ⟨((calls_concluded sampleFaults).1 _ sampleTrials rfl rfl).locked rfl (by decide) (by decide),
    ((calls_concluded sampleFaults).2.1 (fun _ => .ok (.list [])) _
      { breaker := { state := .halfOpen } } "US East (N. Virginia)" (by decide) (by decide)
      rfl).locked rfl (by decide) (by decide),
    ((calls_concluded sampleFaults).2.2 "a site" "aws" "" sampleTrials rfl).locked
      (by decide +kernel) (by decide) (by decide)⟩

end Groundplan
