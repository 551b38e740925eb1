import Groundplan.Draft.Prompt
import Groundplan.Installation
import Groundplan.Json.Answer
import Groundplan.Json.Writer
import Groundplan.Text.CharClass

/-!
# Drafts

Asking the text model for files of configuration. A breaker guards the model: it counts requests
that came to nothing, while a request that the model declines for its content shows that it works.

## Main definitions

* `complete`: one request to the text model
* `contentOf`: the text in an answer
* `filesOf`: the files in that text
* `draftFiles`: the files for a description
-/

namespace Groundplan.Draft

open Text

/-! ## Requests -/

/-- The message of an error in a body, or else the body, or else how the client puts it. -/
def detailOf (body fault : String) : Answer String :=
  let fallback := if body == "" then fault else body
  match Json.decodeBytes (utf8Bytes body) with
  | .error (.mismatch .json) => .ok fallback
  | .error f => .error f
  | .ok d =>
    match d.getFieldD "error" (.map []) with
    | .error _ => .ok fallback
    | .ok e =>
      match e.getFieldD "message" (.text fault) with
      | .error _ => .ok fallback
      | .ok m => .ok m.plain

/-- What a reply of the text model comes to. -/
def replyData : ModelReply → Answer Data
  | .replied body => Json.decodeBytes (utf8Bytes body)
  | .refused status body fault =>
    match detailOf body fault with
    | .error f => .error f
    | .ok detail =>
      .error (.model ("AI request failed: " ++ detail ++ " (status: " ++ decimalText status ++ ")"))
  | .timedOut => .error (.model ("AI request timed out after " ++ decimalText modelSeconds ++ "s"))
  | .unreachable reason => .error (.model ("Failed to connect to AI API: " ++ reason))

/-- The failure of a request that cannot be written down. -/
def unwritable : Failure :=
  .badValue "Out of range float values are not JSON compliant"

/-- **One request to the text model**, for which there must be a key. -/
def complete (w : World) (messages temperature : Data) : Action Data := do
  let s ← get
  if s.settings.modelKey == "" then throw (.model "AI API key is not configured")
  let request := completionRequest s.settings.modelName messages temperature
  if !request.isFinite then throw unwritable
  Action.note (.drafted request)
  Action.ofAnswer (replyData (w.model request))

/-! ## Answers -/

/-- The text in an answer of the model, which may be any value. -/
def contentOf (answer : Data) : Answer Data := do
  let choices ← answer.getItem "choices"
  let first ← choices.firstItem
  let message ← first.getItem "message"
  message.getItem "content"

/-- The text of a value without fences; a value that counts as absent is an empty text. -/
def cleaned (content : Data) : Answer String :=
  match content with
  | .text s => .ok (stripFences s)
  | d => if d.isTruthy then .error (.mismatch .kind) else .ok ""

/-- The name of the file that a draft must have. -/
def requiredFile : String := Deploy.mainFile

/-- The texts among the entries of a map, without fences. -/
def textEntries (es : Entries Data) : Entries String :=
  es.filterMap fun e => e.2.text?.map fun s => (e.1, stripFences s)

/-- The files in a value, if the required one is among them. -/
def filesIn (d : Data) : Answer (Entries String) :=
  match d.field? "files" with
  | some (.map es) =>
    match Entries.get? requiredFile es with
    | some (.text _) => .ok (textEntries es)
    | _ => .error (.generation "AI response missing required Terraform files.")
  | _ => .error (.generation "AI response missing required Terraform files.")

/-- **The files in an answer of the model.** -/
def filesOf (answer : Data) : Answer (Entries String) :=
  match contentOf answer with
  | .error _ => .error (.generation "AI returned an empty response.")
  | .ok content => do
    let text ← cleaned content
    match Json.decode text with
    | .error (.mismatch .json) =>
      throw (.generation "AI returned invalid response. Please try again.")
    | .error f => throw f
    | .ok d => filesIn d

/-! ## Drafting -/

/-- The name of the text model in messages. -/
def modelService : String := "AI generation"

/-- Whether a message shows that the model declined a request for its content. -/
def isDeclined (message : String) : Bool :=
  let cs := lower message.toList
  isPart "safety".toList cs || isPart "blocked".toList cs

/-- What the outcome of a request means, with the breaker after it. A failure that is not the
model's leaves the breaker as it is. -/
def settle (now : Instant) (b : Breaker) : Answer Data → Answer Data × Breaker
  | .ok answer => (.ok answer, b.succeed)
  | .error (.model message) =>
    if isDeclined message then
      (.error (.generation
        ("Request was blocked by safety filters. Please rephrase your architecture description.")),
        b.succeed)
    else (.error (.unavailable modelService), b.fail now)
  | .error f => (.error f, b)

/-- The outcome of an action as its result. -/
def outcome {α : Type} (a : Action α) : Action (Answer α) :=
  fun s =>
    let (r, s) := a s
    (.ok r, s)

/-- **The files for a description**, the one that is required being among them. -/
def draftFiles (w : World) (prompt provider context : String) : Action (Entries String) := do
  let s ← get
  let (allowed, breaker) := s.modelBreaker.allow w.now
  set { s with modelBreaker := breaker }
  if !allowed then throw (.unavailable modelService)
  let reply ← outcome (complete w (draftMessages prompt provider context) draftTemperature)
  let (answer, breaker) := settle w.now breaker reply
  modify fun s => { s with modelBreaker := breaker }
  let d ← Action.ofAnswer answer
  Action.ofAnswer (filesOf d)

end Groundplan.Draft
