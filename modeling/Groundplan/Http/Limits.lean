import Groundplan.Http.Message
import Groundplan.Http.Target
import Groundplan.Json.Answer
import Groundplan.Number.Decimal
import Groundplan.Text.Bytes
import Groundplan.Text.Lines

/-!
# Limits of requests

Before a request is answered, its size is checked: that of the body, and where configurations are
sent, that of each of them. Work that is expensive is also limited in how often a client may ask for
it, by a pattern of its path, in which stars stand for parts that a request fills in.

## Main definitions

* `payloadProblem?`: what is too large about the value of a body
* `sizeProblem?`: what is too large about a request
* `Pattern.ofText`: the pattern of a text
* `Pattern.match?`: the parts that a path fills in
* `rateLimit?`: how often a path may be asked for
-/

namespace Groundplan.Http

/-! ## Sizes -/

/-- Bytes that a body may have. -/
def maxBodyBytes : Nat := 1048576

/-- Bytes that a configuration may have. -/
def maxConfigurationBytes : Nat := 512000

/-- Characters that a description may have before it is even looked at. -/
def maxPromptChars : Nat := 20000

/-- The fields that hold configurations, by path. -/
def configurationFields : Entries (List String) := [
  ("/api/audit", ["content"]),
  ("/api/audit/diff", ["old_content", "new_content"]),
  ("/api/templates", ["content"])]

/-- The path whose bodies hold a description. -/
def draftPath : String := "/api/templates/generate"

/-- What is wrong with the size of a configuration. -/
def configurationProblem? : Option Data → Option String
  | some (.text s) =>
    let size := Text.utf8Size s
    if maxConfigurationBytes < size then
      some ("Configuration size exceeds limit: " ++ toString size ++ " bytes (limit: " ++
        toString maxConfigurationBytes ++ " bytes)")
    else none
  | _ => none

/-- What is wrong with the size of a description. -/
def promptProblem? : Option Data → Option String
  | some (.text s) =>
    if maxPromptChars < s.length then
      some ("Prompt too large: " ++ toString s.length ++ " characters (limit: " ++
        toString maxPromptChars ++ ")")
    else none
  | _ => none

/-- **What is too large about the value of a body** at a path. -/
def payloadProblem? (path : String) (body : Data) : Option String :=
  let fields := (Entries.get? path configurationFields).getD []
  match fields.findSome? fun key => configurationProblem? (body.field? key) with
  | some problem => some problem
  | none => if path == draftPath then promptProblem? (body.field? "prompt") else none

/-- Whether the value of a body at a path is looked at. -/
def isInspected (path : String) : Bool :=
  Entries.has path configurationFields || path == draftPath

/-- The methods whose bodies are checked. -/
def checkedMethods : List String := ["POST", "PUT", "PATCH"]

/-- The length that a request declares, if that is a number. -/
def declaredLength? (r : Request) : Option Int :=
  (r.header? "Content-Length").bind fun v => (readInt v.toList).toOption

/-- Whether the body of a request is too long, by what it declares or by what it is. -/
def isTooLong (r : Request) : Bool :=
  (match declaredLength? r with
    | some n => decide ((maxBodyBytes : Int) < n)
    | none => false) || decide (maxBodyBytes < r.body.length)

/-- What is too large about the body of a request, read as a JSON text in UTF-8. A body that is no
such text is left to others. -/
def bodyProblem? (path : String) (body : List UInt8) : Option String :=
  match Text.utf8Decode? body with
  | none => none
  | some s =>
    match Json.decode s with
    | .ok d => payloadProblem? path d
    | .error (.mismatch .json) => none
    | .error _ => some "Request validation failed."

/-- **What is too large about a request.** -/
def sizeProblem? (r : Request) : Option String :=
  if !checkedMethods.contains r.method then none
  else if isTooLong r then some "Request body size exceeds allowed limit of 1 MB."
  else if r.body.isEmpty || !isInspected (plainPath r.path) then none
  else bodyProblem? (plainPath r.path) r.body

/-- The response to a request that is too large. -/
def tooLarge (problem : String) : Response :=
  .refusing 413 "REQUEST_TOO_LARGE" problem []

/-! ## Patterns of paths -/

/-- A part of a pattern: a word, or a place for any word. -/
inductive Segment where
  | word (s : String)
  | any
deriving DecidableEq, Repr, Inhabited

/-- The parts of a pattern, with slashes between. -/
abbrev Pattern := List Segment

/-- The words between the slashes of a path. -/
def wordsOf (path : String) : List String :=
  (Text.splitOn '/' path.toList).map String.ofList

/-- What words fill into a pattern; nothing if they do not fit. A place takes any word but the empty
one. -/
def fill? : Pattern → List String → Option (List String)
  | [], [] => some []
  | .word s :: ps, w :: ws => if s == w then fill? ps ws else none
  | .any :: ps, w :: ws => if w == "" then none else (fill? ps ws).map (w :: ·)
  | _, _ => none

namespace Pattern

/-- The pattern of a text with stars. -/
def ofText (s : String) : Pattern :=
  (wordsOf s).map fun w => if w == "*" then .any else .word w

/-- **What a path fills into a pattern.** One line feed at the end of a path may be left over. -/
def match? (p : Pattern) (path : String) : Option (List String) :=
  match fill? p (wordsOf path) with
  | some ws => some ws
  | none =>
    match path.toList.reverse with
    | '\n' :: cs => fill? p (wordsOf (String.ofList cs.reverse))
    | _ => none

end Pattern

/-! ## Rates -/

/-- How often a client may ask for something in a minute. -/
structure RateLimit where
  endpoint : String
  pattern : Pattern
  limit : Int
deriving Repr, Inhabited

/-- The limited paths. Paths that differ in an identifier only are one. -/
def rateLimits : List RateLimit := [
  ⟨"audit", .ofText "/api/audit", 30⟩,
  ⟨"audit_diff", .ofText "/api/audit/diff", 30⟩,
  ⟨"template_generate", .ofText "/api/templates/generate", 5⟩,
  ⟨"cloud_sync", .ofText "/api/cloud/connections/*/sync", 10⟩,
  ⟨"cloud_scan", .ofText "/api/cloud/connections/*/scan", 5⟩,
  ⟨"deployment_plan", .ofText "/api/deployments/plan", 10⟩,
  ⟨"deployment_apply", .ofText "/api/deployments/*/apply", 10⟩,
  ⟨"deployment_destroy", .ofText "/api/deployments/*/destroy", 10⟩]

/-- **The limit of a path**, if it has one. -/
def rateLimit? (path : String) : Option RateLimit :=
  rateLimits.find? fun l => (l.pattern.match? path).isSome

/-- The seconds after which a request that came too often may be made again. -/
def retrySeconds : Nat := 60

/-- The response to a request that comes too often. -/
def tooOften : Response :=
  { Response.refusing 429 "RATE_LIMITED" "Too many requests. Please try again later."
      [("retry_after", .ofNat retrySeconds)] with
    retryAfter := some (toString retrySeconds) }

end Groundplan.Http
