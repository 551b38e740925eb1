import Groundplan.Http.Field
import Groundplan.Http.Limits
import Groundplan.Installation

/-!
# Routes

A route answers requests with a method at the paths of a pattern. It says whether it needs a user
and which fields the body has to have; what it does is an operation on the installation.

## Main definitions

* `Exchange`: a request as an operation sees it
* `Route`: how requests are answered
* `Route.answer`: the response of a route
* `Resolution`, `resolve`: what a method and a path stand for
-/

namespace Groundplan.Http

/-! ## Exchanges -/

/-- A request as an operation sees it. -/
structure Exchange where
  world : World
  user : String
  /-- What the path fills into the pattern. -/
  parts : List String
  query : Entries String
  /-- The fields of the body. -/
  fields : Entries Data

namespace Exchange

/-- The first thing that the path fills in. -/
def part (x : Exchange) : String :=
  x.parts.headD ""

/-- The text of a field, if it has one. -/
def text? (x : Exchange) (key : String) : Option String :=
  (Entries.get? key x.fields).bind Data.text?

/-- The text of a field, empty if it has none. -/
def text (x : Exchange) (key : String) : String :=
  (x.text? key).getD ""

/-- Whether a flag is set. -/
def flag (x : Exchange) (key : String) : Bool :=
  ((Entries.get? key x.fields).getD .null).isTruthy

/-- A part of the query. -/
def param? (x : Exchange) (key : String) : Option String :=
  Entries.get? key x.query

end Exchange

/-- An operation that answers an exchange. -/
abbrev Handler := Exchange → Installation → Answer (Entries Data) × Installation

/-- An operation that is atomic. -/
def Handler.ofAction (f : Exchange → Action (Entries Data)) : Handler :=
  fun x s => (f x).run.run s

/-- An operation that others may interleave with. -/
def Handler.ofWork {α : Type} (f : Exchange → Work α) (view : α → Entries Data) : Handler :=
  fun x s =>
    let (a, s) := (f x).run s
    (a.map view, s)

/-! ## Routes -/

/-- How requests are answered. -/
structure Route where
  method : String
  pattern : Pattern
  handler : Handler
  /-- The fields that the body has to have; without any the body is not looked at. -/
  fields : List Field := []
  /-- What fails, if something unexpected does. -/
  blurb : Option String := none
  /-- Whether anybody may ask. -/
  isOpen : Bool := false

/-! ## Bodies -/

/-- Whether a kind of content is JSON. -/
def isJsonContent (kind : String) : Bool :=
  let word := String.ofList (Text.trim ((Text.lowerText kind).toList.takeWhile (· != ';')))
  match wordsOf word with
  | ["application", sub] => sub == "json" || Text.endsWith "+json".toList sub.toList
  | _ => false

/-- The value of the body of a request, or why there is none. An empty body is null, and one that is
no JSON is none of the values that fields are read from. -/
def bodyOf (r : Request) : Except Response Data :=
  if r.body.isEmpty then .ok .null
  else if isJsonContent ((r.header? "Content-Type").getD "application/json") then
    match Json.decodeBytes r.body with
    | .ok d => .ok d
    | .error (.mismatch .json) => .error (.detail 422 "The body is no JSON")
    | .error _ => .error (.detail 400 "There was an error parsing the body")
  else .ok (.text "")

mutual

/-- A value with null in place of numbers that are not finite. -/
def showable : Data → Data
  | .float (.infinite _) => .null
  | .float .nan => .null
  | .list xs => .list (showableItems xs)
  | .map es => .map (showableEntries es)
  | d => d

/-- The items of a list with null in place of numbers that are not finite. -/
def showableItems : List Data → List Data
  | [] => []
  | x :: xs => showable x :: showableItems xs

/-- The entries of a map with null in place of numbers that are not finite. -/
def showableEntries : List (String × Data) → List (String × Data)
  | [] => []
  | (k, v) :: es => (k, showable v) :: showableEntries es

end

/-- The response to a body with values that do not fit. It shows them, which breaks the service if a
number among them is not finite. -/
def unfit (wrong : List Data) : Response :=
  if Data.areFinite wrong then { status := 422, body := .json (.map [("detail", .list wrong)]) }
  else .broken

/-! ## Answering -/

/-- The response to a failure of a route. -/
def failureResponse (blurb : Option String) : Failure → Response
  | .refusal r => { status := r.status, body := .json r.toData }
  | _ =>
    match blurb with
    | some what => .detail 500 ("An unexpected error occurred " ++ what)
    | none => .broken

/-- The response to what an operation comes to. -/
def responseOf (blurb : Option String) : Answer (Entries Data) → Response
  | .ok es => { status := 200, body := .json (showable (.map (("status", .text "ok") :: es))) }
  | .error f => failureResponse blurb f

/-- The exchange of a request at a route, or the response that refuses it. -/
def Route.exchange (route : Route) (w : World) (parts : List String) (r : Request) :
    Except Response Exchange := do
  let body ← if route.fields.isEmpty then pure .null else bodyOf r
  let user ←
    match r.user?, route.isOpen with
    | some user, _ => pure user
    | none, true => pure ""
    | none, false => throw .unauthorized
  if route.fields.isEmpty then return ⟨w, user, parts, r.query, []⟩
  else
    match readFields route.fields body with
    | .ok fields => return ⟨w, user, parts, r.query, fields⟩
    | .error wrong => throw (unfit wrong)

/-- **The response of a route** to a request. -/
def Route.answer (route : Route) (w : World) (parts : List String) (r : Request)
    (s : Installation) : Response × Installation :=
  match route.exchange w parts r with
  | .error response => (response, s)
  | .ok x =>
    let (a, s) := route.handler x s
    (responseOf route.blurb a, s)

/-! ## Resolution -/

/-- What a method and a path stand for. -/
inductive Resolution where
  | found (route : Route) (parts : List String)
  | wrongMethod
  | elsewhere (path : String)
  | missing

/-- The routes that a path fits, with what it fills in. -/
def fitting (routes : List Route) (path : String) : List (Route × List String) :=
  routes.filterMap fun route => (route.pattern.match? path).map fun parts => (route, parts)

/-- A path with a slash at its end more, or with none. -/
def otherSpelling (path : String) : String :=
  if Text.endsWith ['/'] path.toList then
    String.ofList (Text.trimEndWith (· == '/') path.toList)
  else path ++ "/"

/-- **What a method and a path stand for** among routes, the first that fits counting. A path that
fits none is asked for with or without a slash at its end, if that fits any. -/
def resolve (routes : List Route) (method path : String) : Resolution :=
  match fitting routes path with
  | [] =>
    if path != "/" && !(fitting routes (otherSpelling path)).isEmpty then
      .elsewhere (otherSpelling path)
    else .missing
  | fits =>
    match fits.find? fun f => f.1.method == method with
    | some (route, parts) => .found route parts
    | none => .wrongMethod

end Groundplan.Http
