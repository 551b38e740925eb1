import Groundplan.Account.Role
import Groundplan.Text.CharClass

/-!
# Requests and responses

The messages of the service: what is asked with which method at which path, and what is answered
with which status.

## Main definitions

* `Http.checkHeaders`: the headers that can be sent
* `Http.Request`: a request; `Request.header?`: a header by its name in any case
* `Http.Response`: a response, with the ones that any service has
* `Http.reasonPhrase`, `Http.statusFault`: a status in words
-/

namespace Groundplan.Http

open Text

/-- A request. -/
structure Request where
  method : String
  path : String
  query : Entries String := []
  headers : Entries String := []
  body : List UInt8 := []
  /-- The host that sends it, if that is known. -/
  host : Option String := none
deriving Repr, Inhabited

/-- Headers that can be sent: their names and values have no letters outside the common ones. -/
def checkHeaders (headers : Entries String) : Answer Unit :=
  let isPlain (s : String) : Bool := s.toList.all fun c => c.toNat < 0x80
  if headers.all fun h => isPlain h.1 && isPlain h.2 then .ok () else .error (.mismatch .letters)

/-- The value of a header, the case of whose name does not count. -/
def headerAmong (name : String) (headers : Entries String) : Option String :=
  (headers.find? fun h => lowerText h.1 == lowerText name).map (·.2)

namespace Request

/-- The value of a header of a request. -/
def header? (r : Request) (name : String) : Option String :=
  headerAmong name r.headers

/-- A header with text other than blanks, without blanks around it. -/
def filledHeader? (r : Request) (name : String) : Option String :=
  match (r.header? name).map fun v => String.ofList (trim v.toList) with
  | some "" => none
  | v => v

/-- The user on whose behalf a request is made. -/
def user? (r : Request) : Option String :=
  r.filledHeader? "X-User-Id"

/-- **Who a request is from**: the user, or else the first host that it was forwarded for, or else
the host that sends it. -/
def client (r : Request) : String :=
  match r.user? with
  | some user => "user:" ++ user
  | none =>
    match r.header? "X-Forwarded-For" with
    | none => "ip:" ++ r.host.getD "unknown"
    | some "" => "ip:" ++ r.host.getD "unknown"
    | some hosts =>
      "ip:" ++ String.ofList (trim (((splitOn ',' hosts.toList).head?).getD []))

end Request

/-- The body of a response. -/
inductive Body where
  | json (d : Data)
  | text (s : String)
deriving Repr, Inhabited

/-- The body as a value. -/
def Body.toData : Body → Data
  | .json d => d
  | .text s => .text s

/-- A response. -/
structure Response where
  status : Int
  body : Body
  /-- Seconds after which it is worth trying again, as a header. -/
  retryAfter : Option String := none
  /-- The path to ask at instead, as a header. -/
  location : Option String := none
deriving Repr, Inhabited

namespace Response

/-- The record of a response. -/
def toData (r : Response) : Data :=
  .map [("status", .int r.status), ("body", r.body.toData), ("retry_after", .ofText? r.retryAfter)]

/-- A response of a status that says why. -/
def detail (status : Int) (why : String) : Response :=
  { status := status, body := .json (.map [("detail", .text why)]) }

/-- A response that refuses with a code and a message. -/
def refusing (status : Int) (code message : String) (more : Entries Data) : Response :=
  { status := status
    body := .json (.map ([("status", .text "error"), ("error", .text code),
      ("message", .text message)] ++ more)) }

/-- Nothing is found at the path. -/
def notFound : Response := detail 404 "Not Found"

/-- The path does not take the method. -/
def wrongMethod : Response := detail 405 "Method Not Allowed"

/-- The request says nothing about its user. -/
def unauthorized : Response := detail 401 "Authentication required"

/-- The request broke the service. -/
def broken : Response := { status := 500, body := .text "Internal Server Error" }

/-- The same is found at another path. -/
def redirect (path : String) : Response :=
  { status := 307, body := .text "", location := some path }

end Response

/-! ## Statuses in words -/

/-- The statuses with their phrases. -/
def reasonPhrases : List (Int × String) := [
  (100, "Continue"), (101, "Switching Protocols"), (102, "Processing"), (103, "Early Hints"),
  (200, "OK"), (201, "Created"), (202, "Accepted"), (203, "Non-Authoritative Information"),
  (204, "No Content"), (205, "Reset Content"), (206, "Partial Content"), (207, "Multi-Status"),
  (208, "Already Reported"), (226, "IM Used"), (300, "Multiple Choices"),
  (301, "Moved Permanently"), (302, "Found"), (303, "See Other"), (304, "Not Modified"),
  (305, "Use Proxy"), (307, "Temporary Redirect"), (308, "Permanent Redirect"),
  (400, "Bad Request"), (401, "Unauthorized"), (402, "Payment Required"), (403, "Forbidden"),
  (404, "Not Found"), (405, "Method Not Allowed"), (406, "Not Acceptable"),
  (407, "Proxy Authentication Required"), (408, "Request Timeout"), (409, "Conflict"),
  (410, "Gone"), (411, "Length Required"), (412, "Precondition Failed"),
  (413, "Request Entity Too Large"), (414, "Request-URI Too Long"),
  (415, "Unsupported Media Type"), (416, "Requested Range Not Satisfiable"),
  (417, "Expectation Failed"), (418, "I'm a teapot"), (421, "Misdirected Request"),
  (422, "Unprocessable Entity"), (423, "Locked"), (424, "Failed Dependency"), (425, "Too Early"),
  (426, "Upgrade Required"), (428, "Precondition Required"), (429, "Too Many Requests"),
  (431, "Request Header Fields Too Large"), (451, "Unavailable For Legal Reasons"),
  (500, "Internal Server Error"), (501, "Not Implemented"), (502, "Bad Gateway"),
  (503, "Service Unavailable"), (504, "Gateway Timeout"), (505, "HTTP Version Not Supported"),
  (506, "Variant Also Negotiates"), (507, "Insufficient Storage"), (508, "Loop Detected"),
  (510, "Not Extended"), (511, "Network Authentication Required")]

/-- The phrase of a status; empty for one that has none. -/
def reasonPhrase (status : Int) : String :=
  (reasonPhrases.lookup status).getD ""

/-- The kind of a status that is no success. -/
def statusKind (status : Int) : String :=
  match status / 100 with
  | 1 => "Informational response"
  | 3 => "Redirect response"
  | 4 => "Client error"
  | 5 => "Server error"
  | _ => "Invalid status code"

/-- **How a response that is no success is put**, with the address that was asked. -/
def statusFault (url : String) (status : Int) : String :=
  statusKind status ++ " '" ++ decimalText status ++ " " ++ reasonPhrase status ++
    "' for url '" ++ url ++ "'"

end Groundplan.Http
