import Groundplan.Data
import Groundplan.Text.Quoted

/-!
# Failures

What can go wrong. A refusal is an answer of this library to its caller, with a status and a
machine-readable code; every other failure is a fault met on the way: an error reply of the cloud, a
reply of the wrong shape, a text that is no number.

## Main definitions

* `RefusalKind`, `Refusal`: refusals, with one constructor function for each kind
* `Mismatch`: how a value fails to have the shape that is asked of it
* `Failure`: a refusal or a fault, with `Failure.message`
* `Answer`: the result of something that can fail
-/

namespace Groundplan

/-! ## Refusals -/

/-- What kinds of refusal there are. -/
inductive RefusalKind where
  | general
  | validation
  | notFound
  | conflict
  | paymentRequired
  | rateLimited
  | externalService
  | generation
  | provisioning
  | sandbox
  | stateEncryption
deriving DecidableEq, Repr, Inhabited

namespace RefusalKind

/-- The kinds of refusal. -/
def all : List RefusalKind :=
  [.general, .validation, .notFound, .conflict, .paymentRequired, .rateLimited, .externalService,
    .generation, .provisioning, .sandbox, .stateEncryption]

/-- The name of a kind. -/
def name : RefusalKind → String
  | .general => "AppError"
  | .validation => "ValidationError"
  | .notFound => "NotFoundError"
  | .conflict => "ConflictError"
  | .paymentRequired => "PaymentRequiredError"
  | .rateLimited => "RateLimitError"
  | .externalService => "ExternalServiceError"
  | .generation => "GenerationError"
  | .provisioning => "ProvisioningError"
  | .sandbox => "TerraformSandboxError"
  | .stateEncryption => "StateEncryptionError"

/-- The kind of a name. -/
def ofName? (s : String) : Option RefusalKind :=
  all.find? fun k => k.name == s

/-- The status that a kind answers with unless told otherwise. -/
def status : RefusalKind → Int
  | .general => 500
  | .validation => 400
  | .notFound => 404
  | .conflict => 409
  | .paymentRequired => 402
  | .rateLimited => 429
  | .externalService => 503
  | .generation => 422
  | .provisioning => 502
  | .sandbox => 500
  | .stateEncryption => 500

/-- The machine-readable code of a kind. -/
def code : RefusalKind → String
  | .general => "INTERNAL_ERROR"
  | .validation => "VALIDATION_ERROR"
  | .notFound => "NOT_FOUND"
  | .conflict => "CONFLICT"
  | .paymentRequired => "INSUFFICIENT_CREDITS"
  | .rateLimited => "RATE_LIMITED"
  | .externalService => "EXTERNAL_SERVICE_ERROR"
  | .generation => "GENERATION_FAILED"
  | .provisioning => "PROVISIONING_FAILED"
  | .sandbox => "SANDBOX_ERROR"
  | .stateEncryption => "STATE_ENCRYPTION_ERROR"

end RefusalKind

/-- A refusal: its kind, the message for the caller, and what goes with it. -/
structure Refusal where
  kind : RefusalKind
  message : String
  status : Int := kind.status
  code : String := kind.code
  details : Entries Data := []
  /-- The output of the provisioning tool, where one failed. -/
  output : String := ""
deriving Repr, Inhabited

namespace Refusal

/-- The record that is shown to the caller; details only if there are any. -/
def toData (r : Refusal) : Data :=
  .map ([("status", .text "error"), ("error", .text r.code), ("message", .text r.message)] ++
    (if r.details.isEmpty then [] else [("details", .map r.details)]))

end Refusal

/-! ## Faults -/

/-- How a value fails to have the shape that is asked of it. -/
inductive Mismatch where
  /-- It has no such member. -/
  | member
  /-- It is of the wrong kind for the operation. -/
  | kind
  /-- The list has no such position. -/
  | position
  /-- The number is out of range. -/
  | range
  /-- The text is no JSON. -/
  | json
  /-- The text is nested too deeply. -/
  | depth
  /-- The bytes are no text. -/
  | encoding
  /-- The text has characters that cannot be sent. -/
  | letters
  /-- The text is no address. -/
  | address
deriving DecidableEq, Repr, Inhabited

/-- What kept a connector from reaching the cloud at all. -/
inductive ConnectorFault where
  | noCredentials
  | partialCredentials (provider missing : String)
  | noRegion
  | unreachable (endpoint : String)
  | connectTimeout (endpoint : String)
  | readTimeout (endpoint : String)
  | closed (endpoint : String)
  | insecure (endpoint reason : String)
  | noProxy (address : String)
  | unspecified
deriving DecidableEq, Repr, Inhabited

namespace ConnectorFault

/-- The name of a connector fault. -/
def name : ConnectorFault → String
  | .noCredentials => "NoCredentialsError"
  | .partialCredentials .. => "PartialCredentialsError"
  | .noRegion => "NoRegionError"
  | .unreachable _ => "EndpointConnectionError"
  | .connectTimeout _ => "ConnectTimeoutError"
  | .readTimeout _ => "ReadTimeoutError"
  | .closed _ => "ConnectionClosedError"
  | .insecure .. => "SSLError"
  | .noProxy _ => "ProxyConnectionError"
  | .unspecified => "BotoCoreError"

/-- The message of a connector fault. -/
def message : ConnectorFault → String
  | .noCredentials => "Unable to locate credentials"
  | .partialCredentials provider missing =>
    "Partial credentials found in " ++ provider ++ ", missing: " ++ missing
  | .noRegion => "You must specify a region."
  | .unreachable endpoint => "Could not connect to the endpoint URL: \"" ++ endpoint ++ "\""
  | .connectTimeout endpoint => "Connect timeout on endpoint URL: \"" ++ endpoint ++ "\""
  | .readTimeout endpoint => "Read timeout on endpoint URL: \"" ++ endpoint ++ "\""
  | .closed endpoint =>
    "Connection was closed before we received a valid response from endpoint URL: \"" ++ endpoint ++
      "\"."
  | .insecure endpoint reason => "SSL validation failed for " ++ endpoint ++ " " ++ reason
  | .noProxy address => "Failed to connect to proxy URL: \"" ++ address ++ "\""
  | .unspecified => "An unspecified error occurred"

/-- The connector fault of a name, with its particulars by name. -/
def ofName (name : String) (detail : String → String) : ConnectorFault :=
  let endpoint := detail "endpoint_url"
  let faults : List ConnectorFault :=
    [.noCredentials, .partialCredentials (detail "provider") (detail "cred_var"), .noRegion,
      .unreachable endpoint, .connectTimeout endpoint, .readTimeout endpoint, .closed endpoint,
      .insecure endpoint (detail "error"), .noProxy (detail "proxy_url")]
  (faults.find? fun f => f.name == name).getD .unspecified

end ConnectorFault

/-- A refusal, or a fault met on the way. -/
inductive Failure where
  /-- An answer of this library. -/
  | refusal (r : Refusal)
  /-- An error reply of the cloud. -/
  | cloud (code operation message : String)
  /-- The cloud was not reached. -/
  | connector (fault : ConnectorFault)
  /-- Time ran out. -/
  | timeout
  /-- A fault that says no more than its message. -/
  | runtime (message : String)
  /-- A value that the operation does not take. -/
  | badValue (message : String)
  /-- A map without the key that was asked for, the key as it is shown. -/
  | missingKey (shown : String)
  /-- The price list gave an unusable answer. -/
  | priceList (message : String)
  /-- The text model gave an unusable answer. -/
  | model (message : String)
  /-- A file in a directory that is not there. -/
  | missingFile (path : String)
  /-- A value of another shape. -/
  | mismatch (m : Mismatch)
deriving Repr, Inhabited

namespace Failure

/-- The message of a failure. Shapes are not described. -/
def message : Failure → String
  | .refusal r => r.message
  | .cloud code operation text =>
    "An error occurred (" ++ code ++ ") when calling the " ++ operation ++ " operation: " ++ text
  | .connector fault => fault.message
  | .timeout => ""
  | .runtime text => text
  | .badValue text => text
  | .missingKey shown => shown
  | .priceList text => text
  | .model text => text
  | .missingFile _ => ""
  | .mismatch _ => ""

/-- The name of the kind of a failure, which stands in for an empty message. -/
def name : Failure → String
  | .refusal r => r.kind.name
  | .cloud .. => "ClientError"
  | .connector fault => fault.name
  | .timeout => "TimeoutError"
  | .runtime _ => "RuntimeError"
  | .badValue _ => "ValueError"
  | .missingKey _ => "KeyError"
  | .priceList _ => "AWSPricingError"
  | .model _ => "GeneratorAPIError"
  | .missingFile _ => "FileNotFoundError"
  | .mismatch .member => "AttributeError"
  | .mismatch .kind => "TypeError"
  | .mismatch .position => "IndexError"
  | .mismatch .range => "OverflowError"
  | .mismatch .json => "JSONDecodeError"
  | .mismatch .depth => "RecursionError"
  | .mismatch .encoding => "UnicodeDecodeError"
  | .mismatch .letters => "UnicodeEncodeError"
  | .mismatch .address => "InvalidURL"

/-- Whether a failure says something of its own; a value of another shape does not. -/
def isTold : Failure → Bool
  | .runtime _ => true
  | .badValue _ => true
  | .missingKey _ => true
  | .priceList _ => true
  | .model _ => true
  | _ => false

/-- The record of a failure: its name, and what it says. -/
def toData (f : Failure) : Data :=
  match f with
  | .refusal r =>
    .map ([("error", .text f.name), ("status", .int r.status), ("code", .text r.code),
      ("message", .text r.message), ("details", .map r.details)] ++
      (if r.kind = .provisioning then [("output", .text r.output)] else []))
  | f => .map [("error", .text f.name), ("message", if f.isTold then .text f.message else .null)]

/-- Whether a failure is an answer of this library. -/
def isRefusal : Failure → Bool
  | .refusal _ => true
  | _ => false

/-- Whether the cloud answered with an error or was not reached. -/
def isCloudFault : Failure → Bool
  | .cloud .. => true
  | .connector _ => true
  | _ => false

/-- The code of an error reply of the cloud; empty for other failures. -/
def cloudCode : Failure → String
  | .cloud code _ _ => code
  | _ => ""

/-! ## The refusals of this library -/

/-- Malformed input. -/
def validation (message : String) : Failure :=
  .refusal (Refusal.mk .validation message 400 "VALIDATION_ERROR" [] "")

/-- Something absent, or of another owner. -/
def notFound (what : String) : Failure :=
  .refusal (Refusal.mk .notFound (what ++ " not found") 404 "NOT_FOUND" [] "")

/-- The record is in no state for the request. -/
def conflict (message : String) : Failure :=
  .refusal (Refusal.mk .conflict message 409 "CONFLICT" [] "")

/-- The balance does not cover the cost. -/
def paymentRequired (action : String) (cost balance : Int) : Failure :=
  .refusal (Refusal.mk .paymentRequired
    ("Insufficient credits: " ++ action ++ " costs " ++ decimalText cost ++ ", balance is " ++
      decimalText balance)
    402 "INSUFFICIENT_CREDITS" [("required", .int cost), ("balance", .int balance)] "")

/-- Too many requests at a time. -/
def rateLimited (message : String) : Failure :=
  .refusal (Refusal.mk .rateLimited message 429 "RATE_LIMITED" [] "")

/-- The message of an unavailable service. -/
def unavailableMessage (service : String) : String :=
  service ++ " is temporarily unavailable. Please try again."

/-- An outside service that fails through no fault of the caller, with a message of its own. -/
def unavailableSaying (service message : String) : Failure :=
  .refusal (Refusal.mk .externalService message 503 "EXTERNAL_SERVICE_ERROR"
    [("service", .text service), ("retryable", .bool true)] "")

/-- An outside service that fails through no fault of the caller. -/
def unavailable (service : String) : Failure :=
  unavailableSaying service (unavailableMessage service)

/-- The advice that goes with a generation failure. -/
def rephraseHint : String :=
  "Try rephrasing the request with the resources and region you need."

/-- The draft of the text model cannot be used. -/
def generation (message : String) : Failure :=
  .refusal (Refusal.mk .generation message 422 "GENERATION_FAILED"
    [("hint", .text rephraseHint)] "")

/-- The provisioning tool failed. -/
def provisioning (message output : String) : Failure :=
  .refusal (Refusal.mk .provisioning message 502 "PROVISIONING_FAILED" [] output)

/-- The workspace could not be prepared or the tool not started. -/
def sandbox (message : String) : Failure :=
  .refusal (Refusal.mk .sandbox message 500 "SANDBOX_ERROR" [] "")

/-- A sealed record could not be opened. -/
def stateEncryption (message : String) : Failure :=
  .refusal (Refusal.mk .stateEncryption message 500 "STATE_ENCRYPTION_ERROR" [] "")

end Failure

/-! ## Shapes of replies -/

/-- The result of something that can fail. -/
abbrev Answer := Except Failure

namespace Data

/-- The entry of a map if it has one; other values have no entries. -/
def getField? (key : String) : Data → Answer (Option Data)
  | .map es => .ok (Entries.get? key es)
  | _ => .error (.mismatch .member)

/-- The entry of a map, or a default. -/
def getFieldD (d : Data) (key : String) (default : Data) : Answer Data :=
  (d.getField? key).map (·.getD default)

/-- The entry of a map that must be there. -/
def getItem (key : String) : Data → Answer Data
  | .map es =>
    match Entries.get? key es with
    | some v => .ok v
    | none => .error (.missingKey (Text.quoted key))
  | _ => .error (.mismatch .kind)

/-- The text of a value that must be one. -/
def asText (d : Data) (otherwise : Mismatch := .kind) : Answer String :=
  match d with
  | .text s => .ok s
  | _ => .error (.mismatch otherwise)

/-- The text of a value, empty for one that counts as absent; any other value must be a text. -/
def asTextOrNothing (d : Data) (otherwise : Mismatch := .kind) : Answer String :=
  if d.isTruthy then d.asText otherwise else .ok ""

/-- The entries of a value that must be a map. -/
def asMap : Data → Answer (Entries Data)
  | .map es => .ok es
  | _ => .error (.mismatch .member)

/-- The item at the start of a list, or the first character of a text. -/
def firstItem : Data → Answer Data
  | .list (x :: _) => .ok x
  | .list [] => .error (.mismatch .position)
  | .text s =>
    match s.toList with
    | c :: _ => .ok (.text c.toString)
    | [] => .error (.mismatch .position)
  | .map _ => .error (.missingKey "0")
  | _ => .error (.mismatch .kind)

/-- The values of a map. -/
def valuesOf : Data → Answer (List Data)
  | .map es => .ok (es.map (·.2))
  | _ => .error (.mismatch .member)

/-- The number that a value is or that its text stands for. -/
def toNumber : Data → Answer Binary64
  | .bool b => .ok (if b then 1 else 0)
  | .int i =>
    match Binary64.ofInt? i with
    | some x => .ok x
    | none => .error (.mismatch .range)
  | .float x => .ok x
  | .text s =>
    match Binary64.ofText? s.toList with
    | some x => .ok x
    | none => .error (.badValue ("could not convert string to float: " ++ Text.quoted s))
  | _ => .error (.mismatch .kind)

/-- How two numbers compare; other values cannot be compared. -/
def compareNumbers (a b : Data) : Answer (Option Ordering) :=
  match a.numeric?, b.numeric? with
  | some x, some y => .ok (x.compare? y)
  | _, _ => .error (.mismatch .kind)

/-- Whether the first of two numbers is at most the second. -/
def atMost (a b : Data) : Answer Bool :=
  (a.compareNumbers b).map fun o => o == some .lt || o == some .eq

/-- Whether the first of two numbers is less than the second. -/
def lessThan (a b : Data) : Answer Bool :=
  (a.compareNumbers b).map (· == some .lt)

/-- The number of characters of a text, of items of a list, or of entries of a map. -/
def length : Data → Answer Nat
  | .text s => .ok s.length
  | .list xs => .ok xs.length
  | .map es => .ok es.length
  | _ => .error (.mismatch .kind)

/-- The items of a list, the keys of a map, or the characters of a text. -/
def elements : Data → Answer (List Data)
  | .list xs => .ok xs
  | .map es => .ok (es.map fun e => .text e.1)
  | .text s => .ok (s.toList.map fun c => .text c.toString)
  | _ => .error (.mismatch .kind)

end Data

end Groundplan
