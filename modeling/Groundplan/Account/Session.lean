import Groundplan.Account.Role
import Groundplan.Installation

/-!
# Sessions

Taking on a role of a customer through the token service. A breaker guards the service: it counts
its faults, while a refusal of the role shows that the service works.

## Main definitions

* `SessionRequest`, `assume`: taking on a role
* `checkKeys`, `hostAccount`: whose keys these are, and whose ours are
-/

namespace Groundplan

open Text

/-! ## Taking on a role -/

/-- What is asked of the token service. -/
structure SessionRequest where
  arn : String
  /-- A word for what the session is for. -/
  purpose : String
  /-- The identifier that the trusting account asks for, sent as it is given. -/
  externalId : Data := .null
  /-- The region in which the keys will be used; the default one if empty. -/
  region : String := ""
  /-- Seconds that the session lasts, sent as they are given; as configured if there are none. -/
  seconds : Data := .null
deriving Repr, Inhabited

/-- Characters that the name of a session may have. -/
def maxSessionName : Nat := 64

/-- The name of a session: application, purpose and the time in seconds, cut to size. -/
def sessionName (app purpose : String) (now : Instant) : String :=
  String.ofList ((app ++ "-" ++ purpose ++ "-" ++ decimalText (now / microsPerSecond)).toList.take
    maxSessionName)

/-- The parameters of a call that takes on a role. -/
def SessionRequest.params (r : SessionRequest) (s : Settings) (now : Instant) : Entries Data :=
  [("RoleArn", .text (String.ofList (trim r.arn.toList))),
    ("RoleSessionName", .text (sessionName s.appName r.purpose now)),
    ("DurationSeconds", if r.seconds.isTruthy then r.seconds else .int s.roleSeconds)] ++
    (if r.externalId.isTruthy then [("ExternalId", r.externalId)] else [])

/-- The service of calls under the keys of this installation. -/
def hostService : String := "host-sts"

/-- The name of the token service in messages. -/
def tokenService : String := "AWS STS"

/-- Further codes by which the token service refuses a role. -/
def roleRefusedCodes : List String := ["ValidationError", "InvalidClientTokenId"]

/-- Whether a failure shows that the role is refused and the service works. -/
def refusesRole (f : Failure) : Bool :=
  f.isDenied || roleRefusedCodes.contains f.cloudCode

/-- The failure of a refused role. -/
def roleRefused : Failure :=
  .validation "Unable to assume role. Check the role's trust policy and external ID."

/-- Asks the host's cloud. -/
def askHost (w : World) (call : CloudCall) : Action (Answer Data) := do
  Action.note (.called call)
  return w.host call

/-- What the answer of the token service means, with the breaker after it. An answer that is neither
a reply nor a fault of the cloud leaves the breaker as it is. -/
def settle (now : Instant) (region : String) (b : Breaker) : Answer Data → Answer Keys × Breaker
  | .ok reply => (issuedKeys region reply, b.succeed)
  | .error f =>
    if f.isCloudFault then
      if refusesRole f then (.error roleRefused, b.succeed)
      else (.error (.unavailable tokenService), b.fail now)
    else (.error f, b)

/-- **Takes on a role**: the keys of a session. -/
def assume (w : World) (r : SessionRequest) : Action Keys := do
  Action.ofAnswer (checkRoleArn r.arn)
  let s ← get
  let (allowed, breaker) := s.sessionBreaker.allow w.now
  set { s with sessionBreaker := breaker }
  if !allowed then throw (.unavailable tokenService)
  let answer ← askHost w ⟨hostService, s.settings.region, "assume_role",
    r.params s.settings w.now⟩
  let region := if r.region == "" then s.settings.region else r.region
  let (keys, breaker) := settle w.now region breaker answer
  modify fun s => { s with sessionBreaker := breaker }
  Action.ofAnswer keys

/-! ## Identities -/

/-- The account that keys belong to. -/
def checkKeys (w : World) (k : Keys) : Action Data := do
  let call : CloudCall := ⟨"sts", k.region, "get_caller_identity", []⟩
  Action.note (.called call)
  match w.account.call call with
  | .ok identity => Action.ofAnswer (identity.getItem "Account")
  | .error f =>
    if f.isCloudFault then throw (.validation "AWS credentials are invalid or expired") else throw f

/-- The account of this installation, as configured where the cloud does not tell. -/
def hostAccount (w : World) : Action Data := do
  let s ← get
  match ← askHost w ⟨hostService, s.settings.region, "get_caller_identity", []⟩ with
  | .ok identity => Action.ofAnswer (identity.getItem "Account")
  | .error f => if f.isCloudFault then return .text s.settings.hostAccount else throw f

end Groundplan
