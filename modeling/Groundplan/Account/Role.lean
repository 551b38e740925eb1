import Groundplan.Failure
import Groundplan.Settings
import Groundplan.Text.Lines
import Groundplan.Text.Shown

/-!
# Roles and keys

A role in a customer account is named by an ARN; taking on the role yields keys for a while.

## Main definitions

* `isRoleArn`, `checkRoleArn`: the form of a role ARN
* `maskArn`, `accountOf`: hiding and reading the account of an ARN
* `Keys`: the keys of a session
* `issuedKeys`: the keys in a reply
* `deniedCodes`, `Failure.isDenied`: refusals for want of permission
-/

namespace Groundplan

open Text

/-! ## ARNs -/

/-- How the ARN of a role begins. -/
def roleStart : String := "arn:aws:iam::"

/-- The number of digits of an account. -/
def accountDigits : Nat := 12

/-- A character of the path and name of a role. -/
def isRoleChar (c : Char) : Bool :=
  isWord c || ['+', '=', ',', '.', '@', '-', '/'].contains c

/-- Whether a text without blanks around it is the ARN of a role: twelve digits of an account, and a
name. -/
def isRoleArn (cs : List Char) : Bool :=
  let rest := cs.drop roleStart.length
  let account := rest.take accountDigits
  let tail := rest.drop accountDigits
  let name := tail.drop ":role/".length
  startsWith roleStart.toList cs && account.length == accountDigits && account.all isDecimal &&
    startsWith ":role/".toList tail && !name.isEmpty && name.all isRoleChar

/-- The message for what is no role ARN. -/
def roleArnMessage : String :=
  "Invalid role ARN. Expected format: arn:aws:iam::<12-digit-account-id>:role/<role-name>"

/-- Refuses what is no role ARN; blanks around one do not count. -/
def checkRoleArn (s : String) : Answer Unit :=
  if isRoleArn (trim s.toList) then .ok () else .error (.validation roleArnMessage)

/-- The account between two colons and one, if a text starts with it, and what follows. -/
def splitAccount? (cs : List Char) : Option (List Char) :=
  match cs with
  | ':' :: ':' :: rest =>
    match rest.drop accountDigits with
    | ':' :: after => if (rest.take accountDigits).all isDecimal then some after else none
    | _ => none
  | _ => none

/-- A text with the accounts in it hidden, read from the left. The text so far is `done`, last
character first; `skip` characters are still part of an account that was hidden. -/
def maskFrom (done : List Char) (skip : Nat) : List Char → List Char
  | [] => done.reverse
  | c :: rest =>
    match skip with
    | n + 1 => maskFrom done n rest
    | 0 =>
      if (splitAccount? (c :: rest)).isSome then
        maskFrom (("::************:".toList).reverse ++ done) (accountDigits + 2) rest
      else maskFrom (c :: done) 0 rest

/-- **A text with the accounts in it hidden.** -/
def maskArn (s : String) : String :=
  String.ofList (maskFrom [] 0 s.toList)

/-- The account in an ARN: what stands between its fourth and fifth colon. -/
def accountOf (s : String) : String :=
  String.ofList ((splitOn ':' s.toList)[4]?.getD [])

/-! ## Denials -/

/-- The codes by which the cloud refuses for want of permission. -/
def deniedCodes : List String :=
  ["AccessDenied", "AccessDeniedException", "UnauthorizedOperation", "UnauthorizedAccess",
    "AuthFailure"]

/-- Whether a failure is a refusal for want of permission. -/
def Failure.isDenied (f : Failure) : Bool :=
  deniedCodes.contains f.cloudCode

/-! ## Keys -/

/-- The keys of a session, as the cloud issued them, for use in a region. -/
structure Keys where
  accessKey : Data
  secretKey : Data
  token : Data
  region : String
  expiration : Data
deriving Repr, Inhabited

/-- What messages may show of keys: neither secret key nor token. -/
def Keys.shown (k : Keys) : String :=
  "AWSCredentials(access_key_id=" ++ k.accessKey.shown ++ ", region=" ++ Text.quoted k.region ++
    ", expiration=" ++ k.expiration.shown ++ ")"

/-- The record of keys. -/
def Keys.toData (k : Keys) : Data :=
  .map [("access_key_id", k.accessKey), ("secret_access_key", k.secretKey),
    ("session_token", k.token), ("region", .text k.region), ("repr", .text k.shown),
    ("expiration",
      match k.expiration with
      | .moment m => .text m.iso
      | e => e)]

/-- The keys of a record, for use in a region. -/
def Keys.ofData (region : String) (d : Data) : Keys where
  accessKey := d.child "access_key_id"
  secretKey := d.child "secret_access_key"
  token := d.child "session_token"
  region := region
  expiration := .null

/-- The keys in a reply, for use in a region. -/
def issuedKeys (region : String) (reply : Data) : Answer Keys := do
  let issued ← reply.getItem "Credentials"
  let access ← issued.getItem "AccessKeyId"
  let secret ← issued.getItem "SecretAccessKey"
  let token ← issued.getFieldD "SessionToken" .null
  let expiration ← issued.getFieldD "Expiration" .null
  return ⟨access, secret, token, region, expiration⟩

end Groundplan
