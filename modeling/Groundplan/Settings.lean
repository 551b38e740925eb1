import Groundplan.Failure
import Groundplan.Text.CharClass

/-!
# Settings

The settings of an installation, and the checks that they have to pass before it starts.

## Main definitions

* `Settings`: the settings with their defaults
* `Settings.check`: refuses unusable settings
* `isRegionCode`: whether a text has the form of a region code
-/

namespace Groundplan

open Text

/-- The region that is used where none is given. -/
def defaultRegion : String := "us-east-1"

/-- The settings of an installation. -/
structure Settings where
  appName : String := "iac-engine"
  region : String := defaultRegion
  /-- The account that asks for roles. -/
  hostAccount : String := "000000000000"
  /-- Seconds that an assumed role lasts. -/
  roleSeconds : Int := 3600
  /-- Seconds that a scan category may take. -/
  scanSeconds : Int := 60
  /-- The key from which the keys of sealed records are derived. -/
  masterKey : String := ""
  /-- Seconds that a run of the provisioning tool may take. -/
  toolSeconds : Data.Numeric := .int 300
  /-- Bytes of output that are kept of a run. -/
  toolBytes : Int := 1048576
  /-- Provisioning operations of one user at a time. -/
  slotLimit : Int := 5
  modelKey : String := ""
  modelName : String := "mistral-large-latest"
  /-- The balance that a user starts with. -/
  startBalance : Int := 100
deriving Repr, Inhabited

/-- Characters of the output of a deployment that are stored. -/
def maxOutputChars : Nat := 50000

/-- Characters of an error message that are stored. -/
def maxErrorChars : Nat := 2000

/-- A lower-case ASCII letter. -/
def isSmallLetter (c : Char) : Bool :=
  'a' ≤ c && c ≤ 'z'

/-- The rest of a region code after its country and perhaps a partition: a word, a hyphen and a
digit, then nothing or a single line feed. -/
def isRegionTail (cs : List Char) : Bool :=
  let word := cs.takeWhile isSmallLetter
  match word, cs.drop word.length with
  | _ :: _, ['-', d] => isDecimal d
  | _ :: _, ['-', d, '\n'] => isDecimal d
  | _, _ => false

/-- Whether a text has the form of a region code: two letters, perhaps `-gov`, a word and a
digit, with hyphens between. -/
def isRegionCode (s : String) : Bool :=
  match s.toList with
  | a :: b :: '-' :: rest =>
    isSmallLetter a && isSmallLetter b &&
      (isRegionTail rest ||
        (['g', 'o', 'v', '-'].isPrefixOf rest && isRegionTail (rest.drop 4)))
  | _ => false

namespace Settings

/-- The settings with other limits for the runs of the tool, where limits are given. Zero stands for
none. -/
def limitRuns (s : Settings) (seconds bytes : Data) : Settings :=
  { s with
    toolSeconds := (seconds.numeric?.filter fun n => n.toData.isTruthy).getD s.toolSeconds
    toolBytes := match bytes with
      | .int b => if b = 0 then s.toolBytes else b
      | _ => s.toolBytes }

/-- The settings that are checked, by the names that they have in an environment. -/
def environment (s : Settings) : Entries Data :=
  [("STATE_ENCRYPTION_KEY", .text s.masterKey), ("AWS_DEFAULT_REGION", .text s.region),
    ("TERRAFORM_TIMEOUT_SECONDS", s.toolSeconds.toData),
    ("TERRAFORM_MAX_OUTPUT_BYTES", .int s.toolBytes),
    ("MAX_CONCURRENT_DEPLOYMENTS", .int s.slotLimit),
    ("ASSUME_ROLE_DURATION_SECONDS", .int s.roleSeconds),
    ("SCAN_CATEGORY_TIMEOUT_SECONDS", .int s.scanSeconds), ("MISTRAL_MODEL", .text s.modelName)]

end Settings

/-! ## Checks -/

/-- The names of the settings that must be positive, in the order of the checks. -/
def positiveNames : List String :=
  ["TERRAFORM_TIMEOUT_SECONDS", "TERRAFORM_MAX_OUTPUT_BYTES", "MAX_CONCURRENT_DEPLOYMENTS",
    "ASSUME_ROLE_DURATION_SECONDS", "SCAN_CATEGORY_TIMEOUT_SECONDS"]

/-- Refuses what a condition holds of, with a message. -/
def refuseIf (condition : Bool) (message : String) : Answer Unit :=
  if condition then .error (.badValue message) else .ok ()

/-- Refuses an unusable key. -/
def checkKey (key : Data) : Answer Unit := do
  refuseIf (!key.isTruthy) "STATE_ENCRYPTION_KEY is required"
  refuseIf ((← key.length) < 16) "STATE_ENCRYPTION_KEY must be at least 16 characters"

/-- Refuses what is no region code. -/
def checkRegion : Data → Answer Unit
  | .text s =>
    refuseIf (!isRegionCode s) ("AWS_DEFAULT_REGION must be a region code (got: " ++ s ++ ")")
  | _ => .error (.mismatch .kind)

/-- **Refuses unusable values** of an environment; the first one that is met is reported. -/
def checkVariables (given : Data) : Answer Unit := do
  checkKey (given.child "STATE_ENCRYPTION_KEY")
  checkRegion (given.child "AWS_DEFAULT_REGION")
  positiveNames.forM fun name => do
    refuseIf (← (given.child name).atMost (.int 0)) (name ++ " must be positive")
  refuseIf (← (given.child "ASSUME_ROLE_DURATION_SECONDS").lessThan (.int 900))
    "ASSUME_ROLE_DURATION_SECONDS must be at least 900"
  refuseIf (!(given.child "MISTRAL_MODEL").isTruthy) "MISTRAL_MODEL is required"

/-- **Refuses unusable settings**, some values being replaced by those that an environment gives. -/
def Settings.check (s : Settings) (given : Entries Data) : Answer Unit :=
  checkVariables (.map (s.environment.merge given))

end Groundplan
