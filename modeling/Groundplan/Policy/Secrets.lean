import Groundplan.Policy.Evaluator

/-!
# Secrets in the text

A line that gives a literal to a name such as `password` holds a secret. Comments are passed over,
and so are lines that mention a variable or an empty literal.

## Main definitions

* `assignsLiteral`: whether a line gives a name a literal
* `secretLabel?`: the first kind of secret in a line
* `noSecrets`: the policy
-/

namespace Groundplan.Policy

open Text

/-- The names that secrets go by, in the order in which they are looked for. -/
def secretNames : List String :=
  ["password", "secret_key", "api_key", "access_key", "secret", "private_key", "token"]

/-- A character that a literal secret may hold: interpolations start with a dollar sign. -/
def isSecretChar (c : Char) : Bool :=
  c != '"' && c != '$'

/-- Whether a text starts with an equals sign and a literal that is not empty. -/
def startsLiteral (cs : List Char) : Bool :=
  match cs.dropWhile isBlank with
  | '=' :: r =>
    match r.dropWhile isBlank with
    | '"' :: r =>
      match r.takeWhile isSecretChar, r.dropWhile isSecretChar with
      | _ :: _, '"' :: _ => true
      | _, _ => false
    | _ => false
  | _ => false

/-- Whether a line gives a name a literal. -/
def assignsLiteral (name : List Char) : List Char → Bool
  | [] => false
  | c :: rest =>
    (name.isPrefixOf (c :: rest) && startsLiteral ((c :: rest).drop name.length)) ||
      assignsLiteral name rest

/-- How comment lines begin. -/
def commentStarts : List String := ["#", "//", "/*"]

/-- What makes a line harmless wherever it stands. -/
def harmlessParts : List String := ["var.", "local.", "data.", "\"\""]

/-- Whether a trimmed line is looked into at all. -/
def isSuspect (line : List Char) : Bool :=
  !(commentStarts.any fun p => startsWith p.toList line) &&
    !(harmlessParts.any fun p => isPart p.toList line)

/-- The first kind of secret that a line gives away. -/
def secretLabel? (line : List Char) : Option String :=
  if isSuspect line then secretNames.find? fun name => assignsLiteral name.toList line else none

/-- The finding for a secret on a line. -/
def secretFinding (number : Nat) (label : String) : Finding :=
  ⟨"template", "hardcoded_secret",
    "Potential hardcoded " ++ label ++ " detected on line " ++ toString number ++
      ". Secrets should never be stored in plain text in configuration files",
    some number,
    some ("Use a variable reference (var." ++ label ++ "), AWS Secrets Manager " ++
      "(aws_secretsmanager_secret) or SSM Parameter Store (aws_ssm_parameter) instead"),
    false, []⟩

/-- The findings in lines that are numbered from a number on. -/
def secretFindings (number : Nat) : List (List Char) → List Finding
  | [] => []
  | line :: rest =>
    match secretLabel? (trim line) with
    | some label => secretFinding number label :: secretFindings (number + 1) rest
    | none => secretFindings (number + 1) rest

/-- No secret stands in the text. -/
def noSecrets : Definition where
  code := "SEC019"
  name := "No Hardcoded Secrets"
  description := "Scans configuration text for hardcoded passwords, secret keys and API keys"
  category := .security
  severity := .critical
  check := fun s => .ok (secretFindings 1 (plainLines s.text.toList))

end Groundplan.Policy
