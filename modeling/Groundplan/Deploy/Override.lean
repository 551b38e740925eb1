import Groundplan.Account.Role

/-!
# The provider override

The file that gives the keys of a session to the provisioning tool, next to the configuration of the
user: a local backend, and a provider with the keys.

## Main definitions

* `literal`: a text as a string literal without interpolation
* `override`: the file
-/

namespace Groundplan.Deploy

open Text

/-- A text with backslashes and quotes escaped and the openings of interpolations doubled. -/
def escapeLiteral : List Char → List Char
  | [] => []
  | '\\' :: cs => '\\' :: '\\' :: escapeLiteral cs
  | '"' :: cs => '\\' :: '"' :: escapeLiteral cs
  | '$' :: '\x7b' :: cs => '$' :: '$' :: '\x7b' :: escapeLiteral cs
  | c :: cs => c :: escapeLiteral cs

/-- A text as a string literal without interpolation. -/
def literal (s : String) : String :=
  String.ofList ('"' :: escapeLiteral s.toList ++ ['"'])

/-- A value as a string literal; only a text is one. -/
def literalOf : Data → Answer String
  | .text s => .ok (literal s)
  | _ => .error (.mismatch .member)

/-- The name of the file that the tool keeps its state in. -/
def stateFile : String := "terraform.tfstate"

/-- The lines of the backend. -/
def backendLines : List String :=
  ["terraform \x7b", "  backend \"local\" \x7b", "    path = " ++ literal stateFile, "  \x7d",
    "\x7d", ""]

/-- The lines of the tags that all resources get. -/
def tagLines (app : String) : List String :=
  ["", "  default_tags \x7b", "    tags = \x7b", "      ManagedBy = " ++ literal app, "    \x7d",
    "  \x7d", "\x7d", ""]

/-- **The file that gives keys to the tool** for a region. -/
def override (app : String) (k : Keys) (region : String) : Answer String := do
  let access ← literalOf k.accessKey
  let secret ← literalOf k.secretKey
  let token ← if k.token.isTruthy then (literalOf k.token).map fun t => ["  token      = " ++ t]
    else pure []
  return "\n".intercalate (backendLines ++
    ["provider \"aws\" \x7b", "  region     = " ++ literal region, "  access_key = " ++ access,
      "  secret_key = " ++ secret] ++ token ++ tagLines app)

end Groundplan.Deploy
