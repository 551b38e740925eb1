import Groundplan.Cloud.Resource
import Groundplan.Settings
import Groundplan.Text.Lines
import Groundplan.Text.Shown

/-!
# Asking the text model

The request for a draft, and what has to be taken off an answer.

## Main definitions

* `stripFences`: a text without the fences that a model may put around code
* `contextOf`: what a request says of the resources that are there already
* `completionRequest`: the body of a request
* `draftMessages`: the messages that ask for a draft
-/

namespace Groundplan.Draft

open Text

/-- Where the text model is asked. -/
def baseUrl : String := "https://api.mistral.ai/v1"

/-- Seconds that the text model may take. -/
def modelSeconds : Int := 120

/-- Tokens that an answer may have. -/
def maxTokens : Int := 8192

/-! ## Fences -/

/-- An ASCII letter. -/
def isLetter (c : Char) : Bool :=
  ('a' ≤ c && c ≤ 'z') || ('A' ≤ c && c ≤ 'Z')

/-- A text without its fences, each being three marks and the letters that follow. The text so far
is `done`, last character first. -/
def dropFences (done : List Char) (cs : List Char) : List Char :=
  match cs with
  | '\x60' :: '\x60' :: '\x60' :: rest => dropFences done (rest.dropWhile isLetter)
  | c :: rest => dropFences (c :: done) rest
  | [] => done.reverse
termination_by cs.length
decreasing_by
  · have := (List.dropWhile_sublist isLetter (l := rest)).length_le
    simp only [List.length_cons]; omega
  · simp

/-- **A text without the fences around code**, and without blanks around it. -/
def stripFences (s : String) : String :=
  String.ofList (trim (dropFences [] s.toList))

/-! ## Requests -/

/-- One resource as a line. -/
def resourceLine (r : LiveResource) : String :=
  "- " ++ r.type ++ ": " ++ r.reference.plain ++ " (" ++ r.region ++ ")"

/-- **What a request says of the resources that are there already.** -/
def contextOf (rs : List LiveResource) : String :=
  if rs.isEmpty then ""
  else
    "These resources already exist in the account. Prefer referencing them " ++
      "(data sources or imports) over creating duplicates:\n" ++
      "\n".intercalate (rs.map resourceLine)

/-- The instructions for a draft. -/
def instructions (provider context : String) : String :=
  "\n".intercalate
    [ "You are an expert Terraform infrastructure architect.",
      "Generate Terraform configuration for the " ++ provider ++
        " provider from the user's description.",
      context,
      "Return ONLY a JSON object with this structure:",
      "\x7b",
      "  \"files\": \x7b",
      "    \"main.tf\": \"...\",",
      "    \"variables.tf\": \"...\",",
      "    \"outputs.tf\": \"...\"",
      "  \x7d",
      "\x7d",
      "Every file value must be valid HCL as a JSON string. Do not include provider credentials." ]

/-- A message of a role. -/
def message (role content : String) : Data :=
  .map [("role", .text role), ("content", .text content)]

/-- **The messages that ask for a draft.** -/
def draftMessages (prompt provider context : String) : Data :=
  .list [message "system" (instructions provider context),
    message "user" ("User request: " ++ prompt)]

/-- The temperature at which drafts are made. -/
def draftTemperature : Data :=
  .float (.ofRatio false 1 10)

/-- **The body of a request.** -/
def completionRequest (modelName : String) (messages temperature : Data) : Data :=
  .map [("model", .text modelName), ("messages", messages), ("temperature", temperature),
    ("response_format", .map [("type", .text "json_object")]), ("max_tokens", .int maxTokens)]

end Groundplan.Draft
