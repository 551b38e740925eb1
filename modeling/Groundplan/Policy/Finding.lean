import Groundplan.Data

/-!
# Findings and scores

What an audit reports: the findings of each policy, graded by severity, and a score from zero to one
hundred from which every finding takes off the weight of its severity.

## Main definitions

* `Severity`, `Category`: the grades and fields of policies
* `Finding`: a match of a policy against a resource, or against the text as a whole
* `Violation`: the findings of one policy
* `Summary`, `summarize`: the counts by severity and the score

## Main results

* `score_le`: a score is at most one hundred
-/

namespace Groundplan.Policy

/-! ## Grades -/

/-- The grades of findings, the gravest first. -/
inductive Severity where
  | critical
  | high
  | medium
  | low
  | info
deriving DecidableEq, Repr, Inhabited

namespace Severity

/-- The severities, the gravest first. -/
def all : List Severity := [.critical, .high, .medium, .low, .info]

/-- The word for a severity. -/
def word : Severity → String
  | .critical => "CRITICAL"
  | .high => "HIGH"
  | .medium => "MEDIUM"
  | .low => "LOW"
  | .info => "INFO"

/-- The severity that a word stands for. -/
def ofWord? (s : String) : Option Severity :=
  all.find? fun x => x.word == s

/-- What a finding takes off the score. -/
def weight : Severity → Nat
  | .critical => 25
  | .high => 15
  | .medium => 5
  | .low => 2
  | .info => 1

/-- The place of a severity in the order of reports, the gravest first. -/
def rank : Severity → Nat
  | .critical => 0
  | .high => 1
  | .medium => 2
  | .low => 3
  | .info => 4

end Severity

/-- The fields of policies. -/
inductive Category where
  | security
  | cost
  | reliability
  | performance
  | compliance
deriving DecidableEq, Repr, Inhabited

namespace Category

/-- The fields of policies. -/
def all : List Category := [.security, .cost, .reliability, .performance, .compliance]

/-- The word for a field. -/
def word : Category → String
  | .security => "SECURITY"
  | .cost => "COST"
  | .reliability => "RELIABILITY"
  | .performance => "PERFORMANCE"
  | .compliance => "COMPLIANCE"

/-- The field that a word stands for. -/
def ofWord? (s : String) : Option Category :=
  all.find? fun x => x.word == s

end Category

/-! ## Findings -/

/-- A match of a policy against a resource, or against the text as a whole. -/
structure Finding where
  reference : String
  type : String
  message : String
  line : Option Nat := none
  suggestion : Option String := none
  fixable : Bool := false
  metadata : Entries Data := []
deriving Repr, Inhabited

/-- The view of a finding. -/
def Finding.toData (f : Finding) : Data :=
  .map [("resource_ref", .text f.reference), ("resource_type", .text f.type),
    ("line", (f.line.map Data.ofNat).getD .null), ("message", .text f.message),
    ("suggestion", .ofText? f.suggestion), ("auto_fixable", .bool f.fixable),
    ("metadata", .map f.metadata)]

/-- The finding of a record. -/
def Finding.ofData (d : Data) : Finding where
  reference := d.textAt "resource_ref"
  type := d.textAt "resource_type"
  message := d.textAt "message"
  line := (d.field? "line").map fun _ => (d.intAt "line").toNat
  suggestion := d.textAt? "suggestion"
  fixable := d.flagAt "auto_fixable"
  metadata := (d.child "metadata").entries

/-- The findings of one policy in one audit. -/
structure Violation where
  code : String
  name : String
  category : Category
  severity : Severity
  findings : List Finding
deriving Repr, Inhabited

/-- The view of a violation. -/
def Violation.toData (v : Violation) : Data :=
  .map [("policy_code", .text v.code), ("policy_name", .text v.name),
    ("category", .text v.category.word), ("severity", .text v.severity.word),
    ("findings", .list (v.findings.map Finding.toData))]

/-- The violations, the gravest first, those of one severity in their order. -/
def bySeverity (vs : List Violation) : List Violation :=
  vs.mergeSort fun v w => v.severity.rank ≤ w.severity.rank

/-! ## Scores -/

/-- The score of an audit without findings. -/
def maxScore : Nat := 100

/-- The number of findings of a severity. -/
def countOf (s : Severity) (vs : List Violation) : Nat :=
  ((vs.filter fun v => v.severity = s).map fun v => v.findings.length).foldr (· + ·) 0

/-- The counts and the score of an audit. -/
structure Summary where
  total : Nat
  critical : Nat
  high : Nat
  medium : Nat
  low : Nat
  info : Nat
  passed : Int
  score : Int
deriving DecidableEq, Repr, Inhabited

/-- What all findings together take off. -/
def penalty (vs : List Violation) : Nat :=
  (Severity.all.map fun s => s.weight * countOf s vs).foldr (· + ·) 0

/-- **The score of violations**: every finding takes off its weight, down to zero. -/
def score (vs : List Violation) : Nat :=
  maxScore - penalty vs

/-- The summary of violations and of the number of policies without findings. -/
def summarize (vs : List Violation) (passed : Int) : Summary :=
  ⟨(Severity.all.map fun s => countOf s vs).foldr (· + ·) 0, countOf .critical vs,
    countOf .high vs, countOf .medium vs, countOf .low vs, countOf .info vs, passed, score vs⟩

/-- The view of a summary. -/
def Summary.toData (s : Summary) : Data :=
  .map [("total_issues", .ofNat s.total), ("critical_count", .ofNat s.critical),
    ("high_count", .ofNat s.high), ("medium_count", .ofNat s.medium), ("low_count", .ofNat s.low),
    ("info_count", .ofNat s.info), ("passed_checks", .int s.passed), ("score", .int s.score)]

theorem score_le (vs : List Violation) : score vs ≤ maxScore :=
  Nat.sub_le _ _

end Groundplan.Policy
