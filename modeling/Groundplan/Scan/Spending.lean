import Groundplan.Scan.Finding
import Groundplan.Text.Shown

/-!
# What was spent

The figures of the cost explorer: what each service cost in the current month so far, and what the
five months before it cost. The explorer refuses empty periods, so the first of these is not asked
for on the first day of a month.

## Main definitions

* `Period`: the days from a date up to another
* `currentPeriod?`, `historyPeriod`: the periods that are asked for
* `scanSpending`: the figures
-/

namespace Groundplan.Scan

open Text

/-! ## Periods -/

/-- The days from a date up to another, which is not among them. -/
structure Period where
  start : Date
  stop : Date
deriving DecidableEq, Repr, Inhabited

/-- A period as a parameter. -/
def Period.toData (p : Period) : Data :=
  .map [("Start", .text p.start.iso), ("End", .text p.stop.iso)]

/-- The month so far, unless it begins today. -/
def currentPeriod? (today : Date) : Option Period :=
  if today.monthStart.before today then some ⟨today.monthStart, today⟩ else none

/-- The first day of the month before that of a date. -/
def monthBefore (d : Date) : Date :=
  d.monthStart.dayBefore.monthStart

/-- The first day of the month so many months before that of a date. -/
def monthsBefore : Nat → Date → Date
  | 0, d => d.monthStart
  | n + 1, d => monthsBefore n (monthBefore d)

/-- The whole months that a history covers. -/
def historyMonths : Nat := 5

/-- The whole months before the current one; the calendar begins with the year 1. -/
def historyPeriod (today : Date) : Answer Period :=
  let start := monthsBefore historyMonths today
  if start.year = 0 then .error (.mismatch .range) else .ok ⟨start, today.monthStart⟩

/-! ## Figures -/

/-- The client that asks for costs. -/
def explorer : Client := .of "ce" ""

/-- The operation that asks for costs. -/
def costOperation : String := "get_cost_and_usage"

/-- The parameters that ask for the costs of a period. -/
def costParams (p : Period) : Entries Data :=
  [("TimePeriod", p.toData), ("Granularity", .text "MONTHLY"),
    ("Metrics", .ofTexts ["UnblendedCost"])]

/-- The parameter that asks for costs by service. -/
def byServiceParam : Entries Data :=
  [("GroupBy", .list [.map [("Type", .text "DIMENSION"), ("Key", .text "SERVICE")]])]

/-- The amount under a key. -/
def amountOf (d : Data) (key : String) : Answer Binary64 := do
  let cost ← (← d.getFieldD key (.map [])).getFieldD "UnblendedCost" (.map [])
  (← cost.getFieldD "Amount" (.text "0")).toNumber

/-- Puts the cost of a service in place of an earlier one, or at the end. -/
def setService (service : Data) (cost : Binary64) : List ServiceSpend → List ServiceSpend
  | [] => [⟨service, cost⟩]
  | s :: rest =>
    if s.service.same service then { s with cost := cost } :: rest
    else s :: setService service cost rest

/-- Adds the cost of a service, if it has any. -/
def addService (spent : List ServiceSpend) (group : Data) : Answer (List ServiceSpend) := do
  let keys ← group.entry "Keys"
  let service ← (if keys.isTruthy then keys else .list [.text "Unknown"]).firstItem
  let amount ← amountOf group "Metrics"
  if (0 : Binary64).lt amount then
    if LiveResource.isKey service then return setService service amount.cents spent
    else .error (.mismatch .kind)
  else return spent

/-- The costs by service of a reply. -/
def servicesOf (reply : Data) : Answer (List ServiceSpend) := do
  let periods ← reply.getFieldD "ResultsByTime" (.list [])
  let groups ← if periods.isTruthy then (← periods.firstItem).rows "Groups" else pure []
  groups.foldlM addService []

/-- Why a text is no date, in words. -/
def dateFaultText (s : String) : DateFault → String
  | .form => "Invalid isoformat string: " ++ quoted s
  | .year y => "year " ++ toString y ++ " is out of range"
  | .month => "month must be in 1..12"
  | .day => "day is out of range for month"

/-- The date of a text. -/
def dateOf : Data → Answer Date
  | .text s =>
    match Date.read s.toList with
    | .ok d => .ok d
    | .error fault => .error (.badValue (dateFaultText s fault))
  | _ => .error (.mismatch .kind)

/-- The cost of a month of a history. -/
def monthOf (period : Data) : Answer MonthlySpend := do
  let start ← dateOf (← (← period.getItem "TimePeriod").getItem "Start")
  return ⟨start.monthName, (← amountOf period "Total").cents⟩

/-- **What was spent** in the month of a day and in the months before. -/
def scanSpending (today : Date) : Inquiry Findings := do
  let byService ← match currentPeriod? today with
    | some p => do servicesOf (← explorer.ask costOperation (costParams p ++ byServiceParam))
    | none => pure []
  let past ← historyPeriod today
  let reply ← explorer.ask costOperation (costParams past)
  let history ← (← reply.rows "ResultsByTime").mapM fun period => monthOf period
  return { byService := byService, history := history }

end Groundplan.Scan
