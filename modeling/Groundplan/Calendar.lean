import Groundplan.Number.Decimal

/-!
# Dates and moments

Calendar dates of the Gregorian calendar, moments with an optional offset from universal time, their
ISO 8601 texts, and the instants they stand for.

## Main definitions

* `Date`, `Date.monthStart`, `Date.dayBefore`: calendar dates
* `Date.toDays`, `Date.ofDays`: days since 1970-01-01
* `Moment`: a date with a time of day and perhaps an offset; `Moment.micros`: its instant
* `Date.read`: the date of a text, or `DateFault`, why it is none
* `Moment.ofIso?`, `Moment.iso`: the ISO 8601 text
* `Instant`: microseconds since the beginning of 1970, the reading of a clock; `instantText`
* `spanOf`: seconds in microseconds
-/

namespace Groundplan

open Text

/-! ## Dates -/

/-- A date of the Gregorian calendar. -/
structure Date where
  year : Nat
  month : Nat
  day : Nat
deriving DecidableEq, Repr, Inhabited

/-- A year of 366 days. -/
def isLeapYear (year : Nat) : Bool :=
  (year % 4 == 0 && year % 100 != 0) || year % 400 == 0

/-- The number of days of a month. -/
def daysInMonth (year month : Nat) : Nat :=
  if month = 2 then (if isLeapYear year then 29 else 28)
  else if month = 4 ∨ month = 6 ∨ month = 9 ∨ month = 11 then 30
  else 31

namespace Date

/-- The first day of the month. -/
def monthStart (d : Date) : Date :=
  { d with day := 1 }

/-- The day before. -/
def dayBefore (d : Date) : Date :=
  if 1 < d.day then { d with day := d.day - 1 }
  else if 1 < d.month then ⟨d.year, d.month - 1, daysInMonth d.year (d.month - 1)⟩
  else ⟨d.year - 1, 12, 31⟩

/-- Whether one date comes before another. -/
def before (a b : Date) : Bool :=
  a.year < b.year || (a.year == b.year &&
    (a.month < b.month || (a.month == b.month && a.day < b.day)))

/-- Days since 1970-01-01. The count runs over eras of 400 years that begin in March. -/
def toDays (d : Date) : Int :=
  let y : Int := if d.month ≤ 2 then d.year - 1 else d.year
  let era := y / 400
  let yearOfEra := y - era * 400
  let shifted : Int := (d.month + 9) % 12
  let dayOfYear := (153 * shifted + 2) / 5 + d.day - 1
  let dayOfEra := yearOfEra * 365 + yearOfEra / 4 - yearOfEra / 100 + dayOfYear
  era * 146097 + dayOfEra - 719468

/-- The date so many days after 1970-01-01. -/
def ofDays (days : Int) : Date :=
  let z := days + 719468
  let era := z / 146097
  let doe := z - era * 146097
  let yoe := (doe - doe / 1460 + doe / 36524 - doe / 146096) / 365
  let doy := doe - (365 * yoe + yoe / 4 - yoe / 100)
  let mp := (5 * doy + 2) / 153
  let day := doy - (153 * mp + 2) / 5 + 1
  let month := if mp < 10 then mp + 3 else mp - 9
  let year := yoe + era * 400 + (if month ≤ 2 then 1 else 0)
  ⟨year.toNat, month.toNat, day.toNat⟩

end Date

/-- A natural with zeros in front up to a width. -/
def padded (width n : Nat) : String :=
  let digits := (toString n).toList
  String.ofList (List.replicate (width - digits.length) '0' ++ digits)

/-- The ISO 8601 text of a date. -/
def Date.iso (d : Date) : String :=
  padded 4 d.year ++ "-" ++ padded 2 d.month ++ "-" ++ padded 2 d.day

/-- The abbreviated name of the month. -/
def Date.monthName (d : Date) : String :=
  (["Jan", "Feb", "Mar", "Apr", "May", "Jun", "Jul", "Aug", "Sep", "Oct", "Nov", "Dec"])[
    d.month - 1]?.getD ""

/-! ## Moments -/

/-- Microseconds since the beginning of 1970 in universal time. -/
abbrev Instant := Int

/-- Microseconds in a second. -/
def microsPerSecond : Int := 1000000

/-- Microseconds in a day. -/
def microsPerDay : Int := 86400 * microsPerSecond

/-- The microseconds nearest to a number of seconds; none for a number that is not finite. -/
def spanOf : Binary64 → Int
  | .finite negative m e =>
    let n := if 0 ≤ e then m * 1000000 * Nat.pow 2 e.toNat
      else roundDiv (m * 1000000) (Nat.pow 2 (-e).toNat)
    if negative then -n else n
  | _ => 0

/-- A date, a time of day, and perhaps the offset of its zone from universal time in seconds. -/
structure Moment where
  date : Date
  second : Nat
  micro : Nat
  offset : Option Int
deriving DecidableEq, Repr, Inhabited

namespace Moment

/-- The instant of a moment; a moment without an offset is taken in universal time. -/
def micros (m : Moment) : Instant :=
  m.date.toDays * microsPerDay + ((m.second : Int) - m.offset.getD 0) * microsPerSecond + m.micro

/-- The moment of an instant in universal time. -/
def ofInstant (t : Instant) : Moment :=
  let days := t / microsPerDay
  let rest := (t % microsPerDay).toNat
  ⟨Date.ofDays days, rest / 1000000, rest % 1000000, some 0⟩

/-- Hours, minutes and seconds. -/
def clockText (seconds : Nat) : String :=
  padded 2 (seconds / 3600) ++ ":" ++ padded 2 (seconds / 60 % 60) ++ ":" ++ padded 2 (seconds % 60)

/-- The text of an offset: a sign, hours and minutes, and seconds only if there are any. -/
def offsetText (o : Int) : String :=
  let n := o.natAbs
  (if o < 0 then "-" else "+") ++ padded 2 (n / 3600) ++ ":" ++ padded 2 (n / 60 % 60) ++
    (if n % 60 = 0 then "" else ":" ++ padded 2 (n % 60))

/-- The ISO 8601 text of a moment; microseconds are shown only if there are any. -/
def iso (m : Moment) : String :=
  m.date.iso ++ "T" ++ clockText m.second ++
    (if m.micro = 0 then "" else "." ++ padded 6 m.micro) ++
    (m.offset.map offsetText).getD ""

end Moment

/-- The ISO 8601 text of an instant, in universal time. -/
def instantText (t : Instant) : String :=
  (Moment.ofInstant t).iso

/-! ## Reading -/

/-- A run of exactly so many ASCII digits at the start of a text, and what follows it. -/
def takeDigits (count : Nat) (cs : List Char) : Option (Nat × List Char) :=
  let ds := cs.take count
  if ds.length = count ∧ ds.all Char.isDigit then
    some (ds.foldl (fun n c => 10 * n + (c.toNat - 48)) 0, cs.drop count)
  else none

/-- The Monday of the first week of an ISO year. -/
def isoYearStart (year : Nat) : Int :=
  let fourth := (Date.mk year 1 4).toDays
  fourth - (fourth + 3) % 7

/-- Why a text is no date: it has not the form of one, or its year, month or day is not there. -/
inductive DateFault where
  | form
  | year (year : Nat)
  | month
  | day
deriving DecidableEq, Repr, Inhabited

/-- A date that the calendar has. -/
def Date.checked (d : Date) : Except DateFault Date :=
  if d.year = 0 ∨ 9999 < d.year then .error (.year d.year)
  else if d.month = 0 ∨ 12 < d.month then .error .month
  else if d.day = 0 ∨ daysInMonth d.year d.month < d.day then .error .day
  else .ok d

/-- What follows a hyphen, where hyphens separate; the text itself where they do not. -/
def afterHyphen? (dashed : Bool) (cs : List Char) : Option (List Char) :=
  match dashed, cs with
  | true, '-' :: r => some r
  | true, _ => none
  | false, r => some r

/-- Whether a year has a week of a number. -/
def hasWeek (year week : Nat) : Bool :=
  1 ≤ week && (week ≤ 52 || (week == 53 && isoYearStart (year + 1) - isoYearStart year == 371))

/-- The date of a week and perhaps a weekday of a year. The year 0 has no dates. -/
def Date.ofWeek? (year : Nat) (dashed : Bool) (cs : List Char) :
    Option (Except DateFault Date) := do
  let (week, r) ← takeDigits 2 cs
  let weekday ←
    match r with
    | [] => some 1
    | r => (afterHyphen? dashed r).bind fun r => (takeDigits 1 r).map (·.1)
  if weekday = 0 ∨ 7 < weekday then none
  else if year = 0 then if 1 ≤ week ∧ week ≤ 52 then some (.error .month) else none
  else if hasWeek year week then
    some (Date.ofDays (isoYearStart year + 7 * (week - 1) + (weekday - 1))).checked
  else none

/-- The date of a month and a day of a year. -/
def Date.ofMonth? (year : Nat) (dashed : Bool) (cs : List Char) :
    Option (Except DateFault Date) := do
  let (month, r) ← takeDigits 2 cs
  let r ← afterHyphen? dashed r
  let (day, _) ← takeDigits 2 r
  return (Date.mk year month day).checked

/-- The sizes in bytes that a text of a date can have. -/
def dateSizes : List Nat := [7, 8, 10]

/-- **The date of a text** in one of the ISO 8601 forms: year, month and day, or year, week and
perhaps weekday, with hyphens everywhere or nowhere. Only the size of the text tells where the date
ends. -/
def Date.read (cs : List Char) : Except DateFault Date :=
  if !dateSizes.contains (String.ofList cs).utf8ByteSize then .error .form
  else
    match takeDigits 4 cs with
    | none => .error .form
    | some (year, rest) =>
      let dashed := rest.head? = some '-'
      let form :=
        match if dashed then rest.drop 1 else rest with
        | 'W' :: r => Date.ofWeek? year dashed r
        | r => Date.ofMonth? year dashed r
      form.getD (.error .form)

/-- Hours, then minutes and seconds if present, with colons everywhere or nowhere; the number of
seconds, and what follows. -/
def clockOf? (cs : List Char) : Option (Nat × List Char) := do
  let (h, r) ← takeDigits 2 cs
  match r with
  | ':' :: r1 =>
    let (m, r2) ← takeDigits 2 r1
    match r2 with
    | ':' :: r3 =>
      let (s, r4) ← takeDigits 2 r3
      some (h * 3600 + m * 60 + s, r4)
    | _ => some (h * 3600 + m * 60, r2)
  | _ =>
    match takeDigits 2 r with
    | none => some (h * 3600, r)
    | some (m, r2) =>
      match takeDigits 2 r2 with
      | none => some (h * 3600 + m * 60, r2)
      | some (s, r4) => some (h * 3600 + m * 60 + s, r4)

/-- A fraction of a second as microseconds, digits beyond the sixth being dropped. -/
def fractionOf? (cs : List Char) : Option (Nat × List Char) :=
  match cs with
  | c :: r =>
    if c == '.' || c == ',' then
      let ds := r.takeWhile Char.isDigit
      if ds.isEmpty then none
      else
        let six := ds.take 6 ++ List.replicate (6 - ds.length) '0'
        some (six.foldl (fun n c => 10 * n + (c.toNat - 48)) 0, r.drop ds.length)
    else some (0, cs)
  | [] => some (0, [])

/-- The moment of an ISO 8601 text: a date of ten characters, and perhaps a separator with a time
of day and an offset. -/
def Moment.ofIso? (s : String) : Option Moment := do
  let cs := s.toList
  let d ← (Date.read (cs.take 10)).toOption
  match cs.drop 10 with
  | [] => some ⟨d, 0, 0, none⟩
  | _ :: r =>
    let (seconds, r) ← clockOf? r
    let (micro, r) ← fractionOf? r
    match r with
    | [] => some ⟨d, seconds, micro, none⟩
    | ['Z'] => some ⟨d, seconds, micro, some 0⟩
    | sign :: r =>
      let (o, r) ← clockOf? r
      if !r.isEmpty then none
      else if sign == '+' then some ⟨d, seconds, micro, some o⟩
      else if sign == '-' then some ⟨d, seconds, micro, some (-(o : Int))⟩
      else none

end Groundplan
