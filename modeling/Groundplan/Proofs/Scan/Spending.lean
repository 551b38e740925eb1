import Groundplan.Proofs.Calendar
import Groundplan.Proofs.Scan.Delivery

/-!
# The periods that costs are asked for

A scan of what was spent makes one or two calls. On every day of the calendar their periods are not
empty: the month so far is left out on the first day of a month, and the history is made up of whole
months before the current one. Its start is found by going back a day from the first of a month
again and again, and that leads through months and years of any length.

## Main definitions

* `Period.Covers`: the days of a period
* `Period.WholeMonths`: a period of whole months
* `monthCall`, `historyCall`: the calls
* `spentThisMonth`: what the first of them comes to
* `Asked`: what is to be known of the calls of a scan on a day

## Main results

* `toDays_monthBefore`: a month before, there are as many days less as that month has
* `wholeMonths_monthsBefore`: **going back month by month** covers whole months
* `callsOf_scanSpending`: which calls a scan makes
* `asked_of_checked`: all of it, for every day from the second year on
-/

namespace Groundplan.Scan

open Inquiry

/-! ## Going back by months -/

section Months

variable {d : Date} {n : Nat}

theorem valid_monthStart (h : d.Valid) : d.monthStart.Valid where
  one_le_year := h.one_le_year
  year_le := h.year_le
  one_le_month := h.one_le_month
  month_le := h.month_le
  one_le_day := Nat.le_refl 1
  day_le := one_le_daysInMonth d.year d.month

/-- The month before, as it is found by going back a day. -/
theorem monthBefore_eq (d : Date) : monthBefore d =
    if 1 < d.month then ⟨d.year, d.month - 1, 1⟩ else ⟨d.year - 1, 12, 1⟩ := by
  by_cases h : 1 < d.month <;> simp [monthBefore, Date.monthStart, Date.dayBefore, h]

theorem monthNumber_monthBefore (h : d.Valid) :
    (monthBefore d).monthNumber + 1 = d.monthNumber := by
  have := h.one_le_year
  have := h.one_le_month
  rw [monthBefore_eq]
  split <;> simp only [Date.monthNumber] <;> omega

theorem month_monthBefore (h : d.Valid) :
    1 ≤ (monthBefore d).month ∧ (monthBefore d).month ≤ 12 := by
  have := h.month_le
  rw [monthBefore_eq]
  split <;> dsimp only <;> omega

/-- There is a month before any but the first one of the calendar. -/
theorem valid_monthBefore (h : d.Valid) (hlater : 13 < d.monthNumber) : (monthBefore d).Valid := by
  obtain ⟨hone, htwelve⟩ := month_monthBefore h
  have hnumber := monthNumber_monthBefore h
  have hyear : (monthBefore d).year ≤ d.year := by
    rw [monthBefore_eq]
    split <;> dsimp only <;> omega
  have hle := h.year_le
  rw [Date.monthNumber] at hnumber
  exact ⟨by omega, by omega, hone, htwelve, Nat.le_refl 1, one_le_daysInMonth _ _⟩

/-- **A month before**, there are as many days less as that month has. -/
theorem toDays_monthBefore (h : d.Valid) : d.monthStart.toDays =
    (monthBefore d).toDays + daysOfMonth (monthBefore d).monthNumber := by
  obtain ⟨hone, htwelve⟩ := month_monthBefore h
  -- The day before the first of a month is the last day of the month before.
  have hlast : d.monthStart.dayBefore = ⟨(monthBefore d).year, (monthBefore d).month,
      daysOfMonth (monthBefore d).monthNumber⟩ := by
    rw [daysOfMonth_monthNumber hone htwelve, monthBefore_eq]
    by_cases hmonth : 1 < d.month
    · simp [Date.dayBefore, Date.monthStart, hmonth]
    · simp [Date.dayBefore, Date.monthStart, hmonth, daysInMonth]
  have hbefore := toDays_dayBefore (valid_monthStart h)
  rw [hlast, toDays_mk] at hbefore
  have hfirst : (Date.mk (monthBefore d).year (monthBefore d).month 1) = monthBefore d := rfl
  rw [hfirst] at hbefore
  omega

/-- **Going back month by month** leads to the first day of a month. -/
theorem monthsBefore_spec (h : d.Valid) (hlater : 12 + n < d.monthNumber) :
    (monthsBefore n d).Valid ∧ (monthsBefore n d).day = 1 ∧
      (monthsBefore n d).monthNumber + n = d.monthNumber ∧
      d.monthStart.toDays = (monthsBefore n d).toDays +
        ((List.range' (monthsBefore n d).monthNumber n).map daysOfMonth).sum := by
  -- Induction on the months that are gone back, the one next to the current month first.
  induction n generalizing d with
  | zero => exact ⟨valid_monthStart h, rfl, rfl, by simp [monthsBefore]⟩
  | succ n ih =>
    have hnumber := monthNumber_monthBefore h
    have hbefore := valid_monthBefore h (by omega)
    obtain ⟨hvalid, hday, hcount, hdays⟩ := ih hbefore (by omega)
    have hfirst : (monthBefore d).monthStart = monthBefore d := rfl
    refine ⟨hvalid, hday, by rw [monthsBefore]; omega, ?_⟩
    rw [toDays_monthBefore h, ← hfirst, hdays, hfirst, monthsBefore, List.range'_1_concat,
      List.map_append, List.sum_append, hcount]
    simp
    omega

end Months

/-! ## Periods -/

/-- A day lies in a period. -/
def Period.Covers (p : Period) (d : Date) : Prop :=
  d.before p.start = false ∧ d.before p.stop = true

/-- **A period of so many whole months**, up to a month that is not among them. -/
structure Period.WholeMonths (p : Period) (n : Nat) : Prop where
  /-- It is from the first day of a month to the first day of a month, -/
  first : p.start.Valid ∧ p.start.day = 1 ∧ p.stop.Valid ∧ p.stop.day = 1
  /-- so many months apart, -/
  months : p.stop.monthNumber = p.start.monthNumber + n
  /-- has all days of these months and no others, -/
  covers : ∀ d : Date, d.Valid →
    (p.Covers d ↔ p.start.monthNumber ≤ d.monthNumber ∧ d.monthNumber < p.stop.monthNumber)
  /-- and is as long as these months together. -/
  length : p.stop.toDays = p.start.toDays +
    ((List.range' p.start.monthNumber n).map daysOfMonth).sum

variable {today : Date}

/-- Whole months are as many months as were gone back. -/
theorem wholeMonths_monthsBefore {n : Nat} (h : today.Valid) (hlater : 12 + n < today.monthNumber) :
    (Period.mk (monthsBefore n today) today.monthStart).WholeMonths n := by
  obtain ⟨hvalid, hday, hcount, hdays⟩ := monthsBefore_spec h hlater
  have hstop := valid_monthStart h
  refine ⟨⟨hvalid, hday, hstop, rfl⟩, hcount.symm, fun d hd => ?_, hdays⟩
  have hstart := before_iff_of_first hday hvalid hd
  have hend : d.before today.monthStart = true ↔ d.monthNumber < today.monthStart.monthNumber :=
    before_iff_of_first rfl hstop hd
  rw [Period.Covers, hend, ← Bool.not_eq_true, hstart]
  dsimp only
  omega

/-- A period of whole months is not empty. -/
theorem Period.WholeMonths.proper {p : Period} {n : Nat} (h : p.WholeMonths n) (hn : 0 < n) :
    p.start.before p.stop = true := by
  obtain ⟨hstart, -, hstop, hday⟩ := h.first
  rw [before_iff_of_first hday hstop hstart, h.months]
  omega

/-- The month so far begins before today, unless it begins today. -/
theorem monthStart_before_iff (h : today.Valid) :
    today.monthStart.before today = true ↔ today.day ≠ 1 := by
  have := h.one_le_day
  rw [before_iff]
  simp only [Date.monthStart, true_and]
  omega

/-- The days of the month so far. -/
theorem covers_monthSoFar_iff {d : Date} (hd : d.Valid) :
    (Period.mk today.monthStart today).Covers d ↔
      d.year = today.year ∧ d.month = today.month ∧ d.day < today.day := by
  have := hd.one_le_day
  rw [Period.Covers, ← Bool.not_eq_true, before_iff, before_iff]
  simp only [Date.monthStart]
  omega

/-! ## Calls -/

/-- The call for the costs of a period by service. -/
def monthCall (p : Period) : CloudCall :=
  explorer.call costOperation (costParams p ++ byServiceParam)

/-- The call for the costs of a period by month. -/
def historyCall (p : Period) : CloudCall :=
  explorer.call costOperation (costParams p)

/-- The costs by service of the month so far, as an account tells them. -/
def spentThisMonth (c : Cloud) (today : Date) : Answer (List ServiceSpend) :=
  match currentPeriod? today with
  | some p => c.call (monthCall p) >>= servicesOf
  | none => .ok []

/-- The figures, once the costs by service and the reply about the history are there. -/
def withMonths (byService : List ServiceSpend) (reply : Data) : Inquiry Findings := do
  let history ← (← reply.rows "ResultsByTime").mapM fun period => monthOf period
  return { byService := byService, history := history }

/-- What is asked once the costs by service are there. -/
def withHistory (today : Date) (byService : List ServiceSpend) : Inquiry Findings := do
  withMonths byService (← explorer.ask costOperation (costParams (← historyPeriod today)))

theorem scanSpending_eq_of_some {p : Period} (h : currentPeriod? today = some p) :
    scanSpending today = explorer.ask costOperation (costParams p ++ byServiceParam) >>=
      fun reply => liftM (servicesOf reply) >>= withHistory today := by
  rw [scanSpending, h]
  rfl

theorem scanSpending_eq_of_none (h : currentPeriod? today = none) :
    scanSpending today = withHistory today [] := by
  rw [scanSpending, h]
  exact pure_bind [] (withHistory today)

theorem standalone_withMonths (byService : List ServiceSpend) (reply : Data) :
    Standalone (withMonths byService reply) :=
  (Standalone.lift _).bind fun periods =>
    (Standalone.mapM (fun period => .lift (monthOf period)) periods).bind fun _ => .pure _

theorem standalone_withHistory (today : Date) (byService : List ServiceSpend) :
    Standalone (withHistory today byService) :=
  (Standalone.lift _).bind fun _ => (Standalone.ask _ _ _).bind (standalone_withMonths byService)

theorem callsOf_withMonths (c : Cloud) (byService : List ServiceSpend) (reply : Data) :
    c.callsOf (withMonths byService reply) = [] := by
  refine callsOf_bind_lift (fun periods => ?_) fun periods => ?_
  · exact (Standalone.mapM (fun period => .lift (monthOf period)) periods).bind fun _ => .pure _
  · rw [callsOf_bind fun _ => .pure _, callsOf_mapM_lift]
    cases c.outcome (periods.mapM fun period => (liftM (monthOf period) : Inquiry _)) <;> rfl

theorem callsOf_withHistory {past : Period} (h : historyPeriod today = .ok past) (c : Cloud)
    (byService : List ServiceSpend) : c.callsOf (withHistory today byService) =
      [historyCall past] := by
  rw [withHistory, h, callsOf_bind fun _ =>
    (Standalone.ask _ _ _).bind (standalone_withMonths byService), callsOf_lift, outcome_lift]
  dsimp only
  rw [callsOf_bind (standalone_withMonths byService), callsOf_ask, outcome_ask]
  cases c.call (explorer.call costOperation (costParams past)) with
  | error f => rfl
  | ok reply => exact congrArg (historyCall past :: ·) (callsOf_withMonths c byService reply)

/-- **The calls of a scan**: for the month so far if there is one, and then, unless that fails, for
the history. -/
theorem callsOf_scanSpending {past : Period} (h : historyPeriod today = .ok past) (c : Cloud) :
    c.callsOf (scanSpending today) = (currentPeriod? today).toList.map monthCall ++
      match spentThisMonth c today with
      | .ok _ => [historyCall past]
      | .error _ => [] := by
  rw [spentThisMonth]
  cases hcurrent : currentPeriod? today with
  | none =>
    rw [scanSpending_eq_of_none hcurrent, callsOf_withHistory h]
    rfl
  | some p =>
    rw [scanSpending_eq_of_some hcurrent, callsOf_bind fun _ =>
      (Standalone.lift _).bind (standalone_withHistory today), callsOf_ask, outcome_ask,
      ← monthCall, Option.toList_some, List.map_singleton]
    refine congrArg ([monthCall p] ++ ·) ?_
    dsimp only
    cases c.call (monthCall p) with
    | error f => rfl
    | ok reply =>
      dsimp only
      rw [callsOf_bind (standalone_withHistory today), callsOf_lift, outcome_lift, List.nil_append]
      have hspent : (Except.ok reply >>= servicesOf) = servicesOf reply := rfl
      rw [hspent]
      cases servicesOf reply with
      | error f => rfl
      | ok byService => exact callsOf_withHistory h c byService

/-! ## What is asked on a day -/

/-- **What is to be known of the calls of a scan** on a day, the history being of a given period. -/
structure Asked (c : Cloud) (today : Date) (past : Period) : Prop where
  /-- There is a call for the month so far unless it is the first day of a month, and a call for the
  history unless the figures of the first call are no good. -/
  calls : c.callsOf (scanSpending today) =
    (if today.day = 1 then [] else [monthCall ⟨⟨today.year, today.month, 1⟩, today⟩]) ++
      match spentThisMonth c today with
      | .ok _ => [historyCall past]
      | .error _ => []
  /-- Every call asks for the costs of a period that begins before it ends. -/
  proper : ∀ call ∈ c.callsOf (scanSpending today), call.operation = costOperation ∧
    ∃ p : Period, call.params.get? "TimePeriod" = some p.toData ∧ p.start.before p.stop = true
  /-- Costs by service are asked for exactly on the other days. -/
  monthToDate : (∃ p, monthCall p ∈ c.callsOf (scanSpending today)) ↔ today.day ≠ 1
  /-- The month so far has the days of this month before today. -/
  soFar : ∀ d : Date, d.Valid → ((Period.mk ⟨today.year, today.month, 1⟩ today).Covers d ↔
    d.year = today.year ∧ d.month = today.month ∧ d.day < today.day)
  /-- The history has five whole months, -/
  whole : past.WholeMonths 5
  /-- and ends where this month begins. -/
  upto : past.stop = ⟨today.year, today.month, 1⟩

theorem currentPeriod?_eq (h : today.Valid) : (currentPeriod? today).toList.map monthCall =
    if today.day = 1 then [] else [monthCall ⟨⟨today.year, today.month, 1⟩, today⟩] := by
  have hstart := monthStart_before_iff h
  rw [currentPeriod?]
  by_cases hday : today.day = 1
  · rw [if_neg (by rwa [hstart, not_not]), if_pos hday]
    rfl
  · rw [if_pos (hstart.mpr hday), if_neg hday]
    rfl

/-- The two calls differ in the number of their parameters. -/
theorem monthCall_ne_historyCall (p q : Period) : monthCall p ≠ historyCall q := by
  intro h
  have hlength := congrArg (fun call => call.params.length) h
  simp [monthCall, historyCall, Client.call, costParams, byServiceParam] at hlength

/-- The history of a day that has five months before its own. -/
theorem historyPeriod_eq (h : today.Valid) (hlater : 12 + 5 < today.monthNumber) :
    historyPeriod today = .ok ⟨monthsBefore 5 today, today.monthStart⟩ := by
  have hstart : 1 ≤ (monthsBefore 5 today).year := (monthsBefore_spec h hlater).1.one_le_year
  rw [historyPeriod, historyMonths, if_neg (by omega)]

/-- What is among the calls of a scan. -/
theorem eq_of_mem_calls {past : Period} {c : Cloud} {call : CloudCall} (h : today.Valid)
    (hpast : historyPeriod today = .ok past) (hcall : call ∈ c.callsOf (scanSpending today)) :
    (today.day ≠ 1 ∧ call = monthCall ⟨today.monthStart, today⟩) ∨ call = historyCall past := by
  rw [callsOf_scanSpending hpast, currentPeriod?_eq h, List.mem_append] at hcall
  obtain hcall | hcall := hcall
  · split at hcall
    case isTrue => cases hcall
    case isFalse hday => exact .inl ⟨hday, List.mem_singleton.mp hcall⟩
  · split at hcall
    · exact .inr (List.mem_singleton.mp hcall)
    · cases hcall

/-- **Costs by service are asked for** unless the month begins today. -/
theorem exists_monthCall_iff {past : Period} (c : Cloud) (h : today.Valid)
    (hpast : historyPeriod today = .ok past) :
    (∃ p, monthCall p ∈ c.callsOf (scanSpending today)) ↔ today.day ≠ 1 := by
  constructor
  · rintro ⟨p, hp⟩
    obtain ⟨hday, -⟩ | heq := eq_of_mem_calls h hpast hp
    · exact hday
    · exact absurd heq (monthCall_ne_historyCall p past)
  · intro hday
    refine ⟨⟨today.monthStart, today⟩, ?_⟩
    rw [callsOf_scanSpending hpast, currentPeriod?_eq h, if_neg hday]
    exact List.mem_append_left _ (List.mem_singleton.mpr rfl)

/-- **What is asked on a day**, whichever day it is from the second year on. -/
theorem asked_of_checked (c : Cloud) (h : today.checked = .ok today) (hyear : 2 ≤ today.year) :
    ∃ past, historyPeriod today = .ok past ∧ Asked c today past := by
  have hvalid := valid_iff_checked.mpr h
  -- The year before has twelve months, so there are five before this one.
  have hlater : 12 + 5 < today.monthNumber := by
    rw [Date.monthNumber]
    omega
  have hpast := historyPeriod_eq hvalid hlater
  have hwhole := wholeMonths_monthsBefore hvalid hlater
  refine ⟨_, hpast, ?_, fun call hcall => ?_, exists_monthCall_iff c hvalid hpast,
    fun d hd => covers_monthSoFar_iff hd, hwhole, rfl⟩
  · rw [callsOf_scanSpending hpast, currentPeriod?_eq hvalid]
  · obtain ⟨hday, rfl⟩ | rfl := eq_of_mem_calls hvalid hpast hcall
    · exact ⟨rfl, _, rfl, (monthStart_before_iff hvalid).mpr hday⟩
    · exact ⟨rfl, _, rfl, hwhole.proper (by decide)⟩

/-- An account that has spent nothing. -/
def thrifty : Cloud where
  call _ := .ok (.map [])
  pages _ := []
  paginates _ _ := false

/-- At the end of a March the history reaches back over a new year and a February. -/
theorem asked_endOfMarch : (Date.mk 2024 3 31).checked = .ok ⟨2024, 3, 31⟩ ∧ 2 ≤ 2024 ∧
    ∃ past, historyPeriod ⟨2024, 3, 31⟩ = .ok past ∧ Asked thrifty ⟨2024, 3, 31⟩ past :=
  ⟨by decide, by decide, asked_of_checked thrifty (by decide) (by decide)⟩

example : thrifty.callsOf (scanSpending ⟨2024, 3, 31⟩) =
    [monthCall ⟨⟨2024, 3, 1⟩, ⟨2024, 3, 31⟩⟩, historyCall ⟨⟨2023, 10, 1⟩, ⟨2024, 3, 1⟩⟩] := by
  rfl

end Groundplan.Scan
