import Groundplan.Proofs.Number.Rounding

/-!
# What a circuit breaker does

The history of a breaker decides what it does. Failures are counted since the last success or reset.
A closed breaker lets every request through until the count reaches the threshold; an open one lets
none through until its period is over, whatever is recorded meanwhile; and a half-open one lets
through so many trials, the first outcome of which closes or reopens it. How long a breaker was open
is rounded to a number of seconds, so for the longest periods the last microsecond is missing.

## Main definitions

* `Act`, `Call`: what is done with a breaker, and when
* `afterAll`, `admitted`: the breaker after a run, and the requests that were let through
* `failuresSince`: the failures since the last success or reset
* `Opens`, `Tries`: the call with which a breaker opens, or becomes half open
* `Specified`: what is promised of a breaker, over all runs

## Main results

* `step`: what one call can do
* `tracks_afterAll`: the count, its bound, and the settings after a run
* `openSince_afterAll`, `tried_of_openSince`: **an open period** and the request after it
* `admitted_of_tries`: **trials**
* `specified_iff`: **the promises are kept exactly for periods of at most `2 ^ 34` seconds**
-/

namespace Groundplan.Breaker

open Binary64 (whole secondsOf_lt_whole not_lastMicrosecond_lt_whole)

/-! ## Runs -/

/-- What is done with a breaker. -/
inductive Act where
  /-- A request asks to be let through. -/
  | ask
  | success
  | failure
  | reset
deriving DecidableEq, Repr

/-- What a count of failures is after an act. -/
def Act.recount (n : Nat) : Act → Nat
  | .ask => n
  | .failure => n + 1
  | .success | .reset => 0

/-- What is done with a breaker at an instant. -/
structure Call where
  time : Instant
  act : Act
deriving DecidableEq, Repr

/-- The breaker after a call. -/
def Call.after (q : Call) (b : Breaker) : Breaker :=
  match q.act with
  | .ask => (b.allow q.time).2
  | .success => b.succeed
  | .failure => b.fail q.time
  | .reset => b.reset

/-- The breaker after a run of calls. -/
def afterAll (b : Breaker) (qs : List Call) : Breaker :=
  qs.foldl (fun b q => q.after b) b

/-- Whether a call is a request that is let through. -/
def Call.isAdmitted (q : Call) (b : Breaker) : Bool :=
  q.act == .ask && (b.allow q.time).1

/-- How many requests of a run are let through. -/
def admitted (b : Breaker) : List Call → Nat
  | [] => 0
  | q :: qs => (if q.isAdmitted b then 1 else 0) + admitted (q.after b) qs

/-- The calls are made in their order. -/
def Sorted (qs : List Call) : Prop :=
  qs.Pairwise (·.time ≤ ·.time)

/-- A breaker that is new. -/
def start (threshold seconds maxTrials : Int) : Breaker :=
  { threshold, openSeconds := whole seconds, maxTrials }

/-- A breaker that is given no settings. -/
theorem start_default : start 3 60 1 = {} := rfl

/-- **The failures since the last success or reset.** -/
def failuresSince (qs : List Call) : Nat :=
  (qs.reverse.takeWhile fun q => q.act != .success && q.act != .reset).countP (·.act == .failure)

variable {b : Breaker} {qs rs : List Call} {q : Call} {threshold seconds maxTrials : Int}

theorem afterAll_append (b : Breaker) (qs rs : List Call) :
    afterAll b (qs ++ rs) = afterAll (afterAll b qs) rs :=
  List.foldl_append

theorem afterAll_concat (b : Breaker) (qs : List Call) (q : Call) :
    afterAll b (qs ++ [q]) = q.after (afterAll b qs) :=
  afterAll_append b qs [q]

theorem failuresSince_concat (qs : List Call) (q : Call) :
    failuresSince (qs ++ [q]) = q.act.recount (failuresSince qs) := by
  obtain ⟨time, act⟩ := q
  rw [failuresSince, List.reverse_append]
  cases act <;> simp [failuresSince, Act.recount]

/-! ## Single calls -/

/-- The breaker when it becomes half open. -/
def halfOpened (b : Breaker) : Breaker :=
  { b with state := .halfOpen, trials := 0 }

/-- **What a call can do**: whether it is a request that is let through, and the breaker after
it. -/
inductive Step (b : Breaker) (now : Instant) : Act → Bool → Breaker → Prop where
  | pass (h : b.state = .closed) : Step b now .ask true b
  | refuse (h : b.state = .opened) (hopen : b.stillOpen now) : Step b now .ask false b
  /-- The period is over, and the request is the first trial. -/
  | first (h : b.state = .opened) (hover : b.stillOpen now = false) (hfew : 0 < b.maxTrials) :
      Step b now .ask true { b.halfOpened with trials := 1 }
  /-- The period is over, but there are to be no trials. -/
  | barred (h : b.state = .opened) (hover : b.stillOpen now = false) (hmany : b.maxTrials ≤ 0) :
      Step b now .ask false b.halfOpened
  | trial (h : b.state = .halfOpen) (hfew : (b.trials : Int) < b.maxTrials) :
      Step b now .ask true { b with trials := b.trials + 1 }
  | spent (h : b.state = .halfOpen) (hmany : b.maxTrials ≤ b.trials) : Step b now .ask false b
  | forget (h : b.state ≠ .halfOpen) : Step b now .success false { b with failures := 0 }
  | close (h : b.state = .halfOpen) : Step b now .success false b.reset
  | count (h : b.state = .closed) (hfew : (b.failures + 1 : Int) < b.threshold) :
      Step b now .failure false { b with failures := b.failures + 1 }
  | open (h : b.state = .closed) (hmany : b.threshold ≤ b.failures + 1) :
      Step b now .failure false
        { b with state := .opened, failures := b.failures + 1, openedAt := some now }
  /-- An outcome of an earlier call comes late. -/
  | late (h : b.state = .opened) : Step b now .failure false { b with failures := b.failures + 1 }
  | reopen (h : b.state = .halfOpen) :
      Step b now .failure false
        { b with state := .opened, failures := b.failures + 1, trials := 0, openedAt := some now }
  | reset : Step b now .reset false b.reset

/-- A request does one of these. -/
theorem step_ask (b : Breaker) (now : Instant) :
    Step b now .ask (b.allow now).1 (b.allow now).2 := by
  rw [allow]
  cases h : b.state with
  | closed => exact .pass h
  | opened =>
    dsimp only
    -- An open breaker refuses until its time is over, and then half opens.
    by_cases hopen : b.stillOpen now
    · rw [if_pos hopen]
      exact .refuse h hopen
    · rw [if_neg hopen, tryTrial]
      have hover : b.stillOpen now = false := by simpa using hopen
      dsimp only
      split
      · rename_i hfew
        exact .first h hover hfew
      · rename_i hmany
        exact .barred h hover (Int.not_lt.1 hmany)
  | halfOpen =>
    dsimp only
    rw [tryTrial]
    split
    · rename_i hfew
      exact .trial h hfew
    · rename_i hmany
      exact .spent h (Int.not_lt.1 hmany)

/-- So does a failure. -/
theorem step_failure (b : Breaker) (now : Instant) : Step b now .failure false (b.fail now) := by
  rw [fail]
  dsimp only
  cases h : b.state with
  | closed =>
    dsimp only
    split
    · rename_i hmany
      exact .open h (by exact_mod_cast hmany)
    · rename_i hfew
      push_cast at hfew
      have hcount : Step b now .failure false { b with failures := b.failures + 1 } :=
        .count h (by omega)
      rwa [h] at hcount
  | opened =>
    have hlate : Step b now .failure false { b with failures := b.failures + 1 } := .late h
    rwa [h] at hlate
  | halfOpen => exact .reopen h

/-- **Every call** does one of these. -/
theorem step (q : Call) (b : Breaker) : Step b q.time q.act (q.isAdmitted b) (q.after b) := by
  obtain ⟨now, act⟩ := q
  cases act with
  | ask => exact step_ask b now
  | success =>
    show Step b now .success false b.succeed
    rw [succeed]
    split
    · rename_i h
      exact .close h
    · rename_i h
      exact .forget h
  | failure => exact step_failure b now
  | reset => exact .reset

section Steps

variable {c : Breaker} {now since : Instant} {act : Act} {admits : Bool}

/-- The settings of a breaker are never changed. -/
structure SameSettings (b c : Breaker) : Prop where
  threshold : c.threshold = b.threshold
  openSeconds : c.openSeconds = b.openSeconds
  maxTrials : c.maxTrials = b.maxTrials

theorem Step.settings (h : Step b now act admits c) : SameSettings b c := by
  cases h <;> exact ⟨rfl, rfl, rfl⟩

/-- What a call does to the count. -/
theorem Step.failures (h : Step b now act admits c) :
    c.failures = act.recount b.failures := by
  cases h <;> rfl

/-- A closed breaker lets every request through, and stays closed until a failure brings the count
to the threshold. -/
theorem Step.of_closed (h : Step b now act admits c) (hb : b.state = .closed) :
    c.state = (if act = .failure ∧ b.threshold ≤ b.failures + 1 then .opened else .closed) ∧
      (act = .ask → admits = true) := by
  cases h <;> simp_all [Breaker.reset]

/-- Open since an instant. -/
def OpenSince (since : Instant) (b : Breaker) : Prop :=
  b.state = .opened ∧ b.openedAt = some since

/-- A breaker opens with a failure, at its instant. -/
theorem Step.openSince (h : Step b now act admits c) (hb : b.state ≠ .opened)
    (hc : c.state = .opened) : OpenSince now c := by
  cases h <;> simp_all [OpenSince, Breaker.reset]

/-- A breaker stays open until a request finds its period over. -/
theorem Step.of_openSince (h : Step b now act admits c) (hb : OpenSince since b)
    (hact : act ≠ .reset) (hask : act = .ask → b.stillOpen now) :
    OpenSince since c ∧ admits = false := by
  obtain ⟨hstate, hsince⟩ := hb
  cases h <;> simp_all [OpenSince]

/-- A request that finds the period over is the first trial. -/
theorem Step.of_over (h : Step b now .ask admits c) (hb : b.state = .opened)
    (hover : b.stillOpen now = false) (hmax : 1 ≤ b.maxTrials) :
    admits = true ∧ c.state = .halfOpen := by
  cases h <;> simp_all [halfOpened]
  omega

/-- A breaker becomes half open with a request. -/
theorem Step.of_tries (h : Step b now act admits c) (hb : b.state ≠ .halfOpen)
    (hc : c.state = .halfOpen) (hmax : 1 ≤ b.maxTrials) :
    act = .ask ∧ admits = true ∧ c.trials = 1 := by
  cases h <;> simp_all [halfOpened, Breaker.reset]
  omega

/-- A half-open breaker lets a request through if there are trials left. -/
theorem Step.of_halfOpen (h : Step b now .ask admits c) (hb : b.state = .halfOpen) :
    c.state = .halfOpen ∧
      (((b.trials : Int) < b.maxTrials ∧ admits = true ∧ c.trials = b.trials + 1) ∨
        (b.maxTrials ≤ b.trials ∧ admits = false ∧ c.trials = b.trials)) := by
  cases h <;> simp_all

/-- The first outcome closes or reopens a half-open breaker. -/
theorem Step.of_outcome (h : Step b now act admits c) (hb : b.state = .halfOpen) :
    (act = .success → c.state = .closed) ∧ (act = .failure → c.state = .opened) := by
  cases h <;> simp_all [Breaker.reset]

/-- The count of a closed breaker stays below the threshold. -/
theorem Step.below (h : Step b now act admits c) (ht : 1 ≤ b.threshold)
    (hb : b.state = .closed → (b.failures : Int) < b.threshold) (hc : c.state = .closed) :
    (c.failures : Int) < c.threshold := by
  cases h <;> simp_all [Breaker.reset, halfOpened]
  all_goals omega

end Steps

/-! ## Counting -/

/-- What a history tells of a breaker that began as another one. -/
structure Tracks (b : Breaker) (qs : List Call) (c : Breaker) : Prop where
  settings : SameSettings b c
  failures : c.failures = failuresSince qs
  below : c.state = .closed → (c.failures : Int) < c.threshold

/-- **A call** and the history with it. -/
theorem Tracks.after {c : Breaker} (h : Tracks b qs c) (ht : 1 ≤ b.threshold) (q : Call) :
    Tracks b (qs ++ [q]) (q.after c) where
  settings := by
    obtain ⟨hthreshold, hseconds, htrials⟩ := (step q c).settings
    exact ⟨hthreshold.trans h.settings.threshold, hseconds.trans h.settings.openSeconds,
      htrials.trans h.settings.maxTrials⟩
  failures := by
    rw [(step q c).failures, failuresSince_concat, h.failures]
  below := (step q c).below (by rw [h.settings.threshold]; exact ht) h.below

/-- **A run** and its history. -/
theorem tracks_afterAll (ht : 1 ≤ threshold) (seconds maxTrials : Int) (qs : List Call) :
    Tracks (start threshold seconds maxTrials) qs
      (afterAll (start threshold seconds maxTrials) qs) := by
  -- Induction from the end of the run, since the last call is what the history grows by.
  induction qs using List.reverseRecOn with
  | nil =>
    refine ⟨⟨rfl, rfl, rfl⟩, rfl, fun _ => ?_⟩
    show ((0 : Nat) : Int) < threshold
    omega
  | append_singleton qs q ih =>
    rw [afterAll_concat]
    exact ih.after ht q

/-! ## An open period -/

/-- Whether the period of a breaker is over, as long as no instant is lost in rounding. -/
theorem stillOpen_iff {since now : Instant} (hb : OpenSince since b)
    (hseconds : b.openSeconds = whole seconds) (hs : seconds ≤ 2 ^ 34) (hnow : since ≤ now) :
    b.stillOpen now ↔ now < since + seconds * microsPerSecond := by
  rw [stillOpen, hb.2]
  dsimp only
  rw [hseconds, secondsOf_lt_whole (by unfold Instant at *; omega) hs]
  unfold Instant microsPerSecond at *
  omega

/-- **In an open period** nothing is let through, and nothing but a reset ends it. -/
theorem openSince_afterAll {since : Instant} (hb : OpenSince since b)
    (hseconds : b.openSeconds = whole seconds) (hs : seconds ≤ 2 ^ 34)
    (hqs : ∀ q ∈ qs, since ≤ q.time ∧ q.act ≠ .reset ∧
      (q.act = .ask → q.time < since + seconds * microsPerSecond)) :
    OpenSince since (afterAll b qs) ∧ admitted b qs = 0 := by
  -- What carries the induction is that the instant of opening stays, so the period never grows.
  induction qs generalizing b with
  | nil => exact ⟨hb, rfl⟩
  | cons q qs ih =>
    rw [List.forall_mem_cons] at hqs
    obtain ⟨⟨htime, hact, hask⟩, hqs⟩ := hqs
    obtain ⟨hopen, hrefused⟩ := (step q b).of_openSince hb hact fun h =>
      (stillOpen_iff hb hseconds hs htime).2 (hask h)
    obtain ⟨hend, hnone⟩ := ih hopen ((step q b).settings.openSeconds.trans hseconds) hqs
    exact ⟨hend, by rw [admitted, hrefused, hnone]; rfl⟩

/-- **After the period** a request is let through, as a trial. -/
theorem tried_of_openSince {since : Instant} (hb : OpenSince since b)
    (hseconds : b.openSeconds = whole seconds) (hs : seconds ≤ 2 ^ 34) (hmax : 1 ≤ b.maxTrials)
    (hask : q.act = .ask) (htime : since ≤ q.time)
    (hover : since + seconds * microsPerSecond ≤ q.time) :
    q.isAdmitted b ∧ (q.after b).state = .halfOpen := by
  have hstep := step q b
  rw [hask] at hstep
  refine hstep.of_over hb.1 ?_ hmax
  rw [Bool.eq_false_iff, ne_eq, stillOpen_iff hb hseconds hs htime]
  exact not_lt.2 hover

/-! ## Trials -/

/-- **Requests to a half-open breaker** are let through as long as there are trials left. -/
theorem admitted_of_halfOpen (hb : b.state = .halfOpen) (htrials : (b.trials : Int) ≤ b.maxTrials)
    (hqs : ∀ q ∈ qs, q.act = .ask) :
    (afterAll b qs).state = .halfOpen ∧
      (admitted b qs : Int) = min (b.maxTrials - b.trials) qs.length := by
  induction qs generalizing b with
  | nil => exact ⟨hb, by simp [admitted]; omega⟩
  | cons q qs ih =>
    rw [List.forall_mem_cons] at hqs
    have hstep := step q b
    rw [hqs.1] at hstep
    have hmax := hstep.settings.maxTrials
    obtain ⟨hstate, hcase⟩ := hstep.of_halfOpen hb
    -- A trial uses one of those that are left; a refusal uses none.
    have hrest : (((q.after b).trials : Int) ≤ (q.after b).maxTrials) := by
      obtain ⟨hfew, -, hnext⟩ | ⟨-, -, hnext⟩ := hcase <;> rw [hnext, hmax]
      · push_cast
        omega
      · exact htrials
    obtain ⟨hend, hcount⟩ := ih hstate hrest hqs.2
    refine ⟨hend, ?_⟩
    rw [admitted, List.length_cons]
    push_cast
    rw [hcount, hmax]
    obtain ⟨hfew, hadmits, hnext⟩ | ⟨hmany, hadmits, hnext⟩ := hcase
    · rw [hadmits, hnext]
      push_cast
      simp
      omega
    · rw [hadmits, hnext]
      simp
      omega

/-- **The request that makes a breaker half open** is the first trial, and those after it have the
other ones. -/
theorem admitted_of_tries (hb : b.state ≠ .halfOpen) (hq : (q.after b).state = .halfOpen)
    (hmax : 1 ≤ b.maxTrials) (hqs : ∀ q ∈ qs, q.act = .ask) :
    (afterAll (q.after b) qs).state = .halfOpen ∧
      (admitted b (q :: qs) : Int) = min b.maxTrials (qs.length + 1) := by
  have hstep := step q b
  have hsame := hstep.settings.maxTrials
  obtain ⟨-, hadmits, hfirst⟩ := hstep.of_tries hb hq hmax
  obtain ⟨hend, hcount⟩ := admitted_of_halfOpen hq (by rw [hfirst, hsame]; exact hmax) hqs
  refine ⟨hend, ?_⟩
  rw [admitted, hadmits, if_pos rfl]
  push_cast
  rw [hcount, hfirst, hsame]
  push_cast
  omega

/-! ## The promises -/

/-- A breaker opens with a call after some others. -/
def Opens (b : Breaker) (qs : List Call) (q : Call) : Prop :=
  (afterAll b qs).state ≠ .opened ∧ (afterAll b (qs ++ [q])).state = .opened

/-- A breaker becomes half open with a call after some others. -/
def Tries (b : Breaker) (qs : List Call) (q : Call) : Prop :=
  (afterAll b qs).state ≠ .halfOpen ∧ (afterAll b (qs ++ [q])).state = .halfOpen

/-- **What is promised of a new breaker** with an open period of so many microseconds, after every
run of calls in their order. -/
structure Specified (b : Breaker) (period : Int) : Prop where
  /-- The count is that of the failures since the last success or reset. -/
  count : ∀ qs, Sorted qs → (afterAll b qs).failures = failuresSince qs
  /-- While the breaker is closed the count is below the threshold and every request is let
  through. -/
  closed : ∀ qs, Sorted qs → (afterAll b qs).state = .closed →
    (failuresSince qs : Int) < b.threshold ∧
      ∀ q, q.act = .ask → Sorted (qs ++ [q]) → q.isAdmitted (afterAll b qs)
  /-- It opens with the failure that brings the count to the threshold, and with nothing else. -/
  opens : ∀ qs q, Sorted (qs ++ [q]) → (afterAll b qs).state = .closed →
    (afterAll b (qs ++ [q])).state =
      if q.act = .failure ∧ (failuresSince (qs ++ [q]) : Int) = b.threshold then .opened
      else .closed
  /-- Less than the period after it opened it is open, unless it was reset, and no request was let
  through. -/
  refuses : ∀ qs q rs, Sorted (qs ++ q :: rs) → Opens b qs q →
    (∀ r ∈ rs, r.act ≠ .reset ∧ r.time < q.time + period) →
      (afterAll b (qs ++ q :: rs)).state = .opened ∧ admitted (afterAll b (qs ++ [q])) rs = 0
  /-- Whatever was recorded meanwhile, the first request after the period is let through. -/
  recovers : ∀ qs q rs r, Sorted (qs ++ q :: rs ++ [r]) → Opens b qs q →
    (∀ x ∈ rs, x.act ≠ .reset ∧ (x.act = .ask → x.time < q.time + period)) →
      r.act = .ask → q.time + period ≤ r.time →
        r.isAdmitted (afterAll b (qs ++ q :: rs)) ∧ Tries b (qs ++ q :: rs) r
  /-- Half open it lets the first requests through, as many as there are trials. -/
  trials : ∀ qs q rs, Sorted (qs ++ q :: rs) → Tries b qs q → (∀ r ∈ rs, r.act = .ask) →
    (afterAll b (qs ++ q :: rs)).state = .halfOpen ∧
      (admitted (afterAll b qs) (q :: rs) : Int) = min b.maxTrials (rs.length + 1)
  /-- A success closes it then, and a failure opens it again. -/
  outcomes : ∀ qs q, Sorted (qs ++ [q]) → (afterAll b qs).state = .halfOpen →
    (q.act = .success → (afterAll b (qs ++ [q])).state = .closed ∧
      (afterAll b (qs ++ [q])).failures = 0) ∧ (q.act = .failure → Opens b qs q)
  /-- A reset closes it whatever it is. -/
  resets : ∀ qs q, Sorted (qs ++ [q]) → q.act = .reset →
    (afterAll b (qs ++ [q])).state = .closed ∧ (afterAll b (qs ++ [q])).failures = 0

theorem afterAll_cons_append (b : Breaker) (qs : List Call) (q : Call) (rs : List Call) :
    afterAll b (qs ++ q :: rs) = afterAll (afterAll b (qs ++ [q])) rs := by
  rw [← afterAll_append, List.append_assoc, List.singleton_append]

/-- Later calls of a run in order come at later instants. -/
theorem Sorted.le_of_mem {q r : Call} (h : Sorted (qs ++ q :: rs)) (hr : r ∈ rs) :
    q.time ≤ r.time :=
  (List.pairwise_cons.1 (List.pairwise_append.1 h).2.1).1 r hr

/-- Opening with a call makes a breaker open since its instant. -/
theorem Opens.openSince (h : Opens b qs q) : OpenSince q.time (afterAll b (qs ++ [q])) := by
  obtain ⟨hbefore, hafter⟩ := h
  rw [afterAll_concat] at hafter ⊢
  exact (step q _).openSince hbefore hafter

/-- **The promises are kept** as long as no instant is lost in rounding. -/
theorem specified_of_le (ht : 1 ≤ threshold) (hm : 1 ≤ maxTrials) (hs : seconds ≤ 2 ^ 34) :
    Specified (start threshold seconds maxTrials) (seconds * microsPerSecond) where
  count qs _ := (tracks_afterAll ht seconds maxTrials qs).failures
  closed qs _ hclosed := by
    have htracks := tracks_afterAll ht seconds maxTrials qs
    constructor
    · rw [← htracks.failures, ← htracks.settings.threshold]
      exact htracks.below hclosed
    · intro q hask _
      exact ((step q _).of_closed hclosed).2 hask
  opens qs q _ hclosed := by
    have htracks := tracks_afterAll ht seconds maxTrials qs
    have hbelow := htracks.below hclosed
    rw [afterAll_concat, ((step q _).of_closed hclosed).1, failuresSince_concat,
      htracks.settings.threshold, htracks.failures]
    rw [htracks.settings.threshold, htracks.failures] at hbelow
    -- Below the threshold, one more failure reaches it exactly if it is met.
    refine if_congr (and_congr_right fun hact => ?_) rfl rfl
    rw [hact, Act.recount]
    push_cast
    omega
  refuses qs q rs hsorted hopens hrs := by
    have htracks := tracks_afterAll ht seconds maxTrials (qs ++ [q])
    obtain ⟨hopen, hnone⟩ := openSince_afterAll hopens.openSince htracks.settings.openSeconds hs
      fun r hr => ⟨hsorted.le_of_mem hr, (hrs r hr).1, fun _ => (hrs r hr).2⟩
    rw [afterAll_cons_append]
    exact ⟨hopen.1, hnone⟩
  recovers qs q rs r hsorted hopens hrs hask hover := by
    rw [List.append_assoc, List.cons_append] at hsorted
    have htracks := tracks_afterAll ht seconds maxTrials (qs ++ [q])
    obtain ⟨hopen, -⟩ := openSince_afterAll hopens.openSince htracks.settings.openSeconds hs
      fun x hx => ⟨hsorted.le_of_mem (List.mem_append_left _ hx), hrs x hx⟩
    have hmem : r ∈ rs ++ [r] := List.mem_append_right _ (List.mem_singleton_self r)
    have hend := (tracks_afterAll ht seconds maxTrials (qs ++ q :: rs)).settings
    rw [← afterAll_cons_append] at hopen
    -- The breaker is still open then, whatever was recorded, and its period is over.
    obtain ⟨hadmits, htried⟩ := tried_of_openSince hopen hend.openSeconds hs
      (by rw [hend.maxTrials]; exact hm) hask (hsorted.le_of_mem hmem) hover
    refine ⟨hadmits, ?_, ?_⟩
    · rw [hopen.1]
      decide
    · rw [afterAll_concat]
      exact htried
  trials qs q rs _ htries hrs := by
    obtain ⟨hbefore, hafter⟩ := htries
    have hmax := (tracks_afterAll ht seconds maxTrials qs).settings.maxTrials
    rw [afterAll_concat] at hafter
    rw [afterAll_cons_append, afterAll_concat, ← hmax]
    exact admitted_of_tries hbefore hafter (by rw [hmax]; exact hm) hrs
  outcomes qs q _ hhalf := by
    have hstep := step q (afterAll (start threshold seconds maxTrials) qs)
    obtain ⟨hsuccess, hfailure⟩ := hstep.of_outcome hhalf
    rw [afterAll_concat]
    constructor
    · intro hact
      refine ⟨hsuccess hact, ?_⟩
      rw [hstep.failures, hact]
      rfl
    · intro hact
      refine ⟨?_, ?_⟩
      · rw [hhalf]
        decide
      · rw [afterAll_concat]
        exact hfailure hact
  resets qs q _ hact := by
    rw [afterAll_concat, Call.after, hact]
    exact ⟨rfl, rfl⟩

/-- Failures are only counted as long as there are few of them. -/
theorem afterAll_replicate (time : Instant) (n : Nat) (hb : b.state = .closed)
    (hn : (b.failures + n : Int) < b.threshold) :
    (afterAll b (List.replicate n ⟨time, .failure⟩)).state = .closed ∧
      (afterAll b (List.replicate n ⟨time, .failure⟩)).failures = b.failures + n := by
  induction n generalizing b with
  | zero => exact ⟨hb, rfl⟩
  | succ n ih =>
    have hstep := step ⟨time, .failure⟩ b
    have hthreshold := hstep.settings.threshold
    have hcount : (Call.after ⟨time, .failure⟩ b).failures = b.failures + 1 := hstep.failures
    have hclosed := (hstep.of_closed hb).1
    push_cast at hn
    rw [if_neg (by omega)] at hclosed
    obtain ⟨hend, hfailures⟩ := ih hclosed (by rw [hcount, hthreshold]; push_cast; omega)
    rw [List.replicate_succ]
    refine ⟨hend, hfailures.trans ?_⟩
    omega

/-- Every new breaker can be made to open. -/
theorem exists_opens (ht : 1 ≤ threshold) (seconds maxTrials : Int) (time : Instant) :
    ∃ n, Opens (start threshold seconds maxTrials) (List.replicate n ⟨time, .failure⟩)
      ⟨time, .failure⟩ := by
  obtain ⟨n, rfl⟩ : ∃ n : Nat, threshold = n + 1 := ⟨(threshold - 1).toNat, by omega⟩
  obtain ⟨hclosed, hcount⟩ := afterAll_replicate (b := start (n + 1) seconds maxTrials) time n rfl
    (by show ((0 : Nat) + n : Int) < n + 1; omega)
  have htracks := tracks_afterAll ht seconds maxTrials (List.replicate n ⟨time, .failure⟩)
  refine ⟨n, ?_, ?_⟩
  · rw [hclosed]
    decide
  · have hreach : (n + 1 : Int) ≤ ((0 + n : Nat) : Int) + 1 := by omega
    rw [afterAll_concat, ((step _ _).of_closed hclosed).1, htracks.settings.threshold, hcount]
    exact if_pos ⟨rfl, hreach⟩

/-- **The promises are kept exactly for periods of at most `2 ^ 34` seconds**: of longer ones the
last microsecond is lost, and a request that comes then is let through. The setting itself has at
most 53 bits, so that nothing of it is lost. -/
theorem specified_iff (ht : 1 ≤ threshold) (hm : 1 ≤ maxTrials) (hs : seconds ≤ 2 ^ 53) :
    Specified (start threshold seconds maxTrials) (seconds * microsPerSecond) ↔
      seconds ≤ 2 ^ 34 := by
  constructor
  · intro hspec
    by_contra hlong
    obtain ⟨last, hlast⟩ : ∃ i : Instant, i = seconds * microsPerSecond - 1 := ⟨_, rfl⟩
    have hpos : (0 : Instant) ≤ last := by
      unfold Instant microsPerSecond at *
      omega
    -- The breaker opens at the first instant, and a request comes at the last of its period.
    obtain ⟨n, hopens⟩ := exists_opens ht seconds maxTrials 0
    have hsorted : Sorted (List.replicate n ⟨0, .failure⟩ ++ ⟨0, .failure⟩ :: [⟨last, .ask⟩]) := by
      simp [Sorted, List.pairwise_append, hpos]
    obtain ⟨hopened, -⟩ := hspec.refuses _ _ _ hsorted hopens (by simp [hlast])
    have htracks := tracks_afterAll ht seconds maxTrials
      (List.replicate n ⟨0, .failure⟩ ++ [⟨0, .failure⟩])
    have hopen := hopens.openSince
    rw [afterAll_cons_append] at hopened
    generalize afterAll (start threshold seconds maxTrials)
      (List.replicate n ⟨0, .failure⟩ ++ [⟨0, .failure⟩]) = c at hopened htracks hopen
    -- The instant is rounded to the end of the period, so the request is let through.
    have hover : c.stillOpen last = false := by
      rw [Bool.eq_false_iff, stillOpen, hopen.2]
      dsimp only
      rw [htracks.settings.openSeconds, hlast, Int.sub_zero]
      exact not_lastMicrosecond_lt_whole (not_le.1 hlong) hs
    have htried := ((step ⟨last, .ask⟩ c).of_over hopen.1 hover
      (by rw [htracks.settings.maxTrials]; exact hm)).2
    have hboth : State.halfOpen = State.opened := htried.symm.trans hopened
    cases hboth
  · exact specified_of_le ht hm

theorem specified_iff_sample :
    Specified {} (60 * microsPerSecond) ∧
      ¬ Specified (start 3 20000000000 1) (20000000000 * microsPerSecond) := by
  rw [← start_default]
  constructor
  · exact (specified_iff (by decide) (by decide) (by decide)).2 (by decide)
  · rw [specified_iff (by decide) (by decide) (by decide)]
    decide

end Groundplan.Breaker
