import Groundplan.Metering.Window
import Mathlib.Data.List.Basic

/-!
# Sliding windows over a run

What a limiter answers over a run of calls, some of which ask for a request to be accepted and some
only how many more would be. The instants that it keeps are dropped in passing, by whatever call
comes next for their client at their endpoint. Yet every answer is what the calls before it say: the
requests that were accepted within the last minute are counted, and nothing else matters.

## Main definitions

* `Window.Call`, `Window.Reply`: what is asked, and what is answered
* `Window.log`: the calls of a run with their replies
* `Window.acceptedSince`: how many requests were accepted after an instant
* `Call.due`: the reply that is due to a call after others
* `Window.Tracks`: the instants that are kept are those of accepted requests
* `Window.Exact`: what holds of the replies over a run

## Main results

* `Tracks.run`: **a call gets the reply that is due to it**, and the instants kept still tell
* `log_eq_ledger`: so does every call of a run
* `acceptedIn_ledger_le`: how many requests are accepted within a minute
* `filter_ledger`: calls that do not matter
* `Window.exact_of_sorted`: all of it, over a run that begins without requests
-/

namespace Groundplan.Window

/-! ## Calls and replies -/

/-- What a call is for: a request to be accepted, or only to know how many more would be. -/
inductive Aim where
  | request
  | look
deriving DecidableEq, Repr, Inhabited

/-- A call for a client at an endpoint. -/
structure Call where
  time : Instant
  client : String
  endpoint : String
  limit : Int
  aim : Aim
deriving Repr, Inhabited

/-- What is answered to a call. -/
inductive Reply where
  | allowed (yes : Bool)
  | remaining (n : Nat)
deriving DecidableEq, Repr, Inhabited

/-- A reply to a call, and the instants that are kept then. -/
def Call.run (q : Call) (w : Window) : Reply × Window :=
  match q.aim with
  | .request =>
    let (yes, w) := w.allow q.time q.client q.endpoint q.limit
    (.allowed yes, w)
  | .look =>
    let (n, w) := w.remaining q.time q.client q.endpoint q.limit
    (.remaining n, w)

/-- The calls of a run, each with its reply. -/
def log (w : Window) : List Call → List (Call × Reply)
  | [] => []
  | q :: qs => (q, (q.run w).1) :: log (q.run w).2 qs

/-- Whether a call is for a client at an endpoint. -/
def Call.isFor (q : Call) (client endpoint : String) : Bool :=
  q.client == client && q.endpoint == endpoint

/-- Whether a request of a client at an endpoint was accepted. -/
def isAccepted (client endpoint : String) (x : Call × Reply) : Bool :=
  x.1.isFor client endpoint && x.1.aim == .request && x.2 == .allowed true

/-- **How many requests** of a client at an endpoint were accepted after an instant. -/
def acceptedSince (start : Instant) (client endpoint : String) (h : List (Call × Reply)) : Nat :=
  h.countP fun x => isAccepted client endpoint x && start < x.1.time

/-- Microseconds that a request counts for. -/
def windowMicros : Int := windowSeconds * microsPerSecond

/-- **The reply that is due** to a call after others with their replies. -/
def Call.due (h : List (Call × Reply)) (q : Call) : Reply :=
  let n := acceptedSince (q.time - windowMicros) q.client q.endpoint h
  match q.aim with
  | .request => .allowed (decide ((n : Int) < q.limit))
  | .look => .remaining (q.limit - n).toNat

/-- The calls of a run, each with the reply that is due to it after some others. -/
def ledger (h : List (Call × Reply)) : List Call → List (Call × Reply)
  | [] => []
  | q :: qs => (q, q.due h) :: ledger (h ++ [(q, q.due h)]) qs

theorem ledger_append (h : List (Call × Reply)) (qs rs : List Call) :
    ledger h (qs ++ rs) = ledger h qs ++ ledger (h ++ ledger h qs) rs := by
  induction qs generalizing h with
  | nil => simp [ledger]
  | cons q qs ih => simp [ledger, ih]

/-! ## The instants that are kept -/

variable {w : Window} {client endpoint : String} {h : List (Call × Reply)} {q : Call}

theorem stamps_put_self (w : Window) (client endpoint : String) (ts : List Instant) :
    (w.put client endpoint ts).stamps client endpoint = ts := by
  rw [stamps, put, Entries.get?_set_self, Option.bind_some, Entries.get?_set_self]
  rfl

/-- The instants of other clients and of other endpoints stay. -/
theorem stamps_put_of_ne {client' endpoint' : String} (ts : List Instant)
    (hne : ¬ (client' = client ∧ endpoint' = endpoint)) :
    (w.put client endpoint ts).stamps client' endpoint' = w.stamps client' endpoint' := by
  by_cases hc : client' = client
  · subst hc
    have he : endpoint' ≠ endpoint := fun he => hne ⟨rfl, he⟩
    rw [stamps, put, Entries.get?_set_self, Option.bind_some, Entries.get?_set_of_ne he, stamps]
    cases Entries.get? client' w <;> rfl
  · rw [stamps, put, Entries.get?_set_of_ne hc, stamps]

/-- Of instants that count now those that will count later are the same. -/
theorem recent_recent {now later : Instant} (hlater : now ≤ later) (ts : List Instant) :
    recent later (recent now ts) = recent later ts := by
  rw [recent, recent, List.filter_filter]
  refine List.filter_congr fun t _ => ?_
  rw [← Bool.decide_and, decide_eq_decide]
  unfold Instant at *
  omega

theorem recent_append (now : Instant) (ts us : List Instant) :
    recent now (ts ++ us) = recent now ts ++ recent now us :=
  List.filter_append ..

/-- The instants of the accepted requests of a client at an endpoint. -/
def acceptedTimes (client endpoint : String) (h : List (Call × Reply)) : List Instant :=
  (h.filter (isAccepted client endpoint)).map (·.1.time)

/-- **The instants that are kept tell of the accepted requests** what counts from an instant on. -/
def Tracks (w : Window) (h : List (Call × Reply)) (now : Instant) : Prop :=
  ∀ client endpoint later, now ≤ later →
    recent later (w.stamps client endpoint) = recent later (acceptedTimes client endpoint h)

theorem length_recent_acceptedTimes (now : Instant) (client endpoint : String)
    (h : List (Call × Reply)) :
    (recent now (acceptedTimes client endpoint h)).length =
      acceptedSince (now - windowMicros) client endpoint h := by
  rw [recent, acceptedTimes, acceptedSince, ← List.countP_eq_length_filter, List.countP_map,
    List.countP_filter]
  refine List.countP_congr fun x _ => ?_
  rw [Function.comp_apply, Bool.and_comm]
  rfl

theorem acceptedTimes_concat (client endpoint : String) (h : List (Call × Reply))
    (x : Call × Reply) :
    acceptedTimes client endpoint (h ++ [x]) = acceptedTimes client endpoint h ++
      if isAccepted client endpoint x then [x.1.time] else [] := by
  rw [acceptedTimes, List.filter_append, List.map_append, acceptedTimes]
  by_cases hx : isAccepted client endpoint x <;> simp [hx]

/-- What is kept for a client at an endpoint after a call of theirs. -/
theorem Tracks.put {now : Instant} {x : Call × Reply} {ts : List Instant} (hw : Tracks w h now)
    (hnow : now ≤ x.1.time)
    (hts : ts = recent x.1.time (w.stamps x.1.client x.1.endpoint) ++
      if isAccepted x.1.client x.1.endpoint x then [x.1.time] else []) :
    Tracks (w.put x.1.client x.1.endpoint ts) (h ++ [x]) x.1.time := by
  intro client endpoint later hlater
  rw [acceptedTimes_concat]
  by_cases hkey : client = x.1.client ∧ endpoint = x.1.endpoint
  · obtain ⟨rfl, rfl⟩ := hkey
    have hrest := hw x.1.client x.1.endpoint later (Int.le_trans hnow hlater)
    rw [stamps_put_self, hts, recent_append, recent_append, recent_recent hlater, hrest]
  · -- The call is not of this client at this endpoint, so nothing of theirs was accepted.
    have hother : isAccepted client endpoint x = false := by
      rw [isAccepted, Call.isFor]
      by_contra hx
      simp only [Bool.not_eq_false, Bool.and_eq_true, beq_iff_eq] at hx
      exact hkey ⟨hx.1.1.1.symm, hx.1.1.2.symm⟩
    rw [stamps_put_of_ne _ hkey, hother, if_neg Bool.false_ne_true, List.append_nil]
    exact hw client endpoint later (Int.le_trans hnow hlater)

/-- **A call gets the reply that is due to it**, and what is kept then tells of the accepted
requests as before. -/
theorem Tracks.run {now : Instant} (hw : Tracks w h now) (hnow : now ≤ q.time) :
    (q.run w).1 = q.due h ∧ Tracks (q.run w).2 (h ++ [(q, q.due h)]) q.time := by
  have hcount : (recent q.time (w.stamps q.client q.endpoint)).length =
      acceptedSince (q.time - windowMicros) q.client q.endpoint h := by
    rw [hw _ _ _ hnow, length_recent_acceptedTimes]
  cases haim : q.aim with
  | request =>
    simp only [Call.run, Call.due, haim, allow, hcount]
    split
    · -- Too many were accepted, and this one is not.
      rename_i hfull
      rw [decide_eq_false (by omega)]
      refine ⟨rfl, hw.put (x := (q, .allowed false)) hnow ?_⟩
      simp [isAccepted]
    · rename_i hfree
      rw [decide_eq_true (by omega)]
      refine ⟨rfl, hw.put (x := (q, .allowed true)) hnow ?_⟩
      simp [isAccepted, Call.isFor, haim]
  | look =>
    simp only [Call.run, Call.due, haim, remaining, hcount, true_and]
    refine hw.put (x := (q, .remaining _)) hnow ?_
    simp [isAccepted]

theorem tracks_empty (now : Instant) : Tracks [] [] now := fun _ _ _ _ => rfl

/-- Every call of a run at instants in order gets the reply that is due to it. -/
theorem log_eq_ledger {now : Instant} {qs : List Call} (hw : Tracks w h now)
    (hnow : ∀ q ∈ qs, now ≤ q.time) (hsorted : qs.Pairwise (·.time ≤ ·.time)) :
    log w qs = ledger h qs := by
  -- Induction on the calls still to come; what carries it is that the instants kept tell of the
  -- requests accepted so far.
  induction qs generalizing w h now with
  | nil => rfl
  | cons q qs ih =>
    rw [List.pairwise_cons] at hsorted
    obtain ⟨hreply, hrest⟩ := hw.run (hnow q List.mem_cons_self)
    rw [log, ledger, hreply, ih hrest hsorted.1 hsorted.2]

/-! ## How many are accepted -/

/-- How many requests of a client at an endpoint were accepted at instants of a set. -/
def acceptedIn (span : Instant → Bool) (client endpoint : String) (h : List (Call × Reply)) : Nat :=
  h.countP fun x => isAccepted client endpoint x && span x.1.time

/-- **Of the requests within a minute no more are accepted than the limit says.** -/
theorem acceptedIn_ledger_le {span : Instant → Bool} {limit : Int} {qs : List Call}
    (hspan : ∀ a b, span a → span b → b - windowMicros < a)
    (hlimit : ∀ q ∈ qs, q.isFor client endpoint → q.aim = .request → q.limit ≤ limit)
    (h : List (Call × Reply)) (hle : acceptedIn span client endpoint h ≤ limit.toNat) :
    acceptedIn span client endpoint (h ++ ledger h qs) ≤ limit.toNat := by
  induction qs generalizing h with
  | nil => simpa [ledger] using hle
  | cons q qs ih =>
    rw [ledger, List.append_cons]
    refine ih (fun r hr => hlimit r (List.mem_cons_of_mem _ hr)) _ ?_
    rw [acceptedIn, List.countP_append, List.countP_singleton]
    split
    · -- This request is accepted within the minute; so those before it in the minute still counted.
      rename_i hq
      simp only [isAccepted, Bool.and_eq_true, beq_iff_eq] at hq
      obtain ⟨⟨⟨hfor, haim⟩, hyes⟩, hin⟩ := hq
      have hkey : q.client = client ∧ q.endpoint = endpoint := by simpa [Call.isFor] using hfor
      obtain ⟨rfl, rfl⟩ := hkey
      have hless :
          (acceptedSince (q.time - windowMicros) q.client q.endpoint h : Int) < q.limit := by
        simpa [Call.due, haim] using hyes
      have hall : acceptedIn span q.client q.endpoint h ≤
          acceptedSince (q.time - windowMicros) q.client q.endpoint h := by
        refine List.countP_mono_left fun x _ hx => ?_
        simp only [Bool.and_eq_true, decide_eq_true_eq] at hx ⊢
        exact ⟨hx.1, hspan _ _ hx.2 hin⟩
      have hq := hlimit q List.mem_cons_self hfor haim
      rw [acceptedIn] at hall
      omega
    · exact hle

/-! ## Calls that do not matter -/

/-- The reply that is due does not depend on calls other than accepted requests of the same client
at the same endpoint. -/
theorem due_filter {p : Call → Bool}
    (hp : ∀ x ∈ h, x.1.isFor q.client q.endpoint → x.1.aim = .request → p x.1) :
    q.due (h.filter fun x => p x.1) = q.due h := by
  have hcount :
      acceptedSince (q.time - windowMicros) q.client q.endpoint (h.filter fun x => p x.1) =
        acceptedSince (q.time - windowMicros) q.client q.endpoint h := by
    rw [acceptedSince, List.countP_filter, acceptedSince]
    refine List.countP_congr fun x hx => ?_
    simp only [isAccepted, Bool.and_eq_true, beq_iff_eq, decide_eq_true_eq]
    constructor
    · rintro ⟨hx, -⟩
      exact hx
    · intro hall
      exact ⟨hall, hp x hx hall.1.1.1 hall.1.1.2⟩
  rw [Call.due, hcount, Call.due]

/-- **Calls that do not matter**: of calls for a client at an endpoint, among them all requests,
each gets the reply that it would get without the other calls. -/
theorem filter_ledger {p : Call → Bool} {qs : List Call} (hfor : ∀ q, p q → q.isFor client endpoint)
    (hqs : ∀ q ∈ qs, q.isFor client endpoint → q.aim = .request → p q)
    (h : List (Call × Reply))
    (hh : ∀ x ∈ h, x.1.isFor client endpoint → x.1.aim = .request → p x.1) :
    (ledger h qs).filter (fun x => p x.1) = ledger (h.filter fun x => p x.1) (qs.filter p) := by
  induction qs generalizing h with
  | nil => rfl
  | cons q qs ih =>
    rw [List.forall_mem_cons] at hqs
    have hnext : ∀ x ∈ h ++ [(q, q.due h)],
        x.1.isFor client endpoint → x.1.aim = .request → p x.1 := by
      intro x hx
      rcases List.mem_append.1 hx with hx | hx
      · exact hh x hx
      · rw [List.mem_singleton.1 hx]
        exact hqs.1
    rw [ledger, List.filter_cons, ih hqs.2 _ hnext, List.filter_append]
    by_cases hq : p q
    · -- What was due to the call is still due to it.
      have hkey : q.client = client ∧ q.endpoint = endpoint := by
        simpa [Call.isFor] using hfor q hq
      obtain ⟨rfl, rfl⟩ := hkey
      simp only [List.filter_cons, hq, if_true, List.filter_nil, ledger, due_filter hh]
    · simp [hq]

/-! ## A run -/

/-- **What holds of the replies over a run** that begins without requests. -/
structure Exact (qs : List Call) : Prop where
  /-- Each call gets the reply that is due to it after the calls before it. -/
  due : ∀ before q after, qs = before ++ q :: after →
    ∃ rest, log [] qs = log [] before ++ (q, q.due (log [] before)) :: rest
  /-- With a fixed limit no minute holds more accepted requests than the limit, whether it is its
  end or its beginning that does not belong to it. -/
  bounded : ∀ client endpoint limit,
    (∀ q ∈ qs, q.isFor client endpoint → q.aim = .request → q.limit = limit) → ∀ start : Instant,
      acceptedIn (fun t => start ≤ t && t < start + windowMicros) client endpoint (log [] qs) ≤
        limit.toNat ∧
      acceptedIn (fun t => start < t && t ≤ start + windowMicros) client endpoint (log [] qs) ≤
        limit.toNat
  /-- Calls for a client at an endpoint, if all requests are among them, get the replies that they
  would get without the other calls. -/
  independent : ∀ client endpoint p, (∀ q, p q → q.isFor client endpoint) →
    (∀ q ∈ qs, q.isFor client endpoint → q.aim = .request → p q) →
      (log [] qs).filter (fun x => p x.1) = log [] (qs.filter p)

/-- A run at instants in order goes by the ledger. -/
theorem log_nil {qs : List Call} (hsorted : qs.Pairwise (·.time ≤ ·.time)) :
    log [] qs = ledger [] qs := by
  cases qs with
  | nil => rfl
  | cons r qs =>
    refine log_eq_ledger (tracks_empty r.time) (fun q hq => ?_) hsorted
    rcases List.mem_cons.1 hq with rfl | hq
    · exact Int.le_refl _
    · exact (List.pairwise_cons.1 hsorted).1 q hq

/-- **The limit is exact**, over every run of calls at instants in order: a request is accepted
exactly if fewer requests than its limit were accepted for the same client at the same endpoint
within the minute before, a look tells what is left of its limit, and nothing else matters. -/
theorem exact_of_sorted {qs : List Call} (hsorted : qs.Pairwise (·.time ≤ ·.time)) : Exact qs where
  due := by
    rintro before q after rfl
    rw [log_nil hsorted, log_nil (hsorted.sublist (List.sublist_append_left _ _)), ledger_append]
    exact ⟨_, rfl⟩
  bounded client endpoint limit hlimit start := by
    rw [log_nil hsorted]
    -- Two instants of one minute are less than a minute apart.
    constructor
    · refine acceptedIn_ledger_le (fun a b ha hb => ?_)
        (fun q hq hf ha => Int.le_of_eq (hlimit q hq hf ha)) [] (Nat.zero_le _)
      simp only [Bool.and_eq_true, decide_eq_true_eq] at ha hb
      unfold Instant at *
      omega
    · refine acceptedIn_ledger_le (fun a b ha hb => ?_)
        (fun q hq hf ha => Int.le_of_eq (hlimit q hq hf ha)) [] (Nat.zero_le _)
      simp only [Bool.and_eq_true, decide_eq_true_eq] at ha hb
      unfold Instant at *
      omega
  independent client endpoint p hfor hqs := by
    rw [log_nil hsorted, log_nil (hsorted.filter p)]
    exact filter_ledger hfor hqs [] fun _ hx => by cases hx

/-- Calls for two clients, some of them at the edge of the minute. -/
def sampleCalls : List Call :=
  [⟨0, "a", "audit", 2, .request⟩, ⟨0, "a", "audit", 2, .request⟩, ⟨0, "b", "audit", 1, .request⟩,
    ⟨59999999, "a", "audit", 2, .request⟩, ⟨60000000, "a", "audit", 2, .look⟩,
    ⟨60000000, "a", "audit", 2, .request⟩]

/-- The third request of the first client comes a microsecond too soon, and what was accepted a
minute ago counts no more. -/
example : (log [] sampleCalls).map (·.2) =
    [.allowed true, .allowed true, .allowed true, .allowed false, .remaining 2, .allowed true] := by
  decide

theorem exact_of_sorted_sample :
    sampleCalls.Pairwise (·.time ≤ ·.time) ∧ Exact sampleCalls :=
  ⟨by decide, exact_of_sorted (by decide)⟩

end Groundplan.Window
