import Groundplan.Metering.Credits
import Groundplan.Metering.Slots
import Groundplan.Proofs.Runs
import Mathlib.Algebra.Ring.Int.Defs
import Mathlib.Data.List.Perm.Basic

/-!
# What is metered adds up

Slots are held by contexts, which users enter and leave in any order. However they do, a user is
shown to have as many slots as contexts that are open, and is refused another one exactly when there
are as many as there may be. Credits are charged and refunded by anyone in any order, for work that
may be unknown. However that goes, a balance is what it was at the start less the charges that went
through and with the refunds, and it is never negative.

## Main definitions

* `Floor`: slots with the contexts that are open; `Move`, entering or leaving one
* `Floor.Tallies`, `Floor.Admits`: what holds of a floor, and of the next move
* `Dealing`: a charge or a refund; `costs`, what those of a user cost in a run
* `Credits.Tallies`, `Credits.Serves`: what holds of credits, and of the next dealing

## Main results

* `tallies_after_move`, `tallies_after_dealing`: **the steps**
* `metering_exact`: all of it, after any run of moves and of dealings
-/

namespace Groundplan

/-! ## Contexts -/

/-- Slots, and the users of the contexts that are open, in the order of entering. -/
structure Floor where
  slots : Slots
  opened : List String := []

namespace Floor

/-- **Enters a context** of a user, which is open if there was a slot for it. -/
def enter (f : Floor) (user : String) : Answer Unit × Floor :=
  match f.slots.acquire user with
  | (.ok _, slots) => (.ok (), ⟨slots, f.opened ++ [user]⟩)
  | (.error e, slots) => (.error e, ⟨slots, f.opened⟩)

/-- **Leaves a context**, the one at a place among those that are open; there it is no longer. -/
def leave (f : Floor) (place : Nat) : Floor :=
  match f.opened[place]? with
  | some user => ⟨f.slots.release user, f.opened.eraseIdx place⟩
  | none => f

end Floor

/-- A user enters a context, or the context at a place is left. -/
inductive Move where
  | enter (user : String)
  | leave (place : Nat)

/-- The floor after a move. -/
def Move.after : Move → Floor → Floor
  | .enter user, f => (f.enter user).2
  | .leave place, f => f.leave place

/-- **Slots that are as many as the contexts** that are open. -/
structure Floor.Tallies (limit : Int) (f : Floor) : Prop where
  limit_eq : f.slots.limit = limit
  /-- A user is shown to have as many slots as open contexts, -/
  active : ∀ user, f.slots.active user = f.opened.count user
  /-- and never more than there may be; -/
  bounded : ∀ user, (f.slots.active user : Int) ≤ limit
  /-- who has none has no entry. -/
  entry : ∀ user, Entries.get? user f.slots.held = none ↔ f.opened.count user = 0

/-- **What the next move comes to.** -/
structure Floor.Admits (limit : Int) (f : Floor) : Prop where
  /-- With as many open contexts as there may be, a user is refused, and nothing changes. -/
  refused : ∀ user, (f.opened.count user : Int) = limit → f.enter user = (.error (.rateLimited
    ("Maximum " ++ decimalText limit ++ " concurrent deployments reached")), f)
  /-- With fewer, the user is not. -/
  admitted : ∀ user, (f.opened.count user : Int) ≠ limit → (f.enter user).1 = .ok ()
  /-- Other users have the slots that they had. -/
  others : ∀ user other, other ≠ user →
    (f.enter user).2.slots.active other = f.slots.active other ∧
      ∀ place, f.opened[place]? = some user →
        (f.leave place).slots.active other = f.slots.active other

section Moves

variable {limit : Int} {f : Floor} {user : String}

theorem enter_of_full (h : f.slots.limit ≤ f.slots.active user) :
    f.enter user = (.error (.rateLimited
      ("Maximum " ++ decimalText f.slots.limit ++ " concurrent deployments reached")), f) := by
  rw [Floor.enter, Slots.acquire, if_pos h]

theorem enter_of_free (h : ¬ f.slots.limit ≤ f.slots.active user) :
    f.enter user = (.ok (), ⟨{ f.slots with
      held := Entries.set user (f.slots.active user + 1) f.slots.held }, f.opened ++ [user]⟩) := by
  rw [Floor.enter, Slots.acquire, if_neg h]

/-- The entry of a user goes with the last slot. -/
theorem entry_release (s : Slots) (user : String) :
    Entries.get? user (s.release user).held = none ↔ s.active user ≤ 1 := by
  simp only [Slots.release]
  split
  case isTrue h => simp [h]
  case isFalse h => simp [h]

theorem entry_release_of_ne {other : String} (h : other ≠ user) (s : Slots) :
    Entries.get? other (s.release user).held = Entries.get? other s.held := by
  simp only [Slots.release]
  split
  · exact Entries.get?_erase_of_ne h _
  · exact Entries.get?_set_of_ne h _ _

/-- The open contexts of anyone when a user has entered one more. -/
theorem count_entered (users : List String) (user other : String) :
    (users ++ [user]).count other = users.count other + if user = other then 1 else 0 := by
  rw [List.count_append, List.count_singleton]
  simp only [beq_iff_eq]

/-- The open contexts of anyone when a user has left one. -/
theorem count_left {users : List String} {place : Nat} (h : users[place]? = some user)
    (other : String) : users.count other =
      (users.eraseIdx place).count other + if user = other then 1 else 0 := by
  obtain ⟨hlt, hget⟩ := List.getElem?_eq_some_iff.mp h
  rw [← (List.getElem_cons_eraseIdx_perm hlt).count_eq, hget, List.count_cons]
  simp only [beq_iff_eq]

/-- **Entering keeps the tallies.** -/
theorem Floor.Tallies.enter (h : f.Tallies limit) (user : String) :
    (f.enter user).2.Tallies limit := by
  by_cases hfull : f.slots.limit ≤ f.slots.active user
  · rw [enter_of_full hfull]
    exact h
  · rw [enter_of_free hfull]
    -- In each case the user who enters has one more, and everyone else what they had.
    refine ⟨h.limit_eq, fun other => ?_, fun other => ?_, fun other => ?_⟩
    · rw [count_entered]
      by_cases heq : user = other
      · subst heq
        rw [if_pos rfl, Slots.active_set_self, h.active]
      · rw [if_neg heq, Slots.active_set_of_ne (Ne.symm heq)]
        exact h.active other
    · by_cases heq : user = other
      · subst heq
        have := h.limit_eq
        rw [Slots.active_set_self]
        omega
      · rw [Slots.active_set_of_ne (Ne.symm heq)]
        exact h.bounded other
    · rw [count_entered]
      dsimp only
      by_cases heq : user = other
      · subst heq
        simp
      · rw [if_neg heq, Entries.get?_set_of_ne (Ne.symm heq)]
        exact h.entry other

/-- The slots of anyone are as many as the contexts when a user has left one. -/
theorem Floor.Tallies.active_left (h : f.Tallies limit) {place : Nat}
    (huser : f.opened[place]? = some user) (other : String) :
    (f.slots.release user).active other = (f.opened.eraseIdx place).count other := by
  have hbefore := h.active other
  rw [count_left huser] at hbefore
  by_cases heq : user = other
  · subst heq
    rw [Slots.active_release, hbefore, if_pos rfl, Nat.add_sub_cancel]
  · rw [Slots.active_release_of_ne (Ne.symm heq), hbefore, if_neg heq, Nat.add_zero]

/-- **Leaving keeps the tallies.** -/
theorem Floor.Tallies.leave (h : f.Tallies limit) (place : Nat) :
    (f.leave place).Tallies limit := by
  rw [Floor.leave]
  split
  case h_2 => exact h
  case h_1 user huser =>
    refine ⟨(Slots.limit_release _ _).trans h.limit_eq, h.active_left huser, fun other => ?_,
      fun other => ?_⟩
    · have hbefore := h.bounded other
      rw [h.active, count_left huser] at hbefore
      rw [h.active_left huser]
      omega
    · have hentry := h.entry other
      have hactive := h.active other
      rw [count_left huser] at hentry hactive
      dsimp only
      by_cases heq : user = other
      · -- The entry is gone exactly if this was the only context of the user.
        subst heq
        rw [entry_release, hactive, if_pos rfl]
        omega
      · rw [entry_release_of_ne (Ne.symm heq), hentry, if_neg heq, Nat.add_zero]

/-- **What a move keeps.** -/
theorem tallies_after_move (h : f.Tallies limit) (m : Move) : (m.after f).Tallies limit := by
  cases m with
  | enter user => exact h.enter user
  | leave place => exact h.leave place

/-- What the next move comes to is seen from the tallies. -/
theorem Floor.Tallies.admits (h : f.Tallies limit) : f.Admits limit where
  refused user hfull := by
    have hlimit : f.slots.limit = f.slots.active user := by rw [h.limit_eq, h.active, hfull]
    rw [enter_of_full (Int.le_of_eq hlimit), h.limit_eq]
  admitted user hfree := by
    have hbounded := h.bounded user
    rw [h.active] at hbounded
    rw [enter_of_free (by rw [h.limit_eq, h.active]; omega)]
  others user other hne := by
    constructor
    · by_cases hfull : f.slots.limit ≤ f.slots.active user
      · rw [enter_of_full hfull]
      · rw [enter_of_free hfull]
        exact Slots.active_set_of_ne hne _ _
    · intro place hplace
      rw [Floor.leave, hplace]
      exact Slots.active_release_of_ne hne _

end Moves

/-! ## Charges and refunds -/

/-- What is done to a balance. -/
inductive DealingKind where
  | charge
  | refund
deriving DecidableEq

/-- A charge to a user or a refund, for the work that a word stands for. -/
structure Dealing where
  kind : DealingKind
  user : String
  word : String

/-- The outcome of a dealing, and the balances after it. -/
def Dealing.on (d : Dealing) (c : Credits) : Answer Int × Credits :=
  match d.kind with
  | .charge => c.chargeFor d.user d.word
  | .refund => c.refundFor d.user d.word

/-- The balances after a dealing. -/
def Dealing.after (d : Dealing) (c : Credits) : Credits :=
  (d.on c).2

/-- What the work that a word stands for costs. -/
def costOf (word : String) : Int :=
  match Metered.ofWord word with
  | .ok m => m.cost
  | .error _ => 0

/-- Whether a dealing of a kind with a user went through on the balances that it met. -/
def wentThrough (kind : DealingKind) (user : String) (step : Credits × Dealing) : Bool :=
  step.2.kind = kind && step.2.user = user && (step.2.on step.1).1.isOk

/-- **The costs of the dealings of a kind** with a user that went through. -/
def costs (kind : DealingKind) (user : String) (past : List (Credits × Dealing)) : Int :=
  ((past.filter (wentThrough kind user)).map fun step => costOf step.2.word).sum

/-- **Balances that add up** from the start over a run of dealings. -/
structure Credits.Tallies (start : Int) (c : Credits) (past : List (Credits × Dealing)) : Prop where
  start_eq : c.start = start
  balance : ∀ user, c.balance user = start - costs .charge user past + costs .refund user past
  nonneg : ∀ user, 0 ≤ c.balance user

/-- **What the next dealing comes to.** -/
structure Credits.Serves (c : Credits) : Prop where
  /-- A charge that the balance covers goes through, -/
  charged : ∀ user (m : Metered), m.cost ≤ c.balance user →
    (c.chargeFor user m.word).1 = .ok (c.balance user - m.cost)
  /-- one that it does not cover fails and changes nothing, -/
  refused : ∀ user (m : Metered), c.balance user < m.cost →
    c.chargeFor user m.word = (.error (.paymentRequired m.word m.cost (c.balance user)), c)
  /-- and a refund goes through. -/
  refunded : ∀ user (m : Metered),
    (c.refundFor user m.word).1 = .ok (c.balance user + m.cost)
  /-- For unknown work both fail and change nothing. -/
  unknown : ∀ user word, (∀ m : Metered, m.word ≠ word) → ∀ kind,
    (Dealing.mk kind user word).on c =
      (.error (.validation ("Unknown metered action: " ++ word)), c)
  /-- Other users have the balances that they had. -/
  others : ∀ (d : Dealing) other, other ≠ d.user → (d.after c).balance other = c.balance other

section Dealings

variable {start : Int} {c : Credits} {past : List (Credits × Dealing)} {d : Dealing}

theorem costs_append (kind : DealingKind) (user : String) (step : Credits × Dealing) :
    costs kind user (past ++ [step]) = costs kind user past +
      if wentThrough kind user step then costOf step.2.word else 0 := by
  rw [costs, List.filter_append, List.map_append, List.sum_append, ← costs]
  split
  case isTrue h => simp [h]
  case isFalse h => simp [h]

theorem costOf_word (m : Metered) : costOf m.word = m.cost := by
  rw [costOf, Metered.ofWord_word]

theorem on_charge_word (c : Credits) (user : String) (m : Metered) :
    (Dealing.mk .charge user m.word).on c =
      if c.balance user < m.cost then (.error (.paymentRequired m.word m.cost (c.balance user)), c)
      else (.ok (c.balance user - m.cost), c.set user (c.balance user - m.cost)) :=
  c.chargeFor_word user m

theorem on_refund_word (c : Credits) (user : String) (m : Metered) :
    (Dealing.mk .refund user m.word).on c =
      (.ok (c.balance user + m.cost), c.set user (c.balance user + m.cost)) :=
  c.refundFor_word user m

theorem on_of_unknown {word : String} (h : ∀ m : Metered, m.word ≠ word) (c : Credits)
    (kind : DealingKind) (user : String) : (Dealing.mk kind user word).on c =
      (.error (.validation ("Unknown metered action: " ++ word)), c) := by
  have hword := Metered.ofWord_of_ne h
  cases kind with
  | charge => simp only [Dealing.on, Credits.chargeFor, hword]
  | refund => simp only [Dealing.on, Credits.refundFor, hword]

/-- **What a dealing can come to**: it fails and changes nothing, or it is for known work and the
balance changes by the cost of that. -/
theorem dealing_cases (d : Dealing) (c : Credits) :
    (∃ f, d.on c = (.error f, c)) ∨ ∃ m : Metered, d.word = m.word ∧
      ((d.kind = .charge ∧ m.cost ≤ c.balance d.user ∧ d.on c =
          (.ok (c.balance d.user - m.cost), c.set d.user (c.balance d.user - m.cost))) ∨
        (d.kind = .refund ∧ d.on c =
          (.ok (c.balance d.user + m.cost), c.set d.user (c.balance d.user + m.cost)))) := by
  obtain ⟨kind, user, word⟩ := d
  by_cases hknown : ∃ m : Metered, m.word = word
  · obtain ⟨m, rfl⟩ := hknown
    cases kind with
    | charge =>
      rw [on_charge_word]
      split
      case isTrue h => exact .inl ⟨_, rfl⟩
      case isFalse h => exact .inr ⟨m, rfl, .inl ⟨rfl, Int.not_lt.mp h, rfl⟩⟩
    | refund => exact .inr ⟨m, rfl, .inr ⟨rfl, on_refund_word c user m⟩⟩
  · exact .inl ⟨_, on_of_unknown (not_exists.mp hknown) c kind user⟩

theorem balance_after_of_ne (d : Dealing) {other : String} (h : other ≠ d.user) (c : Credits) :
    (d.after c).balance other = c.balance other := by
  rw [Dealing.after]
  obtain ⟨f, hon⟩ | ⟨m, -, ⟨-, -, hon⟩ | ⟨-, hon⟩⟩ := dealing_cases d c
  · rw [hon]
  · rw [hon, Credits.balance_set_of_ne h]
  · rw [hon, Credits.balance_set_of_ne h]

/-- **What a dealing does to a balance.** -/
theorem balance_after (d : Dealing) (c : Credits) (user : String) :
    (d.after c).balance user = c.balance user -
      (if wentThrough .charge user (c, d) then costOf d.word else 0) +
      (if wentThrough .refund user (c, d) then costOf d.word else 0) := by
  by_cases heq : d.user = user
  · subst heq
    simp only [Dealing.after, wentThrough]
    obtain ⟨f, hon⟩ | ⟨m, hword, ⟨hkind, -, hon⟩ | ⟨hkind, hon⟩⟩ := dealing_cases d c
    · simp [hon, Except.isOk, Except.toBool]
    · simp [hon, hkind, hword, costOf_word, Except.isOk, Except.toBool, Credits.balance_set_self]
    · simp [hon, hkind, hword, costOf_word, Except.isOk, Except.toBool, Credits.balance_set_self]
  · have hnot : ∀ kind, wentThrough kind user (c, d) = false := by simp [wentThrough, heq]
    rw [balance_after_of_ne d (Ne.symm heq), hnot, hnot]
    simp

/-- No dealing makes a balance negative. -/
theorem nonneg_after (h : ∀ user, 0 ≤ c.balance user) (d : Dealing) (user : String) :
    0 ≤ (d.after c).balance user := by
  by_cases heq : user = d.user
  · subst heq
    have hbefore := h d.user
    rw [Dealing.after]
    obtain ⟨f, hon⟩ | ⟨m, -, ⟨-, hcovered, hon⟩ | ⟨-, hon⟩⟩ := dealing_cases d c
    · rw [hon]
      exact hbefore
    · rw [hon, Credits.balance_set_self]
      omega
    · have := m.cost_pos
      rw [hon, Credits.balance_set_self]
      omega
  · rw [balance_after_of_ne d heq]
    exact h user

theorem start_after (d : Dealing) (c : Credits) : (d.after c).start = c.start := by
  rw [Dealing.after]
  obtain ⟨f, hon⟩ | ⟨m, -, ⟨-, -, hon⟩ | ⟨-, hon⟩⟩ := dealing_cases d c <;> rw [hon] <;> rfl

/-- **What a dealing keeps.** -/
theorem tallies_after_dealing (h : c.Tallies start past) (d : Dealing) :
    (d.after c).Tallies start (past ++ [(c, d)]) where
  start_eq := (start_after d c).trans h.start_eq
  balance user := by
    rw [balance_after, costs_append, costs_append, h.balance]
    dsimp only
    omega
  nonneg := nonneg_after h.nonneg d

/-- What the next dealing comes to. -/
theorem serves (c : Credits) : c.Serves where
  charged user m hcovered := by
    rw [Credits.chargeFor_word, Credits.charge, if_neg (Int.not_lt.mpr hcovered)]
  refused user m hshort := by
    rw [Credits.chargeFor_word, Credits.charge, if_pos hshort]
  refunded user m := by
    rw [Credits.refundFor_word, Credits.refund]
  unknown user word hunknown kind := on_of_unknown hunknown c kind user
  others d other hne := balance_after_of_ne d hne c

end Dealings

/-! ## Runs -/

/-- **What is metered adds up**, whatever users enter, leave, charge and refund: after any moves on
the one side and any dealings on the other. -/
theorem metering_exact {limit start : Int} (hlimit : 1 ≤ limit) (hstart : 0 ≤ start)
    (moves : List Move) (dealings : List Dealing) :
    ((stateAfter Move.after ⟨⟨limit, []⟩, []⟩ moves).Tallies limit ∧
      (stateAfter Move.after ⟨⟨limit, []⟩, []⟩ moves).Admits limit) ∧
    ((stateAfter Dealing.after ⟨start, []⟩ dealings).Tallies start
        (stepsOf Dealing.after ⟨start, []⟩ dealings) ∧
      (stateAfter Dealing.after ⟨start, []⟩ dealings).Serves) := by
  have hempty : (Floor.mk ⟨limit, []⟩ []).Tallies limit :=
    ⟨rfl, fun _ => rfl, fun _ => by simp [Slots.active]; omega, fun _ => by simp⟩
  have hfresh : (Credits.mk start []).Tallies start [] :=
    ⟨rfl, fun _ => by simp [costs, Credits.balance], fun _ => hstart⟩
  have hslots := @run_induction _ _ Move.after (fun f _ => f.Tallies limit)
    (fun _ _ m h => tallies_after_move h m) _ [] hempty moves
  have hcredits := run_induction (P := Credits.Tallies start)
    (fun _ _ d h => tallies_after_dealing h d) hfresh dealings
  exact ⟨⟨hslots, hslots.admits⟩, hcredits, serves _⟩

/-- One user enters three times where two contexts may be open, and leaves the first one. -/
def sampleMoves : List Move :=
  [.enter "alice", .enter "bob", .enter "alice", .enter "alice", .leave 0]

/-- One user pays twice and cannot pay again; another one gets something back. -/
def sampleDealings : List Dealing :=
  [⟨.charge, "alice", "DEPLOY_APPLY"⟩, ⟨.charge, "alice", "DEPLOY_PLAN"⟩,
    ⟨.refund, "bob", "GENERATION"⟩, ⟨.charge, "alice", "GENERATION"⟩, ⟨.charge, "bob", "NAP"⟩]

theorem metering_exact_sample : (1 : Int) ≤ 2 ∧ (0 : Int) ≤ 50 ∧
    ((stateAfter Move.after ⟨⟨2, []⟩, []⟩ sampleMoves).Tallies 2 ∧
      (stateAfter Move.after ⟨⟨2, []⟩, []⟩ sampleMoves).Admits 2) ∧
    ((stateAfter Dealing.after ⟨50, []⟩ sampleDealings).Tallies 50
        (stepsOf Dealing.after ⟨50, []⟩ sampleDealings) ∧
      (stateAfter Dealing.after ⟨50, []⟩ sampleDealings).Serves) :=
  ⟨by decide, by decide, metering_exact (by decide) (by decide) sampleMoves sampleDealings⟩

example : (stateAfter Move.after ⟨⟨2, []⟩, []⟩ sampleMoves).opened = ["bob", "alice"] := by decide

example : (stateAfter Dealing.after ⟨50, []⟩ sampleDealings).balance "alice" = 5 := by decide

end Groundplan
