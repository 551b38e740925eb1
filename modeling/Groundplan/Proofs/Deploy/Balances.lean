import Groundplan.Proofs.Deploy.Requests

/-!
# What operations cost

A plan costs its price if the token service issued keys for it, and so does an application; what
happens then makes no difference. If no keys are issued the request fails, and the price is given
back if it failed by a refusal. A reply of the token service that is no error but has no keys in it
ends a request in another way, and then the price is not given back.

## Main results

* `Task.balances`: **the balances after a task**, in any state and for any replies
-/

namespace Groundplan.Deploy

/-- What a request is charged for. -/
def Request.metered? (r : Request) : Option Metered :=
  r.operation?.bind Operation.metered?

variable {w : World} {user : String} {op : Operation} {m : Metered} {before after : Credits}
  {es : List Event} {r : Except Failure Deployment}

/-- What a charged operation costs its user: the price if keys were issued, and otherwise only if
something else than a refusal ended it. -/
theorem Paid.self (h : Paid w user op before after es r) (hop : op.metered? = some m) :
    (Obtained w es → after.balance user = before.balance user - m.cost) ∧
      (¬ Obtained w es → ∃ f, r = .error f ∧
        after.balance user =
          if f.isRefusal then before.balance user else before.balance user - m.cost) := by
  -- The operation is free, or it came to nothing, or it cost its price.
  cases h with
  | free hfree =>
    rw [hop] at hfree
    cases hfree
  | @nothing _ f _ hkeys hf h =>
    constructor
    · intro hobtained
      exact absurd hobtained hkeys
    · intro _
      exact ⟨f, rfl, by rw [if_pos hf, h]⟩
  | cost hop' hdue _ hself _ =>
    rw [hop] at hop'
    cases hop'
    refine ⟨fun _ => hself, fun hkeys => ?_⟩
    obtain ⟨f, hr, hf⟩ := hdue.resolve_left hkeys
    exact ⟨f, hr, by rw [if_neg hf, hself]⟩

/-- What costs nothing changes no balance. -/
theorem Paid.eq_of_free (h : Paid w user op before after es r) (hop : op.metered? = none) :
    after = before := by
  cases h with
  | free _ h => exact h
  | nothing hop' => rw [hop] at hop'; cases hop'
  | cost hop' => rw [hop] at hop'; cases hop'

theorem Paid.other (h : Paid w user op before after es r) {v : String} (hv : v ≠ user) :
    after.balance v = before.balance v := by
  cases h with
  | free _ h => rw [h]
  | nothing _ _ _ h => exact h v
  | cost _ _ _ _ hother => exact hother v hv

/-- A charge that the balance does not cover is refused. -/
theorem Paid.nonneg (h : Paid w user op before after es r) {v : String}
    (hv : 0 ≤ before.balance v) : 0 ≤ after.balance v := by
  cases h with
  | free _ h => rwa [h]
  | nothing _ _ _ h => rwa [h]
  | cost _ _ hcover hself hother =>
    by_cases hvu : v = user
    · subst hvu
      omega
    · rwa [hother v hvu]

variable {s u : Installation}

theorem Leaves.credits {ds : Entries Deployment} {ss : SealedRecords} {cs : Credits}
    (h : Leaves s ds ss cs es u) : u.credits = cs := by
  obtain ⟨_, _, _, _, rfl⟩ := h
  rfl

/-- What a charged request costs its user. -/
theorem Task.balance_self (t : Task) (s : Installation) (hm : t.request.metered? = some m) :
    (Obtained t.world (t.events s) →
        (t.after s).credits.balance t.user = s.credits.balance t.user - m.cost) ∧
      (¬ Obtained t.world (t.events s) → ∃ f, t.answer s = .error f ∧
        (t.after s).credits.balance t.user =
          if f.isRefusal then s.credits.balance t.user
          else s.credits.balance t.user - m.cost) := by
  obtain ⟨op, hop, hm⟩ := Option.bind_eq_some_iff.1 hm
  obtain ⟨r, hr, hu⟩ := t.outcome hop s
  rw [hr]
  cases hu with
  | @refused f _ hf hu =>
    -- A refused request asked nothing of the world.
    rw [Task.events_eq hu, hu.credits]
    constructor
    · rintro ⟨_, _, _, _, hmem, _⟩
      cases hmem
    · intro _
      exact ⟨f, rfl, by rw [if_pos hf]⟩
  | began hd hu hpaid hcourse hfiles =>
    rw [Task.events_eq hu, hu.credits]
    obtain ⟨hcost, hnot⟩ := hpaid.self hm
    refine ⟨hcost, fun hkeys => ?_⟩
    obtain ⟨f, rfl, hf⟩ := hnot hkeys
    exact ⟨f, rfl, hf⟩

/-- Only the requests of a user that are charged touch the balance of this user, and none makes it
fall below zero. -/
theorem Task.balance (t : Task) (s : Installation) (v : String) :
    (t.request.metered? = none ∨ v ≠ t.user →
        (t.after s).credits.balance v = s.credits.balance v) ∧
      (0 ≤ s.credits.balance v → 0 ≤ (t.after s).credits.balance v) := by
  cases hop : t.request.operation? with
  | none =>
    rw [(t.elsewhere hop s).credits]
    exact ⟨fun _ => rfl, id⟩
  | some op =>
    obtain ⟨r, -, hu⟩ := t.outcome hop s
    cases hu with
    | refused hf hu =>
      rw [hu.credits]
      exact ⟨fun _ => rfl, id⟩
    | began hd hu hpaid hcourse hfiles =>
      rw [hu.credits]
      refine ⟨fun h => h.elim (fun hfree => ?_) hpaid.other, hpaid.nonneg⟩
      rw [Request.metered?, hop] at hfree
      rw [hpaid.eq_of_free hfree]

theorem nonneg_afterAll (s : Installation) (ts : List Task) {v : String}
    (h : 0 ≤ s.credits.balance v) : 0 ≤ (afterAll s ts).credits.balance v := by
  -- Induction on the tasks still to come; what carries it is the balance before the next of them.
  induction ts generalizing s with
  | nil => exact h
  | cons t ts ih => exact ih (t.after s) ((t.balance s v).2 h)

/-- **The balances after a task**, in any state. If the request is charged, the balance of its user
falls by the price if keys were issued; otherwise the request fails, and the balance falls only if
something else than a refusal ended it. All other requests cost nothing, the balances of other users
stay, and over a run no balance falls below zero. -/
theorem Task.balances (t : Task) (s : Installation) :
    (∀ m, t.request.metered? = some m →
      (Obtained t.world (t.events s) →
        (t.after s).credits.balance t.user = s.credits.balance t.user - m.cost) ∧
      (¬ Obtained t.world (t.events s) → ∃ f, t.answer s = .error f ∧
        (t.after s).credits.balance t.user =
          if f.isRefusal then s.credits.balance t.user
          else s.credits.balance t.user - m.cost)) ∧
    (t.request.metered? = none → ∀ v,
      (t.after s).credits.balance v = s.credits.balance v) ∧
    (∀ v, v ≠ t.user → (t.after s).credits.balance v = s.credits.balance v) ∧
    ∀ ts v, 0 ≤ s.credits.balance v → 0 ≤ (afterAll s ts).credits.balance v :=
  ⟨fun _ hm => t.balance_self s hm, fun hm v => (t.balance s v).1 (.inl hm),
    fun v hv => (t.balance s v).1 (.inr hv), fun ts _ => nonneg_afterAll s ts⟩

end Groundplan.Deploy
