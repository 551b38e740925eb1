import Groundplan.Installation
import Groundplan.Proofs.Routine

/-!
# What actions do

The outcome of an action and the state that it leaves, for each of the ways in which actions are put
together.

## Main results

* `Action.bind_apply`: one action and then another
* `Action.tryCatch_apply`: an action whose failure is caught
* `Action.get_apply`, `Action.set_apply`, `Action.ofAnswer_apply`, `Action.note_apply`,
  `Action.inquire_apply`: the actions that others are made of
* `charge_cases`: a charge
-/

namespace Groundplan.Action

variable {α β : Type}

/-- A failure ends a sequence of actions, and what was done before is kept. -/
theorem bind_apply (a : Action α) (k : α → Action β) (s : Installation) :
    (a >>= k) s =
      match a s with
      | (.ok x, t) => k x t
      | (.error f, t) => (.error f, t) := by
  show ExceptT.bindCont k (a s).1 (a s).2 = _
  rcases a s with ⟨f | x, t⟩ <;> rfl

/-- What is done about a failure is done in the state that it left. -/
theorem tryCatch_apply (a : Action α) (f : Failure → Action α) (s : Installation) :
    (tryCatch a f) s =
      match a s with
      | (.ok x, t) => (.ok x, t)
      | (.error e, t) => f e t := by
  show ExceptT.tryCatch a f s = _
  unfold ExceptT.tryCatch ExceptT.mk
  show StateT.bind _ _ s = _
  unfold StateT.bind
  rcases a s with ⟨e | x, t⟩ <;> rfl

@[simp] theorem get_apply (s : Installation) : (get : Action Installation) s = (.ok s, s) := rfl

@[simp] theorem set_apply (s t : Installation) : (set t : Action PUnit) s = (.ok ⟨⟩, t) := rfl

@[simp] theorem ofAnswer_apply (a : Answer α) (s : Installation) : ofAnswer a s = (a, s) := rfl

@[simp] theorem note_apply (e : Event) (s : Installation) :
    note e s = (.ok ⟨⟩, { s with events := s.events ++ [e] }) := rfl

/-- Whatever an inquiry comes to, only its calls are noted. -/
@[simp] theorem inquire_apply (w : World) (q : Inquiry α) (s : Installation) :
    inquire w q s = (w.account.outcome q,
      { s with events := s.events ++ (w.account.callsOf q).map .called }) := rfl

end Groundplan.Action

namespace Groundplan

/-- A charge that the balance does not cover is refused and changes nothing; otherwise the balance
falls by the price. -/
theorem charge_cases (user : String) (m : Metered) (s : Installation) :
    (s.credits.balance user < m.cost ∧ ∃ f, charge user m s = (.error f, s)) ∨
      (m.cost ≤ s.credits.balance user ∧
        ∃ n credits, charge user m s = (.ok n, { s with credits := credits }) ∧
          credits.balance user = s.credits.balance user - m.cost) := by
  rw [charge, Action.draw, Credits.charge]
  by_cases hpoor : s.credits.balance user < m.cost
  · rw [if_pos hpoor]
    exact .inl ⟨hpoor, _, rfl⟩
  · rw [if_neg hpoor]
    exact .inr ⟨Int.not_lt.1 hpoor, _, _, rfl, Credits.balance_set_self _ _ _⟩

end Groundplan
