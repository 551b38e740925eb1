import Groundplan.Failure

/-!
# Credits

Metered work is charged before it begins and refunded if it never did. Every user starts with the
same balance.

## Main definitions

* `Metered`: the kinds of metered work and their costs
* `Credits`: the balances
* `Credits.charge`, `Credits.refund`, `Credits.balance`
* `Credits.chargeFor`, `Credits.refundFor`: the same for work that is named by its word

## Main results

* `balance_charge_of_ne`: a charge leaves other balances alone
-/

namespace Groundplan

/-- The kinds of metered work. -/
inductive Metered where
  | scan
  | plan
  | apply
  | generation
deriving DecidableEq, Repr, Inhabited

namespace Metered

/-- The kinds of metered work. -/
def all : List Metered := [.scan, .plan, .apply, .generation]

/-- The word for a kind of work. -/
def word : Metered → String
  | .scan => "CLOUD_SCAN"
  | .plan => "DEPLOY_PLAN"
  | .apply => "DEPLOY_APPLY"
  | .generation => "GENERATION"

/-- What a kind of work costs. -/
def cost : Metered → Int
  | .scan => 20
  | .plan => 15
  | .apply => 30
  | .generation => 10

/-- The kind of work that a word stands for. -/
def ofWord (s : String) : Answer Metered :=
  match all.find? fun m => m.word == s with
  | some m => .ok m
  | none => .error (.validation ("Unknown metered action: " ++ s))

theorem cost_pos (m : Metered) : 0 < m.cost := by
  cases m <;> decide

theorem ofWord_word (m : Metered) : ofWord m.word = .ok m := by
  cases m <;> rfl

theorem ofWord_of_ne {word : String} (h : ∀ m : Metered, m.word ≠ word) :
    ofWord word = .error (.validation ("Unknown metered action: " ++ word)) := by
  have hnone : all.find? (fun m => m.word == word) = none := by simp [h]
  rw [ofWord, hnone]

end Metered

/-- The balances of users; one who has none yet has the balance that all start with. -/
structure Credits where
  start : Int := 100
  balances : Entries Int := []
deriving Repr, Inhabited

namespace Credits

/-- The balance of a user. -/
def balance (c : Credits) (user : String) : Int :=
  (Entries.get? user c.balances).getD c.start

/-- Sets the balance of a user. -/
def set (c : Credits) (user : String) (amount : Int) : Credits :=
  { c with balances := Entries.set user amount c.balances }

/-- **Charges a user** for work, unless the balance does not cover it; the balance that is left. -/
def charge (c : Credits) (user : String) (m : Metered) : Answer Int × Credits :=
  let balance := c.balance user
  if balance < m.cost then (.error (.paymentRequired m.word m.cost balance), c)
  else (.ok (balance - m.cost), c.set user (balance - m.cost))

/-- **Gives a charge back**; the new balance. -/
def refund (c : Credits) (user : String) (m : Metered) : Int × Credits :=
  let balance := c.balance user + m.cost
  (balance, c.set user balance)

/-- Charges a user for the work that a word stands for. -/
def chargeFor (c : Credits) (user word : String) : Answer Int × Credits :=
  match Metered.ofWord word with
  | .ok m => c.charge user m
  | .error f => (.error f, c)

/-- Gives a charge back for the work that a word stands for. -/
def refundFor (c : Credits) (user word : String) : Answer Int × Credits :=
  match Metered.ofWord word with
  | .ok m => (.ok (c.refund user m).1, (c.refund user m).2)
  | .error f => (.error f, c)

theorem chargeFor_word (c : Credits) (user : String) (m : Metered) :
    c.chargeFor user m.word = c.charge user m := by
  rw [chargeFor, Metered.ofWord_word]

theorem refundFor_word (c : Credits) (user : String) (m : Metered) :
    c.refundFor user m.word = (.ok (c.refund user m).1, (c.refund user m).2) := by
  rw [refundFor, Metered.ofWord_word]

theorem balance_set_self (c : Credits) (user : String) (amount : Int) :
    (c.set user amount).balance user = amount := by
  simp [balance, set]

theorem balance_set_of_ne {user other : String} (h : other ≠ user) (c : Credits) (amount : Int) :
    (c.set user amount).balance other = c.balance other := by
  simp [balance, set, Entries.get?_set_of_ne h]

/-- A charge leaves other balances alone. -/
theorem balance_charge_of_ne {user other : String} (h : other ≠ user) (c : Credits)
    (m : Metered) : (c.charge user m).2.balance other = c.balance other := by
  simp only [charge]
  split
  · rfl
  · exact balance_set_of_ne h c _

end Credits

end Groundplan
