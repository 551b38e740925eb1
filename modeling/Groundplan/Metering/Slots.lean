import Groundplan.Failure

/-!
# Slots

A user may have only so many provisioning operations under way at a time; one more is refused, not
queued.

## Main definitions

* `Slots`: the limit, and how many slots each user holds
* `Slots.acquire`, `Slots.release`, `Slots.active`

## Main results

* `active_release`: a slot that is given back is one less
* `active_acquire_of_ne`, `active_release_of_ne`: the slots of others are left alone
-/

namespace Groundplan

/-- The slots that users hold; a user without any has no entry. -/
structure Slots where
  limit : Int := 5
  held : Entries Nat := []
deriving Repr, Inhabited

namespace Slots

/-- How many slots a user holds. -/
def active (s : Slots) (user : String) : Nat :=
  (Entries.get? user s.held).getD 0

/-- **Takes a slot**, unless the user holds as many as there may be. -/
def acquire (s : Slots) (user : String) : Answer Unit × Slots :=
  let n := s.active user
  if s.limit ≤ n then
    (.error (.rateLimited ("Maximum " ++ decimalText s.limit ++
      " concurrent deployments reached")), s)
  else (.ok (), { s with held := Entries.set user (n + 1) s.held })

/-- **Gives a slot back**; without any held, nothing happens. -/
def release (s : Slots) (user : String) : Slots :=
  let n := s.active user
  -- The entry goes with the last slot.
  if n ≤ 1 then { s with held := Entries.erase user s.held }
  else { s with held := Entries.set user (n - 1) s.held }

/-- Runs something within a slot, which is given back whatever comes of it. -/
def within {α : Type} (s : Slots) (user : String) (body : Slots → Answer α × Slots) :
    Answer α × Slots :=
  match s.acquire user with
  | (.error f, s) => (.error f, s)
  | (.ok _, s) =>
    let (a, s) := body s
    (a, s.release user)

variable {user other : String}

theorem active_set_self (s : Slots) (user : String) (n : Nat) :
    ({ s with held := Entries.set user n s.held } : Slots).active user = n := by
  simp [active]

theorem active_set_of_ne (h : other ≠ user) (s : Slots) (n : Nat) :
    ({ s with held := Entries.set user n s.held } : Slots).active other = s.active other := by
  simp [active, Entries.get?_set_of_ne h]

theorem active_acquire_of_ne (h : other ≠ user) (s : Slots) :
    (s.acquire user).2.active other = s.active other := by
  rw [acquire]
  split
  · rfl
  · exact active_set_of_ne h s _

/-- **A slot that is given back is one less**, if there was one. -/
theorem active_release (s : Slots) (user : String) :
    (s.release user).active user = s.active user - 1 := by
  simp only [release]
  split
  · rw [active, Entries.get?_erase_self, Option.getD_none]
    omega
  · exact active_set_self s user _

theorem active_release_of_ne (h : other ≠ user) (s : Slots) :
    (s.release user).active other = s.active other := by
  rw [release]
  split
  · rw [active, Entries.get?_erase_of_ne h, active]
  · exact active_set_of_ne h s _

theorem limit_release (s : Slots) (user : String) : (s.release user).limit = s.limit := by
  rw [release]
  split <;> rfl

end Slots

end Groundplan
