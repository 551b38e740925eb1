import Groundplan.Failure
import Mathlib.Data.List.Basic

/-!
# Answers that fail

When an answer that is put together from others is a failure, and what its result comes from if it
is none.

## Main definitions

* `Fails`: an answer that is a failure

## Main results

* `Fails.map_iff`, `Fails.bind_iff`, `Fails.mapM_iff`: which parts decide
* `Fails.not_bind`, `Fails.not_filterM`: results from results
* `filterM_ok`, `anyM_ok`: tests that have a result for every item
* `mem_of_mapM`: the results of going through a list
-/

namespace Groundplan

/-- There is no result. -/
def Fails {α : Type} (a : Answer α) : Prop :=
  ∃ f, a = .error f

namespace Fails

variable {α β : Type} {a : Answer α}

theorem not_ok {x : α} : ¬ Fails (.ok x : Answer α) :=
  fun ⟨_, h⟩ => by cases h

theorem not_pure {x : α} : ¬ Fails (pure x : Answer α) :=
  not_ok

theorem not_iff : ¬ Fails a ↔ ∃ x, a = .ok x := by
  cases a with
  | error f => exact iff_of_false (fun h => h ⟨f, rfl⟩) (by simp)
  | ok x => exact iff_of_true not_ok ⟨x, rfl⟩

theorem iff_isOk : Fails a ↔ a.isOk = false := by
  cases a with
  | error f => exact iff_of_true ⟨f, rfl⟩ rfl
  | ok x => exact iff_of_false not_ok (by simp [Except.isOk, Except.toBool])

theorem map_iff {g : α → β} : Fails (a.map g) ↔ Fails a := by
  cases a with
  | error f => exact iff_of_true ⟨f, rfl⟩ ⟨f, rfl⟩
  | ok x => exact iff_of_false not_ok not_ok

/-- A sequence fails in its first part or in its second, if what the first finds does not matter for
that. -/
theorem bind_iff {k : α → Answer β} {P : Prop} (hk : ∀ x, Fails (k x) ↔ P) :
    Fails (a >>= k) ↔ Fails a ∨ P := by
  cases a with
  | error f => exact iff_of_true ⟨f, rfl⟩ (.inl ⟨f, rfl⟩)
  | ok x => exact (hk x).trans (or_iff_right not_ok).symm

/-- What comes after a result cannot spoil it, if it has a result itself. -/
theorem bind_iff_of_total {k : α → Answer β} (hk : ∀ x, ¬ Fails (k x)) :
    Fails (a >>= k) ↔ Fails a := by
  rw [bind_iff fun x => iff_of_false (hk x) id, or_false]

theorem not_bind {k : α → Answer β} (ha : ¬ Fails a) (hk : ∀ x, ¬ Fails (k x)) :
    ¬ Fails (a >>= k) :=
  fun h => ha ((bind_iff_of_total hk).mp h)

/-- Going through a list fails exactly if some item does. -/
theorem mapM_iff {f : α → Answer β} {xs : List α} : Fails (xs.mapM f) ↔ ∃ x ∈ xs, Fails (f x) := by
  induction xs with
  | nil => exact iff_of_false not_ok (by simp)
  | cons x xs ih =>
    rw [List.mapM_cons, List.exists_mem_cons_iff, ← ih]
    exact bind_iff fun _ => bind_iff_of_total fun _ => not_pure

theorem not_filterAuxM {f : α → Answer Bool} {xs : List α} (h : ∀ x ∈ xs, ¬ Fails (f x))
    (done : List α) : ¬ Fails (xs.filterAuxM f done) := by
  induction xs generalizing done with
  | nil => exact not_ok
  | cons x xs ih =>
    obtain ⟨keep, hx⟩ := not_iff.mp (h x List.mem_cons_self)
    rw [List.filterAuxM, hx]
    exact ih (fun y hy => h y (List.mem_cons_of_mem _ hy)) _

/-- Choosing from a list has a result if every choice has. -/
theorem not_filterM {f : α → Answer Bool} {xs : List α} (h : ∀ x ∈ xs, ¬ Fails (f x)) :
    ¬ Fails (xs.filterM f) := by
  rw [List.filterM]
  exact not_bind (not_filterAuxM h []) fun _ => not_pure

end Fails

section Tests

variable {α : Type} {f : α → Answer Bool} {g : α → Bool} {xs : List α}

theorem filterAuxM_ok (h : ∀ x ∈ xs, f x = .ok (g x)) (done : List α) :
    xs.filterAuxM f done = .ok ((xs.filter g).reverse ++ done) := by
  induction xs generalizing done with
  | nil => rfl
  | cons x xs ih =>
    rw [List.filterAuxM, h x List.mem_cons_self]
    show xs.filterAuxM f (cond (g x) (x :: done) done) = _
    rw [ih fun y hy => h y (List.mem_cons_of_mem _ hy)]
    cases hx : g x <;> simp [hx]

/-- Choosing by a test that has a result for every item. -/
theorem filterM_ok (h : ∀ x ∈ xs, f x = .ok (g x)) : xs.filterM f = .ok (xs.filter g) := by
  rw [List.filterM, filterAuxM_ok h]
  show Except.ok ((xs.filter g).reverse ++ []).reverse = _
  rw [List.append_nil, List.reverse_reverse]

/-- Looking for an item by a test that has a result for every item. -/
theorem anyM_ok (h : ∀ x ∈ xs, f x = .ok (g x)) : xs.anyM f = .ok (xs.any g) := by
  induction xs with
  | nil => rfl
  | cons x xs ih =>
    rw [List.anyM_cons, h x List.mem_cons_self, List.any_cons]
    cases g x
    · exact ih fun y hy => h y (List.mem_cons_of_mem _ hy)
    · rfl

end Tests

/-- Each result of going through a list is the result of one of its items. -/
theorem mem_of_mapM {α β : Type} {f : α → Answer β} {xs : List α} {ys : List β}
    (h : xs.mapM f = .ok ys) {y : β} (hy : y ∈ ys) : ∃ x ∈ xs, f x = .ok y := by
  induction xs generalizing ys with
  | nil =>
    cases h
    cases hy
  | cons x xs ih =>
    rw [List.mapM_cons] at h
    cases hx : f x with
    | error f => simp [hx, bind, Except.bind] at h
    | ok z =>
      cases hxs : xs.mapM f with
      | error f => simp [hx, hxs, bind, Except.bind] at h
      | ok zs =>
        obtain rfl : z :: zs = ys := by
          simpa [hx, hxs, bind, Except.bind, pure, Except.pure] using h
        rcases List.mem_cons.1 hy with rfl | hy
        · exact ⟨x, List.mem_cons_self, hx⟩
        · obtain ⟨x', hmem, hx'⟩ := ih hxs hy
          exact ⟨x', List.mem_cons_of_mem _ hmem, hx'⟩

end Groundplan
