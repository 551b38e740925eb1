/-!
# Merging runs

Two ordered runs of items become one. A merge works from one end of the runs to the other. It
settles items one by one until one run has led for long enough; then it settles whole stretches,
whose ends are found by doubling steps and then by halving. How long is long enough is a patience
that one merge hands on to the next.

With a relation that is a strict order this is the stable merge, whatever the end and the patience.
With items that cannot be compared the result follows from the comparisons that are made.

## Main definitions

* `Direction`: the end that a merge works from
* `reach`: the length of a stretch at the start of a run
* `Merge`, `Merge.run`: a merge under way, and how it goes on to its end
* `mergeRuns`: two runs as one, with the patience after it

## Main results

* `run_perm`: a merge under way loses no item and adds none
* `mergeRuns_perm`: two runs as one hold the items of both
-/

namespace Groundplan.Cost

variable {α : Type}

/-! ## Directions -/

/-- The end of the runs that a merge works from. The runs are then written beginning with the item
at that end. -/
inductive Direction where
  | forwards
  | backwards

namespace Direction

/-- Whether an item of the first run is settled before an item of the second. -/
def leads (d : Direction) (lt : α → α → Bool) (x y : α) : Bool :=
  match d with
  | .forwards => !lt y x
  | .backwards => lt y x

/-- The place in the middle of the places from `low` to before `high`. Of two in the middle it is
the one that lies further on in the order of the items. -/
def middle (d : Direction) (low high : Nat) : Nat :=
  match d with
  | .forwards => low + (high - low) / 2
  | .backwards => low + (high - low - 1) / 2

theorem middle_lt (d : Direction) {low high : Nat} (h : low < high) : d.middle low high < high := by
  cases d <;> simp only [middle] <;> omega

theorem le_middle (d : Direction) (low high : Nat) : low ≤ d.middle low high := by
  cases d <;> exact Nat.le_add_right _ _

end Direction

/-! ## Stretches -/

/-- Goes along a run by doubling steps for as long as a test holds. The test is known to hold at
`last` and is made next at `next`; the result is the number of items that certainly belong to the
stretch, and the number that may. -/
def strides (p : α → Bool) (xs : List α) (last next : Nat) : Nat × Nat :=
  if _h : next < xs.length then
    if p xs[next] then strides p xs next (2 * next + 1) else (last + 1, next)
  else (last + 1, xs.length)
termination_by xs.length - next

/-- Halves what is open of the length of a stretch, which is at least `low` and at most `high`. -/
def halvings (d : Direction) (p : α → Bool) (xs : List α) (low high : Nat) : Nat :=
  if _h : low < high then
    match xs[d.middle low high]? with
    | none => low
    | some x =>
      if p x then halvings d p xs (d.middle low high + 1) high
      else halvings d p xs low (d.middle low high)
  else low
termination_by high - low
decreasing_by
  · have := d.le_middle low high
    omega
  · have := d.middle_lt _h
    omega

/-- **The length of the stretch** of items that pass a test at the start of a run. -/
def reach (d : Direction) (p : α → Bool) (xs : List α) : Nat :=
  match xs with
  | [] => 0
  | x :: _ =>
    if p x then halvings d p xs (strides p xs 0 1).1 (strides p xs 0 1).2 else 0

/-! ## A merge under way -/

/-- A merge under way: the items that are settled, last first, and what is left of the two runs. -/
structure Merge (α : Type) where
  settled : List α
  first : List α
  second : List α

/-- How a merge goes on: item by item, with the numbers of items in a row that the runs have led
by, or by stretches. -/
inductive Pace where
  | items (first second : Nat)
  | stretches

/-- The length from which a stretch is worth looking for. -/
def worthwhile : Nat := 7

namespace Merge

/-- Settles the next items of the first run. -/
def takeFirst (n : Nat) (m : Merge α) : Merge α :=
  { m with settled := (m.first.take n).reverse ++ m.settled, first := m.first.drop n }

/-- Settles the next items of the second run. -/
def takeSecond (n : Nat) (m : Merge α) : Merge α :=
  { m with settled := (m.second.take n).reverse ++ m.settled, second := m.second.drop n }

/-- Whether a merge is over: the run that the merge works towards is used up, or the other has one
item left at most, whose place is then the last. -/
def isOver (d : Direction) (m : Merge α) : Bool :=
  match d with
  | .forwards => m.second.isEmpty || (m.first.drop 1).isEmpty
  | .backwards => m.first.isEmpty || (m.second.drop 1).isEmpty

/-- The items of a merge that is over. -/
def result (d : Direction) (m : Merge α) : List α :=
  match d with
  | .forwards => m.settled.reverse ++ (m.second ++ m.first)
  | .backwards => m.settled.reverse ++ (m.first ++ m.second)

/-- Whether the next item of the first run is settled before that of the second. -/
def firstLeads (d : Direction) (lt : α → α → Bool) (m : Merge α) : Bool :=
  match m.first, m.second with
  | x :: _, y :: _ => d.leads lt x y
  | _, _ => false

/-- How many items of the first run are settled before the next one of the second. -/
def firstReach (d : Direction) (lt : α → α → Bool) (m : Merge α) : Nat :=
  match m.second with
  | [] => 0
  | y :: _ => reach d (fun x => d.leads lt x y) m.first

/-- How many items of the second run are settled before the next one of the first. -/
def secondReach (d : Direction) (lt : α → α → Bool) (m : Merge α) : Nat :=
  match m.first with
  | [] => 0
  | x :: _ => reach d (fun y => !d.leads lt x y) m.second

/-- Goes on with a merge unless it is over. -/
def unlessOver (d : Direction) (go : Merge α → Merge α × Nat) (m : Merge α) : Merge α × Nat :=
  if m.isOver d then (m, 0) else go m

/-- Settles a stretch of the first run with the item that ends it, then a stretch of the second
with the item that ends it. The number is the length of the longer stretch. -/
def stretch (d : Direction) (lt : α → α → Bool) (m : Merge α) : Merge α × Nat :=
  let n := m.firstReach d lt
  let rest := (m.takeFirst n).unlessOver d fun m =>
    (m.takeSecond 1).unlessOver d fun m =>
      let k := m.secondReach d lt
      let after := (m.takeSecond k).unlessOver d fun m => (m.takeFirst 1, 0)
      (after.1, k)
  (rest.1, max n rest.2)

/-- The number of items that are not settled. -/
def left (m : Merge α) : Nat :=
  m.first.length + m.second.length

theorem left_takeFirst_le (n : Nat) (m : Merge α) : (m.takeFirst n).left ≤ m.left := by
  simp only [left, takeFirst, List.length_drop]
  omega

theorem left_takeSecond_le (n : Nat) (m : Merge α) : (m.takeSecond n).left ≤ m.left := by
  simp only [left, takeSecond, List.length_drop]
  omega

/-- A merge that is not over has items of both runs left. -/
theorem length_pos_of_not_isOver {d : Direction} {m : Merge α} (h : m.isOver d = false) :
    0 < m.first.length ∧ 0 < m.second.length := by
  cases d <;> simp only [isOver, Bool.or_eq_false_iff, List.isEmpty_eq_false_iff] at h <;>
    obtain ⟨h₁, h₂⟩ := h <;> have h₁ := List.length_pos_iff.2 h₁ <;>
    have h₂ := List.length_pos_iff.2 h₂ <;> simp only [List.length_drop] at h₂ <;> omega

theorem left_takeFirst_one_lt {d : Direction} {m : Merge α} (h : m.isOver d = false) :
    (m.takeFirst 1).left < m.left := by
  have := length_pos_of_not_isOver h
  simp only [left, takeFirst, List.length_drop]
  omega

theorem left_takeSecond_one_lt {d : Direction} {m : Merge α} (h : m.isOver d = false) :
    (m.takeSecond 1).left < m.left := by
  have := length_pos_of_not_isOver h
  simp only [left, takeSecond, List.length_drop]
  omega

/-- A stretch after which the merge is not over settles something. -/
theorem left_stretch_lt {d : Direction} {lt : α → α → Bool} {m : Merge α}
    (h : (m.stretch d lt).1.isOver d = false) : (m.stretch d lt).1.left < m.left := by
  simp only [stretch] at h ⊢
  generalize m.firstReach d lt = n at h ⊢
  have h₁ := left_takeFirst_le n m
  generalize m.takeFirst n = a at h h₁ ⊢
  simp only [unlessOver] at h ⊢
  split at h
  · simp_all
  · rename_i ha
    have h₂ := left_takeSecond_one_lt (by simpa using ha)
    rw [if_neg ha]
    generalize a.takeSecond 1 = b at h h₂ ⊢
    split at h
    · simp_all
    · rename_i hb
      rw [if_neg hb]
      generalize b.secondReach d lt = k at h ⊢
      have h₃ := left_takeSecond_le k b
      generalize b.takeSecond k = c at h h₃ ⊢
      split at h
      · simp_all
      · rename_i hc
        rw [if_neg hc]
        have h₄ := left_takeFirst_le 1 c
        simp only
        omega

/-- **Goes on with a merge** to its end. The patience is the number of items in a row after which
stretches are looked for; it falls as long as the stretches are worthwhile, and rises when they are
no longer. -/
def run (d : Direction) (lt : α → α → Bool) (patience : Nat) (pace : Pace) (m : Merge α) :
    List α × Nat :=
  if _h : m.isOver d then (m.result d, patience)
  else
    match pace with
    | .items n k =>
      if m.firstLeads d lt then
        run d lt patience (if patience ≤ n + 1 then .stretches else .items (n + 1) 0)
          (m.takeFirst 1)
      else
        run d lt patience (if patience ≤ k + 1 then .stretches else .items 0 (k + 1))
          (m.takeSecond 1)
    | .stretches =>
      if hs : (m.stretch d lt).1.isOver d then ((m.stretch d lt).1.result d, patience)
      else if worthwhile ≤ (m.stretch d lt).2 then
        run d lt (max 1 (patience - 1)) .stretches (m.stretch d lt).1
      else run d lt (patience + 1) (.items 0 0) (m.stretch d lt).1
termination_by m.left
decreasing_by
  · exact left_takeFirst_one_lt (by simpa using _h)
  · exact left_takeSecond_one_lt (by simpa using _h)
  · exact left_stretch_lt (by simpa using hs)
  · exact left_stretch_lt (by simpa using hs)

/-! ## Nothing is lost -/

/-- All the items of a merge. -/
def items (m : Merge α) : List α :=
  m.settled ++ (m.first ++ m.second)

theorem takeFirst_perm (n : Nat) (m : Merge α) : (m.takeFirst n).items.Perm m.items := by
  classical
  simp only [List.perm_iff_count, items, takeFirst, List.count_append, List.count_reverse]
  intro x
  have := congrArg (List.count x) (List.take_append_drop n m.first)
  rw [List.count_append] at this
  omega

theorem takeSecond_perm (n : Nat) (m : Merge α) : (m.takeSecond n).items.Perm m.items := by
  classical
  simp only [List.perm_iff_count, items, takeSecond, List.count_append, List.count_reverse]
  intro x
  have := congrArg (List.count x) (List.take_append_drop n m.second)
  rw [List.count_append] at this
  omega

theorem result_perm (d : Direction) (m : Merge α) : (m.result d).Perm m.items := by
  cases d
  · exact m.settled.reverse_perm.append List.perm_append_comm
  · exact m.settled.reverse_perm.append_right _

theorem unlessOver_perm {d : Direction} {go : Merge α → Merge α × Nat} {m : Merge α}
    (h : ∀ m, (go m).1.items.Perm m.items) : (m.unlessOver d go).1.items.Perm m.items := by
  unfold unlessOver
  split
  · exact .refl _
  · exact h m

theorem stretch_perm (d : Direction) (lt : α → α → Bool) (m : Merge α) :
    (m.stretch d lt).1.items.Perm m.items := by
  refine (unlessOver_perm fun a => ?_).trans (takeFirst_perm _ m)
  refine (unlessOver_perm fun b => ?_).trans (takeSecond_perm 1 a)
  exact (unlessOver_perm fun c => takeFirst_perm 1 c).trans (takeSecond_perm _ b)

/-- **A merge under way loses no item and adds none.** -/
theorem run_perm (d : Direction) (lt : α → α → Bool) (patience : Nat) (pace : Pace) (m : Merge α) :
    (m.run d lt patience pace).1.Perm m.items := by
  fun_induction run d lt patience pace m with
  | case1 => exact result_perm d _
  | case2 patience m _ n k _ ih => exact ih.trans (takeFirst_perm 1 m)
  | case3 patience m _ n k _ ih => exact ih.trans (takeSecond_perm 1 m)
  | case4 patience m => exact (result_perm d _).trans (stretch_perm d lt m)
  | case5 patience m _ _ _ ih => exact ih.trans (stretch_perm d lt m)
  | case6 patience m _ _ _ ih => exact ih.trans (stretch_perm d lt m)

end Merge

/-! ## Two runs -/

/-- The merge of two runs that are written beginning with the item at the end that it works from.
The run that it works towards has an item to settle at once. -/
def mergeFrom (d : Direction) (lt : α → α → Bool) (patience : Nat) (xs ys : List α) :
    List α × Nat :=
  let m : Merge α := ⟨[], xs, ys⟩
  match d with
  | .forwards => (m.takeSecond 1).run d lt patience (.items 0 0)
  | .backwards => (m.takeFirst 1).run d lt patience (.items 0 0)

theorem mergeFrom_perm (d : Direction) (lt : α → α → Bool) (patience : Nat) (xs ys : List α) :
    (mergeFrom d lt patience xs ys).1.Perm (xs ++ ys) := by
  cases d
  · exact (Merge.run_perm ..).trans (Merge.takeSecond_perm 1 ⟨[], xs, ys⟩)
  · exact (Merge.run_perm ..).trans (Merge.takeFirst_perm 1 ⟨[], xs, ys⟩)

/-- The merge of two runs from the end at which the shorter one has to give way. -/
def mergeOverlap (lt : α → α → Bool) (patience : Nat) (xs ys : List α) : List α × Nat :=
  if xs.length ≤ ys.length then mergeFrom .forwards lt patience xs ys
  else
    let r := mergeFrom .backwards lt patience xs.reverse ys.reverse
    (r.1.reverse, r.2)

theorem mergeOverlap_perm (lt : α → α → Bool) (patience : Nat) (xs ys : List α) :
    (mergeOverlap lt patience xs ys).1.Perm (xs ++ ys) := by
  unfold mergeOverlap
  split
  · exact mergeFrom_perm ..
  · exact (List.reverse_perm _).trans ((mergeFrom_perm ..).trans
      (xs.reverse_perm.append ys.reverse_perm))

/-- How many items at the start of the first run stay before all of the second. -/
def keptBefore (lt : α → α → Bool) (xs ys : List α) : Nat :=
  match ys with
  | [] => xs.length
  | y :: _ => reach .forwards (fun x => !lt y x) xs

/-- How many items at the end of the second run stay after all of the first. -/
def keptAfter (lt : α → α → Bool) (xs ys : List α) : Nat :=
  match xs.getLast? with
  | none => ys.length
  | some x => reach .backwards (fun y => !lt y x) ys.reverse

/-- **Two runs as one**, with the patience after it. Items at the outer ends that are in place
already stay there; what overlaps is merged. -/
def mergeRuns (lt : α → α → Bool) (patience : Nat) (xs ys : List α) : List α × Nat :=
  let n := keptBefore lt xs ys
  let k := ys.length - keptAfter lt (xs.drop n) ys
  if (xs.drop n).isEmpty || (ys.take k).isEmpty then (xs ++ ys, patience)
  else
    let r := mergeOverlap lt patience (xs.drop n) (ys.take k)
    (xs.take n ++ (r.1 ++ ys.drop k), r.2)

/-- **Two runs as one hold the items of both.** -/
theorem mergeRuns_perm (lt : α → α → Bool) (patience : Nat) (xs ys : List α) :
    (mergeRuns lt patience xs ys).1.Perm (xs ++ ys) := by
  simp only [mergeRuns]
  generalize keptBefore lt xs ys = n
  generalize ys.length - keptAfter lt (xs.drop n) ys = k
  split
  · exact .refl _
  · have h := ((mergeOverlap_perm lt patience (xs.drop n) (ys.take k)).append_right
      (ys.drop k)).append_left (xs.take n)
    simpa only [List.append_assoc, List.take_append_drop,
      ← List.append_assoc (xs.take n) (xs.drop n)] using h

end Groundplan.Cost
