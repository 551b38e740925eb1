import Groundplan.Cost.Merging

/-!
# Ranking

Puts items in order. The items are cut into runs that are in order already, short runs are filled up
by inserting the items that follow, and runs are merged until one is left. Which runs are merged
when depends on where their boundaries lie in the whole: the finer the halving that tells the
middles of two runs apart, the sooner they are merged.

With a relation that is a strict order this is the stable order. Where two items cannot be compared,
as with costs that are not numbers, the place of an item still follows from the comparisons that
are made.

## Main definitions

* `insertOne`: puts an item among ordered ones, at a place found by halving
* `takeRun`, `runsOf`: the runs that items are cut into
* `boundaryDepth`: how deep the boundary of two runs lies in the whole
* `mergeAll`: runs as one
* `rankUp`, `rankDown`: items in ascending and in descending order

## Main results

* `rankDown_perm`: ranking loses no item and adds none
-/

namespace Groundplan.Cost

variable {α : Type}

/-! ## Insertion -/

/-- Where an item belongs among ordered ones between two places: behind all that it is not less
than. -/
def insertionPlace (lt : α → α → Bool) (x : α) (xs : List α) (low high : Nat) : Nat :=
  if low < high then
    let middle := low + (high - low) / 2
    match xs[middle]? with
    | none => low
    | some y =>
      if lt x y then insertionPlace lt x xs low middle
      else insertionPlace lt x xs (middle + 1) high
  else low
termination_by high - low

/-- Puts an item among ordered ones. -/
def insertOne (lt : α → α → Bool) (xs : List α) (x : α) : List α :=
  let n := insertionPlace lt x xs 0 xs.length
  xs.take n ++ x :: xs.drop n

theorem insertOne_perm (lt : α → α → Bool) (xs : List α) (x : α) :
    (insertOne lt xs x).Perm (x :: xs) := by
  refine List.perm_middle.trans ?_
  rw [List.take_append_drop]

theorem foldl_insertOne_perm (lt : α → α → Bool) (ys xs : List α) :
    (ys.foldl (insertOne lt) xs).Perm (xs ++ ys) := by
  induction ys generalizing xs with
  | nil => simp
  | cons y ys ih =>
    exact (ih _).trans (((insertOne_perm lt xs y).append_right ys).trans List.perm_middle.symm)

/-! ## Runs -/

/-- How many further items each follow the one before them in a relation. -/
def runLength (follows : α → α → Bool) (x : α) : List α → Nat
  | [] => 0
  | y :: ys => if follows x y then runLength follows y ys + 1 else 0

/-- The run at the start of items, and the items after it. A run that descends is turned round, and
one shorter than `least` is filled up by insertion. -/
def takeRun (lt : α → α → Bool) (least : Nat) (x : α) : List α → List α × List α
  | [] => ([x], [])
  | y :: rest =>
    let down := lt y x
    let n := runLength (fun a b => lt b a == down) y rest
    let start := x :: y :: rest.take n
    let more := rest.drop n
    let missing := least - start.length
    ((more.take missing).foldl (insertOne lt) (if down then start.reverse else start),
      more.drop missing)

theorem length_takeRun_le (lt : α → α → Bool) (least : Nat) (x : α) (xs : List α) :
    (takeRun lt least x xs).2.length ≤ xs.length := by
  cases xs with
  | nil => exact Nat.le_refl _
  | cons y rest =>
    simp only [takeRun, List.length_drop, List.length_cons]
    omega

theorem takeRun_perm (lt : α → α → Bool) (least : Nat) (x : α) (xs : List α) :
    ((takeRun lt least x xs).1 ++ (takeRun lt least x xs).2).Perm (x :: xs) := by
  cases xs with
  | nil => exact .refl _
  | cons y rest =>
    simp only [takeRun]
    generalize runLength (fun a b => lt b a == lt y x) y rest = n
    generalize least - (x :: y :: rest.take n).length = k
    refine ((foldl_insertOne_perm lt _ _).append_right _).trans ?_
    rw [List.append_assoc, List.take_append_drop]
    have h : (if lt y x then (x :: y :: rest.take n).reverse else x :: y :: rest.take n).Perm
        (x :: y :: rest.take n) := by
      split
      · exact List.reverse_perm _
      · exact .refl _
    refine (h.append_right _).trans ?_
    rw [List.cons_append, List.cons_append, List.take_append_drop]

/-- The runs that items are cut into. -/
def runsOf (lt : α → α → Bool) (least : Nat) : List α → List (List α)
  | [] => []
  | x :: xs => (takeRun lt least x xs).1 :: runsOf lt least (takeRun lt least x xs).2
termination_by xs => xs.length
decreasing_by exact Nat.lt_succ_of_le (length_takeRun_le lt least x xs)

theorem flatten_runsOf_perm (lt : α → α → Bool) (least : Nat) (xs : List α) :
    (runsOf lt least xs).flatten.Perm xs := by
  fun_induction runsOf lt least xs with
  | case1 => exact .refl _
  | case2 x xs ih => exact (ih.append_left _).trans (takeRun_perm lt least x xs)

/-- The length that every run but the last is to have: a number of items is halved until it is below
64, and is one more if a half was ever rounded down. -/
def leastRun (n : Nat) (rounded : Bool) : Nat :=
  if n < 64 then n + rounded.toNat else leastRun (n / 2) (rounded || n % 2 == 1)
termination_by n

/-! ## Boundaries -/

/-- **How deep the boundary of two runs lies in the whole**: how often the whole has to be halved
until the middles of the two runs, of `n` and `k` items from place `start` on, lie in different
parts. -/
def boundaryDepth (total start n k : Nat) : Nat :=
  let a := 2 * start + n
  let b := a + n + k
  ((List.range (total.log2 + 1)).find? fun i =>
    a * Nat.pow 2 i / total != b * Nat.pow 2 i / total).getD 0

/-! ## Merging all runs -/

/-- Runs that wait, the last first, with the run after them and the patience for merges. Of each
that waits the depth of the boundary after it is kept. -/
structure Waiting (α : Type) where
  runs : List (List α × Nat)
  last : List α
  patience : Nat

namespace Waiting

/-- The items of all runs, first to last. -/
def items (w : Waiting α) : List α :=
  (w.runs.map (·.1)).reverse.flatten ++ w.last

/-- Merges the last run into those that wait for as long as their boundary lies deeper. -/
def settle (lt : α → α → Bool) (depth : Nat) : List (List α × Nat) → List α → Nat → Waiting α
  | r :: rs, last, patience =>
    if depth < r.2 then
      let merged := mergeRuns lt patience r.1 last
      settle lt depth rs merged.1 merged.2
    else ⟨r :: rs, last, patience⟩
  | [], last, patience => ⟨[], last, patience⟩

/-- Adds a run whose boundary lies at a depth. -/
def push (lt : α → α → Bool) (w : Waiting α) (depth : Nat) (run : List α) : Waiting α :=
  let w := settle lt depth w.runs w.last w.patience
  ⟨(w.last, depth) :: w.runs, run, w.patience⟩

/-- Merges the runs that are left, from the last on. A run between two others goes with the shorter
one. -/
def finish (lt : α → α → Bool) : List (List α × Nat) → List α → Nat → List α
  | [], last, _ => last
  | [r], last, patience => (mergeRuns lt patience r.1 last).1
  | r :: q :: rs, last, patience =>
    if q.1.length < last.length then
      let merged := mergeRuns lt patience q.1 r.1
      finish lt ((merged.1, q.2) :: rs) last merged.2
    else
      let merged := mergeRuns lt patience r.1 last
      finish lt (q :: rs) merged.1 merged.2
termination_by rs => rs.length

theorem settle_perm (lt : α → α → Bool) (depth : Nat) (rs : List (List α × Nat)) (last : List α)
    (patience : Nat) :
    (settle lt depth rs last patience).items.Perm (Waiting.mk rs last patience).items := by
  induction rs generalizing last patience with
  | nil => exact .refl _
  | cons r rs ih =>
    simp only [settle]
    split
    · refine (ih _ _).trans ?_
      simp only [items, List.map_cons, List.reverse_cons, List.flatten_append, List.flatten_cons,
        List.flatten_nil, List.append_nil, List.append_assoc]
      exact (mergeRuns_perm ..).append_left _
    · exact .refl _

theorem push_perm (lt : α → α → Bool) (w : Waiting α) (depth : Nat) (run : List α) :
    (w.push lt depth run).items.Perm (w.items ++ run) := by
  have h := (settle_perm lt depth w.runs w.last w.patience).append_right run
  simpa [push, items] using h

theorem finish_perm (lt : α → α → Bool) (rs : List (List α × Nat)) (last : List α)
    (patience : Nat) : (finish lt rs last patience).Perm (Waiting.mk rs last patience).items := by
  fun_induction finish lt rs last patience with
  | case1 => simp [items]
  | case2 r last patience => simpa [items] using mergeRuns_perm lt patience r.1 last
  | case3 r q rs last patience _ merged ih =>
    refine ih.trans ?_
    have h := (mergeRuns_perm lt patience q.1 r.1).append_right last
    simpa [items, merged] using h.append_left _
  | case4 r q rs last patience _ merged ih =>
    refine ih.trans ?_
    have h := (mergeRuns_perm lt patience r.1 last).append_left q.1
    simpa [items, merged] using h.append_left _

end Waiting

/-! ## Ranking -/

/-- Takes in further runs, the first of which comes after a run of `n` items from place `start` on,
and merges all into one. -/
def mergeFurther (lt : α → α → Bool) (total start n : Nat) (w : Waiting α) :
    List (List α) → List α
  | [] => Waiting.finish lt w.runs w.last w.patience
  | run :: runs =>
    mergeFurther lt total (start + n) run.length
      (w.push lt (boundaryDepth total start n run.length) run) runs

theorem mergeFurther_perm (lt : α → α → Bool) (total start n : Nat) (w : Waiting α)
    (runs : List (List α)) :
    (mergeFurther lt total start n w runs).Perm (w.items ++ runs.flatten) := by
  induction runs generalizing start n w with
  | nil => simpa [mergeFurther] using Waiting.finish_perm lt w.runs w.last w.patience
  | cons run runs ih =>
    refine (ih _ _ _).trans ?_
    simpa using (Waiting.push_perm lt w _ run).append_right runs.flatten

/-- Runs as one. -/
def mergeAll (lt : α → α → Bool) (total : Nat) : List (List α) → List α
  | [] => []
  | run :: runs => mergeFurther lt total 0 run.length ⟨[], run, worthwhile⟩ runs

theorem mergeAll_perm (lt : α → α → Bool) (total : Nat) (runs : List (List α)) :
    (mergeAll lt total runs).Perm runs.flatten := by
  cases runs with
  | nil => exact .refl _
  | cons run runs => exact mergeFurther_perm lt total 0 run.length ⟨[], run, worthwhile⟩ runs

/-- Items in ascending order, equal ones in their order. -/
def rankUp (lt : α → α → Bool) (xs : List α) : List α :=
  mergeAll lt xs.length (runsOf lt (leastRun xs.length false) xs)

/-- **Items in descending order**, equal ones in their order. -/
def rankDown (lt : α → α → Bool) (xs : List α) : List α :=
  (rankUp lt xs.reverse).reverse

/-- **Ranking loses no item and adds none.** -/
theorem rankDown_perm (lt : α → α → Bool) (xs : List α) : (rankDown lt xs).Perm xs :=
  (List.reverse_perm _).trans ((mergeAll_perm ..).trans
    ((flatten_runsOf_perm ..).trans xs.reverse_perm))

end Groundplan.Cost
