import Groundplan.Patch.Matching

/-!
# Runs that are common

What matching the lines of two texts gives: runs of lines that are the same in both, each behind the
one before it in both texts. Which runs are found depends on how long they are and on how often a
line stands in the new text. Whatever that comes to, a text matched with itself is one run.

## Main definitions

* `CommonIn`: **a run of lines that are the same**, within a range of each text
* `Ordered`: runs that are one behind the other
* `depth`: how long a run is that ends before a pair of lines

## Main results

* `commonIn_longestRun`: the longest run is common
* `ordered_commonRuns`: **the runs of two texts** are common and one behind the other
* `commonRuns_self`: **a text and itself** have one run, with everything in it
-/

namespace Groundplan.Patch

/-! ## Common runs -/

theorem sameAt_ofLines_iff {old new : List Line} {i j : Nat} :
    (Texts.ofLines old new).sameAt i j ↔ ∃ line, old[i]? = some line ∧ new[j]? = some line := by
  rw [Texts.sameAt, Texts.ofLines]
  dsimp only
  rw [List.getElem?_toArray, List.getElem?_toArray]
  cases old[i]? with
  | none => simp
  | some a =>
    cases new[j]? with
    | none => simp
    | some b =>
      constructor
      · intro h
        exact ⟨a, rfl, by rw [eq_of_beq h]⟩
      · rintro ⟨line, ha, hb⟩
        obtain rfl := Option.some.inj ha
        obtain rfl := Option.some.inj hb
        exact beq_self_eq_true b

/-- **A run of lines that are the same** in both texts, within a range of each. -/
structure CommonIn (t : Texts) (oldFrom oldTo newFrom newTo : Nat) (r : Run) : Prop where
  le_old : oldFrom ≤ r.old
  old_le : r.old + r.size ≤ oldTo
  le_new : newFrom ≤ r.new
  new_le : r.new + r.size ≤ newTo
  same : ∀ x < r.size, t.sameAt (r.old + x) (r.new + x)

/-- Where a line stands in the new text, as far as it is looked for there. -/
def Texts.seenAt (t : Texts) (i : Nat) : List Nat :=
  t.seen[i]?.getD []

section Runs

variable {t : Texts} {oldFrom oldTo newFrom newTo i : Nat} {r best : Run}

namespace CommonIn

theorem empty {j : Nat} (hi : oldFrom ≤ i) (hi' : i ≤ oldTo) (hj : newFrom ≤ j) (hj' : j ≤ newTo) :
    CommonIn t oldFrom oldTo newFrom newTo ⟨i, j, 0⟩ :=
  ⟨hi, hi', hj, hj', fun x hx => absurd hx (Nat.not_lt_zero x)⟩

theorem growLeft (h : CommonIn t oldFrom oldTo newFrom newTo r) (hold : oldFrom < r.old)
    (hnew : newFrom < r.new) (hsame : t.sameAt (r.old - 1) (r.new - 1)) :
    CommonIn t oldFrom oldTo newFrom newTo ⟨r.old - 1, r.new - 1, r.size + 1⟩ := by
  obtain ⟨_, hold', _, hnew', hall⟩ := h
  refine ⟨?_, ?_, ?_, ?_, fun x hx => ?_⟩ <;> dsimp only at *
  iterate 4 omega
  cases x with
  | zero => exact hsame
  | succ x =>
    rw [show r.old - 1 + (x + 1) = r.old + x by omega,
      show r.new - 1 + (x + 1) = r.new + x by omega]
    exact hall x (by omega)

theorem growRight (h : CommonIn t oldFrom oldTo newFrom newTo r) (hold : r.old + r.size < oldTo)
    (hnew : r.new + r.size < newTo) (hsame : t.sameAt (r.old + r.size) (r.new + r.size)) :
    CommonIn t oldFrom oldTo newFrom newTo ⟨r.old, r.new, r.size + 1⟩ := by
  refine ⟨h.le_old, hold, h.le_new, hnew, fun x hx => ?_⟩
  rcases Nat.lt_succ_iff_lt_or_eq.mp hx with hx | rfl
  · exact h.same x hx
  · exact hsame

theorem extendLeft (count : Nat) (h : CommonIn t oldFrom oldTo newFrom newTo r) :
    CommonIn t oldFrom oldTo newFrom newTo (extendLeft t oldFrom newFrom count r) := by
  induction count generalizing r with
  | zero => exact h
  | succ count ih =>
    rw [Patch.extendLeft]
    split
    · rename_i hmore
      exact ih (h.growLeft hmore.1 hmore.2.1 hmore.2.2)
    · exact h

theorem extendRight (count : Nat) (h : CommonIn t oldFrom oldTo newFrom newTo r) :
    CommonIn t oldFrom oldTo newFrom newTo (extendRight t oldTo newTo count r) := by
  induction count generalizing r with
  | zero => exact h
  | succ count ih =>
    rw [Patch.extendRight]
    split
    · rename_i hmore
      exact ih (h.growRight hmore.1 hmore.2.1 hmore.2.2)
    · exact h

end CommonIn

/-! ## The longest run -/

/-- Lengths of common runs that end before line `i` of the old text, each with the line of the new
text that its run ends with. -/
def EndBefore (t : Texts) (oldFrom oldTo newFrom newTo i : Nat) (row : List (Nat × Nat)) : Prop :=
  ∀ p ∈ row, ∃ r, CommonIn t oldFrom oldTo newFrom newTo r ∧
    r.old + r.size = i ∧ r.new + r.size = p.1 + 1 ∧ r.size = p.2

theorem EndBefore.nil : EndBefore t oldFrom oldTo newFrom newTo i [] :=
  fun _ hp => nomatch hp

/-- A row gives runs that end with its line, if the row before gives runs that end before it. -/
theorem scanRow_common (hi : oldFrom ≤ i) (hi' : i < oldTo) {before : List (Nat × Nat)}
    (hbefore : EndBefore t oldFrom oldTo newFrom newTo i before) {js : List Nat}
    (hjs : ∀ j ∈ js, t.sameAt i j) {row : List (Nat × Nat)}
    (hrow : EndBefore t oldFrom oldTo newFrom newTo (i + 1) row)
    (hbest : CommonIn t oldFrom oldTo newFrom newTo best) :
    EndBefore t oldFrom oldTo newFrom newTo (i + 1) (scanRow i newFrom newTo before js row best).1 ∧
      CommonIn t oldFrom oldTo newFrom newTo (scanRow i newFrom newTo before js row best).2 := by
  induction js generalizing row best with
  | nil => exact ⟨hrow, hbest⟩
  | cons j js ih =>
    have hsame := hjs j List.mem_cons_self
    have hjs' : ∀ j' ∈ js, t.sameAt i j' := fun j' hj' => hjs j' (List.mem_cons_of_mem j hj')
    rw [scanRow]
    split
    · exact ih hjs' hrow hbest
    split
    · exact ⟨hrow, hbest⟩
    rename_i hfrom hto
    dsimp only
    -- The pair of lines extends the run that ends before it, or begins one.
    have hrun : ∃ r, CommonIn t oldFrom oldTo newFrom newTo r ∧ r.old + r.size = i + 1 ∧
        r.new + r.size = j + 1 ∧
          r.size = (if j = 0 then 0 else (before.lookup (j - 1)).getD 0) + 1 := by
      have hbegin : CommonIn t oldFrom oldTo newFrom newTo ⟨i, j, 0 + 1⟩ :=
        (CommonIn.empty hi (Nat.le_of_lt hi') (by omega) (by omega)).growRight hi' (by simp; omega)
          hsame
      by_cases hzero : j = 0
      · rw [if_pos hzero]
        exact ⟨_, hbegin, rfl, rfl, rfl⟩
      · rw [if_neg hzero]
        cases hlookup : before.lookup (j - 1) with
        | none => exact ⟨_, hbegin, rfl, rfl, rfl⟩
        | some k =>
          obtain ⟨_, _, rfl, -⟩ := List.lookup_eq_some_iff.mp hlookup
          obtain ⟨r, hr, hold, hnew, hsize⟩ := hbefore (j - 1, k) (by simp)
          dsimp only at hnew hsize
          have hnew' : r.new + r.size = j := by omega
          refine ⟨_, hr.growRight (by omega) (by omega) ?_, ?_, ?_, ?_⟩
          · rwa [hold, hnew']
          · simp only; omega
          · simp only; omega
          · simp [hsize]
    obtain ⟨r, hr, hold, hnew, hsize⟩ := hrun
    rw [← hsize]
    refine ih hjs' ?_ ?_
    · rintro p hp
      rcases List.mem_cons.mp hp with rfl | hp
      · exact ⟨r, hr, hold, hnew, rfl⟩
      · exact hrow p hp
    · split
      · rwa [show i + 1 - r.size = r.old by omega, show j + 1 - r.size = r.new by omega]
      · exact hbest

theorem scanRows_common (hseen : ∀ i, ∀ j ∈ t.seenAt i, t.sameAt i j) {count : Nat}
    (hi : oldFrom ≤ i) (hcount : i + count ≤ oldTo) {before : List (Nat × Nat)}
    (hbefore : EndBefore t oldFrom oldTo newFrom newTo i before)
    (hbest : CommonIn t oldFrom oldTo newFrom newTo best) :
    CommonIn t oldFrom oldTo newFrom newTo (scanRows t newFrom newTo count i before best) := by
  induction count generalizing i before best with
  | zero => exact hbest
  | succ count ih =>
    obtain ⟨hrow, hbest'⟩ := scanRow_common hi (by omega) hbefore (hseen i) EndBefore.nil hbest
    exact ih (by omega) (by omega) hrow hbest'

/-- **The longest run is common.** -/
theorem commonIn_longestRun (hseen : ∀ i, ∀ j ∈ t.seenAt i, t.sameAt i j) (hold : oldFrom ≤ oldTo)
    (hnew : newFrom ≤ newTo) :
    CommonIn t oldFrom oldTo newFrom newTo (longestRun t oldFrom oldTo newFrom newTo) := by
  rw [longestRun]
  refine CommonIn.extendRight _ (CommonIn.extendLeft _ ?_)
  exact scanRows_common hseen (Nat.le_refl _) (by omega) EndBefore.nil
    (.empty (Nat.le_refl _) hold (Nat.le_refl _) hnew)

theorem CommonIn.mono (h : CommonIn t oldFrom oldTo newFrom newTo r) {i i' j j' : Nat}
    (hi : i ≤ oldFrom) (hi' : oldTo ≤ i') (hj : j ≤ newFrom) (hj' : newTo ≤ j') :
    CommonIn t i i' j j' r :=
  ⟨Nat.le_trans hi h.le_old, Nat.le_trans h.old_le hi', Nat.le_trans hj h.le_new,
    Nat.le_trans h.new_le hj', h.same⟩

/-! ## All runs -/

/-- Runs that are common, not empty and one behind the other, within a range of each text. -/
def Ordered (t : Texts) (i j : Nat) : List Run → Nat → Nat → Prop
  | [], i', j' => i ≤ i' ∧ j ≤ j'
  | r :: rs, i', j' =>
    0 < r.size ∧ CommonIn t i i' j j' r ∧ Ordered t (r.old + r.size) (r.new + r.size) rs i' j'

namespace Ordered

variable {i' j j' m n : Nat} {rs ss : List Run}

theorem le (h : Ordered t i j rs i' j') : i ≤ i' ∧ j ≤ j' := by
  cases rs with
  | nil => exact h
  | cons r rs =>
    obtain ⟨hold, hold', hnew, hnew', -⟩ := h.2.1
    omega

theorem append (hr : Ordered t i j rs m n) (hs : Ordered t m n ss i' j') :
    Ordered t i j (rs ++ ss) i' j' := by
  obtain ⟨hm, hn⟩ := hs.le
  induction rs generalizing i j with
  | nil =>
    obtain ⟨hi, hj⟩ := hr
    cases ss with
    | nil => exact ⟨Nat.le_trans hi hm, Nat.le_trans hj hn⟩
    | cons s ss => exact ⟨hs.1, hs.2.1.mono hi (Nat.le_refl _) hj (Nat.le_refl _), hs.2.2⟩
  | cons r rs ih => exact ⟨hr.1, hr.2.1.mono (Nat.le_refl _) hm (Nat.le_refl _) hn, ih hr.2.2⟩

/-- Joining runs without a gap between them leaves them common and in order. -/
theorem joinRuns (h : Ordered t i j rs i' j') : Ordered t i j (joinRuns rs) i' j' := by
  fun_induction Patch.joinRuns rs generalizing i j with
  | case1 r s rest hgap ih =>
    obtain ⟨hpos, hr, -, hs, hrest⟩ := h
    obtain ⟨hgap, hgap'⟩ := hgap
    have hsize : r.old + (r.size + s.size) = s.old + s.size ∧
        r.new + (r.size + s.size) = s.new + s.size := by omega
    refine ih ⟨Nat.add_pos_left hpos _, ⟨hr.le_old, ?_, hr.le_new, ?_, fun x hx => ?_⟩, ?_⟩
    · exact hsize.1 ▸ hs.old_le
    · exact hsize.2 ▸ hs.new_le
    · -- A place within the joined run is in its first half, or in the run that it was joined with.
      by_cases hfirst : x < r.size
      · exact hr.same x hfirst
      · have hsame := hs.same (x - r.size) (by simp only at hx; omega)
        rwa [← hgap, ← hgap', show r.old + r.size + (x - r.size) = r.old + x by omega,
          show r.new + r.size + (x - r.size) = r.new + x by omega] at hsame
    · dsimp only
      rwa [hsize.1, hsize.2]
  | case2 r s rest hgap ih => exact ⟨h.1, h.2.1, ih h.2.2⟩
  | case3 => exact h

end Ordered

/-- The runs within ranges are common and one behind the other. -/
theorem ordered_runsWithin (hseen : ∀ i, ∀ j ∈ t.seenAt i, t.sameAt i j) (hold : oldFrom ≤ oldTo)
    (hnew : newFrom ≤ newTo) :
    Ordered t oldFrom newFrom (runsWithin t oldFrom oldTo newFrom newTo) oldTo newTo := by
  have hrun := commonIn_longestRun hseen hold hnew
  fun_induction runsWithin t oldFrom oldTo newFrom newTo with
  | case1 oldFrom oldTo newFrom newTo r hr ihLeft ihRight =>
    have hle := hrun.new_le
    have hle' := hrun.le_new
    have hleft := ihLeft (by omega) (by omega) (commonIn_longestRun hseen (by omega) (by omega))
    have hright := ihRight (by omega) (by omega) (commonIn_longestRun hseen (by omega) (by omega))
    have hhere : CommonIn t r.old oldTo r.new newTo r :=
      ⟨Nat.le_refl _, hrun.old_le, Nat.le_refl _, hrun.new_le, hrun.same⟩
    exact hleft.append ⟨hr.1, hhere, hright⟩
  | case2 => exact ⟨hold, hnew⟩

end Runs

/-! ## Positions -/

theorem mem_positionsFrom {line : Line} {start : Nat} {ls : List Line} {j : Nat} :
    j ∈ positionsFrom line start ls ↔ start ≤ j ∧ ls[j - start]? = some line := by
  induction ls generalizing start with
  | nil => simp [positionsFrom]
  | cons l ls ih =>
    have hlater (h : start < j) : (l :: ls)[j - start]? = ls[j - (start + 1)]? := by
      rw [show j - start = j - (start + 1) + 1 by omega, List.getElem?_cons_succ]
    rw [positionsFrom]
    rcases Nat.lt_trichotomy start j with hless | rfl | hmore
    · have hne := Nat.ne_of_gt hless
      have hnext : start + 1 ≤ j := hless
      split <;> simp [ih, hlater hless, hnext, hne, Nat.le_of_lt hless]
    · by_cases hl : l = line
      · simp [hl, ih]
      · simp [hl, ih, Nat.not_succ_le_self]
    · have hne := Nat.ne_of_lt hmore
      split <;> simp [ih, hne, Nat.not_le_of_lt hmore, show ¬ start + 1 ≤ j by omega]

theorem positionsFrom_sorted (line : Line) (start : Nat) (ls : List Line) :
    (positionsFrom line start ls).Pairwise (· < ·) := by
  induction ls generalizing start with
  | nil => exact .nil
  | cons l ls ih =>
    rw [positionsFrom]
    split
    · exact .cons (fun j hj => (mem_positionsFrom.mp hj).1) (ih _)
    · exact ih _

section Positions

variable {old new : List Line} {i j : Nat}

/-- Where a line is looked for: everywhere in the new text, or nowhere. -/
theorem seenAt_ofLines {line : Line} (hline : old[i]? = some line) :
    (Texts.ofLines old new).seenAt i =
      if popularLimit new.length < (positionsFrom line 0 new).length then []
      else positionsFrom line 0 new := by
  simp [Texts.seenAt, Texts.ofLines, occurrences, hline]

theorem seenAt_ofLines_of_none (hline : old[i]? = none) :
    (Texts.ofLines old new).seenAt i = [] := by
  simp [Texts.seenAt, Texts.ofLines, occurrences, hline]

theorem sameAt_of_mem_seenAt (h : j ∈ (Texts.ofLines old new).seenAt i) :
    (Texts.ofLines old new).sameAt i j := by
  cases hline : old[i]? with
  | none =>
    rw [seenAt_ofLines_of_none hline] at h
    cases h
  | some line =>
    rw [seenAt_ofLines hline] at h
    split at h
    · cases h
    · exact sameAt_ofLines_iff.mpr ⟨line, hline, (mem_positionsFrom.mp h).2⟩

theorem seenAt_sorted (old new : List Line) (i : Nat) :
    ((Texts.ofLines old new).seenAt i).Pairwise (· < ·) := by
  cases hline : old[i]? with
  | none =>
    rw [seenAt_ofLines_of_none hline]
    exact .nil
  | some line =>
    rw [seenAt_ofLines hline]
    split
    · exact .nil
    · exact positionsFrom_sorted line 0 new

/-- **The runs of two texts** are common and one behind the other. -/
theorem ordered_commonRuns (old new : List Line) :
    Ordered (.ofLines old new) 0 0 (commonRuns old new) old.length new.length :=
  (ordered_runsWithin (fun _ _ => sameAt_of_mem_seenAt) (Nat.zero_le _) (Nat.zero_le _)).joinRuns

end Positions

/-! ## A text and itself -/

/-- How long the run is that ends before a pair of lines, counted in lines that are looked for. -/
def depth (t : Texts) : Nat → Nat → Nat
  | i + 1, j + 1 => if j ∈ t.seenAt i then depth t i j + 1 else 0
  | _, _ => 0

theorem depth_of_mem {t : Texts} {i j : Nat} (h : j ∈ t.seenAt i) :
    depth t (i + 1) (j + 1) = depth t i j + 1 :=
  if_pos h

theorem depth_of_notMem {t : Texts} {i j : Nat} (h : j ∉ t.seenAt i) :
    depth t (i + 1) (j + 1) = 0 :=
  if_neg h

section Self

variable {ls : List Line} {i j count : Nat} {best : Run}

/-- What is looked for in its own text is found where it is, in either place. -/
theorem mem_seenAt_self (h : j ∈ (Texts.ofLines ls ls).seenAt i) :
    i ∈ (Texts.ofLines ls ls).seenAt i ∧ j ∈ (Texts.ofLines ls ls).seenAt j ∧ j < ls.length := by
  obtain ⟨line, hi, hj⟩ := sameAt_ofLines_iff.mp (sameAt_of_mem_seenAt h)
  have hrare : ¬ popularLimit ls.length < (positionsFrom line 0 ls).length := by
    intro hpopular
    rw [seenAt_ofLines hi, if_pos hpopular] at h
    cases h
  rw [seenAt_ofLines hi, seenAt_ofLines hj, if_neg hrare]
  exact ⟨mem_positionsFrom.mpr ⟨Nat.zero_le i, hi⟩, mem_positionsFrom.mpr ⟨Nat.zero_le j, hj⟩,
    (List.getElem?_eq_some_iff.mp hj).1⟩

/-- **No run of a text with itself is longer** than that of either end with itself. -/
theorem depth_le (ls : List Line) (i j : Nat) :
    depth (.ofLines ls ls) i j ≤ depth (.ofLines ls ls) i i ∧
      depth (.ofLines ls ls) i j ≤ depth (.ofLines ls ls) j j := by
  induction i generalizing j with
  | zero => exact ⟨Nat.zero_le _, Nat.zero_le _⟩
  | succ i ih =>
    cases j with
    | zero => exact ⟨Nat.zero_le _, Nat.zero_le _⟩
    | succ j =>
      by_cases hmem : j ∈ (Texts.ofLines ls ls).seenAt i
      · obtain ⟨hi, hj, -⟩ := mem_seenAt_self hmem
        rw [depth_of_mem hmem, depth_of_mem hi, depth_of_mem hj]
        exact ⟨Nat.succ_le_succ (ih j).1, Nat.succ_le_succ (ih j).2⟩
      · rw [depth_of_notMem hmem]
        exact ⟨Nat.zero_le _, Nat.zero_le _⟩

/-- The longest run so far is of lines with themselves, and as long as any before a line. -/
structure Diagonal (ls : List Line) (i : Nat) (best : Run) : Prop where
  same : best.old = best.new
  longest : ∀ i' ≤ i, depth (.ofLines ls ls) i' i' ≤ best.size

/-- The lengths of the runs that end before line `i` of the old text. -/
def Depths (ls : List Line) (i : Nat) (before : List (Nat × Nat)) : Prop :=
  ∀ j, (before.lookup j).getD 0 = depth (.ofLines ls ls) i (j + 1)

/-- **A row of a text with itself** finds no run that is longer than that of its line with itself:
what stands before the line in the row was found when its own row was gone through, and what stands
behind it comes too late. -/
theorem scanRow_self {before : List (Nat × Nat)} (hbefore : Depths ls i before) {js : List Nat}
    (hjs : ∀ j ∈ js, j ∈ (Texts.ofLines ls ls).seenAt i) (hsorted : js.Pairwise (· < ·))
    {row : List (Nat × Nat)}
    (hrow : ∀ j ∉ js, (row.lookup j).getD 0 = depth (.ofLines ls ls) (i + 1) (j + 1))
    (hbest : Diagonal ls i best)
    (hline : i ∈ js ∨ depth (.ofLines ls ls) (i + 1) (i + 1) ≤ best.size) :
    Depths ls (i + 1) (scanRow i 0 ls.length before js row best).1 ∧
      Diagonal ls (i + 1) (scanRow i 0 ls.length before js row best).2 := by
  induction js generalizing row best with
  | nil =>
    have hlast := hline.resolve_left (List.not_mem_nil)
    refine ⟨fun j => hrow j List.not_mem_nil, hbest.same, fun i' hi' => ?_⟩
    rcases Nat.le_succ_iff.mp hi' with hi' | rfl
    · exact hbest.longest i' hi'
    · exact hlast
  | cons j js ih =>
    have hmem := hjs j List.mem_cons_self
    obtain ⟨hi, hj, hlength⟩ := mem_seenAt_self hmem
    obtain ⟨hfirst, hsorted⟩ := List.pairwise_cons.mp hsorted
    -- The length that is found is that of the run that ends with the pair.
    have hsize : (if j = 0 then 0 else (before.lookup (j - 1)).getD 0) + 1 =
        depth (.ofLines ls ls) (i + 1) (j + 1) := by
      rw [depth_of_mem hmem]
      cases j with
      | zero => cases i <;> rfl
      | succ j => rw [if_neg (Nat.succ_ne_zero j), Nat.add_sub_cancel, hbefore j]
    have hrow' : ∀ j' ∉ js,
        (((j, depth (.ofLines ls ls) (i + 1) (j + 1)) :: row).lookup j').getD 0 =
          depth (.ofLines ls ls) (i + 1) (j' + 1) := by
      intro j' hj'
      by_cases heq : j' = j
      · subst heq
        simp
      · rw [List.lookup_cons, beq_false_of_ne heq]
        exact hrow j' (by simp [heq, hj'])
    have hjs' : ∀ j' ∈ js, j' ∈ (Texts.ofLines ls ls).seenAt i :=
      fun j' hj' => hjs j' (List.mem_cons_of_mem j hj')
    obtain ⟨hle, hle'⟩ := depth_le ls (i + 1) (j + 1)
    rw [scanRow, if_neg (Nat.not_lt_zero j), if_neg (Nat.not_le_of_lt hlength)]
    dsimp only
    rw [hsize]
    rcases Nat.lt_trichotomy j i with hless | rfl | hmore
    · have hold := hbest.longest (j + 1) hless
      rw [if_neg (by omega)]
      refine ih hjs' hsorted hrow' hbest (hline.imp_left fun hline => ?_)
      exact (List.mem_cons.mp hline).resolve_left (by omega)
    · by_cases hmore : best.size < depth (.ofLines ls ls) (j + 1) (j + 1)
      · rw [if_pos hmore]
        refine ih hjs' hsorted hrow' ⟨rfl, fun i' hi' => ?_⟩ (.inr (Nat.le_refl _))
        exact Nat.le_of_lt (Nat.lt_of_le_of_lt (hbest.longest i' hi') hmore)
      · rw [if_neg hmore]
        exact ih hjs' hsorted hrow' hbest (.inr (Nat.le_of_not_lt hmore))
    · have hpast : i ∉ j :: js := by
        intro hpast
        rcases List.mem_cons.mp hpast with rfl | hpast
        · exact Nat.lt_irrefl i hmore
        · have := hfirst i hpast
          omega
      have hlast := hline.resolve_left hpast
      rw [if_neg (by omega)]
      exact ih hjs' hsorted hrow' hbest (.inr hlast)

theorem scanRows_self (count : Nat) {before : List (Nat × Nat)} (hbefore : Depths ls i before)
    (hbest : Diagonal ls i best) :
    (scanRows (.ofLines ls ls) 0 ls.length count i before best).old =
      (scanRows (.ofLines ls ls) 0 ls.length count i before best).new := by
  induction count generalizing i before best with
  | zero => exact hbest.same
  | succ count ih =>
    have hline : i ∈ (Texts.ofLines ls ls).seenAt i ∨
        depth (.ofLines ls ls) (i + 1) (i + 1) ≤ best.size := by
      by_cases hmem : i ∈ (Texts.ofLines ls ls).seenAt i
      · exact .inl hmem
      · exact .inr (by rw [depth_of_notMem hmem]; exact Nat.zero_le _)
    -- Where the line of this row does not stand, no run ends.
    have hnew : ∀ j ∉ (Texts.ofLines ls ls).seenAt i,
        (List.lookup j ([] : List (Nat × Nat))).getD 0 = depth (.ofLines ls ls) (i + 1) (j + 1) :=
      fun j hj => (depth_of_notMem hj).symm
    obtain ⟨hrow, hbest'⟩ :=
      scanRow_self hbefore (fun j hj => hj) (seenAt_sorted ls ls i) hnew hbest hline
    exact ih hrow hbest'

theorem sameAt_self (h : i < ls.length) : (Texts.ofLines ls ls).sameAt i i :=
  sameAt_ofLines_iff.mpr ⟨ls[i], List.getElem?_eq_getElem h, List.getElem?_eq_getElem h⟩

/-- A run of lines with themselves goes back to the first line. -/
theorem extendLeft_self {size : Nat} (h : i ≤ ls.length) :
    extendLeft (.ofLines ls ls) 0 0 i ⟨i, i, size⟩ = ⟨0, 0, size + i⟩ := by
  induction i generalizing size with
  | zero => rfl
  | succ i ih =>
    rw [extendLeft, if_pos ⟨Nat.succ_pos i, Nat.succ_pos i, sameAt_self h⟩]
    simp only [Nat.add_sub_cancel]
    rw [ih (by omega), Nat.add_right_comm, Nat.add_assoc]

/-- It goes on to the last. -/
theorem extendRight_self {size : Nat} (h : size ≤ ls.length) (hcount : ls.length ≤ size + count) :
    extendRight (.ofLines ls ls) ls.length ls.length count ⟨0, 0, size⟩ = ⟨0, 0, ls.length⟩ := by
  induction count generalizing size with
  | zero =>
    obtain rfl : size = ls.length := by omega
    rfl
  | succ count ih =>
    rw [extendRight]
    simp only [Nat.zero_add]
    split
    · exact ih (by omega) (by omega)
    · rename_i hstop
      obtain rfl : size = ls.length := by
        by_cases hmore : size < ls.length
        · exact absurd ⟨hmore, hmore, sameAt_self hmore⟩ hstop
        · omega
      rfl

theorem longestRun_self (ls : List Line) :
    longestRun (.ofLines ls ls) 0 ls.length 0 ls.length = ⟨0, 0, ls.length⟩ := by
  have hdepths : Depths ls 0 [] := fun j => rfl
  have hstart : Diagonal ls 0 ⟨0, 0, 0⟩ := by
    refine ⟨rfl, fun i' hi' => ?_⟩
    obtain rfl : i' = 0 := by omega
    exact Nat.le_refl _
  have hempty : CommonIn (.ofLines ls ls) 0 ls.length 0 ls.length ⟨0, 0, 0⟩ :=
    .empty (Nat.le_refl 0) (Nat.zero_le _) (Nat.le_refl 0) (Nat.zero_le _)
  have hdiagonal := scanRows_self ls.length hdepths hstart
  have hcommon := scanRows_common (fun _ _ => sameAt_of_mem_seenAt) (Nat.le_refl 0)
    (Nat.le_of_eq (Nat.zero_add ls.length)) EndBefore.nil hempty
  rw [longestRun, Nat.sub_zero]
  -- The best run lies on the diagonal, and grows from there to both ends.
  generalize scanRows (.ofLines ls ls) 0 ls.length ls.length 0 [] ⟨0, 0, 0⟩ = best at *
  obtain ⟨i, j, size⟩ := best
  obtain rfl : i = j := hdiagonal
  have hbound : i + size ≤ ls.length := hcommon.old_le
  show extendRight _ _ _ _ (extendLeft _ 0 0 i _) = _
  rw [extendLeft_self (by omega), extendRight_self (by omega) (by omega)]

theorem runsWithin_empty (t : Texts) (i j j' : Nat) : runsWithin t i i j j' = [] := by
  rw [runsWithin]
  rw [dif_neg (by omega)]

/-- **A text and itself** have one run, with everything in it. -/
theorem commonRuns_self (h : ls ≠ []) : commonRuns ls ls = [⟨0, 0, ls.length⟩] := by
  have hpos : 0 < ls.length := List.length_pos_iff.mpr h
  rw [commonRuns, runsWithin]
  rw [longestRun_self, dif_pos ⟨hpos, Nat.le_refl 0, Nat.le_of_eq (Nat.zero_add _)⟩]
  simp only [Nat.zero_add]
  rw [runsWithin_empty, runsWithin_empty, List.nil_append, joinRuns]
  rintro r s rest ⟨⟩

end Self

end Groundplan.Patch
