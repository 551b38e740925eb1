import Groundplan.Patch.Unified
import Groundplan.Proofs.Patch.Matching
import Mathlib.Data.List.Chain

/-!
# Steps and hunks

The steps from one list of lines to another lead from the beginning of both to their ends, and a
step that keeps lines finds the same lines in both. Grouping the steps into hunks leaves out only
lines that are the same, before a hunk, between hunks and behind the last. So there is no hunk
exactly if nothing changes.

## Main definitions

* `Edit.Fits`, `Alike`: a step is a step from the old lines to the new; ranges with the same lines
* `Leads`: **steps that lead** from one pair of positions to another
* `Follows`: what stands behind a step
* `Shown`: **hunks that show** what changes from a pair of positions on

## Main results

* `leads_edits`: the steps lead from the old lines to the new
* `shown_hunks`: the hunks show what changes
* `hunks_eq_nil_iff`: there is none exactly if the lines are the same
-/

namespace Groundplan.Patch

/-! ## Ranges of lines -/

section Slices

variable {ls : List Line} {a b c d : Nat}

theorem slice_append_drop (ls : List Line) (h : a ≤ b) : slice ls a b ++ ls.drop b = ls.drop a := by
  rw [slice, show ls.drop b = (ls.drop a).drop (b - a) by rw [List.drop_drop]; congr 1; omega,
    List.take_append_drop]

theorem take_append_slice (h : a ≤ b) : ls.take a ++ slice ls a b = ls.take b := by
  rw [slice, ← List.take_add]
  congr 1
  omega

theorem length_slice (h : b ≤ ls.length) : (slice ls a b).length = b - a := by
  rw [slice, List.length_take, List.length_drop]
  omega

theorem getElem?_slice {x : Nat} (hx : x < b - a) : (slice ls a b)[x]? = ls[a + x]? := by
  rw [slice, List.getElem?_take_of_lt hx, List.getElem?_drop]

theorem take_slice (h : a + d ≤ b) : (slice ls a b).take d = slice ls a (a + d) := by
  rw [slice, slice, List.take_take]
  congr 1
  omega

theorem drop_slice : (slice ls a b).drop d = slice ls (a + d) b := by
  rw [slice, slice, List.drop_take, List.drop_drop]
  congr 1
  omega

theorem slice_self : slice ls a a = [] := by
  rw [slice, Nat.sub_self, List.take_zero]

end Slices

/-! ## Steps -/

/-- A step from the old lines to the new, which finds the same lines if it keeps them. -/
structure Edit.Fits (old new : List Line) (e : Edit) : Prop where
  old_le : e.oldFrom ≤ e.oldTo
  old_le_length : e.oldTo ≤ old.length
  new_le : e.newFrom ≤ e.newTo
  new_le_length : e.newTo ≤ new.length
  same_lines : e.same → slice old e.oldFrom e.oldTo = slice new e.newFrom e.newTo

/-- From one pair of positions to another the lines are the same. -/
def Alike (old new : List Line) (i j i' j' : Nat) : Prop :=
  Edit.Fits old new ⟨true, i, i', j, j'⟩

/-- **Steps that lead** from one pair of positions to another. -/
inductive Leads (old new : List Line) : Nat → Nat → List Edit → Nat → Nat → Prop
  | nil (i j : Nat) : Leads old new i j [] i j
  | cons {e : Edit} {es : List Edit} {i' j' : Nat} (fits : e.Fits old new)
      (later : Leads old new e.oldTo e.newTo es i' j') :
      Leads old new e.oldFrom e.newFrom (e :: es) i' j'

/-- What stands behind a step: lines of one of the texts, and behind a change lines of both. -/
def Follows (e e' : Edit) : Prop :=
  if e.same then e'.oldFrom < e'.oldTo ∨ e'.newFrom < e'.newTo
  else e'.oldFrom < e'.oldTo ∧ e'.newFrom < e'.newTo

section Steps

variable {old new : List Line} {i j i' j' m n d : Nat} {e e' : Edit} {es es' : List Edit}

theorem Edit.Fits.length_eq (h : e.Fits old new) (hsame : e.same) :
    e.oldTo - e.oldFrom = e.newTo - e.newFrom := by
  rw [← length_slice (a := e.oldFrom) h.old_le_length, h.same_lines hsame,
    length_slice h.new_le_length]

theorem Alike.bounds (h : Alike old new i j i' j') :
    i ≤ i' ∧ i' ≤ old.length ∧ j ≤ j' ∧ j' ≤ new.length ∧ i' - i = j' - j :=
  ⟨h.old_le, h.old_le_length, h.new_le, h.new_le_length, Edit.Fits.length_eq h rfl⟩

theorem Alike.slice_eq (h : Alike old new i j i' j') : slice old i i' = slice new j j' :=
  h.same_lines rfl

theorem Alike.refl (hi : i ≤ old.length) (hj : j ≤ new.length) : Alike old new i j i j :=
  ⟨Nat.le_refl i, hi, Nat.le_refl j, hj, fun _ => by rw [slice_self, slice_self]⟩

/-- Lines that are the same can be cut in two. -/
theorem Alike.cut (h : Alike old new i j i' j') (hd : i + d ≤ i') :
    Alike old new i j (i + d) (j + d) ∧ Alike old new (i + d) (j + d) i' j' := by
  obtain ⟨_, _, _, _, hlength⟩ := h.bounds
  refine ⟨⟨?_, ?_, ?_, ?_, fun _ => ?_⟩, ⟨?_, ?_, ?_, ?_, fun _ => ?_⟩⟩ <;> dsimp only
  case refine_5 => rw [← take_slice hd, h.slice_eq, take_slice (by omega)]
  case refine_10 => rw [← drop_slice, h.slice_eq, drop_slice]
  all_goals omega

/-- Behind lines that are the same, what is left is the same. -/
theorem Alike.drop_eq (h : Alike old new i j i' j') (hrest : old.drop i' = new.drop j') :
    old.drop i = new.drop j := by
  obtain ⟨hi, -, hj, -⟩ := h.bounds
  rw [← slice_append_drop _ hi, ← slice_append_drop _ hj, hrest, h.slice_eq]

theorem Edit.Fits.alike (h : e.Fits old new) (hsame : e.same) :
    Alike old new e.oldFrom e.newFrom e.oldTo e.newTo :=
  ⟨h.old_le, h.old_le_length, h.new_le, h.new_le_length, fun _ => h.same_lines hsame⟩

namespace Leads

theorem nil_iff : Leads old new i j [] i' j' ↔ i = i' ∧ j = j' := by
  constructor
  · intro h
    cases h
    exact ⟨rfl, rfl⟩
  · rintro ⟨rfl, rfl⟩
    exact .nil i j

theorem cons_iff : Leads old new i j (e :: es) i' j' ↔
    e.Fits old new ∧ e.oldFrom = i ∧ e.newFrom = j ∧ Leads old new e.oldTo e.newTo es i' j' := by
  constructor
  · intro h
    cases h with
    | cons fits later => exact ⟨fits, rfl, rfl, later⟩
  · rintro ⟨fits, rfl, rfl, later⟩
    exact .cons fits later

theorem append (h : Leads old new i j es m n) (h' : Leads old new m n es' i' j') :
    Leads old new i j (es ++ es') i' j' := by
  induction h with
  | nil => exact h'
  | cons fits _ ih => exact .cons fits (ih h')

theorem single (h : e.Fits old new) :
    Leads old new e.oldFrom e.newFrom [e] e.oldTo e.newTo :=
  .cons h (.nil _ _)

theorem of_append (h : Leads old new i j (es ++ es') i' j') :
    ∃ m n, Leads old new i j es m n ∧ Leads old new m n es' i' j' := by
  induction es generalizing i j with
  | nil => exact ⟨i, j, .nil i j, h⟩
  | cons e es ih =>
    cases h with
    | cons fits later =>
      obtain ⟨m, n, hes, hes'⟩ := ih later
      exact ⟨m, n, .cons fits hes, hes'⟩

end Leads

/-! ## The steps of two texts -/

/-- A run is a step that keeps lines. -/
theorem alike_of_commonIn {r : Run}
    (h : CommonIn (.ofLines old new) i old.length j new.length r) :
    Alike old new r.old r.new (r.old + r.size) (r.new + r.size) := by
  refine ⟨Nat.le_add_right _ _, h.old_le, Nat.le_add_right _ _, h.new_le, fun _ => ?_⟩
  refine List.ext_getElem? fun x => ?_
  dsimp only
  by_cases hx : x < r.size
  · obtain ⟨line, hold, hnew⟩ := sameAt_ofLines_iff.mp (h.same x hx)
    rw [getElem?_slice (by omega), getElem?_slice (by omega), hold, hnew]
  · rw [List.getElem?_eq_none (by rw [length_slice h.old_le]; omega),
      List.getElem?_eq_none (by rw [length_slice h.new_le]; omega)]

theorem leads_editsFrom {rs : List Run}
    (h : Ordered (.ofLines old new) i j rs old.length new.length) :
    Leads old new i j (editsFrom i j old.length new.length rs) old.length new.length := by
  induction rs generalizing i j with
  | nil =>
    obtain ⟨hi, hj⟩ := h
    rw [editsFrom]
    -- What stands behind the last run, or between two of them, is a change if there is anything.
    split
    · exact .single (e := ⟨false, i, old.length, j, new.length⟩)
        ⟨hi, Nat.le_refl _, hj, Nat.le_refl _, fun hsame => nomatch hsame⟩
    · obtain ⟨rfl, rfl⟩ : i = old.length ∧ j = new.length := by omega
      exact .nil _ _
  | cons r rs ih =>
    obtain ⟨-, hr, hrs⟩ := h
    have halike := alike_of_commonIn hr
    refine Leads.append (m := r.old) (n := r.new) ?_
      (.cons (e := ⟨true, r.old, r.old + r.size, r.new, r.new + r.size⟩) halike (ih hrs))
    split
    · obtain ⟨_, _, _, _, -⟩ := halike.bounds
      exact .single (e := ⟨false, i, r.old, j, r.new⟩)
        ⟨hr.le_old, by dsimp only; omega, hr.le_new, by dsimp only; omega,
          fun hsame => nomatch hsame⟩
    · have hold := hr.le_old
      have hnew := hr.le_new
      obtain ⟨rfl, rfl⟩ : i = r.old ∧ j = r.new := by omega
      exact .nil _ _

/-- Steps from runs that are not empty begin with lines, and follow one another. -/
theorem isChain_editsFrom {rs : List Run} {t : Texts} {oldEnd newEnd : Nat}
    (h : Ordered t i j rs oldEnd newEnd) :
    (editsFrom i j oldEnd newEnd rs).IsChain Follows ∧
      ∀ e ∈ (editsFrom i j oldEnd newEnd rs).head?, e.oldFrom < e.oldTo ∨ e.newFrom < e.newTo := by
  induction rs generalizing i j with
  | nil =>
    rw [editsFrom]
    split
    · rename_i hmore
      exact ⟨.singleton _, by rintro e ⟨⟩; exact hmore⟩
    · exact ⟨.nil, by rintro e ⟨⟩⟩
  | cons r rs ih =>
    obtain ⟨hpos, -, hrs⟩ := h
    obtain ⟨hchain, hhead⟩ := ih hrs
    have hkept : (⟨true, r.old, r.old + r.size, r.new, r.new + r.size⟩ ::
        editsFrom (r.old + r.size) (r.new + r.size) oldEnd newEnd rs : List Edit).IsChain Follows :=
      List.isChain_cons.mpr ⟨hhead, hchain⟩
    rw [editsFrom]
    split
    · rename_i hmore
      refine ⟨.cons_cons ?_ hkept, by rintro e ⟨⟩; exact hmore⟩
      exact ⟨Nat.lt_add_of_pos_right hpos, Nat.lt_add_of_pos_right hpos⟩
    · exact ⟨hkept, by rintro e ⟨⟩; exact .inl (Nat.lt_add_of_pos_right hpos)⟩

/-- **The steps lead from the old lines to the new.** -/
theorem leads_edits (old new : List Line) :
    Leads old new 0 0 (edits old new) old.length new.length :=
  leads_editsFrom (ordered_commonRuns old new)

theorem isChain_edits (old new : List Line) : (edits old new).IsChain Follows :=
  (isChain_editsFrom (ordered_commonRuns old new)).1

/-! ## Cutting steps -/

/-- What is kept of the lines behind a change, and what is not, are the same in both texts. -/
theorem Edit.Fits.keepStart (h : e.Fits old new) (hsame : e.same) :
    e.keepStart.Fits old new ∧
      Alike old new e.keepStart.oldTo e.keepStart.newTo e.oldTo e.newTo := by
  have halike := h.alike hsame
  obtain ⟨_, _, _, _, hlength⟩ := halike.bounds
  have hcut := halike.cut (d := min (e.oldTo - e.oldFrom) contextLines) (by omega)
  rw [show e.oldFrom + min (e.oldTo - e.oldFrom) contextLines = e.keepStart.oldTo by
      simp only [Edit.keepStart]; omega,
    show e.newFrom + min (e.oldTo - e.oldFrom) contextLines = e.keepStart.newTo by
      simp only [Edit.keepStart]; omega] at hcut
  obtain ⟨⟨hold, hold', hnew, hnew', hlines⟩, hrest⟩ := hcut
  exact ⟨⟨hold, hold', hnew, hnew', fun _ => hlines rfl⟩, hrest⟩

/-- In the same way with the lines before a change. -/
theorem Edit.Fits.keepEnd (h : e.Fits old new) (hsame : e.same) :
    e.keepEnd.Fits old new ∧
      Alike old new e.oldFrom e.newFrom e.keepEnd.oldFrom e.keepEnd.newFrom := by
  have halike := h.alike hsame
  obtain ⟨_, _, _, _, hlength⟩ := halike.bounds
  have hcut := halike.cut (d := e.oldTo - e.oldFrom - contextLines) (by omega)
  rw [show e.oldFrom + (e.oldTo - e.oldFrom - contextLines) = e.keepEnd.oldFrom by
      simp only [Edit.keepEnd]; omega,
    show e.newFrom + (e.oldTo - e.oldFrom - contextLines) = e.keepEnd.newFrom by
      simp only [Edit.keepEnd]; omega] at hcut
  obtain ⟨hrest, ⟨hold, hold', hnew, hnew', hlines⟩⟩ := hcut
  exact ⟨⟨hold, hold', hnew, hnew', fun _ => hlines rfl⟩, hrest⟩

theorem Follows.keepStart (h : Follows e e') : Follows e e'.keepStart := by
  by_cases hsame : e.same <;>
    simp only [Follows, hsame, if_true, if_false, Bool.false_eq_true, Edit.keepStart,
      contextLines] at h ⊢ <;> omega

/-- Only whether a step keeps lines says what follows it. -/
theorem Follows.keepEnd (h : Follows e e') : Follows e.keepEnd e' :=
  h

/-- Cutting the first step leaves out lines that are the same. -/
theorem leads_cutFirst (h : Leads old new i j es i' j') (hi : i ≤ old.length)
    (hj : j ≤ new.length) :
    ∃ m n, Alike old new i j m n ∧ Leads old new m n (cutFirst es) i' j' := by
  cases h with
  | nil => exact ⟨i, j, .refl hi hj, .nil i j⟩
  | @cons e es _ _ fits later =>
    rw [cutFirst]
    split
    · rename_i hsame
      obtain ⟨hkept, hgap⟩ := fits.keepEnd hsame
      exact ⟨_, _, hgap, .cons hkept later⟩
    · exact ⟨_, _, .refl hi hj, .cons fits later⟩

/-- Cutting the last leaves the same lines behind it. -/
theorem leads_cutLast (h : Leads old new i j es old.length new.length) :
    ∃ m n, Leads old new i j (cutLast es) m n ∧ old.drop m = new.drop n := by
  induction es generalizing i j with
  | nil =>
    cases h
    exact ⟨_, _, .nil _ _, by rw [List.drop_length, List.drop_length]⟩
  | cons e es ih =>
    cases h with
    | cons fits later =>
      -- Only the last step is cut, and the texts end behind it.
      cases es with
      | nil =>
        have hend : old.drop e.oldTo = new.drop e.newTo := by
          obtain ⟨hi, hj⟩ := Leads.nil_iff.mp later
          rw [hi, hj, List.drop_length, List.drop_length]
        rw [cutLast]
        split
        · rename_i hsame
          obtain ⟨hkept, hrest⟩ := fits.keepStart hsame
          exact ⟨_, _, .single hkept, hrest.drop_eq hend⟩
        · exact ⟨_, _, .single fits, hend⟩
      | cons e' es =>
        obtain ⟨m, n, hes, hrest⟩ := ih later
        exact ⟨m, n, .cons fits hes, hrest⟩

theorem isChain_cutFirst (h : es.IsChain Follows) : (cutFirst es).IsChain Follows := by
  cases es with
  | nil => exact h
  | cons e es =>
    rw [cutFirst]
    split
    · exact h.imp_head Follows.keepEnd
    · exact h

theorem head?_cutLast_follows (h : ∀ e' ∈ es.head?, Follows e e') :
    ∀ e' ∈ (cutLast es).head?, Follows e e' := by
  match es, h with
  | [], h => exact h
  | [e'], h =>
    rintro _ ⟨⟩
    split
    · exact (h e' rfl).keepStart
    · exact h e' rfl
  | e' :: e'' :: es, h => exact h

theorem isChain_cutLast (h : es.IsChain Follows) : (cutLast es).IsChain Follows := by
  induction es with
  | nil => exact h
  | cons e es ih =>
    obtain ⟨hhead, hes⟩ := List.isChain_cons.mp h
    cases es with
    | nil => exact .singleton _
    | cons e' es => exact List.isChain_cons.mpr ⟨head?_cutLast_follows hhead, ih hes⟩

end Steps

/-! ## Hunks -/

/-- **Hunks that show** what changes from a pair of positions on: what is left out before, between
and behind them is the same. No hunk but the last reaches the end of a text. -/
inductive Shown (old new : List Line) : Nat → Nat → List Hunk → Prop
  | done {i j : Nat} (rest : old.drop i = new.drop j) : Shown old new i j []
  | hunk {i j i₁ j₁ i₂ j₂ : Nat} {h : Hunk} {hs : List Hunk} (gap : Alike old new i j i₁ j₁)
      (leads : Leads old new i₁ j₁ h i₂ j₂) (nonempty : h ≠ []) (chain : h.IsChain Follows)
      (inside : hs = [] ∨ i₂ < old.length ∧ j₂ < new.length) (later : Shown old new i₂ j₂ hs) :
      Shown old new i j (h :: hs)

section Hunks

variable {old new : List Line} {i j i' j' m n p q : Nat} {e : Edit} {es acc : List Edit}

theorem shown_groupFrom (hgap : Alike old new p q i j) (hacc : Leads old new i j acc.reverse m n)
    (hes : Leads old new m n es i' j') (hchain : (acc.reverse ++ es).IsChain Follows)
    (hrest : old.drop i' = new.drop j') : Shown old new p q (groupFrom acc es) := by
  induction es generalizing p q i j m n acc with
  | nil =>
    cases hes
    rw [List.append_nil] at hchain
    rw [groupFrom]
    split
    · rename_i hshows
      refine .hunk hgap hacc ?_ hchain (.inl rfl) (.done hrest)
      intro hnil
      rw [hnil] at hshows
      cases hshows
    · -- Nothing changes in what is open, so that all that is left is the same.
      rename_i hhidden
      refine .done (hgap.drop_eq ?_)
      rcases hsteps : acc.reverse with _ | ⟨e, _ | ⟨e', rest⟩⟩ <;> rw [hsteps] at hacc hhidden
      · obtain ⟨rfl, rfl⟩ := Leads.nil_iff.mp hacc
        exact hrest
      · obtain ⟨fits, rfl, rfl, later⟩ := Leads.cons_iff.mp hacc
        obtain ⟨hi, hj⟩ := Leads.nil_iff.mp later
        rw [← hi, ← hj] at hrest
        exact (fits.alike (by simpa [showsChange] using hhidden)).drop_eq hrest
      · exact absurd rfl hhidden
  | cons e es ih =>
    cases hes with
    | cons fits later =>
      rw [groupFrom]
      split
      · rename_i hlong
        obtain ⟨hsame, hsize⟩ := hlong
        obtain ⟨hstart, hmiddle⟩ := fits.keepStart hsame
        obtain ⟨hend, hmiddle'⟩ := fits.keepEnd hsame
        obtain ⟨hbefore, hbehind, hjoin⟩ := List.isChain_append.mp hchain
        rw [List.reverse_cons]
        have halike := (fits.alike hsame).bounds
        refine .hunk hgap (hacc.append (.single hstart)) (by simp) ?_ (.inr ?_) ?_
        · refine List.isChain_append.mpr ⟨hbefore, .singleton _, fun x hx y hy => ?_⟩
          obtain rfl := Option.some.inj hy
          exact (hjoin x hx e rfl).keepStart
        · simp only [Edit.keepStart, contextLines] at hsize ⊢
          omega
        · have hopen : Leads old new e.keepEnd.oldFrom e.keepEnd.newFrom [e.keepEnd].reverse
              e.oldTo e.newTo := .single hend
          refine ih ?_ hopen later (hbehind.imp_head Follows.keepEnd)
          -- Between what is kept of both ends the lines are the same.
          have hcut := (hmiddle.cut (d := e.oldTo - e.oldFrom - 2 * contextLines) (by
            simp only [Edit.keepStart]; omega)).1
          rwa [show e.keepStart.oldTo + (e.oldTo - e.oldFrom - 2 * contextLines) =
              e.keepEnd.oldFrom by simp only [Edit.keepStart, Edit.keepEnd]; omega,
            show e.keepStart.newTo + (e.oldTo - e.oldFrom - 2 * contextLines) =
              e.keepEnd.newFrom by simp only [Edit.keepStart, Edit.keepEnd]; omega] at hcut
      · refine ih hgap (m := e.oldTo) (n := e.newTo) ?_ later ?_
        · rw [List.reverse_cons]
          exact hacc.append (.single fits)
        · rw [List.reverse_cons, List.append_assoc]
          exact hchain

/-- **The hunks show what changes.** -/
theorem shown_hunks (old new : List Line) : Shown old new 0 0 (hunks (edits old new)) := by
  obtain ⟨i, j, hgap, hfirst⟩ :=
    leads_cutFirst (leads_edits old new) (Nat.zero_le _) (Nat.zero_le _)
  obtain ⟨m, n, hlast, hrest⟩ := leads_cutLast hfirst
  exact shown_groupFrom hgap (.nil i j) hlast
    (isChain_cutLast (isChain_cutFirst (isChain_edits old new))) hrest

/-- A step that keeps everything shows nothing. -/
theorem hunks_single (hsame : e.same) : hunks [e] = [] := by
  have hshort : ¬ 2 * contextLines < e.keepEnd.keepStart.oldTo - e.keepEnd.keepStart.oldFrom := by
    simp only [Edit.keepEnd, Edit.keepStart]
    omega
  have hkept : e.keepEnd.keepStart.same := hsame
  rw [hunks, cutFirst, if_pos hsame, cutLast, if_pos (show e.keepEnd.same from hsame), groupFrom,
    if_neg (by simp [hshort]), groupFrom, if_neg (by simp [showsChange, hkept])]

/-- A text and itself have no hunk. -/
theorem hunks_self (ls : List Line) : hunks (edits ls ls) = [] := by
  rcases eq_or_ne ls [] with rfl | hne
  · decide +kernel
  · have hkept : edits ls ls = [⟨true, 0, ls.length, 0, ls.length⟩] := by
      simp [edits, commonRuns_self hne, editsFrom]
    rw [hkept]
    exact hunks_single rfl

/-- **There is no hunk exactly if nothing changes.** -/
theorem hunks_eq_nil_iff : hunks (edits old new) = [] ↔ old = new := by
  constructor
  · intro hnil
    have hshown := shown_hunks old new
    rw [hnil] at hshown
    cases hshown with
    | done rest => exact rest
  · rintro rfl
    exact hunks_self old

end Hunks

end Groundplan.Patch
