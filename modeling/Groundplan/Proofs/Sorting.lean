import Mathlib.Data.List.Basic

/-!
# Stable sorting

Merge sort leaves the members of a class in their order if the order of sorting does not tell them
apart, and what is left out of a list is left out of the sorted list, the rest being as it was.

## Main results

* `filter_mergeSort`: **a class keeps its order**
* `sublist_mergeSort_mergeSort`: **a part of a list, sorted, is a part of the sorted list**
-/

namespace Groundplan

section

variable {α : Type} {le : α → α → Bool}
  (trans : ∀ a b c, le a b = true → le b c = true → le a c = true)
  (total : ∀ a b, (le a b || le b a) = true)

include trans total

/-- **A class keeps its order** if the order of sorting does not tell its members apart. -/
theorem filter_mergeSort {p : α → Bool} (h : ∀ a b, p a = true → p b = true → le a b = true)
    (l : List α) : (l.mergeSort le).filter p = l.filter p := by
  -- The members are in order before, so they are a part of the sorted list, which has no others.
  have hordered : (l.filter p).Pairwise fun a b => le a b = true :=
    List.pairwise_of_forall_mem_list fun a ha b hb =>
      h a b (List.mem_filter.1 ha).2 (List.mem_filter.1 hb).2
  have hpart := (List.sublist_mergeSort trans total hordered List.filter_sublist).filter p
  rw [List.filter_filter, List.filter_congr fun a _ => Bool.and_self (p a)] at hpart
  exact (hpart.eq_of_length ((List.mergeSort_perm l le).symm.filter p).length_eq).symm

/-- An element is sorted in between those before it and all others. -/
theorem mergeSort_cons_eq (a : α) (l : List α) :
    (a :: l).mergeSort le = (l.mergeSort le).filter (!le a ·) ++
      a :: (l.mergeSort le).filter (le a ·) := by
  obtain ⟨front, back, hsorted, hrest, hfront⟩ := List.mergeSort_cons trans total a l
  have hordered := List.pairwise_mergeSort trans total (a :: l)
  rw [hsorted] at hordered
  have hback : ∀ b ∈ back, le a b = true :=
    (List.pairwise_cons.1 (List.pairwise_append.1 hordered).2.1).1
  rw [hsorted, hrest, List.filter_append, List.filter_append, List.filter_eq_self.2 hfront,
    List.filter_eq_self.2 hback, List.filter_eq_nil_iff.2, List.filter_eq_nil_iff.2,
    List.append_nil, List.nil_append]
  · intro b hb
    simpa using hfront b hb
  · intro b hb
    simpa using hback b hb

/-- **A part of a list, sorted, is a part of the sorted list.** -/
theorem sublist_mergeSort_mergeSort {l m : List α} (h : l.Sublist m) :
    (l.mergeSort le).Sublist (m.mergeSort le) := by
  induction h with
  | slnil => exact List.Sublist.refl _
  | @cons l m a h ih =>
    obtain ⟨front, back, hsorted, hrest, -⟩ := List.mergeSort_cons trans total a m
    rw [hsorted]
    rw [hrest] at ih
    exact ih.trans ((List.sublist_cons_self a back).append_left front)
  | cons_cons a h ih =>
    rw [mergeSort_cons_eq trans total, mergeSort_cons_eq trans total]
    exact (ih.filter _).append ((ih.filter _).cons_cons a)

end

end Groundplan
