import Groundplan.Data
import Mathlib.Data.List.Nodup

/-!
# Entries under distinct keys

What writing does to the entries of a map that has no key twice: a new key comes last, an old one
keeps its place.

## Main results

* `Entries.set_of_notMem`, `Entries.set_map_of_mem`: writing under a new and under an old key
* `Entries.set_set`, `Entries.set_of_get?`: writing under one key twice, and writing what is there
* `Entries.map_fst_set`, `Entries.isSome_get?_iff`, `Entries.mem_keys_set`: the keys
* `Entries.map_set`, `Entries.get?_map`: changing all values
* `Entries.filter_set`, `Entries.filter_erase`, `Entries.get?_filter`: the entries with keys of some
  kind
* `Entries.erase_set_of_ne`: dropping one entry and writing another
* `Entries.merge_of_nodup`: merging maps without common keys puts one behind the other
-/

namespace Groundplan.Entries

variable {α : Type} {key : String} {v : α}

/-- A new key comes last. -/
theorem set_of_notMem {es : Entries α} (h : key ∉ es.map (·.1)) :
    es.set key v = es ++ [(key, v)] := by
  induction es with
  | nil => rfl
  | cons e es ih =>
    obtain ⟨k, w⟩ := e
    rw [List.map_cons, List.mem_cons, not_or] at h
    rw [set, if_neg (by simpa using h.1), ih h.2, List.cons_append]

/-- An old key keeps its place, and the values of other keys stay. -/
theorem set_map_of_mem {keys : List String} (f : String → α) (hmem : key ∈ keys)
    (hnodup : keys.Nodup) :
    set key v (keys.map fun k => (k, f k)) =
      keys.map fun k => (k, if k = key then v else f k) := by
  induction keys with
  | nil => cases hmem
  | cons k keys ih =>
    rw [List.nodup_cons] at hnodup
    rw [List.map_cons, List.map_cons, set]
    by_cases hk : key = k
    · have hrest : (keys.map fun k' => (k', if k' = k then v else f k')) =
          keys.map fun k' => (k', f k') :=
        List.map_congr_left fun k' hk' => by rw [if_neg (ne_of_mem_of_not_mem hk' hnodup.1)]
      rw [hk, hrest]
      simp
    · rw [if_neg (by simpa using hk), if_neg (Ne.symm hk),
        ih (List.mem_of_ne_of_mem hk hmem) hnodup.2]

theorem get?_map_of_mem {keys : List String} (f : String → α) (hmem : key ∈ keys) :
    get? key (keys.map fun k => (k, f k)) = some (f key) := by
  induction keys with
  | nil => cases hmem
  | cons k keys ih =>
    rw [List.map_cons, get?, List.lookup_cons]
    by_cases hk : key = k
    · simp [hk]
    · rw [show (key == k) = false from by simpa using hk]
      exact ih (List.mem_of_ne_of_mem hk hmem)

theorem mem_of_get? {es : Entries α} (h : es.get? key = some v) : (key, v) ∈ es := by
  obtain ⟨before, after, hes, -⟩ := List.lookup_eq_some_iff.1 h
  rw [hes]
  exact List.mem_append_right _ List.mem_cons_self

/-- Writing under a key twice is writing once. -/
theorem set_set {w : α} (es : Entries α) : set key w (set key v es) = set key w es := by
  induction es with
  | nil => simp [set]
  | cons e es ih =>
    rw [set]
    split
    · rename_i h
      rw [set, if_pos h, set, if_pos h]
    · rename_i h
      rw [set, if_neg h, ih, set, if_neg h]

/-- Writing what is there changes nothing. -/
theorem set_of_get? {es : Entries α} (h : es.get? key = some v) : set key v es = es := by
  induction es with
  | nil => cases h
  | cons e es ih =>
    obtain ⟨k, w⟩ := e
    rw [get?, List.lookup_cons] at h
    by_cases hk : key = k
    · subst hk
      simp only [BEq.rfl, Option.some.injEq] at h
      rw [set, if_pos BEq.rfl, h]
    · have hbeq : (key == k) = false := by simpa using hk
      rw [hbeq] at h
      rw [set, if_neg (by simpa using hk), ih h]

/-- No value is lost by writing. -/
theorem isSome_get?_set {other : String} {es : Entries α} (h : (es.get? other).isSome) :
    ((set key v es).get? other).isSome := by
  by_cases hk : other = key
  · rw [hk, get?_set_self]
    rfl
  · rwa [get?_set_of_ne hk]

/-- Writing and then changing all values is changing them all and then writing. -/
theorem map_set {β : Type} (f : α → β) (key : String) (v : α) (es : Entries α) :
    (set key v es).map (fun e => (e.1, f e.2)) = set key (f v) (es.map fun e => (e.1, f e.2)) := by
  induction es with
  | nil => rfl
  | cons e es ih =>
    rw [set, List.map_cons, set]
    split
    · rfl
    · rw [List.map_cons, ih]

theorem get?_map {β : Type} (f : α → β) (es : Entries α) :
    get? key (es.map fun e => (e.1, f e.2)) = (es.get? key).map f := by
  induction es with
  | nil => rfl
  | cons e es ih =>
    rw [List.map_cons, get?, List.lookup_cons, get?, List.lookup_cons]
    split
    · rfl
    · exact ih

/-- What has a value is a key. -/
theorem isSome_get?_iff {es : Entries α} : (es.get? key).isSome ↔ key ∈ es.map (·.1) := by
  rw [get?, List.lookup_isSome_iff, List.mem_map]
  exact exists_congr fun e => and_congr_right fun _ => by rw [beq_iff_eq, eq_comm]

/-- Writing adds its key to the keys if it is not there. -/
theorem map_fst_set (key : String) (v : α) (es : Entries α) :
    (set key v es).map (·.1) =
      es.map (·.1) ++ if (es.get? key).isSome then [] else [key] := by
  by_cases h : key ∈ es.map (·.1)
  · obtain ⟨w, hw⟩ := Option.isSome_iff_exists.1 (isSome_get?_iff.2 h)
    -- The keys do not change with the values.
    have hkeys := congrArg (List.map (·.1)) (map_set (fun _ => ()) key v es)
    have hthere := (get?_map (fun _ => ()) es).trans (congrArg (Option.map _) hw)
    rw [set_of_get? hthere, List.map_map, List.map_map] at hkeys
    rw [hw, Option.isSome_some, if_pos rfl, List.append_nil]
    exact hkeys
  · rw [set_of_notMem h, List.map_append, if_neg (mt isSome_get?_iff.1 h)]
    rfl

theorem mem_keys_set {other : String} {es : Entries α} :
    other ∈ (set key v es).map (·.1) ↔ other = key ∨ other ∈ es.map (·.1) := by
  rw [map_fst_set, List.mem_append, or_comm]
  by_cases h : (es.get? key).isSome
  · rw [if_pos h, or_iff_right (List.not_mem_nil), or_iff_right_of_imp]
    rintro rfl
    exact isSome_get?_iff.1 h
  · rw [if_neg h, List.mem_singleton]

/-- Keys that stand once each do so after writing. -/
theorem nodup_keys_set {es : Entries α} (h : (es.map (·.1)).Nodup) :
    ((set key v es).map (·.1)).Nodup := by
  rw [map_fst_set]
  split
  · rwa [List.append_nil]
  · rename_i hnew
    rw [isSome_get?_iff] at hnew
    exact List.concat_eq_append ▸ h.concat hnew

/-- Maps without common keys merge into one behind the other. -/
theorem merge_of_nodup {es fs : Entries α} (h : ((es ++ fs).map (·.1)).Nodup) :
    es.merge fs = es ++ fs := by
  induction fs generalizing es with
  | nil => simp [merge]
  | cons e fs ih =>
    have hnew : e.1 ∉ es.map (·.1) := by
      rw [List.map_append, List.map_cons, List.nodup_append] at h
      exact fun hmem => h.2.2 _ hmem _ List.mem_cons_self rfl
    have hrest : (((es ++ [e]) ++ fs).map (·.1)).Nodup := by
      rwa [List.append_assoc, List.singleton_append]
    have := ih hrest
    rw [merge] at this ⊢
    rw [List.foldl_cons, set_of_notMem hnew, this, List.append_assoc, List.singleton_append]

/-! ## Entries with keys of some kind -/

/-- What is written is a new entry; the others were there. -/
theorem mem_of_mem_set {e : String × α} {es : Entries α} (h : e ∈ set key v es) :
    e = (key, v) ∨ e ∈ es := by
  induction es with
  | nil => exact .inl (List.mem_singleton.1 h)
  | cons f es ih =>
    rw [set] at h
    split at h
    · rename_i hk
      rw [← beq_iff_eq.1 hk, List.mem_cons] at h
      exact h.imp_right (List.mem_cons_of_mem _)
    · rcases List.mem_cons.1 h with rfl | h
      · exact .inr List.mem_cons_self
      · exact (ih h).imp_right (List.mem_cons_of_mem _)

/-- Among the entries with other keys nothing is written. -/
theorem filter_set {p : String → Bool} (h : p key = false) (es : Entries α) :
    (set key v es).filter (fun e => p e.1) = es.filter fun e => p e.1 := by
  induction es with
  | nil => simp [set, h]
  | cons e es ih =>
    rw [set]
    split
    · rename_i hk
      rw [List.filter_cons, List.filter_cons, ← beq_iff_eq.1 hk, h]
      simp
    · rw [List.filter_cons, List.filter_cons, ih]

/-- Among the entries with other keys none is dropped. -/
theorem filter_erase {p : String → Bool} (h : p key = false) (es : Entries α) :
    (erase key es).filter (fun e => p e.1) = es.filter fun e => p e.1 := by
  rw [erase, List.filter_filter]
  refine List.filter_congr fun e _ => ?_
  by_cases hk : e.1 = key
  · simp [hk, h]
  · simp [hk]

/-- Dropping the entry of one key and writing under another may be done in either order. -/
theorem erase_set_of_ne {other : String} (h : key ≠ other) (es : Entries α) :
    erase other (set key v es) = set key v (erase other es) := by
  have hcons (e : String × α) (es : Entries α) :
      erase other (e :: es) = if e.1 = other then erase other es else e :: erase other es := by
    by_cases he : e.1 = other <;> simp [erase, he]
  induction es with
  | nil => simp [set, erase, h]
  | cons e es ih =>
    obtain ⟨k, w⟩ := e
    by_cases hk : key = k
    · subst hk
      simp [set, hcons, h]
    · rw [set, if_neg (by simpa using hk), hcons, hcons, ih]
      split
      · rfl
      · rw [set, if_neg (by simpa using hk)]

/-- A value is found among the entries with keys like its own. -/
theorem get?_filter {p : String → Bool} (h : p key = true) (es : Entries α) :
    get? key (es.filter fun e => p e.1) = get? key es := by
  induction es with
  | nil => rfl
  | cons e es ih =>
    obtain ⟨k, w⟩ := e
    rw [List.filter_cons, get?, get?, List.lookup_cons]
    by_cases hk : key = k
    · subst hk
      rw [if_pos h, List.lookup_cons]
      simp
    · rw [show (key == k) = false from by simpa using hk]
      split
      · rw [List.lookup_cons, show (key == k) = false from by simpa using hk]
        exact ih
      · exact ih

end Groundplan.Entries
