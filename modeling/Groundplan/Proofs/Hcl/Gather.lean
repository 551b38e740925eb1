import Groundplan.Proofs.Entries
import Groundplan.Proofs.Hcl.Source

/-!
# Gathering the properties of a body

A reader puts one statement after another into the properties of a body and turns a nested block
that appears again into a list. What it ends with is what the statements give to each name,
gathered.

## Main definitions

* `Clause.put`: what reading a clause does to the properties so far
* `Scope.Holds`: the properties so far are what some clauses give

## Main results

* `Scope.holds_put`: one clause more is gathered
* `Clause.foldl_put`: **the clauses of a body are gathered**
-/

namespace Groundplan.Hcl

/-! ## Names without repetition -/

theorem eraseDups_concat (keys : List String) (key : String) :
    (keys ++ [key]).eraseDups = keys.eraseDups ++ (if key ∈ keys then [] else [key]) := by
  rw [List.eraseDups_append, List.cons_removeAll, List.nil_removeAll]
  by_cases h : key ∈ keys <;> simp [h, List.eraseDups_cons]

theorem nodup_eraseDups (keys : List String) : keys.eraseDups.Nodup := by
  induction keys using List.reverseRecOn with
  | nil => exact List.nodup_nil
  | append_singleton keys key ih =>
    rw [eraseDups_concat]
    split
    · rwa [List.append_nil]
    · -- a name that is new differs from all that stay
      rename_i h
      refine List.nodup_append.2 ⟨ih, List.nodup_singleton _, ?_⟩
      rintro k hk _ hk' rfl
      rw [List.mem_singleton] at hk'
      rw [List.mem_eraseDups, hk'] at hk
      exact h hk

/-! ## One name more -/

section Concat

variable {es : List (String × Value)} {key : String} {v : Value}

theorem valuesOf_concat_self : valuesOf key (es ++ [(key, v)]) = valuesOf key es ++ [v] := by
  simp [valuesOf]

theorem valuesOf_concat_of_ne {other : String} (h : other ≠ key) :
    valuesOf other (es ++ [(key, v)]) = valuesOf other es := by
  simp [valuesOf, Ne.symm h]

theorem valuesOf_eq_nil (h : key ∉ es.map (·.1)) : valuesOf key es = [] := by
  rw [valuesOf, List.map_eq_nil_iff, List.filter_eq_nil_iff]
  rintro ⟨k, w⟩ he hk
  exact h (List.mem_map.2 ⟨_, he, by simpa using hk⟩)

theorem valuesOf_ne_nil (h : key ∈ es.map (·.1)) : valuesOf key es ≠ [] := by
  obtain ⟨⟨k, w⟩, he, rfl⟩ := List.mem_map.1 h
  rw [valuesOf, ne_eq, List.map_eq_nil_iff, List.filter_eq_nil_iff]
  exact fun h => h _ he (by simp)

/-- A new name comes last. -/
theorem gathered_concat_of_notMem (h : key ∉ es.map (·.1)) :
    gathered (es ++ [(key, v)]) = gathered es ++ [(key, v)] := by
  rw [gathered, List.map_append, List.map_singleton, eraseDups_concat, if_neg h, List.map_append]
  congr 1
  · -- the names before have the values that they had
    refine List.map_congr_left fun k hk => ?_
    rw [valuesOf_concat_of_ne (ne_of_mem_of_not_mem (List.mem_eraseDups.1 hk) h)]
  · rw [List.map_singleton, valuesOf_concat_self, valuesOf_eq_nil h]
    rfl

/-- A name given again keeps its place. -/
theorem gathered_concat_of_mem (h : key ∈ es.map (·.1)) :
    gathered (es ++ [(key, v)]) =
      Entries.set key (collected (valuesOf key es ++ [v])) (gathered es) := by
  rw [gathered, gathered, List.map_append, List.map_singleton, eraseDups_concat, if_pos h,
    List.append_nil, Entries.set_map_of_mem _ (List.mem_eraseDups.2 h) (nodup_eraseDups _)]
  refine List.map_congr_left fun k _ => ?_
  split
  · rename_i hk
    rw [hk, valuesOf_concat_self]
  · rename_i hk
    rw [valuesOf_concat_of_ne hk]

theorem get?_gathered (h : key ∈ es.map (·.1)) :
    Entries.get? key (gathered es) = some (collected (valuesOf key es)) :=
  Entries.get?_map_of_mem _ (List.mem_eraseDups.2 h)

theorem keys_gathered (es : List (String × Value)) :
    (gathered es).map (·.1) = (es.map (·.1)).eraseDups := by
  rw [gathered, List.map_map]
  exact List.map_id _

end Concat

/-! ## Clause by clause -/

namespace Clause

/-- What reading a clause does to the properties so far. -/
def put (sc : Scope) (c : Clause) : Scope :=
  if c.isBlock then sc.addBlock c.key.name c.meaning else sc.assign c.key.name c.meaning

/-- The names of some clauses are those of attributes and of nested blocks. -/
theorem mem_keys_iff {key : String} {body : List Clause} :
    key ∈ (bodyEntries body).map (·.1) ↔ key ∈ attributeNames body ∨ key ∈ blockNames body := by
  simp only [bodyEntries_eq_map, List.map_map, List.mem_map, Function.comp, attributeNames,
    blockNames, List.mem_filter]
  constructor
  · rintro ⟨c, hc, rfl⟩
    cases hb : c.isBlock with
    | false => exact .inl ⟨c, ⟨hc, by simp [hb]⟩, rfl⟩
    | true => exact .inr ⟨c, ⟨hc, hb⟩, rfl⟩
  · rintro (⟨c, hc, rfl⟩ | ⟨c, hc, rfl⟩) <;> exact ⟨c, hc.1, rfl⟩

/-- The value of a nested block is a map. -/
theorem isMap_meaning {c : Clause} (h : c.isBlock = true) : c.meaning.isMap = true := by
  cases c with
  | block key labels body => rfl
  | assign key v => cases h
  | heredoc key d => cases h

/-- Under a name that no attribute has, only nested blocks give values. -/
theorem isMap_of_mem_valuesOf {body : List Clause} {key : String} {v : Value}
    (hkey : key ∉ attributeNames body) (h : v ∈ valuesOf key (bodyEntries body)) :
    v.isMap = true := by
  simp only [valuesOf, bodyEntries_eq_map, List.mem_map, List.mem_filter, beq_iff_eq] at h
  obtain ⟨_, ⟨⟨c, hc, rfl⟩, rfl⟩, rfl⟩ := h
  cases hb : c.isBlock with
  | true => exact isMap_meaning hb
  | false =>
    exact absurd (List.mem_map.2 ⟨c, List.mem_filter.2 ⟨hc, by simp [hb]⟩, rfl⟩) hkey

variable {done : List Clause} {c : Clause}

theorem bodyEntries_concat :
    bodyEntries (done ++ [c]) = bodyEntries done ++ [(c.key.name, c.meaning)] := by
  simp

theorem Distinct.of_append {rest : List Clause} (h : Distinct (done ++ rest)) : Distinct done := by
  rw [Distinct, attributeNames, blockNames, List.filter_append, List.filter_append, List.map_append,
    List.map_append] at h
  exact ⟨h.1.of_append_left, fun name hname hblock =>
    h.2 name (List.mem_append_left _ hname) (List.mem_append_left _ hblock)⟩

/-- A new attribute has a name that nothing before it has. -/
theorem Distinct.notMem_of_attribute (h : Distinct (done ++ [c])) (hc : c.isBlock = false) :
    c.key.name ∉ (bodyEntries done).map (·.1) := by
  simp only [Distinct, attributeNames, blockNames, List.filter_append, List.map_append,
    List.filter_cons, hc, Bool.not_false, if_true, List.filter_nil, List.map_cons, List.map_nil,
    Bool.false_eq_true, if_false, List.append_nil] at h
  rw [mem_keys_iff, not_or]
  constructor
  · -- no attribute has its name, since attributes have distinct names
    intro hmem
    exact (List.nodup_append.1 h.1).2.2 _ hmem _ List.mem_cons_self rfl
  · -- no nested block has its name, since no block has the name of an attribute
    intro hmem
    exact h.2 _ (List.mem_append_right _ List.mem_cons_self) hmem

/-- A new nested block has a name that no attribute before it has. -/
theorem Distinct.notMem_of_block (h : Distinct (done ++ [c])) (hc : c.isBlock = true) :
    c.key.name ∉ attributeNames done := by
  intro hmem
  refine h.2 c.key.name ?_ ?_
  · rw [attributeNames, List.filter_append, List.map_append]
    exact List.mem_append_left _ hmem
  · simp [blockNames, hc]

theorem properties_concat_of_notMem (h : c.key.name ∉ (bodyEntries done).map (·.1)) :
    properties (done ++ [c]) = Entries.set c.key.name c.meaning (properties done) := by
  have hkeys : c.key.name ∉ (properties done).map (·.1) := by
    rwa [properties, keys_gathered, List.mem_eraseDups]
  rw [Entries.set_of_notMem hkeys, properties, bodyEntries_concat, gathered_concat_of_notMem h,
    properties]

theorem properties_concat_of_mem (h : c.key.name ∈ (bodyEntries done).map (·.1)) :
    properties (done ++ [c]) = Entries.set c.key.name
      (collected (valuesOf c.key.name (bodyEntries done) ++ [c.meaning])) (properties done) := by
  rw [properties, bodyEntries_concat, gathered_concat_of_mem h, properties]

end Clause

namespace Scope

open Clause

/-- The properties so far are those that some clauses give, and the block keys are the names of the
nested blocks among them. -/
def Holds (sc : Scope) (done : List Clause) : Prop :=
  sc.entries = properties done ∧ ∀ key, key ∈ sc.blockKeys ↔ key ∈ blockNames done

/-- A nested block that appears again goes behind those before it, which are maps and not lists. -/
theorem addBlock_of_mem {sc : Scope} {key : String} {vs : List Value} {block : Value}
    (hkey : key ∈ sc.blockKeys) (hget : Entries.get? key sc.entries = some (collected vs))
    (hne : vs ≠ []) (hmaps : ∀ v ∈ vs, v.isMap = true) :
    sc.addBlock key block =
      ⟨Entries.set key (collected (vs ++ [block])) sc.entries, sc.blockKeys⟩ := by
  rw [addBlock, if_pos (List.contains_iff_mem.2 hkey), hget]
  match vs, hne with
  | [v], _ =>
    -- one value stands by itself, and a map is never taken for a list of values
    have hv := hmaps v List.mem_cons_self
    cases v with
    | map es => rfl
    | _ => cases hv
  | _ :: _ :: _, _ => rfl

/-- **One clause more is gathered.** -/
theorem holds_put {sc : Scope} {done : List Clause} {c : Clause} (h : sc.Holds done)
    (hdistinct : Distinct (done ++ [c])) : (c.put sc).Holds (done ++ [c]) := by
  obtain ⟨hentries, hblocks⟩ := h
  have hnames (key : String) : key ∈ blockNames (done ++ [c]) ↔
      key ∈ blockNames done ∨ (c.isBlock = true ∧ key = c.key.name) := by
    cases hc : c.isBlock <;> simp [blockNames, hc]
  cases hc : c.isBlock with
  | false =>
    have hnew := hdistinct.notMem_of_attribute hc
    rw [put, hc, if_neg Bool.false_ne_true, assign]
    refine ⟨?_, fun key => ?_⟩
    · rw [properties_concat_of_notMem hnew, hentries]
    · -- an assignment drops its name from the block keys, where it never stood
      simp only [hnames, List.mem_filter, hblocks, hc, bne_iff_ne, ne_eq, Bool.false_eq_true,
        false_and, or_false, and_iff_left_iff_imp]
      rintro hkey rfl
      exact hnew (mem_keys_iff.2 (.inr hkey))
  | true =>
    rw [put, hc, if_pos rfl]
    by_cases hold : c.key.name ∈ blockNames done
    · -- a block of that name stands before: its values are collected in its place
      have hmem : c.key.name ∈ (bodyEntries done).map (·.1) := mem_keys_iff.2 (.inr hold)
      have hget : Entries.get? c.key.name sc.entries =
          some (collected (valuesOf c.key.name (bodyEntries done))) := by
        rw [hentries]
        exact get?_gathered hmem
      rw [addBlock_of_mem ((hblocks _).2 hold) hget (valuesOf_ne_nil hmem) fun v hv =>
        isMap_of_mem_valuesOf (hdistinct.notMem_of_block hc) hv]
      refine ⟨?_, fun key => ?_⟩
      · rw [properties_concat_of_mem hmem, hentries]
      · simp only [hnames, hblocks, hc, true_and]
        exact ⟨.inl, fun h => h.elim id fun h => h ▸ hold⟩
    · -- the first block of that name: it comes last, as an attribute would
      have hnew : c.key.name ∉ (bodyEntries done).map (·.1) := by
        rw [mem_keys_iff, not_or]
        exact ⟨hdistinct.notMem_of_block hc, hold⟩
      have hcontains : ¬ sc.blockKeys.contains c.key.name = true := by
        rwa [List.contains_iff_mem, hblocks]
      rw [addBlock, if_neg hcontains]
      refine ⟨?_, fun key => ?_⟩
      · rw [properties_concat_of_notMem hnew, hentries]
      · simp only [hnames, List.mem_cons, hblocks, hc, true_and, or_comm]

theorem holds_foldl_put {sc : Scope} {done rest : List Clause} (h : sc.Holds done)
    (hdistinct : Distinct (done ++ rest)) : (rest.foldl put sc).Holds (done ++ rest) := by
  -- The clauses move one by one from those to come to those that are done.
  induction rest generalizing sc done with
  | nil => rwa [List.append_nil]
  | cons c rest ih =>
    rw [← List.singleton_append, ← List.append_assoc] at hdistinct ⊢
    exact ih (holds_put h hdistinct.of_append) hdistinct

end Scope

/-- **The clauses of a body are gathered.** -/
theorem Clause.foldl_put {body : List Clause} (h : Distinct body) :
    (body.foldl put {}).entries = properties body :=
  (@Scope.holds_foldl_put {} [] body ⟨rfl, fun _ => Iff.rfl⟩ h).1

end Groundplan.Hcl
