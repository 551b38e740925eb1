import Groundplan.Hcl.Reader

/-!
# Levels of nesting

The room for nesting decides only whether a block is read: what is read within some room is what is
read with any room at all.

## Main definitions

* `Reading.Agrees`: one result is another, unless nesting stopped it

## Main results

* `readValue_agrees`, `readBody_agrees`: room does not change what is read
* `parse_eq_parseWithin`: nor does it change a configuration in which no block nests too deep
-/

namespace Groundplan.Hcl

open Text

/-! ## Results that agree -/

namespace Reading

variable {α β σ : Type}

/-- One result is another, unless nesting stopped it. -/
def Agrees (r s : Reading α) : Prop :=
  r.result = .error .deepNesting ∨ r = s

protected theorem Agrees.rfl {r : Reading α} : r.Agrees r :=
  .inr (Eq.refl r)

theorem Agrees.bind {r s : Reading α} {f g : α → Reading β} (h : r.Agrees s)
    (hf : ∀ a, (f a).Agrees (g a)) : (r >>= f).Agrees (s >>= g) := by
  rcases h with h | rfl
  · refine .inl ?_
    show (r.andThen f).result = _
    simp [andThen, h]
  · show (r.andThen f).Agrees (r.andThen g)
    unfold andThen
    cases hr : r.result with
    | error e => exact .rfl
    | ok a =>
      rcases hf a with h | h
      · exact .inl h
      · simp only [h]; exact .rfl

theorem Agrees.within {levels n : Nat} {f : Room → Reading α}
    (h : ∀ m : Nat, (f (some m)).Agrees (f none)) :
    (within levels (some n) f).Agrees (within levels none f) := by
  show (if levels ≤ n then f (some (n - levels)) else stop .deepNesting).Agrees (f none)
  split
  · exact h _
  · exact .inl (Eq.refl _)

theorem Agrees.mapM {f g : α → Reading β} {xs : List α}
    (h : ∀ a ∈ xs, (f a).Agrees (g a)) : (xs.mapM f).Agrees (xs.mapM g) := by
  induction xs with
  | nil => exact .rfl
  | cons a xs ih =>
    simp only [List.mapM_cons]
    exact (h a List.mem_cons_self).bind fun _ =>
      (ih fun a ha => h a (List.mem_cons_of_mem _ ha)).bind fun _ => .rfl

theorem Agrees.foldlM {f g : σ → α → Reading σ} {xs : List α}
    (h : ∀ a ∈ xs, ∀ s, (f s a).Agrees (g s a)) (s : σ) :
    (xs.foldlM f s).Agrees (xs.foldlM g s) := by
  induction xs generalizing s with
  | nil => exact .rfl
  | cons a xs ih =>
    simp only [List.foldlM_cons]
    exact (h a List.mem_cons_self s).bind fun s =>
      ih (fun a ha => h a (List.mem_cons_of_mem _ ha)) s

end Reading

/-! ## Values and bodies -/

/-- A statement reads the same in any room if the texts inside it do. -/
theorem Statement.run_agrees {n : Nat} {st : Statement} {sc : Scope}
    (hv : ∀ (m : Nat) (src : List Char), src.length ≤ st.size →
      (readValue (some m) src).Agrees (readValue none src))
    (hb : ∀ (m : Nat) (body : List Char), st.isUnrecognized = false → body.length ≤ st.size →
      (readBody (some m) false body).Agrees (readBody none false body)) :
    (st.run (some n) sc).Agrees (st.run none sc) := by
  cases st with
  | assignment key v =>
    cases v with
    | source src => exact .within fun m => (hv m src (Nat.le_refl _)).bind fun _ => .rfl
    | heredoc body => exact .rfl
  | block key labels body closed =>
    exact .bind .rfl fun _ =>
      .within fun m => (hb m body rfl (Nat.le_refl _)).bind fun _ => .rfl
  | unrecognized v shown =>
    cases v with
    | source src => exact .within fun m => (hv m src (Nat.le_refl _)).bind fun _ => .rfl
    | heredoc body => exact .rfl
  | bare key => exact .rfl

/-- Room does not change what is read of texts of bounded length. -/
theorem read_agrees (k : Nat) :
    (∀ (n : Nat) (cs : List Char), 2 * cs.length ≤ k →
      (readValue (some n) cs).Agrees (readValue none cs)) ∧
    (∀ (n : Nat) (inline : Bool) (cs : List Char), 2 * cs.length + 1 ≤ k →
      (readBody (some n) inline cs).Agrees (readBody none inline cs)) := by
  induction k using Nat.strongRecOn with
  | ind k ih =>
    refine ⟨fun n cs hk => ?_, fun n inline cs hk => ?_⟩
    · rw [readValue, readValue]
      by_cases hcs : cs = []
      · simp only [hcs, dif_pos]; exact .rfl
      · simp only [hcs, dif_neg, not_false_eq_true]
        have hsize := shapeOf_size_lt hcs
        split
        · exact .rfl
        · exact .rfl
        · rename_i inner hs
          simp only [hs, Shape.size] at hsize
          refine .bind (.mapM fun item _ => .within fun m => ?_) fun _ => .rfl
          have := length_le_of_mem_elements item.2
          exact (ih (2 * item.1.length) (by omega)).1 m item.1 (Nat.le_refl _)
        · rename_i inner hs
          simp only [hs, Shape.size] at hsize
          refine .bind ?_ fun _ => .rfl
          exact (ih (2 * inner.length + 1) (by omega)).2 n true inner (Nat.le_refl _)
    · rw [readBody_eq, readBody_eq]
      refine .bind (.foldlM (fun st hst sc => ?_) _) fun _ => .rfl
      obtain ⟨h1, h2⟩ := size_le_of_mem_statements hst
      refine Statement.run_agrees (fun m src hsrc => ?_) fun m body hu hbody => ?_
      · exact (ih (2 * src.length) (by omega)).1 m src (Nat.le_refl _)
      · have := h2 hu
        exact (ih (2 * body.length + 1) (by omega)).2 m false body (Nat.le_refl _)

/-- **Room does not change the value of a text.** -/
theorem readValue_agrees (n : Nat) (cs : List Char) :
    (readValue (some n) cs).Agrees (readValue none cs) :=
  (read_agrees _).1 n cs (Nat.le_refl _)

/-- **Room does not change the properties of a body.** -/
theorem readBody_agrees (n : Nat) (inline : Bool) (cs : List Char) :
    (readBody (some n) inline cs).Agrees (readBody none inline cs) :=
  (read_agrees _).2 n inline cs (Nat.le_refl _)

/-! ## Configurations -/

/-- Whether the body of what stands at one place of the top level nests too deep for some room. -/
def TopLevel.NestsBeyond (room : Room) : TopLevel → Prop
  | .block s => (readBody room false s.body).result = .error .deepNesting
  | .junk .. => False
  | .headless .. => False

theorem TopLevel.read_eq {n : Nat} {t : TopLevel} (h : ¬ t.NestsBeyond (some n)) :
    t.read (some n) = t.read none := by
  cases t with
  | block s =>
    have := (readBody_agrees n false s.body).resolve_left h
    simp only [TopLevel.read, Section.read, this]
  | junk c line => rfl
  | headless keyword line => rfl

/-- **A text in which no block nests too deep reads as if there were any room.** -/
theorem parse_eq_parseWithin {text : String}
    (h : ∀ t ∈ sections text.toList, ¬ t.NestsBeyond (some maxLevels)) :
    parse text = parseWithin none text := by
  have : outcomes (some maxLevels) text.toList = outcomes none text.toList :=
    List.map_congr_left fun t ht => TopLevel.read_eq (h t ht)
  simp only [parse, parseWithin, this]

end Groundplan.Hcl
