import Mathlib.Logic.Relation
import Groundplan.Proofs.Hcl.Scalar

/-!
# Calls within a block

Reading the body of a block makes calls: for the value of a text, for the properties of a nested
body. Along every chain of calls texts get shorter, and what stops a block is a literal that one of
them comes upon.

## Main definitions

* `Call`, `Call.calls`: what is asked for while a block is read, and what that asks for in turn
* `Makes`: one call makes another
* `Spoiled`: a call comes upon an integer literal of too many digits
* `Reading.StopsIf`: a reading is stopped by a long integer exactly under some condition

## Main results

* `length_lt_of_makes`: **from a call to a later one of its kind the text gets shorter**
* `stopsIf_spoiled`: **only a long integer stops a call**, its own or one further in
-/

namespace Groundplan.Hcl

open Relation

/-! ## Calls -/

/-- What is asked for while a block is read. -/
inductive Call where
  /-- The value of a text. -/
  | value (cs : List Char)
  /-- The properties of a body, or of the inside of a map literal. -/
  | body (inline : Bool) (cs : List Char)

/-- The calls that reading a statement makes. -/
def Statement.calls : Statement → List Call
  | .assignment _ (.source src) => [.value src]
  | .assignment _ (.heredoc _) => []
  | .block _ _ body _ => [.body false body]
  | .unrecognized (.source src) _ => [.value src]
  | .unrecognized (.heredoc _) _ => []
  | .bare _ => []

namespace Call

/-- The text that a call is about. -/
def text : Call → List Char
  | value cs => cs
  | body _ cs => cs

/-- Whether two calls ask for the same kind of thing. -/
def SameKind : Call → Call → Prop
  | value _, value _ => True
  | body _ _, body _ _ => True
  | _, _ => False

/-- The calls that a call makes: one for each item of a list, one for the inside of a map, and those
of the statements of a body. -/
def calls : Call → List Call
  | value cs =>
    match shapeOf cs with
    | .list inner => (elements inner).map value
    | .map inner => [body true inner]
    | .value _ => []
    | .integer _ _ => []
  | body inline cs => (statements inline cs).flatMap Statement.calls

/-- The size of a call. A value and a body may be of the same text, and the body comes first. -/
def size : Call → Nat
  | value cs => 2 * cs.length
  | body _ cs => 2 * cs.length + 1

end Call

/-- One call makes another. -/
def Makes (c d : Call) : Prop :=
  d ∈ c.calls

theorem size_lt_of_mem_statement {inline : Bool} {cs : List Char} {st : Statement} {d : Call}
    (hst : st ∈ statements inline cs) (hd : d ∈ st.calls) : d.size < 2 * cs.length + 1 := by
  obtain ⟨hle, hlt⟩ := size_le_of_mem_statements hst
  cases st with
  | assignment key v =>
    cases v with
    | source src =>
      obtain rfl := List.mem_singleton.1 hd
      simp only [Statement.size, RawValue.size] at hle
      simp only [Call.size]
      omega
    | heredoc body => cases hd
  | block key labels body closed =>
    obtain rfl := List.mem_singleton.1 hd
    have := hlt rfl
    simp only [Statement.size] at this
    simp only [Call.size]
    omega
  | unrecognized v shown =>
    cases v with
    | source src =>
      obtain rfl := List.mem_singleton.1 hd
      simp only [Statement.size, RawValue.size] at hle
      simp only [Call.size]
      omega
    | heredoc body => cases hd
  | bare key => cases hd

/-- **A call is larger than those that it makes.** -/
theorem size_lt_of_makes {c d : Call} (h : Makes c d) : d.size < c.size := by
  cases c with
  | value cs =>
    have hne : cs ≠ [] := by
      rintro rfl
      cases h
    have hshape := shapeOf_size_lt hne
    rw [Makes, Call.calls] at h
    split at h
    · rename_i inner hinner
      obtain ⟨item, hitem, rfl⟩ := List.mem_map.1 h
      have hle := length_le_of_mem_elements hitem
      rw [hinner, Shape.size] at hshape
      simp only [Call.size]
      omega
    · rename_i inner hinner
      obtain rfl := List.mem_singleton.1 h
      rw [hinner, Shape.size] at hshape
      simp only [Call.size]
      omega
    · cases h
    · cases h
  | body inline cs =>
    obtain ⟨st, hst, hd⟩ := List.mem_flatMap.1 h
    exact size_lt_of_mem_statement hst hd

theorem size_lt_of_transGen {c d : Call} (h : TransGen Makes c d) : d.size < c.size := by
  induction h with
  | single h => exact size_lt_of_makes h
  | tail _ h ih => exact Nat.lt_trans (size_lt_of_makes h) ih

/-- **From a call to a later one of its kind the text gets shorter**, however many calls lie
between. -/
theorem length_lt_of_makes {c d : Call} (h : TransGen Makes c d) (hkind : c.SameKind d) :
    d.text.length < c.text.length := by
  have hsize := size_lt_of_transGen h
  cases c <;> cases d <;> simp only [Call.size, Call.text, Call.SameKind] at hsize hkind ⊢ <;>
    omega

/-- No chain of calls is endless. -/
theorem wellFounded_makes : WellFounded fun d c => Makes c d :=
  Subrelation.wf (fun h => size_lt_of_makes h) (InvImage.wf Call.size Nat.lt_wfRel.wf)

/-! ## Long integers -/

/-- The text of an integer of too many digits. -/
def IsLongInteger (cs : List Char) : Prop :=
  ∃ negative digits, integerLiteral? cs = some (negative, digits) ∧
    maxIntegerDigits < digits.length

/-- A call comes upon an integer of too many digits, itself or further in. -/
def Spoiled (c : Call) : Prop :=
  ∃ cs, ReflTransGen Makes c (.value cs) ∧ IsLongInteger cs

theorem spoiled_body_iff {inline : Bool} {cs : List Char} :
    Spoiled (.body inline cs) ↔
      ∃ st ∈ statements inline cs, ∃ d ∈ st.calls, Spoiled d := by
  constructor
  · rintro ⟨src, hchain, hlong⟩
    rcases hchain.cases_head with heq | ⟨d, hd, hrest⟩
    · cases heq
    · obtain ⟨st, hst, hd⟩ := List.mem_flatMap.1 hd
      exact ⟨st, hst, d, hd, src, hrest, hlong⟩
  · rintro ⟨st, hst, d, hd, src, hchain, hlong⟩
    exact ⟨src, .head (List.mem_flatMap.2 ⟨st, hst, hd⟩) hchain, hlong⟩

theorem spoiled_value_iff {cs : List Char} :
    Spoiled (.value cs) ↔ IsLongInteger cs ∨ ∃ d ∈ (Call.value cs).calls, Spoiled d := by
  constructor
  · rintro ⟨src, hchain, hlong⟩
    rcases hchain.cases_head with heq | ⟨d, hd, hrest⟩
    · cases heq
      exact .inl hlong
    · exact .inr ⟨d, hd, src, hrest, hlong⟩
  · rintro (hlong | ⟨d, hd, src, hchain, hlong⟩)
    · exact ⟨cs, .refl, hlong⟩
    · exact ⟨src, .head hd hchain, hlong⟩

/-- No integer is a literal of another kind. -/
theorem literalShape_ne_integer (cs : List Char) (negative : Bool) (digits : List Char) :
    literalShape cs ≠ .integer negative digits := by
  intro h
  rw [literalShape.eq_def] at h
  split at h
  · split at h <;> cases h
  · rw [bracketShape.eq_def] at h
    repeat' split at h
    all_goals cases h

theorem shapeOf_eq_integer_iff {cs digits : List Char} {negative : Bool} :
    shapeOf cs = .integer negative digits ↔ integerLiteral? cs = some (negative, digits) := by
  rw [shapeOf]
  constructor
  · intro h
    -- the empty text and the three words are no integers
    iterate 4
      split at h
      · cases h
    split at h
    · rename_i hliteral
      cases h
      exact hliteral
    · split at h
      · cases h
      · exact absurd h (literalShape_ne_integer cs negative digits)
  · intro h
    have hne {word : List Char} (hword : integerLiteral? word = none) : ¬ (cs == word) = true := by
      intro heq
      rw [eq_of_beq heq, hword] at h
      cases h
    have hempty : ¬ cs.isEmpty = true := by
      intro hnil
      rw [List.isEmpty_iff.1 hnil] at h
      cases h
    rw [if_neg hempty, if_neg (hne (by decide)), if_neg (hne (by decide)),
      if_neg (hne (by decide)), h]

section Shapes

variable {cs inner : List Char}

theorem calls_of_list (h : shapeOf cs = .list inner) :
    (Call.value cs).calls = (elements inner).map .value := by
  rw [Call.calls, h]

theorem calls_of_map (h : shapeOf cs = .map inner) :
    (Call.value cs).calls = [.body true inner] := by
  rw [Call.calls, h]

/-- Only an integer can be a long integer. -/
theorem not_isLongInteger (h : ∀ negative digits, shapeOf cs ≠ .integer negative digits) :
    ¬ IsLongInteger cs := by
  rintro ⟨negative, digits, hliteral, -⟩
  exact h negative digits (shapeOf_eq_integer_iff.2 hliteral)

theorem not_spoiled_of_value {v : Value} (h : shapeOf cs = .value v) : ¬ Spoiled (.value cs) := by
  rw [spoiled_value_iff, Call.calls, h]
  rintro (hlong | ⟨d, hd, -⟩)
  · exact not_isLongInteger (by simp [h]) hlong
  · cases hd

theorem spoiled_integer_iff {negative : Bool} {digits : List Char}
    (h : shapeOf cs = .integer negative digits) :
    Spoiled (.value cs) ↔ maxIntegerDigits < digits.length := by
  have hliteral := shapeOf_eq_integer_iff.1 h
  rw [spoiled_value_iff, Call.calls, h]
  constructor
  · rintro (⟨negative', digits', hliteral', hlong⟩ | ⟨d, hd, -⟩)
    · rw [hliteral] at hliteral'
      cases hliteral'
      exact hlong
    · cases hd
  · exact fun hlong => .inl ⟨negative, digits, hliteral, hlong⟩

theorem spoiled_list_iff (h : shapeOf cs = .list inner) :
    Spoiled (.value cs) ↔ ∃ item ∈ elements inner, Spoiled (.value item) := by
  rw [spoiled_value_iff, calls_of_list h, or_iff_right (not_isLongInteger (by simp [h]))]
  simp

theorem spoiled_map_iff (h : shapeOf cs = .map inner) :
    Spoiled (.value cs) ↔ Spoiled (.body true inner) := by
  rw [spoiled_value_iff, calls_of_map h, or_iff_right (not_isLongInteger (by simp [h]))]
  simp

end Shapes

/-! ## What stops a reading -/

namespace Reading

variable {α β σ : Type}

/-- A reading is stopped by a long integer under some condition, and has a result otherwise. -/
structure StopsIf (r : Reading α) (p : Prop) : Prop where
  stops : p → r.result = .error .longInteger
  yields : ¬ p → ∃ a, r.result = .ok a

theorem StopsIf.congr {r : Reading α} {p q : Prop} (h : r.StopsIf p) (hpq : q ↔ p) :
    r.StopsIf q := by
  rwa [hpq]

theorem stopsIf_ofValue (a : α) : (ofValue a).StopsIf False :=
  ⟨False.elim, fun _ => ⟨a, rfl⟩⟩

theorem stopsIf_warn (w : Warning) : (warn w).StopsIf False :=
  ⟨False.elim, fun _ => ⟨(), rfl⟩⟩

theorem StopsIf.bind {r : Reading α} {f : α → Reading β} {p q : Prop} (h : r.StopsIf p)
    (hf : ∀ a, (f a).StopsIf q) : (r >>= f).StopsIf (p ∨ q) := by
  by_cases hp : p
  · have hr := h.stops hp
    have hstop : (r >>= f).result = .error .longInteger := by
      show (r.andThen f).result = _
      rw [andThen, hr]
    exact ⟨fun _ => hstop, fun hnot => absurd (.inl hp) hnot⟩
  · -- the reading has a result, and what follows decides
    obtain ⟨a, ha⟩ := h.yields hp
    have hnext : (r >>= f).result = (f a).result := by
      show (r.andThen f).result = _
      rw [andThen, ha]
    refine ⟨fun hor => ?_, fun hnot => ?_⟩
    · rw [hnext]
      exact (hf a).stops (hor.resolve_left hp)
    · rw [hnext]
      exact (hf a).yields fun hq => hnot (.inr hq)

/-- What is done with a result does not stop a reading. -/
theorem StopsIf.map {r : Reading α} {p : Prop} (h : r.StopsIf p) (f : α → β) :
    (r >>= fun a => ofValue (f a)).StopsIf p :=
  (h.bind fun a => stopsIf_ofValue (f a)).congr (iff_of_eq (or_false p)).symm

theorem StopsIf.mapM {f : α → Reading β} {p : α → Prop} {xs : List α}
    (h : ∀ x ∈ xs, (f x).StopsIf (p x)) : (xs.mapM f).StopsIf (∃ x ∈ xs, p x) := by
  induction xs with
  | nil => exact (stopsIf_ofValue []).congr (by simp)
  | cons x xs ih =>
    rw [List.forall_mem_cons] at h
    rw [List.mapM_cons]
    exact (h.1.bind fun y => (ih h.2).map fun ys => y :: ys).congr (List.exists_mem_cons_iff ..)

theorem StopsIf.foldlM {f : σ → α → Reading σ} {p : α → Prop} {xs : List α}
    (h : ∀ x ∈ xs, ∀ s, (f s x).StopsIf (p x)) (s : σ) :
    (xs.foldlM f s).StopsIf (∃ x ∈ xs, p x) := by
  induction xs generalizing s with
  | nil => exact (stopsIf_ofValue s).congr (by simp)
  | cons x xs ih =>
    rw [List.forall_mem_cons] at h
    rw [List.foldlM_cons]
    exact ((h.1 s).bind fun s => ih h.2 s).congr (List.exists_mem_cons_iff ..)

end Reading

theorem stopsIf_integerValue (negative : Bool) (digits : List Char) :
    (integerValue negative digits).StopsIf (maxIntegerDigits < digits.length) := by
  rw [integerValue]
  split
  · rename_i hlong
    exact ⟨fun _ => rfl, fun hnot => absurd hlong hnot⟩
  · rename_i hshort
    exact (Reading.stopsIf_ofValue _).congr (iff_false_intro hshort)

/-! ## Only long integers stop a call -/

/-- A call is stopped exactly if it comes upon a long integer. -/
def Call.StopsIfSpoiled : Call → Prop
  | value cs => (readValue none cs).StopsIf (Spoiled (.value cs))
  | body inline cs => (readBody none inline cs).StopsIf (Spoiled (.body inline cs))

/-- A statement is stopped by the calls that it makes. -/
theorem Statement.stopsIf_run {st : Statement} (h : ∀ d ∈ st.calls, d.StopsIfSpoiled)
    (sc : Scope) : (st.run none sc).StopsIf (∃ d ∈ st.calls, Spoiled d) := by
  -- A statement makes one call or none.
  have hnone {r : Reading Scope} (hr : r.StopsIf False) :
      r.StopsIf (∃ d ∈ ([] : List Call), Spoiled d) :=
    hr.congr (by simp)
  have hone {r : Reading Scope} {d : Call} (hr : r.StopsIf (Spoiled d)) :
      r.StopsIf (∃ d' ∈ [d], Spoiled d') :=
    hr.congr (by simp)
  cases st with
  | assignment key v =>
    cases v with
    | source src =>
      have hvalue : (readValue none src).StopsIf (Spoiled (.value src)) :=
        h _ List.mem_cons_self
      exact hone (hvalue.map (sc.assign key))
    | heredoc body => exact hnone (Reading.stopsIf_ofValue _)
  | block key labels body closed =>
    have hbody : (readBody none false body).StopsIf (Spoiled (.body false body)) :=
      h _ List.mem_cons_self
    have hopen : (if closed then Reading.ofValue () else .warn (.unbalancedNested key)).StopsIf
        False := by
      split
      · exact Reading.stopsIf_ofValue ()
      · exact Reading.stopsIf_warn _
    refine hone ((hopen.bind fun _ => ?_).congr (iff_of_eq (false_or _)).symm)
    exact hbody.map fun entries => sc.addBlock key (blockValue labels entries)
  | unrecognized v shown =>
    have hwarn : (Reading.warn (.unrecognized (String.ofList shown)) >>= fun _ =>
        Reading.ofValue sc).StopsIf False :=
      (Reading.stopsIf_warn _).map fun _ => sc
    cases v with
    | source src =>
      have hvalue : (readValue none src).StopsIf (Spoiled (.value src)) :=
        h _ List.mem_cons_self
      exact hone ((hvalue.bind fun _ => hwarn).congr (iff_of_eq (or_false _)).symm)
    | heredoc body => exact hnone hwarn
  | bare key => exact hnone ((Reading.stopsIf_warn _).map fun _ => sc)

theorem stopsIf_readBody {inline : Bool} {cs : List Char}
    (h : ∀ d, Makes (.body inline cs) d → d.StopsIfSpoiled) :
    (readBody none inline cs).StopsIf (Spoiled (.body inline cs)) := by
  rw [readBody_eq]
  have hrun : ∀ st ∈ statements inline cs, ∀ sc,
      (Statement.run none sc st).StopsIf (∃ d ∈ st.calls, Spoiled d) := fun st hst sc =>
    st.stopsIf_run (fun d hd => h d (List.mem_flatMap.2 ⟨st, hst, hd⟩)) sc
  exact ((Reading.StopsIf.foldlM hrun {}).map Scope.entries).congr spoiled_body_iff

theorem stopsIf_readValue {cs : List Char} (h : ∀ d, Makes (.value cs) d → d.StopsIfSpoiled) :
    (readValue none cs).StopsIf (Spoiled (.value cs)) := by
  by_cases hcs : cs = []
  · rw [hcs, readValue, dif_pos rfl]
    exact (Reading.stopsIf_ofValue _).congr (iff_false_intro (not_spoiled_of_value rfl))
  · -- One case for each shape; only lists and maps make calls.
    cases hshape : shapeOf cs with
    | value v =>
      rw [readValue_of_value hcs hshape]
      exact (Reading.stopsIf_ofValue v).congr (iff_false_intro (not_spoiled_of_value hshape))
    | integer negative digits =>
      rw [readValue_of_integer hcs hshape]
      exact (stopsIf_integerValue negative digits).congr (spoiled_integer_iff hshape)
    | list inner =>
      have hitems : ∀ item ∈ elements inner,
          (Reading.within 2 none fun room => readValue room item).StopsIf
            (Spoiled (.value item)) := fun item hitem =>
        h (.value item) (by rw [Makes, calls_of_list hshape]; exact List.mem_map_of_mem hitem)
      rw [readValue_of_list hcs hshape]
      exact ((Reading.StopsIf.mapM hitems).map Value.list).congr (spoiled_list_iff hshape)
    | map inner =>
      have hbody : (readBody none true inner).StopsIf (Spoiled (.body true inner)) :=
        h (.body true inner) (by rw [Makes, calls_of_map hshape]; exact List.mem_cons_self)
      rw [readValue_of_map hcs hshape]
      exact (hbody.map Value.map).congr (spoiled_map_iff hshape)

/-- **Only a long integer stops a call**: its own text, or that of a call further in. -/
theorem stopsIf_spoiled (c : Call) : c.StopsIfSpoiled := by
  induction c using wellFounded_makes.induction with
  | _ c ih =>
    cases c with
    | value cs => exact stopsIf_readValue ih
    | body inline cs => exact stopsIf_readBody ih

end Groundplan.Hcl
