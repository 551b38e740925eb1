import Groundplan.Policy.Reading
import Groundplan.Proofs.Answer
import Groundplan.Proofs.Number.Integer

/-!
# Paths into a block

A dotted path is walked part by part. A part is a key in a map; in a list it is a position if it is
a decimal number, and otherwise a key of the first map there. A path leads to a value or to nothing,
and looking along it has an answer in both cases. The exception is a part of digit characters that
is no number, such as a superscript, where the path stands at a list: it is taken for a position,
and cannot be read as one.

## Main definitions

* `IsPosition`, `IsStray`: a decimal number; digit characters that are no number
* `Value.Leads`: where a part leads from a value
* `Block.Astray`: a path with a stray part at a list
* `Block.Answers`: what looking along a path comes to

## Main results

* `Value.step_iff`, `Value.step_fails_iff`: one part of a path
* `find?_extended`: the last part of a path is walked from where the rest of it leads
* `find?_fails_iff`: **looking fails exactly for paths that go astray**
* `Block.answers_of_path`: all of it, for every block and every path
-/

namespace Groundplan.Hcl

open Text

/-! ## One part -/

/-- A decimal number, in digits of any script. -/
def IsPosition (part : String) : Prop :=
  part.toList ≠ [] ∧ ∀ c ∈ part.toList, isDecimal c = true

/-- **A text of digit characters that is no number**: one of them has no place value, or there are
too many of them. -/
def IsStray (part : String) : Prop :=
  isDigitText part = true ∧ ¬ IsNumeral part.toList

/-- **Where a part of a path leads** from a value: from a map to the entry of that key; from a list
to the item at a position, or else to the entry of that key in the first map there. It leads nowhere
from values of any other kind. -/
inductive Value.Leads : Value → String → Value → Prop
  | entry {es : Properties} {part : String} {w : Value} (h : es.get? part = some w) :
    Leads (.map es) part w
  | item {xs : List Value} {part : String} {w : Value} (hpart : IsPosition part)
    (h : xs[digitsValue part.toList]? = some w) : Leads (.list xs) part w
  | firstMap {front back : List Value} {es : Properties} {part : String} {w : Value}
    (hpart : ¬ IsPosition part) (hfront : ∀ v ∈ front, v.isMap = false)
    (h : es.get? part = some w) : Leads (.list (front ++ .map es :: back)) part w

theorem isDigitText_iff {part : String} :
    isDigitText part = true ↔ part.toList ≠ [] ∧ ∀ c ∈ part.toList, isDigit c = true := by
  rw [isDigitText, Bool.and_eq_true, List.all_eq_true, bne_iff_ne, Ne, ← String.toList_inj,
    String.toList_empty]

theorem IsPosition.isDigitText {part : String} (h : IsPosition part) : isDigitText part = true :=
  isDigitText_iff.2 ⟨h.1, fun c hc => by rw [isDigit, h.2 c hc, Bool.true_or]⟩

/-- Digit characters that are not stray are a decimal number. -/
theorem isNumeral_of_not_isStray {part : String} (hdigits : isDigitText part = true)
    (h : ¬ IsStray part) : IsNumeral part.toList :=
  not_not.1 fun hnumeral => h ⟨hdigits, hnumeral⟩

/-- **A step fails** exactly from a list at stray digits. -/
theorem Value.step_fails_iff {v : Value} {part : String} :
    Fails (v.step part) ↔ (∃ xs, v = .list xs) ∧ IsStray part := by
  cases v with
  | list xs =>
    rw [Value.step]
    split
    · rename_i hdigits
      have hread := integerOf_eq_ok_iff part (isDigitText_iff.1 hdigits).1
        (isDigitText_iff.1 hdigits).2
      rw [Fails.map_iff, ← not_not (a := Fails _), Fails.not_iff, hread]
      exact ⟨fun h => ⟨⟨xs, rfl⟩, hdigits, h⟩, fun h => h.2.2⟩
    · rename_i hdigits
      exact iff_of_false Fails.not_ok fun h => hdigits h.2.1
  | _ => exact iff_of_false Fails.not_ok fun ⟨⟨_, h⟩, _⟩ => by cases h

/-- The entry of a key in the first map of a list. -/
theorem firstMap_iff {xs : List Value} {part : String} {u : Value} :
    ((xs.find? Value.isMap).bind fun m => (m.entries?.getD []).get? part) = some u ↔
      ∃ front es back, xs = front ++ .map es :: back ∧ (∀ v ∈ front, v.isMap = false) ∧
        Entries.get? part es = some u := by
  constructor
  · intro h
    obtain ⟨m, hm, hu⟩ := Option.bind_eq_some_iff.1 h
    obtain ⟨hmap, front, back, rfl, hfront⟩ := List.find?_eq_some_iff_append.1 hm
    cases m with
    | map es => exact ⟨front, es, back, rfl, fun v hv => by simpa using hfront v hv, hu⟩
    | _ => cases hmap
  · rintro ⟨front, es, back, rfl, hfront, hu⟩
    have hfind : (front ++ .map es :: back).find? Value.isMap = some (.map es) :=
      List.find?_eq_some_iff_append.2
        ⟨rfl, front, back, rfl, fun v hv => by simp [hfront v hv]⟩
    rw [hfind]
    exact hu

/-- **A step leads where the part leads**, and to nothing if it leads nowhere. -/
theorem Value.step_iff {v : Value} {part : String} {w : Option Value} (h : v.step part = .ok w)
    (u : Value) : w = some u ↔ v.Leads part u := by
  have hstray : ¬ ((∃ xs, v = .list xs) ∧ IsStray part) := fun hs => by
    obtain ⟨f, hf⟩ := Value.step_fails_iff.2 hs
    rw [hf] at h
    cases h
  -- Only maps and lists have parts; in a list a part is a position or a key of its first map.
  cases v with
  | map es =>
    obtain rfl := Except.ok.inj h
    exact ⟨.entry, fun hu => by cases hu with | entry hu => exact hu⟩
  | list xs =>
    rw [Value.step] at h
    split at h
    · rename_i hdigits
      have hnumeral := isNumeral_of_not_isStray hdigits fun hs => hstray ⟨⟨xs, rfl⟩, hs⟩
      have hposition : IsPosition part := ⟨(isDigitText_iff.1 hdigits).1, hnumeral.1⟩
      rw [integerOf_of_isNumeral hposition.1 hnumeral] at h
      obtain rfl : xs[digitsValue part.toList]? = w := Except.ok.inj h
      refine ⟨.item hposition, fun hu => ?_⟩
      cases hu with
      | item _ hu => exact hu
      | firstMap hpart _ _ => exact absurd hposition hpart
    · rename_i hdigits
      have hposition : ¬ IsPosition part := fun hp => hdigits hp.isDigitText
      obtain rfl := Except.ok.inj h
      rw [firstMap_iff]
      constructor
      · rintro ⟨front, es, back, rfl, hfront, hu⟩
        exact .firstMap hposition hfront hu
      · intro hu
        cases hu with
        | item hpart _ => exact absurd hpart hposition
        | firstMap _ hfront hu => exact ⟨_, _, _, rfl, hfront, hu⟩
  | _ =>
    obtain rfl := Except.ok.inj h
    exact iff_of_false (fun hu => by cases hu) (fun hu => by cases hu)

/-! ## Paths -/

theorem pathParts_extended (p : String) {q : String} (hq : '.' ∉ q.toList) :
    pathParts (p ++ "." ++ q) = pathParts p ++ [q] := by
  have hlist : (p ++ "." ++ q).toList = p.toList ++ '.' :: q.toList := by simp
  rw [pathParts, hlist, splitOn_append, splitOn_of_notMem hq, List.map_append, List.map_singleton,
    String.ofList_toList, pathParts]

theorem pathParts_single {name : String} (h : '.' ∉ name.toList) : pathParts name = [name] := by
  rw [pathParts, splitOn_of_notMem h, List.map_singleton, String.ofList_toList]

theorem pathParts_ne_nil (p : String) : pathParts p ≠ [] := by
  rw [pathParts, splitOn, List.splitOn_eq_splitOnP, Ne, List.map_eq_nil_iff]
  exact List.splitOnP_ne_nil _ _

/-- **Every path is a name, or a shorter path with a part behind it.** -/
theorem path_induction {P : String → Prop} (single : ∀ name, '.' ∉ name.toList → P name)
    (extend : ∀ p q, '.' ∉ q.toList → P p → P (p ++ "." ++ q)) (p : String) : P p := by
  -- Induction on the parts from the last one on: the path is made again from its parts.
  suffices h : ∀ cs : List Char, P (String.ofList cs) by simpa using h p.toList
  intro cs
  induction hn : cs.length using Nat.strong_induction_on generalizing cs with
  | h n ih =>
    by_cases hdot : '.' ∈ cs
    · -- The last point of the text: the first one of the text read backwards.
      obtain ⟨back, front, hrev, hback⟩ := List.eq_append_cons_of_mem (List.mem_reverse.2 hdot)
      have hcs : cs = front.reverse ++ '.' :: back.reverse := by
        rw [← List.reverse_reverse cs, hrev]
        simp
      have hlength : front.reverse.length < n := by
        rw [← hn, hcs]
        simp
      have hfront := ih _ hlength _ rfl
      have hpath := extend _ (String.ofList back.reverse) (by simpa using hback) hfront
      have heq : String.ofList cs =
          String.ofList front.reverse ++ "." ++ String.ofList back.reverse := by
        rw [← String.toList_inj, hcs]
        simp
      rw [heq]
      exact hpath
    · exact single _ (by simpa using hdot)

/-- A walk is a walk along the first parts and then along the others. -/
theorem walk_append (v : Option Value) (parts more : List String) :
    walk v (parts ++ more) = (walk v parts).bind (walk · more) := by
  induction parts generalizing v with
  | nil => rfl
  | cons part parts ih =>
    cases v with
    | none => exact ih none
    | some v =>
      rw [List.cons_append, walk, walk]
      cases v.step part with
      | error f => rfl
      | ok w => exact ih w

/-- A walk of one part is a step, if there is anything to step from. -/
theorem walk_singleton (v : Value) (part : String) : walk (some v) [part] = v.step part := by
  rw [walk]
  cases v.step part <;> rfl

section Block

variable {b : Block} {p q : String} {v w : Option Value}

theorem find?_single (h : '.' ∉ p.toList) : b.find? p = .ok (b.property? p) := by
  rw [Block.find?, Properties.find?, pathParts_single h]
  rfl

/-- **The last part of a path** is walked from where the rest of the path leads. -/
theorem find?_extended (b : Block) (p : String) (hq : '.' ∉ q.toList) :
    b.find? (p ++ "." ++ q) = (b.find? p).bind (walk · [q]) := by
  rw [Block.find?, Block.find?, Properties.find?, Properties.find?, pathParts_extended p hq]
  cases hparts : pathParts p with
  | nil => exact absurd hparts (pathParts_ne_nil p)
  | cons first rest => exact walk_append _ rest [q]

/-- **A path that goes astray**: at some part it stands at a list, and the part is of digit
characters and no number. -/
inductive Block.Astray (b : Block) : String → Prop
  | here {p q : String} {xs : List Value} (hq : '.' ∉ q.toList)
    (h : b.find? p = .ok (some (.list xs))) (hstray : IsStray q) : Astray b (p ++ "." ++ q)
  | earlier {p q : String} (hq : '.' ∉ q.toList) (h : Astray b p) : Astray b (p ++ "." ++ q)

theorem find?_extended_fails_iff (hq : '.' ∉ q.toList) :
    Fails (b.find? (p ++ "." ++ q)) ↔
      Fails (b.find? p) ∨ (∃ xs, b.find? p = .ok (some (.list xs))) ∧ IsStray q := by
  rw [find?_extended b p hq]
  cases b.find? p with
  | error f => exact iff_of_true ⟨f, rfl⟩ (.inl ⟨f, rfl⟩)
  | ok v =>
    rw [or_iff_right Fails.not_ok]
    cases v with
    | none => exact iff_of_false Fails.not_ok fun ⟨⟨_, h⟩, _⟩ => by cases h
    | some v =>
      show Fails (walk (some v) [q]) ↔ _
      rw [walk_singleton, Value.step_fails_iff]
      simp

/-- **Looking along a path fails** exactly if the path goes astray. -/
theorem find?_fails_iff (b : Block) (p : String) : Fails (b.find? p) ↔ b.Astray p := by
  constructor
  · -- Backwards along the path: the last part goes astray, or the path before it did.
    induction p using path_induction with
    | single name hname =>
      intro h
      rw [find?_single hname] at h
      exact absurd h Fails.not_ok
    | extend p q hq ih =>
      intro h
      rcases (find?_extended_fails_iff hq).1 h with h | ⟨⟨xs, h⟩, hstray⟩
      · exact .earlier hq (ih h)
      · exact .here hq h hstray
  · intro h
    induction h with
    | here hq h hstray => exact (find?_extended_fails_iff hq).2 (.inr ⟨⟨_, h⟩, hstray⟩)
    | earlier hq _ ih => exact (find?_extended_fails_iff hq).2 (.inl ih)

/-- A path goes astray at a part behind its first one. -/
theorem Block.Astray.exists_isStray (h : b.Astray p) :
    ∃ part ∈ (pathParts p).tail, IsStray part := by
  induction h with
  | here hq h hstray =>
    rename_i p q xs
    refine ⟨q, ?_, hstray⟩
    rw [pathParts_extended p hq, List.tail_append_of_ne_nil (pathParts_ne_nil p)]
    exact List.mem_append_right _ (List.mem_singleton.2 rfl)
  | earlier hq h ih =>
    rename_i p q
    obtain ⟨part, hpart, hstray⟩ := ih
    refine ⟨part, ?_, hstray⟩
    rw [pathParts_extended p hq, List.tail_append_of_ne_nil (pathParts_ne_nil p)]
    exact List.mem_append_left _ hpart

/-- Where a part leads from what is found at a path, there is the value at the path with the part
behind it. -/
theorem find?_extended_iff (hq : '.' ∉ q.toList) (hv : b.find? p = .ok v)
    (hw : b.find? (p ++ "." ++ q) = .ok w) (x : Value) :
    w = some x ↔ ∃ u, v = some u ∧ u.Leads q x := by
  rw [find?_extended b p hq, hv] at hw
  cases v with
  | none =>
    obtain rfl := Except.ok.inj hw
    simp
  | some u =>
    have hstep : u.step q = .ok w := (walk_singleton u q).symm.trans hw
    rw [Value.step_iff hstep]
    simp

end Block

/-! ## Looking into a block -/

/-- What is to be known of looking along a path, for each of the three ways to look. -/
structure Block.Answers (b : Block) (p : String) : Prop where
  /-- There is an answer unless the path goes astray. -/
  total : (∃ v, b.find? p = .ok v) ↔ ¬ b.Astray p
  /-- It does not where no part but the first is of digit characters that are no number. -/
  plain : (∀ part ∈ (pathParts p).tail, ¬ IsStray part) → ¬ b.Astray p
  /-- A name leads to the property of that name, -/
  single : '.' ∉ p.toList → b.find? p = .ok (b.property? p)
  /-- and a further part to where it leads from what is found, or to nothing. -/
  extended : ∀ v, b.find? p = .ok v → ∀ q, '.' ∉ q.toList → ∀ w,
    b.find? (p ++ "." ++ q) = .ok w → ∀ x, w = some x ↔ ∃ u, v = some u ∧ u.Leads q x
  /-- Something is there exactly if a value is found. -/
  has : ∀ v, b.find? p = .ok v → b.has p = .ok v.isSome
  /-- The default is for where nothing is found, -/
  default : b.find? p = .ok none → ∀ d, Policy.plainAt b p d = .ok d
  /-- and a value that is found is given in its plain form, if it is not nested too deep. -/
  value : ∀ u, b.find? p = .ok (some u) → ∀ d, Policy.plainAt b p d =
    if u.toData.depth ≤ Policy.maxReadDepth then .ok u.toData else .error (.mismatch .depth)
  /-- All three fail alike. -/
  fault : ∀ f, b.find? p = .error f → b.has p = .error f ∧ ∀ d, Policy.plainAt b p d = .error f

/-- **What looking along a path comes to**, for every block and every path: an answer that is where
the parts of the path lead, or a failure because the path goes astray. -/
theorem Block.answers_of_path (b : Block) (p : String) : b.Answers p where
  total := by rw [← Fails.not_iff, find?_fails_iff]
  plain h hastray := by
    obtain ⟨part, hpart, hstray⟩ := hastray.exists_isStray
    exact h part hpart hstray
  single := find?_single
  extended v hv q hq w hw x := find?_extended_iff hq hv hw x
  has v hv := by
    rw [Block.has, hv]
    rfl
  default hv d := by
    rw [Policy.plainAt, hv]
    rfl
  value u hv d := by
    rw [Policy.plainAt, hv]
    show Policy.readable u >>= (fun v => pure v.toData) = _
    rw [Policy.readable, Policy.isReadable]
    by_cases hdepth : u.toData.depth ≤ Policy.maxReadDepth
    · rw [if_pos hdepth, if_pos (decide_eq_true hdepth)]
      rfl
    · rw [if_neg hdepth, if_neg (by simpa using hdepth)]
      rfl
  fault f hf := by
    rw [Block.has, hf]
    refine ⟨rfl, fun d => ?_⟩
    rw [Policy.plainAt, hf]
    rfl

/-- A block with a list in it. -/
def sampleBlock : Block :=
  ⟨.resource, "t", "n", [("sizes", .list [.int 10, .map [("k", .int 20)]])], 1, 3, ""⟩

/-- A position, a key of the first map there, and a digit that is neither. -/
example : (sampleBlock.find? "sizes.0", sampleBlock.find? "sizes.k",
    (sampleBlock.find? "sizes.\u00b2").isOk) =
      (.ok (some (.int 10)), .ok (some (.int 20)), false) := by
  rfl

end Groundplan.Hcl
