import Groundplan.Proofs.Entries
import Groundplan.Proofs.Hcl.Layout

/-!
# Reading terms

A written term reads as its meaning in every room that has space for its levels, and as nothing but
too deep nesting in every other room.

## Main results

* `elements_commaSeparated`: the items of a written list are found again
* `statements_entries`: so are the entries of a written map
* `Term.readValue_source`: **a written term reads as its meaning**
-/

namespace Groundplan.Hcl

open Text

/-! ## Values in their places -/

section Places

variable {cs rest : List Char} (inline : Bool)

/-- An equals sign gives a key the value behind it, however far it stands from the key. -/
theorem keyedStatement_padded (key : String) {pad : List Char}
    (hpad : ∀ c ∈ pad, isSpacing c = true) (h : ValueText cs)
    (hstop : afterValue inline 0 rest = rest) :
    keyedStatement inline key (pad ++ '=' :: ' ' :: (cs ++ rest)) =
      (.assignment key (.source cs), rest) := by
  have hassign : afterAssign? inline ((pad ++ '=' :: ' ' :: (cs ++ rest)).dropWhile isSpacing) =
      some (' ' :: (cs ++ rest)) := by
    rw [List.dropWhile_append_of_pos hpad]
    rfl
  have hread : readRaw inline (' ' :: (cs ++ rest)) = (.source cs, rest) :=
    readRaw_gap [' '] [] h (List.forall_mem_singleton.2 (show isSpacing ' ' = true from rfl)) rfl
      hstop
  rw [keyedStatement, hassign]
  simp only [hread]

theorem keyedStatement_assign (key : String) (h : ValueText cs)
    (hstop : afterValue inline 0 rest = rest) :
    keyedStatement inline key (' ' :: '=' :: ' ' :: (cs ++ rest)) =
      (.assignment key (.source cs), rest) :=
  keyedStatement_padded inline key
    (List.forall_mem_singleton.2 (show isSpacing ' ' = true from rfl)) h hstop

end Places

/-! ## Lists -/

/-- **The items of a written list are found again.** -/
theorem elements_commaSeparated {parts : List (List Char)} (h : ∀ cs ∈ parts, ValueText cs) :
    elements (commaSeparated parts) = parts := by
  have hitems : ∀ cs ∈ (Spaced.comma parts).items, ValueText (id cs) := by
    rwa [Spaced.items_comma]
  have hread := elements_text (Spaced.comma parts) hitems
  rwa [Spaced.text_comma, Spaced.items_comma, List.map_id] at hread

/-! ## Maps -/

/-- An entry is cut out as an assignment to its key. -/
theorem cutsOut_entryText (key : PlainText) {value : List Char} (h : ValueText value) :
    CutsOut true (entryText key value) (.assignment key.text (.source value)) := by
  have hlead : ∀ c ∈ [' '], isSpacing c = true :=
    List.forall_mem_singleton.2 (show isSpacing ' ' = true from rfl)
  have hentry : entryText key value = (key.literal ++ [' ', '=', ' ']) ++ value := by
    simp [entryText]
  rw [hentry]
  refine cutsOut_assignment h hlead fun done rest => ?_
  have hkey := key.readKey?_literal (' ' :: '=' :: ' ' :: (value ++ rest))
  rw [PlainText.literal_append] at hkey
  rw [List.append_assoc, PlainText.literal_append]
  exact statementsFrom_key true done (by decide) (by decide) hkey

/-- **The entries of a written map are found again.** -/
theorem statements_entries {es : List (PlainText × Term)} (h : ∀ e ∈ es, ValueText e.2.source) :
    statements true (commaSeparated (es.map fun e => entryText e.1 e.2.source)) =
      es.map fun e => .assignment e.1.text (.source e.2.source) := by
  have hcut : ∀ e ∈ (Spaced.comma es).items, CutsOut true (entryText e.1 e.2.source)
      (.assignment e.1.text (.source e.2.source)) := by
    rw [Spaced.items_comma]
    exact fun e he => cutsOut_entryText e.1 (h e he)
  have hread := statements_text (Spaced.comma es) hcut
  rwa [Spaced.text_comma, Spaced.items_comma] at hread

/-! ## Brackets -/

/-- Texts with commas between them stand in brackets together. -/
theorem passage_commaSeparated {parts : List (List Char)} (h : ∀ cs ∈ parts, Passage true cs) :
    Passage true (commaSeparated parts) := by
  have hitems : ∀ cs ∈ (Spaced.comma parts).items, Passage true (id cs) := by
    rwa [Spaced.items_comma]
  have hpassage := (Spaced.comma parts).passage hitems
  rwa [Spaced.text_comma, List.map_id] at hpassage

/-- What stands in brackets is the text of a value. -/
theorem valueText_group {opener closer : Char} (hpair : IsPair opener closer) {inner : List Char}
    (h : Passage true inner) : ValueText (opener :: (inner ++ [closer])) := by
  have hblank : isBlank opener = false ∧ isBlank closer = false ∧ opener ≠ 'f' := by
    rcases hpair with ⟨rfl, rfl⟩ | ⟨rfl, rfl⟩ | ⟨rfl, rfl⟩ <;> decide
  -- It begins with the opening bracket and ends with the closing one.
  refine ⟨.group hpair h, fun c hc => ?_, fun c hc => ?_, by simp, fun rest => ?_⟩
  · obtain rfl : opener = c := by simpa using hc
    exact ⟨hblank.1, hpair.ne.1.2.2.2⟩
  · rw [← List.cons_append, List.getLast?_concat] at hc
    obtain rfl : closer = c := by simpa using hc
    exact hblank.2.1
  · exact isForExpression_of_ne hblank.1 hblank.2.2

/-- The inside of brackets around a passage is the passage. -/
theorem inside?_passage {opener closer : Char} (hpair : IsPair opener closer) {inner : List Char}
    (h : Passage true inner) : inside? opener closer (inner ++ [closer]) = some inner := by
  have hclose := h.closeBracket_eq_some hpair []
  rw [inside?, hclose, if_pos (by simp), List.dropLast_concat]

theorem shapeOf_list {inner : List Char} (h : Passage true inner)
    (hloop : isForExpression inner = false) : shapeOf ('[' :: (inner ++ [']'])) = .list inner := by
  have hpair : IsPair '[' ']' := .inr (.inl ⟨rfl, rfl⟩)
  rw [shapeOf_eq_literalShape (by decide) (by decide) (by simp)]
  show bracketShape ('[' :: (inner ++ [']'])) = .list inner
  rw [bracketShape, inside?_passage hpair h]
  simp [hloop]

theorem shapeOf_map {inner : List Char} (h : Passage true inner)
    (hloop : isForExpression inner = false) :
    shapeOf ('\x7b' :: (inner ++ ['\x7d'])) = .map inner := by
  have hpair : IsPair '\x7b' '\x7d' := .inr (.inr ⟨rfl, rfl⟩)
  rw [shapeOf_eq_literalShape (by decide) (by decide) (by simp)]
  show bracketShape ('\x7b' :: (inner ++ ['\x7d'])) = .map inner
  rw [bracketShape, inside?_passage hpair h]
  simp [hloop]

/-! ## Terms -/

namespace Term

theorem passage_items {xs : List Term} (h : ∀ x ∈ xs, ValueText x.source) :
    Passage true (commaSeparated (xs.map source)) :=
  passage_commaSeparated fun cs hcs => by
    obtain ⟨x, hx, rfl⟩ := List.mem_map.1 hcs
    exact (h x hx).passage.loosen

theorem passage_entries {es : List (PlainText × Term)} (h : ∀ e ∈ es, ValueText e.2.source) :
    Passage true (commaSeparated (es.map fun e => entryText e.1 e.2.source)) :=
  passage_commaSeparated fun cs hcs => by
    obtain ⟨e, he, rfl⟩ := List.mem_map.1 hcs
    exact .append (.plain e.1) (.cons (by decide) (.inl rfl) (.cons (by decide) (.inl rfl)
      (.cons (by decide) (.inl rfl) (h e he).passage.loosen)))

/-- No list of values begins a `for` expression: its first value does not. -/
theorem isForExpression_items {xs : List Term} (h : ∀ x ∈ xs, ValueText x.source) :
    isForExpression (commaSeparated (xs.map source)) = false := by
  rw [← Spaced.text_comma]
  refine isForExpression_text _ fun x hx rest => ?_
  rw [Spaced.items_comma] at hx
  exact (h x hx).loopless rest

/-- No map begins a `for` expression: it begins with a quote, if it is not empty. -/
theorem isForExpression_entries (es : List (PlainText × Term)) :
    isForExpression (commaSeparated (es.map fun e => entryText e.1 e.2.source)) = false := by
  rw [← Spaced.text_comma]
  exact isForExpression_text _ fun e _ rest => isForExpression_of_ne (by decide) (by decide)

/-- Written terms are the texts of values. -/
theorem valueText {t : Term} (h : t.WellFormed) : ValueText t.source := by
  induction h with
  | scalar s => exact s.valueText
  | list _ ih =>
    rw [source, itemSources_eq_map]
    exact valueText_group (.inr (.inl ⟨rfl, rfl⟩)) (passage_items ih)
  | map _ _ ih =>
    rw [source, entrySources_eq_map]
    exact valueText_group (.inr (.inr ⟨rfl, rfl⟩)) (passage_entries ih)

theorem fits_itemLevels (room : Room) (xs : List Term) :
    room.fits (itemLevels xs) = xs.all fun x => room.fits (2 + x.levels) := by
  induction xs with
  | nil => rw [itemLevels, Room.fits_zero, List.all_nil]
  | cons x xs ih => rw [itemLevels, Room.fits_max, ih, List.all_cons]

theorem fits_entryLevels (room : Room) (es : List (PlainText × Term)) :
    room.fits (entryLevels es) = es.all fun e => room.fits (3 + e.2.levels) := by
  induction es with
  | nil => rw [entryLevels, Room.fits_zero, List.all_nil]
  | cons e es ih => rw [entryLevels, Room.fits_max, ih, List.all_cons]

/-- Assignments to new keys put their values behind those before. -/
theorem foldl_assign {es : List (PlainText × Term)} {sc : Scope}
    (h : (sc.entries.map (·.1) ++ es.map (·.1.text)).Nodup) :
    (es.foldl (fun sc e => sc.assign e.1.text e.2.meaning) sc).entries =
      sc.entries ++ es.map fun e => (e.1.text, e.2.meaning) := by
  induction es generalizing sc with
  | nil => rw [List.foldl_nil, List.map_nil, List.append_nil]
  | cons e es ih =>
    have hnew : e.1.text ∉ sc.entries.map (·.1) := by
      rw [List.map_cons, List.nodup_append] at h
      exact fun hmem => h.2.2 _ hmem _ List.mem_cons_self rfl
    have hset : (sc.assign e.1.text e.2.meaning).entries =
        sc.entries ++ [(e.1.text, e.2.meaning)] := Entries.set_of_notMem hnew
    have hrest :
        ((sc.assign e.1.text e.2.meaning).entries.map (·.1) ++ es.map (·.1.text)).Nodup := by
      rw [hset]
      simpa using h
    rw [List.foldl_cons, ih hrest, hset, List.map_cons, List.append_assoc, List.singleton_append]

/-- The inside of a written map reads as its entries. -/
theorem readBody_entries {es : List (PlainText × Term)} (hkeys : (es.map (·.1.text)).Nodup)
    (htexts : ∀ e ∈ es, ValueText e.2.source) {room : Room}
    (h : ∀ e ∈ es, ∀ room : Room, readValue room e.2.source =
      .given (room.fits e.2.levels) e.2.meaning) :
    readBody room true (commaSeparated (es.map fun e => entryText e.1 e.2.source)) =
      .given (room.fits (entryLevels es)) (es.map fun e => (e.1.text, e.2.meaning)) := by
  have hrun (e : PlainText × Term) (he : e ∈ es) (sc : Scope) :
      Statement.run room sc (.assignment e.1.text (.source e.2.source)) =
        .given (room.fits (3 + e.2.levels)) (sc.assign e.1.text e.2.meaning) := by
    rw [Statement.run]
    refine Reading.within_given (fun room => ?_) room
    rw [h e he, Reading.given_map]
  rw [readBody_eq, statements_entries htexts, List.foldlM_map, Reading.foldlM_given hrun,
    Reading.given_map, fits_entryLevels, foldl_assign (by simpa using hkeys), List.nil_append]

/-- **A written term reads as its meaning**, in every room that has space for its levels. -/
theorem readValue_source {t : Term} (h : t.WellFormed) (room : Room) :
    readValue room t.source = .given (room.fits t.levels) t.meaning := by
  -- The induction is on the term; its parts are read in less room.
  induction h generalizing room with
  | scalar s => rw [source, s.readValue_source, levels, Room.fits_zero, meaning, Reading.given_true]
  | @list xs h ih =>
    -- the brackets are told by their shape, the items found, and each item read two levels in
    have htexts : ∀ x ∈ xs, ValueText x.source := fun x hx => valueText (h x hx)
    have hshape : shapeOf (source (.list xs)) = .list (commaSeparated (xs.map source)) := by
      rw [source, itemSources_eq_map]
      exact shapeOf_list (passage_items htexts) (isForExpression_items htexts)
    have hitems : elements (commaSeparated (xs.map source)) = xs.map source :=
      elements_commaSeparated (by simpa using htexts)
    have hread : (xs.map source).mapM (fun item =>
        Reading.within 2 room fun room => readValue room item) =
          .given (room.fits (itemLevels xs)) (xs.map meaning) := by
      rw [List.mapM_map, fits_itemLevels]
      exact Reading.mapM_given fun x hx => Reading.within_given (ih x hx) room
    rw [readValue_of_list (by simp [source]) hshape, hitems, hread, Reading.given_map, levels,
      meaning, itemMeanings_eq_map]
  | @map es hkeys h ih =>
    -- the inside of the braces is a body that assigns each value to its key
    have htexts : ∀ e ∈ es, ValueText e.2.source := fun e he => valueText (h e he)
    have hshape : shapeOf (source (.map es)) =
        .map (commaSeparated (es.map fun e => entryText e.1 e.2.source)) := by
      rw [source, entrySources_eq_map]
      exact shapeOf_map (passage_entries htexts) (isForExpression_entries es)
    rw [readValue_of_map (by simp [source]) hshape, readBody_entries hkeys htexts ih,
      Reading.given_map, levels, meaning, entryMeanings_eq_map]

end Term

end Groundplan.Hcl
