import Groundplan.Hcl.Statement

/-!
# What scanners leave

A scanner takes the text from where it stands and answers with the text that is left. What it leaves
is always an end of what it took, so it stands for a later place of the same source; and where
something has been recognised, at least one character stands before that place.

## Main definitions

* `Behind`: a text is what is left of another one when some of it has been read
* `EndsAtClosers`: regions end at their closers, in a text and in what follows in it

## Main results

* `closer_suffix_of_skipRegion`, `closer_suffix_of_closeBracket`: literals, templates and brackets
  end at the character that closes them
* `behind_of_afterComment?`, `behind_of_heredoc?`, `behind_of_readKey?`: what has been recognised
  is passed
* `keyedStatement_suffix`, `behind_readSection`: statements and top-level blocks
-/

namespace Groundplan.Hcl

open Text

/-! ## Later places of a text -/

/-- A text is what is left of another one when at least one character of it has been read. -/
def Behind (rest cs : List Char) : Prop :=
  rest <:+ cs ∧ rest.length < cs.length

section Behind

variable {c : Char} {r cs ds : List Char}

theorem suffix_of_cons_suffix (h : c :: r <:+ cs) : r <:+ cs :=
  (List.suffix_cons c r).trans h

theorem behind_of_cons_suffix (h : c :: r <:+ cs) : Behind r cs :=
  ⟨suffix_of_cons_suffix h, h.length_le⟩

theorem behind_cons (h : r <:+ cs) : Behind r (c :: cs) :=
  ⟨h.trans (List.suffix_cons c cs), Nat.lt_succ_of_le h.length_le⟩

theorem Behind.trans_suffix (h : Behind r cs) (hcs : cs <:+ ds) : Behind r ds :=
  ⟨h.1.trans hcs, Nat.lt_of_lt_of_le h.2 hcs.length_le⟩

theorem behind_of_suffix_of_behind (hr : r <:+ cs) (h : Behind cs ds) : Behind r ds :=
  ⟨hr.trans h.1, Nat.lt_of_le_of_lt hr.length_le h.2⟩

/-- What is read and what is left make up the text. -/
theorem consumed_append_of_suffix (h : r <:+ cs) : consumed cs r ++ r = cs := by
  obtain ⟨read, rfl⟩ := h
  simp [consumed]

end Behind

/-! ## Lines -/

theorem toLineEnd_suffix (cs : List Char) : toLineEnd cs <:+ cs :=
  List.dropWhile_suffix _

theorem nextLine_suffix (cs : List Char) : nextLine cs <:+ cs :=
  (List.drop_suffix 1 _).trans (toLineEnd_suffix cs)

/-- The next line begins behind the first character. -/
theorem nextLine_cons_suffix (c : Char) (cs : List Char) : nextLine (c :: cs) <:+ cs := by
  rw [nextLine, toLineEnd]
  by_cases h : inLine c = true
  · rw [List.dropWhile_cons_of_pos h]
    exact nextLine_suffix cs
  · rw [List.dropWhile_cons_of_neg h]
    exact List.suffix_rfl

/-! ## Literals and templates -/

/-- The character that ends a region. -/
def Region.closer : Region → Char
  | .quoted => '"'
  | .template _ => '\x7d'

/-- Regions end at their closers, in a text and in what follows in it. -/
def EndsAtClosers (cs : List Char) : Prop :=
  ∀ {n : Nat} {region : Region} {cs' : List Char} {h : cs'.length ≤ n}
    {r : { r : List Char // r.length ≤ n }}, cs' <:+ cs →
    skipRegion n region cs' h = some r → region.closer :: r.val <:+ cs

section Step

variable {n : Nat} {c : Char} {rest : List Char} {h : (c :: rest).length ≤ n}
  {r : { r : List Char // r.length ≤ n }}

/-- A literal ends here, or further on. -/
theorem closer_suffix_of_quoted (hrest : EndsAtClosers rest)
    (hr : skipRegion n .quoted (c :: rest) h = some r) : '"' :: r.val <:+ c :: rest := by
  refine List.suffix_cons_iff.2 ?_
  rw [skipRegion] at hr
  split at hr
  · -- a backslash hides a character
    exact .inr (hrest (List.drop_suffix 1 rest) hr)
  split at hr
  · -- the quote
    rename_i hc
    cases hr
    simp_all
  split at hr
  · cases hr
  split at hr
  · -- a sigil, which hides another one, opens a template, or stands for itself
    cases rest with
    | nil => cases hr
    | cons d more =>
      dsimp only at hr
      have hmore : more <:+ d :: more := List.suffix_cons d more
      split at hr
      · exact .inr (hrest hmore hr)
      split at hr
      · split at hr
        · cases hr
        · rename_i heq
          exact .inr (hrest (suffix_of_cons_suffix (hrest hmore heq)) hr)
      · exact .inr (hrest List.suffix_rfl hr)
  · exact .inr (hrest List.suffix_rfl hr)

/-- A template ends here, or further on. -/
theorem closer_suffix_of_template {depth : Nat} (hrest : EndsAtClosers rest)
    (hr : skipRegion n (.template depth) (c :: rest) h = some r) :
    '\x7d' :: r.val <:+ c :: rest := by
  refine List.suffix_cons_iff.2 ?_
  rw [skipRegion.eq_def] at hr
  dsimp only at hr
  split at hr
  · -- a literal in the template, closed or not
    split at hr
    · rename_i heq
      exact .inr (hrest (suffix_of_cons_suffix (hrest List.suffix_rfl heq)) hr)
    · exact .inr (hrest (toLineEnd_suffix rest) hr)
  split at hr
  · have hlater := hrest List.suffix_rfl hr
    exact .inr hlater
  split at hr
  · -- the brace that closes the template, or one that is open in it
    rename_i hc
    cases depth with
    | zero =>
      cases hr
      simp_all
    | succ depth =>
      have hlater := hrest List.suffix_rfl hr
      exact .inr hlater
  · exact .inr (hrest List.suffix_rfl hr)

end Step

/-- **A literal ends at a quote, and a template at a brace.** -/
theorem closer_suffix_of_skipRegion {n : Nat} {region : Region} {cs : List Char}
    {h : cs.length ≤ n} {r : { r : List Char // r.length ≤ n }}
    (hr : skipRegion n region cs h = some r) : region.closer :: r.val <:+ cs := by
  -- Induction on the length of the text: a literal in a template is read from a later place, and so
  -- is what follows it.
  induction hl : cs.length using Nat.strongRecOn generalizing n region cs r with
  | ind k ih =>
    cases cs with
    | nil => simp [skipRegion] at hr
    | cons c rest =>
      subst hl
      have hrest : EndsAtClosers rest := fun hsub hr' =>
        (ih _ (Nat.lt_succ_of_le hsub.length_le) hr' rfl).trans hsub
      cases region with
      | quoted => exact closer_suffix_of_quoted hrest hr
      | template depth => exact closer_suffix_of_template hrest hr

/-- A literal that is closed ends at its quote. -/
theorem quote_suffix_of_closeQuote {cs r : List Char} (h : closeQuote cs = some r) :
    '"' :: r <:+ cs := by
  obtain ⟨p, hp, rfl⟩ := Option.map_eq_some_iff.1 h
  exact closer_suffix_of_skipRegion hp

theorem skipString_suffix (cs : List Char) : skipString cs <:+ cs := by
  rw [skipString]
  cases h : closeQuote cs with
  | none => exact toLineEnd_suffix cs
  | some r => exact suffix_of_cons_suffix (quote_suffix_of_closeQuote h)

/-! ## Comments and heredocs -/

theorem afterBlockComment_suffix (cs : List Char) : afterBlockComment cs <:+ cs := by
  fun_induction afterBlockComment cs with
  | case1 rest => exact (List.suffix_cons _ rest).trans (List.suffix_cons _ _)
  | case2 c rest _ ih => exact ih.trans (List.suffix_cons c rest)
  | case3 => exact List.suffix_rfl

/-- **A comment is passed.** -/
theorem behind_of_afterComment? {cs r : List Char} (h : afterComment? cs = some r) :
    Behind r cs := by
  rw [afterComment?.eq_def] at h
  split at h
  · rename_i rest
    cases h
    exact behind_cons (toLineEnd_suffix rest)
  · rename_i rest
    cases h
    exact behind_cons ((toLineEnd_suffix rest).trans (List.suffix_cons _ rest))
  · rename_i rest
    cases h
    exact behind_cons ((afterBlockComment_suffix rest).trans (List.suffix_cons _ rest))
  · cases h

theorem heredocLines_suffix (marker : List Char) (done : List (List Char)) (cs : List Char) :
    (heredocLines marker done cs).2 <:+ cs := by
  fun_induction heredocLines marker done cs with
  | case1 => exact List.suffix_rfl
  | case2 done c cs line h => exact toLineEnd_suffix _
  | case3 done c cs line h ih => exact ih.trans (nextLine_suffix _)

theorem suffix_of_afterOpening? {cs r : List Char} (h : afterOpening? cs = some r) : r <:+ cs := by
  rw [afterOpening?.eq_def] at h
  split at h
  · cases h
    exact List.suffix_cons _ r
  · cases h
    exact (List.suffix_cons _ r).trans (List.suffix_cons _ _)
  · cases h

theorem suffix_of_heredocFrom? {indented : Bool} {cs : List Char} {d : Heredoc}
    (h : heredocFrom? indented cs = some d) : d.rest <:+ cs := by
  rw [heredocFrom?.eq_def] at h
  split at h
  · cases h
  · rename_i c more
    split at h
    · split at h
      · cases h
      · -- the lines stand behind the marker, the blanks after it, and the line break
        rename_i text htext
        cases h
        have hopening := suffix_of_afterOpening? htext
        have hspacing := List.dropWhile_suffix isSpacing (l := more.dropWhile isWord)
        have hmarker := List.dropWhile_suffix isWord (l := more)
        exact (heredocLines_suffix _ [] text).trans <| hopening.trans <| hspacing.trans <|
          hmarker.trans (List.suffix_cons c more)
    · cases h

/-- **A heredoc is passed.** -/
theorem behind_of_heredoc? {cs : List Char} {d : Heredoc} (h : heredoc? cs = some d) :
    Behind d.rest cs := by
  rw [heredoc?.eq_def] at h
  split at h
  · exact behind_cons (((suffix_of_heredocFrom? h).trans (List.suffix_cons _ _)).trans
      (List.suffix_cons _ _))
  · exact behind_cons ((suffix_of_heredocFrom? h).trans (List.suffix_cons _ _))
  · cases h

theorem behind_of_afterIgnored? {cs r : List Char} (h : afterIgnored? cs = some r) :
    Behind r cs := by
  rw [afterIgnored?] at h
  split at h
  · rename_i hc
    cases h
    exact behind_of_afterComment? hc
  · obtain ⟨d, hd, rfl⟩ := Option.map_eq_some_iff.1 h
    exact behind_of_heredoc? hd

/-! ## Brackets -/

/-- **A bracket is closed by one of its kind.** -/
theorem closer_suffix_of_closeBracket {opener closer : Char} {depth : Nat} {cs r : List Char}
    (h : closeBracket opener closer depth cs = some r) : closer :: r <:+ cs := by
  fun_induction closeBracket opener closer depth cs with
  | case1 => cases h
  | case2 depth c rest _ ih =>
    exact (ih h).trans ((skipString_suffix rest).trans (List.suffix_cons c rest))
  | case3 depth c rest _ r' hr ih => exact (ih h).trans (behind_of_afterIgnored? hr).1
  | case4 depth c rest _ _ _ ih => exact (ih h).trans (List.suffix_cons c rest)
  | case5 c rest _ _ _ hc =>
    cases h
    obtain rfl := beq_iff_eq.1 hc
    exact List.suffix_rfl
  | case6 c rest _ _ _ _ depth ih => exact (ih h).trans (List.suffix_cons c rest)
  | case7 depth c rest _ _ _ _ ih => exact (ih h).trans (List.suffix_cons c rest)

/-! ## Keys, labels and values -/

/-- **A key is passed.** -/
theorem behind_of_readKey? {cs r : List Char} {key : String} (h : readKey? cs = some (key, r)) :
    Behind r cs := by
  rw [readKey?.eq_def] at h
  split at h
  · cases h
  · rename_i c rest
    split at h
    · obtain ⟨r', hr, heq⟩ := Option.map_eq_some_iff.1 h
      cases heq
      exact behind_cons (suffix_of_cons_suffix (quote_suffix_of_closeQuote hr))
    · split at h
      · cases h
        exact behind_cons (List.dropWhile_suffix _)
      · cases h

theorem readLabels_suffix (done : List String) (cs : List Char) :
    (readLabels done cs).2 <:+ cs := by
  fun_induction readLabels done cs with
  | case1 done cs label rest h ih =>
    exact ih.trans ((behind_of_readKey? h).1.trans (List.dropWhile_suffix _))
  | case2 done cs h => exact List.dropWhile_suffix _

theorem skipBlank_suffix (cs : List Char) : skipBlank cs <:+ cs := by
  fun_induction skipBlank cs with
  | case1 => exact List.suffix_rfl
  | case2 c rest _ ih => exact ih.trans (List.suffix_cons c rest)
  | case3 c rest _ r h ih => exact ih.trans (behind_of_afterComment? h).1
  | case4 => exact List.suffix_rfl

theorem afterValue_suffix (commaEnds : Bool) (depth : Nat) (cs : List Char) :
    afterValue commaEnds depth cs <:+ cs := by
  fun_induction afterValue commaEnds depth cs with
  | case1 => exact List.suffix_rfl
  | case2 depth c rest _ ih =>
    exact ih.trans ((skipString_suffix rest).trans (List.suffix_cons c rest))
  | case3 => exact List.suffix_rfl
  | case4 depth c rest _ r hr _ ih => exact ih.trans (behind_of_afterComment? hr).1
  | case5 depth c rest _ _ d hd ih =>
    split at hd
    · cases hd
    · exact ih.trans (behind_of_heredoc? hd).1
  | case6 depth c rest _ _ _ _ ih => exact ih.trans (List.suffix_cons c rest)
  | case7 => exact List.suffix_rfl
  | case8 c rest _ _ _ _ depth _ _ ih => exact ih.trans (List.suffix_cons c rest)
  | case9 => exact List.suffix_rfl
  | case10 depth c rest _ _ _ _ _ _ ih => exact ih.trans (List.suffix_cons c rest)

theorem readRaw_suffix (commaEnds : Bool) (cs : List Char) : (readRaw commaEnds cs).2 <:+ cs := by
  have hspacing := List.dropWhile_suffix isSpacing (l := cs)
  rw [readRaw]
  dsimp only
  split
  · rename_i d hd
    exact (behind_of_heredoc? hd).1.trans hspacing
  · exact (afterValue_suffix commaEnds 0 _).trans hspacing

/-! ## Statements and top-level blocks -/

theorem suffix_of_afterAssign? {inline : Bool} {cs r : List Char}
    (h : afterAssign? inline cs = some r) : r <:+ cs := by
  rw [afterAssign?.eq_def] at h
  split at h
  · cases h
  · cases h
    exact List.suffix_cons _ r
  · split at h
    · cases h
      exact List.suffix_cons _ r
    · cases h
  · cases h

theorem keyedStatement_suffix (inline : Bool) (key : String) (cs : List Char) :
    (keyedStatement inline key cs).2 <:+ cs := by
  have hspacing := List.dropWhile_suffix isSpacing (l := cs)
  rw [keyedStatement]
  split
  · rename_i v hv
    exact (readRaw_suffix inline v).trans ((suffix_of_afterAssign? hv).trans hspacing)
  · have hlabels := (readLabels_suffix [] (cs.dropWhile isSpacing)).trans hspacing
    have hblank := (skipBlank_suffix _).trans hlabels
    dsimp only
    split
    · -- a nested block, closed or not
      rename_i body hbody
      rw [hbody] at hblank
      split
      · rename_i rest hrest
        exact (suffix_of_cons_suffix (closer_suffix_of_closeBracket hrest)).trans
          (suffix_of_cons_suffix hblank)
      · exact List.nil_suffix
    · exact nextLine_suffix cs

theorem behind_afterUnrecognized (inline : Bool) (c : Char) (rest : List Char) :
    Behind (afterUnrecognized inline c rest) (c :: rest) := by
  refine ⟨?_, afterUnrecognized_length_lt inline c rest⟩
  rw [afterUnrecognized]
  split
  · exact readRaw_suffix inline (c :: rest)
  · exact List.suffix_cons c rest

/-- What follows the opening brace of a top-level block stands behind its keyword. -/
theorem body_suffix_of_skipBlank {cs body : List Char}
    (h : skipBlank (readLabels [] (cs.dropWhile isNamePart)).2 = '\x7b' :: body) :
    '\x7b' :: body <:+ cs.dropWhile isNamePart := by
  rw [← h]
  exact (skipBlank_suffix _).trans (readLabels_suffix [] _)

/-- **A top-level block is passed, and so is a word that begins none.** -/
theorem behind_readSection (line : Nat) (c : Char) (cs : List Char) :
    Behind (readSection line (c :: cs)).2 (c :: cs) := by
  refine ⟨?_, readSection_length_lt line (c :: cs) (List.cons_ne_nil c cs)⟩
  rw [readSection]
  dsimp only
  split
  · rename_i body hbody
    have hword := List.dropWhile_suffix isNamePart (l := c :: cs)
    have hbody := suffix_of_cons_suffix (body_suffix_of_skipBlank hbody)
    split
    · rename_i rest hrest
      exact (suffix_of_cons_suffix (closer_suffix_of_closeBracket hrest)).trans (hbody.trans hword)
    · exact List.nil_suffix
  · exact nextLine_suffix _

end Groundplan.Hcl
