import Groundplan.Proofs.Hcl.Passage
import Groundplan.Proofs.Hcl.Suffix

/-!
# What a literal contains

A text between quotes is contained in its literal if the literal ends at its own quote and opens no
template. These are exactly the texts that are made up of escapes, doubled sigils and characters
that stand for themselves.

## Main results

* `inside_backslash_iff`, `inside_plain_iff`, `inside_twin_iff`, `inside_sigil_iff`: what stands
  first decides how much of the text is passed over
* `inside_iff_contained`: **a text is contained exactly if it may stand between quotes**
-/

namespace Groundplan.Hcl

/-! ## The first character -/

section First

variable {c d : Char} {cs : List Char}

theorem inside_backslash_iff : Inside ('\\' :: d :: cs) ↔ Inside cs := by
  constructor
  · rintro (_ | ⟨_, h⟩ | ⟨hc, -⟩ | ⟨hc, -⟩)
    · exact h
    · exact absurd hc (by decide)
    · exact absurd rfl hc.1
  · exact .escape d

theorem not_inside_feed : ¬ Inside ('\n' :: cs) := by
  rintro (_ | _ | ⟨hc, -⟩ | ⟨hc, -⟩)
  · exact absurd hc (by decide)
  · exact hc.2.2.1 rfl

/-- A character that no scanner knows stands for itself. -/
theorem inside_plain_iff (hslash : c ≠ '\\') (hquote : c ≠ '"') (hfeed : c ≠ '\n')
    (hsigil : isSigil c = false) : Inside (c :: cs) ↔ Inside cs := by
  constructor
  · rintro (_ | _ | ⟨hc, -⟩ | ⟨-, h⟩)
    · exact absurd rfl hslash
    · rw [hsigil] at hc
      cases hc
    · exact h
  · exact .char ⟨hslash, hquote, hfeed, by simp [hsigil]⟩

/-- A doubled sigil is passed over as a whole. -/
theorem inside_twin_iff (hc : isSigil c = true) : Inside (c :: c :: cs) ↔ Inside cs := by
  constructor
  · rintro (_ | _ | ⟨-, h⟩ | ⟨hpass, -⟩)
    · exact absurd hc (by decide)
    · exact h
    · exact absurd rfl (hpass.2.2.2 hc c rfl).1
  · exact .twin hc

theorem not_inside_opening (hc : isSigil c = true) : ¬ Inside (c :: '\x7b' :: cs) := by
  rintro (_ | _ | ⟨-, -⟩ | ⟨hpass, -⟩)
  · exact absurd hc (by decide)
  · exact absurd hc (by decide)
  · exact (hpass.2.2.2 hc _ rfl).2 rfl

/-- A sigil before anything else stands for itself. -/
theorem inside_sigil_iff (hc : isSigil c = true) (hnext : ∀ d ∈ cs.head?, d ≠ c ∧ d ≠ '\x7b') :
    Inside (c :: cs) ↔ Inside cs := by
  have hne := ne_of_isSigil hc
  constructor
  · rintro (_ | _ | ⟨-, h⟩ | ⟨-, h⟩)
    · exact absurd rfl hne.1
    · exact absurd rfl (hnext _ rfl).1
    · exact h
  · exact .char ⟨hne.1, hne.2.1, hne.2.2, fun _ => hnext⟩

end First

/-! ## Containment -/

/-- A text is contained in the literal between whose quotes it stands: the literal ends at its own
quote, and no template stands in it. -/
def Contained (inside rest : List Char) : Prop :=
  closeQuote (inside ++ '"' :: rest) = some rest ∧
    regionFits 0 .quoted (inside ++ '"' :: rest) = true

/-- A scanner does not leave all that it was given. -/
theorem skipRegion_ne_self {n : Nat} {region : Region} {cs rest : List Char} {h : cs.length ≤ n}
    (hle : cs.length ≤ rest.length) : (skipRegion n region cs h).map (·.val) ≠ some rest := by
  intro heq
  obtain ⟨r, hr, rfl⟩ := Option.map_eq_some_iff.1 heq
  have hlt := (closer_suffix_of_skipRegion hr).length_le
  rw [List.length_cons] at hlt
  omega

theorem skipRegion_backslash (d : Char) (cs : List Char) (n : Nat)
    (h : ('\\' :: d :: cs).length ≤ n) :
    (skipRegion n .quoted ('\\' :: d :: cs) h).map (·.val) =
      (skipRegion n .quoted cs (Nat.le_of_succ_le (Nat.le_of_succ_le h))).map (·.val) := by
  rw [skipRegion]
  simp

theorem regionFits_backslash (d : Char) (cs : List Char) :
    regionFits 0 .quoted ('\\' :: d :: cs) = regionFits 0 .quoted cs := by
  rw [regionFits.eq_def]
  simp

theorem skipRegion_quote (cs : List Char) (n : Nat) (h : ('"' :: cs).length ≤ n) :
    (skipRegion n .quoted ('"' :: cs) h).map (·.val) = some cs := by
  rw [skipRegion]
  simp

theorem skipRegion_feed (cs : List Char) (n : Nat) (h : ('\n' :: cs).length ≤ n) :
    (skipRegion n .quoted ('\n' :: cs) h).map (·.val) = none := by
  rw [skipRegion]
  simp

/-- A template is one level further in than there are. -/
theorem regionFits_opening {c : Char} (hc : isSigil c = true) (cs : List Char) :
    regionFits 0 .quoted (c :: '\x7b' :: cs) = false := by
  have hne := ne_of_isSigil hc
  have hbrace : '\x7b' ≠ c := by
    rintro rfl
    cases hc
  simp only [isSigil] at hc
  rw [regionFits.eq_def]
  simp only [beq_iff_eq, hne, hc, hbrace, Bool.or_eq_true, or_self, ↓reduceIte]

theorem inside_of_contained {inside rest : List Char} {n : Nat}
    {hn : (inside ++ '"' :: rest).length ≤ n}
    (hclose : (skipRegion n .quoted (inside ++ '"' :: rest) hn).map (·.val) = some rest)
    (hfits : regionFits 0 .quoted (inside ++ '"' :: rest) = true) : Inside inside := by
  -- Induction on the length: what stands first is passed over, one character or two.
  induction hlen : inside.length using Nat.strongRecOn generalizing inside n with
  | ind k ih =>
    subst hlen
    cases inside with
    | nil => exact .nil
    | cons c cs =>
      have passed (hpass : Passes c (cs ++ '"' :: rest)) : Inside cs :=
        ih _ (by simp) ((skipRegion_of_passes hpass n hn).symm.trans hclose)
          ((regionFits_of_passes hpass 0).symm.trans hfits) rfl
      by_cases hslash : c = '\\'
      · subst hslash
        cases cs with
        | nil =>
          -- the backslash would hide the quote
          exact absurd ((skipRegion_backslash '"' rest n hn).symm.trans hclose)
            (skipRegion_ne_self (Nat.le_refl _))
        | cons d cs =>
          exact .escape d (ih _ (by simp only [List.length_cons]; omega)
            ((skipRegion_backslash d _ n hn).symm.trans hclose)
            ((regionFits_backslash d _).symm.trans hfits) rfl)
      by_cases hquote : c = '"'
      · -- the literal would end here, before its own quote
        subst hquote
        have hleft := (skipRegion_quote (cs ++ '"' :: rest) n hn).symm.trans hclose
        have hlength := congrArg List.length (Option.some.inj hleft)
        simp only [List.length_append, List.length_cons] at hlength
        omega
      by_cases hfeed : c = '\n'
      · subst hfeed
        exact absurd ((skipRegion_feed _ n hn).symm.trans hclose) (by simp)
      cases hsigil : isSigil c with
      | false =>
        exact (inside_plain_iff hslash hquote hfeed hsigil).2
          (passed ⟨hslash, hquote, hfeed, by simp [hsigil]⟩)
      | true =>
        cases cs with
        | nil => exact (inside_sigil_iff hsigil (by simp)).2 .nil
        | cons d cs =>
          by_cases htwin : d = c
          · subst htwin
            exact .twin hsigil (ih _ (by simp only [List.length_cons]; omega)
              ((skipRegion_of_isSigil hsigil n hn).symm.trans hclose)
              ((regionFits_of_isSigil hsigil 0).symm.trans hfits) rfl)
          by_cases hopen : d = '\x7b'
          · subst hopen
            rw [List.cons_append, List.cons_append, regionFits_opening hsigil] at hfits
            cases hfits
          · have hnext : ∀ e ∈ (d :: cs).head?, e ≠ c ∧ e ≠ '\x7b' := by
              rintro e ⟨⟩
              exact ⟨htwin, hopen⟩
            exact (inside_sigil_iff hsigil hnext).2 (passed ⟨hslash, hquote, hfeed, fun _ => hnext⟩)

/-- **A text is contained exactly if it may stand between quotes**, whatever follows. -/
theorem inside_iff_contained {inside : List Char} (rest : List Char) :
    Inside inside ↔ Contained inside rest :=
  ⟨fun h => ⟨closeQuote_inside h rest, regionFits_inside h rest 0⟩,
    fun h => inside_of_contained h.1 h.2⟩

end Groundplan.Hcl
