import Groundplan.Deploy.Override
import Groundplan.Proofs.Hcl.Contained
import Mathlib.Algebra.Ring.Parity

/-!
# Texts as literals of the override

The override escapes quotes and backslashes and doubles the dollar sign of an opening. A text that
is written so may still leave its literal: by a line feed, by an opening with a percent sign, and by
an opening that is escaped already, since its dollar signs pair up in another way.

## Main definitions

* `trailing`: how often a text ends with a character
* `OpensAt`: a brace behind such a text opens a template in the literal
* `Tame`: a text that stays in its literal

## Main results

* `inside_escapeLiteral_iff`: **a text stays in its literal exactly if it is tame**
* `unescape_escapeLiteral`: the literal of a text stands for the text with doubled openings
-/

namespace Groundplan.Deploy

open Hcl

/-! ## Runs of sigils -/

/-- How often a text ends with a character. -/
def trailing (c : Char) (cs : List Char) : Nat :=
  (cs.reverse.takeWhile (· == c)).length

@[simp] theorem trailing_nil (c : Char) : trailing c [] = 0 := rfl

theorem trailing_concat_self (c : Char) (cs : List Char) :
    trailing c (cs ++ [c]) = trailing c cs + 1 := by
  simp [trailing]

theorem trailing_concat_of_ne {c d : Char} (h : d ≠ c) (cs : List Char) :
    trailing c (cs ++ [d]) = 0 := by
  simp [trailing, h]

/-- A brace behind a text opens a template in the literal: behind dollar signs if there is an even
number of them, since the last is doubled, and behind percent signs if the number is odd. -/
def OpensAt (before : List Char) : Prop :=
  (0 < trailing '$' before ∧ Even (trailing '$' before)) ∨ Odd (trailing '%' before)

/-- A text that is tame behind another one: it has no line feed, and none of its braces opens a
template. -/
def TameBehind (done cs : List Char) : Prop :=
  '\n' ∉ cs ∧ ∀ before after, cs = before ++ '\x7b' :: after → ¬ OpensAt (done ++ before)

/-- A text that stays in its literal. -/
def Tame (s : String) : Prop :=
  TameBehind [] s.toList

section Tame

variable {c : Char} {done cs : List Char}

theorem tameBehind_nil : TameBehind done [] :=
  ⟨List.not_mem_nil, by simp⟩

theorem tameBehind_cons_iff : TameBehind done (c :: cs) ↔
    c ≠ '\n' ∧ (c = '\x7b' → ¬ OpensAt done) ∧ TameBehind (done ++ [c]) cs := by
  constructor
  · rintro ⟨hfeed, hopen⟩
    refine ⟨fun hc => hfeed (hc ▸ List.mem_cons_self), fun hc => ?_,
      fun hmem => hfeed (List.mem_cons_of_mem c hmem), fun before after heq => ?_⟩
    · have := hopen [] cs (by rw [hc]; rfl)
      rwa [List.append_nil] at this
    · have := hopen (c :: before) after (by rw [heq]; rfl)
      rwa [List.append_assoc, List.singleton_append]
  · rintro ⟨hne, hbrace, hfeed, hopen⟩
    refine ⟨fun hmem => ?_, fun before after heq => ?_⟩
    · rcases List.mem_cons.1 hmem with hc | hc
      · exact hne hc.symm
      · exact hfeed hc
    · -- the brace stands first, or further on
      cases before with
      | nil =>
        rw [List.append_nil]
        exact hbrace (List.cons.inj heq).1
      | cons d before =>
        obtain ⟨rfl, hrest⟩ := List.cons.inj heq
        have := hopen before after hrest
        rwa [List.append_assoc, List.singleton_append] at this

end Tame

/-! ## What is left of a run -/

/-- The sigil that a scanner has still to look at behind a text: the last one of an odd run. -/
inductive Pending (done : List Char) : List Char → Prop
  | none (hdollar : Even (trailing '$' done)) (hpercent : Even (trailing '%' done)) :
      Pending done []
  | dollar (hdollar : Odd (trailing '$' done)) (hpercent : trailing '%' done = 0) :
      Pending done ['$']
  | percent (hdollar : trailing '$' done = 0) (hpercent : Odd (trailing '%' done)) :
      Pending done ['%']

theorem pending_nil : Pending [] [] :=
  .none (by simp) (by simp)

theorem pending_concat {c : Char} (hdollar : c ≠ '$') (hpercent : c ≠ '%') (done : List Char) :
    Pending (done ++ [c]) [] :=
  .none (by simp [trailing_concat_of_ne hdollar]) (by simp [trailing_concat_of_ne hpercent])

variable {done p cs : List Char}

/-- A character that no sigil goes together with is looked at by itself. -/
theorem Pending.inside_iff (h : Pending done p) {c : Char} (hdollar : c ≠ '$') (hpercent : c ≠ '%')
    (hbrace : c ≠ '\x7b') (cs : List Char) : Inside (p ++ c :: cs) ↔ Inside (c :: cs) := by
  cases h with
  | none => rfl
  | dollar => exact inside_sigil_iff (by decide) (by rintro d ⟨⟩; exact ⟨hdollar, hbrace⟩)
  | percent => exact inside_sigil_iff (by decide) (by rintro d ⟨⟩; exact ⟨hpercent, hbrace⟩)

/-- A dollar sign pairs up with one that is pending, or is pending itself. -/
theorem Pending.concat_dollar (h : Pending done p) : ∃ q, Pending (done ++ ['$']) q ∧
    ∀ cs, Inside (p ++ '$' :: cs) ↔ Inside (q ++ cs) := by
  have hself := trailing_concat_self '$' done
  have hother := trailing_concat_of_ne (c := '%') (d := '$') (by decide) done
  cases h with
  | none hdollar _ =>
    exact ⟨_, .dollar (by rw [hself]; exact hdollar.add_one) hother, fun cs => Iff.rfl⟩
  | dollar hdollar _ =>
    refine ⟨_, .none (by rw [hself]; exact hdollar.add_one) (by simp [hother]), fun cs => ?_⟩
    exact inside_twin_iff (by decide)
  | percent hdollar _ =>
    refine ⟨_, .dollar (by simp [hself, hdollar]) hother, fun cs => ?_⟩
    exact inside_sigil_iff (by decide) (by rintro d ⟨⟩; decide)

theorem Pending.concat_percent (h : Pending done p) : ∃ q, Pending (done ++ ['%']) q ∧
    ∀ cs, Inside (p ++ '%' :: cs) ↔ Inside (q ++ cs) := by
  have hself := trailing_concat_self '%' done
  have hother := trailing_concat_of_ne (c := '$') (d := '%') (by decide) done
  cases h with
  | none _ hpercent =>
    exact ⟨_, .percent hother (by rw [hself]; exact hpercent.add_one), fun cs => Iff.rfl⟩
  | dollar _ hpercent =>
    refine ⟨_, .percent hother (by simp [hself, hpercent]), fun cs => ?_⟩
    exact inside_sigil_iff (by decide) (by rintro d ⟨⟩; decide)
  | percent _ hpercent =>
    refine ⟨_, .none (by simp [hother]) (by rw [hself]; exact hpercent.add_one), fun cs => ?_⟩
    exact inside_twin_iff (by decide)

/-- A brace that is escaped opens a template if a dollar sign before it is pending no more. -/
theorem Pending.inside_opening_iff (h : Pending (done ++ ['$']) p) :
    Inside (p ++ '$' :: '\x7b' :: cs) ↔ ¬ OpensAt (done ++ ['$']) ∧ Inside cs := by
  have hself := trailing_concat_self '$' done
  have hother := trailing_concat_of_ne (c := '%') (d := '$') (by decide) done
  cases h with
  | none hdollar _ =>
    have hopen : OpensAt (done ++ ['$']) := .inl ⟨by omega, hdollar⟩
    exact iff_of_false (not_inside_opening (by decide)) fun hand => hand.1 hopen
  | dollar hdollar hpercent =>
    have htame : ¬ OpensAt (done ++ ['$']) := by
      rintro (⟨-, heven⟩ | hodd)
      · exact Nat.not_even_iff_odd.2 hdollar heven
      · simp [hpercent] at hodd
    rw [and_iff_right htame]
    exact (inside_twin_iff (by decide)).trans
      (inside_plain_iff (by decide) (by decide) (by decide) (by decide))
  | percent hdollar _ => omega

/-- A backslash hides the character behind it. -/
theorem Pending.inside_escaped_iff (h : Pending done p) (c : Char) (cs : List Char) :
    Inside (p ++ '\\' :: c :: cs) ↔ Inside cs :=
  (h.inside_iff (by decide) (by decide) (by decide) _).trans inside_backslash_iff

/-- A brace that is not escaped opens a template if a percent sign before it is pending. -/
theorem Pending.inside_brace_iff (h : Pending done p) (hzero : trailing '$' done = 0) :
    Inside (p ++ '\x7b' :: cs) ↔ ¬ OpensAt done ∧ Inside cs := by
  cases h with
  | none _ heven =>
    have htame : ¬ OpensAt done := by
      rintro (⟨hpos, -⟩ | hodd)
      · omega
      · exact Nat.not_even_iff_odd.2 hodd heven
    rw [and_iff_right htame]
    exact inside_plain_iff (by decide) (by decide) (by decide) (by decide)
  | dollar hodd _ => simp [hzero] at hodd
  | percent _ hodd =>
    exact iff_of_false (not_inside_opening (by decide)) fun hand => hand.1 (.inr hodd)

/-- **What is left of a text stays in the literal exactly if it is tame behind what has been
passed.** -/
theorem inside_pending_iff (hp : Pending done p)
    (hhead : cs.head? = some '\x7b' → trailing '$' done = 0) :
    Inside (p ++ escapeLiteral cs) ↔ TameBehind done cs := by
  -- Induction on the text as it is written; a sigil may stay pending from one step to the next.
  fun_induction escapeLiteral cs generalizing done p with
  | case1 =>
    refine iff_of_true ?_ tameBehind_nil
    cases hp with
    | none => exact .nil
    | dollar => exact (inside_sigil_iff (by decide) (by simp)).2 .nil
    | percent => exact (inside_sigil_iff (by decide) (by simp)).2 .nil
  | case2 cs ih =>
    rw [hp.inside_escaped_iff, tameBehind_cons_iff,
      ← ih (pending_concat (by decide) (by decide) done)
        fun _ => trailing_concat_of_ne (by decide) done]
    simp
  | case3 cs ih =>
    rw [hp.inside_escaped_iff, tameBehind_cons_iff,
      ← ih (pending_concat (by decide) (by decide) done)
        fun _ => trailing_concat_of_ne (by decide) done]
    simp
  | case4 cs ih =>
    obtain ⟨q, hq, hstep⟩ := hp.concat_dollar
    rw [hstep, hq.inside_opening_iff, tameBehind_cons_iff, tameBehind_cons_iff,
      ← ih (pending_concat (by decide) (by decide) (done ++ ['$']))
        fun _ => trailing_concat_of_ne (by decide) _]
    simp
  | case5 c cs hslash hquote hopening ih =>
    rw [tameBehind_cons_iff]
    by_cases hdollar : c = '$'
    · subst hdollar
      obtain ⟨q, hq, hstep⟩ := hp.concat_dollar
      have hnext : cs.head? = some '\x7b' → trailing '$' (done ++ ['$']) = 0 := by
        intro hbrace
        obtain ⟨more, rfl⟩ := List.head?_eq_some_iff.1 hbrace
        exact absurd rfl (hopening more rfl)
      rw [hstep, ih hq hnext]
      simp
    by_cases hpercent : c = '%'
    · subst hpercent
      obtain ⟨q, hq, hstep⟩ := hp.concat_percent
      rw [hstep, ih hq fun _ => trailing_concat_of_ne (by decide) done]
      simp
    have hrest := ih (pending_concat hdollar hpercent done)
      fun _ => trailing_concat_of_ne hdollar done
    by_cases hbrace : c = '\x7b'
    · subst hbrace
      rw [hp.inside_brace_iff (hhead rfl), ← hrest]
      simp
    rw [hp.inside_iff hdollar hpercent hbrace]
    by_cases hfeed : c = '\n'
    · subst hfeed
      exact iff_of_false not_inside_feed fun htame => htame.1 rfl
    · have hsigil : isSigil c = false := by
        simp [isSigil, hdollar, hpercent]
      rw [inside_plain_iff hslash hquote hfeed hsigil, ← hrest]
      simp [hfeed, hbrace]

/-- **A text stays in its literal exactly if it is tame.** -/
theorem inside_escapeLiteral_iff (s : String) : Inside (escapeLiteral s.toList) ↔ Tame s :=
  inside_pending_iff pending_nil fun _ => rfl

/-! ## The text of a literal -/

/-- A text with every dollar sign doubled that stands before a brace. -/
def doubled : List Char → List Char
  | [] => []
  | '$' :: '\x7b' :: cs => '$' :: '$' :: '\x7b' :: doubled cs
  | c :: cs => c :: doubled cs

/-- What the literal of a text stands for. -/
def shown (s : String) : String :=
  String.ofList (doubled s.toList)

/-- Unescaping undoes escaping; the doubled dollar signs stay. -/
theorem unescapeFrom_escapeLiteral (done cs : List Char) :
    unescapeFrom done (escapeLiteral cs) = done.reverse ++ doubled cs := by
  fun_induction escapeLiteral cs generalizing done with
  | case1 => simp [unescapeFrom, doubled]
  | case2 cs ih =>
    rw [unescapeFrom]
    simp [simpleEscape?, ih, doubled]
  | case3 cs ih =>
    rw [unescapeFrom]
    simp [simpleEscape?, ih, doubled]
  | case4 cs ih =>
    rw [unescapeFrom_cons_of_ne (by decide), unescapeFrom_cons_of_ne (by decide),
      unescapeFrom_cons_of_ne (by decide), ih, doubled]
    simp
  | case5 c cs hslash _ hopening ih =>
    have hdoubled : doubled (c :: cs) = c :: doubled cs := by
      rw [doubled.eq_def]
      split
      · rename_i h; cases h
      · rename_i more h
        obtain ⟨rfl, rfl⟩ := List.cons.inj h
        exact absurd rfl (hopening more rfl)
      · rename_i h
        obtain ⟨rfl, rfl⟩ := List.cons.inj h
        rfl
    rw [unescapeFrom_cons_of_ne hslash, ih, hdoubled]
    simp

theorem unescape_escapeLiteral (s : String) : unescape (escapeLiteral s.toList) = shown s := by
  rw [unescape, unescapeFrom_escapeLiteral, shown]
  rfl

end Groundplan.Deploy
