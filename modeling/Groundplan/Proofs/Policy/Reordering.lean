import Groundplan.Proofs.Answer
import Groundplan.Proofs.Policy.Reports
import Mathlib.Data.List.Perm.Basic

/-!
# The order of resources

An evaluator goes through the resources of some types in the order in which they stand, and some ask
for each of them whether another points at it. Neither depends on that order: the findings are the
same up to theirs, and so a report counts the same.

## Main definitions

* `Permuted`: answers that are the same up to order
* `OrderFree`: an evaluator that does not depend on the order of resources

## Main results

* `Permuted.mapM`, `Permuted.filterM`: going through a list, and choosing from it, in another order
* `builtIns_orderFree`: no built-in evaluator depends on the order of resources
* `reportOn_permuted`: a report counts the same
-/

namespace Groundplan

/-! ## Answers up to order -/

/-- **Two answers that are the same up to order**: the same items, or no result in both. -/
inductive Permuted {α : Type} : Answer (List α) → Answer (List α) → Prop where
  | ok {xs ys : List α} (h : xs.Perm ys) : Permuted (.ok xs) (.ok ys)
  | error (f g : Failure) : Permuted (.error f) (.error g)

namespace Permuted

variable {α β : Type} {a b : Answer (List α)}

theorem refl (a : Answer (List α)) : Permuted a a := by
  cases a with
  | error f => exact .error f f
  | ok xs => exact .ok (.refl xs)

theorem trans {c : Answer (List α)} (hab : Permuted a b) (hbc : Permuted b c) :
    Permuted a c := by
  cases hab with
  | ok h =>
    cases hbc with
    | ok h' => exact .ok (h.trans h')
  | error f g =>
    cases hbc with
    | error => exact .error ..

/-- Both fail, or neither does. -/
theorem fails_iff (h : Permuted a b) : Fails a ↔ Fails b := by
  cases h with
  | ok => exact iff_of_false Fails.not_ok Fails.not_ok
  | error f g => exact iff_of_true ⟨f, rfl⟩ ⟨g, rfl⟩

/-- What goes on with items, whatever their order, goes on after answers that are the same up to
it. -/
theorem bind {k l : List α → Answer (List β)} (h : Permuted a b)
    (hk : ∀ xs ys, xs.Perm ys → Permuted (k xs) (l ys)) : Permuted (a >>= k) (b >>= l) := by
  cases h with
  | ok h => exact hk _ _ h
  | error f g => exact .error f g

theorem map {g : List α → List β} (h : Permuted a b)
    (hg : ∀ xs ys, xs.Perm ys → (g xs).Perm (g ys)) : Permuted (g <$> a) (g <$> b) := by
  cases h with
  | ok h => exact .ok (hg _ _ h)
  | error f g => exact .error f g

/-- A result that is made of two answers. -/
theorem append {a' b' : Answer (List α)} (h : Permuted a b) (h' : Permuted a' b') :
    Permuted (do return (← a) ++ (← a')) (do return (← b) ++ (← b')) :=
  h.bind fun _ _ hxs => h'.bind fun _ _ hys => .ok (hxs.append hys)

/-- **Going through a list** in another order gives the same results in another order, or fails as
well. -/
theorem mapM (f : α → Answer β) {xs ys : List α} (h : xs.Perm ys) :
    Permuted (xs.mapM f) (ys.mapM f) := by
  induction h with
  | nil => exact refl _
  | @cons x xs ys _ ih =>
    rw [List.mapM_cons, List.mapM_cons]
    cases f x with
    | error e => exact .error e e
    | ok y => exact ih.bind fun _ _ h => .ok (h.cons y)
  | swap x y xs =>
    rw [List.mapM_cons, List.mapM_cons, List.mapM_cons, List.mapM_cons]
    -- whichever of the two comes first may fail
    cases f x with
    | error e =>
      cases f y with
      | error e' => exact .error e' e
      | ok z => exact .error e e
    | ok z =>
      cases f y with
      | error e => exact .error e e
      | ok z' =>
        cases xs.mapM f with
        | error e => exact .error e e
        | ok zs => exact .ok (.swap z z' zs)
  | trans _ _ ih ih' => exact ih.trans ih'

/-- Choosing from a list is going through it, each item giving itself or nothing. -/
theorem filterAuxM_eq (f : α → Answer Bool) (xs done : List α) :
    xs.filterAuxM f done = (fun kept => kept.flatten.reverse ++ done) <$>
      xs.mapM fun x => (fun keep => if keep then [x] else []) <$> f x := by
  induction xs generalizing done with
  | nil => rfl
  | cons x xs ih =>
    rw [List.filterAuxM, List.mapM_cons]
    cases f x with
    | error e => rfl
    | ok keep =>
      show xs.filterAuxM f (bif keep then x :: done else done) = _
      rw [ih]
      cases xs.mapM fun x => (fun keep => if keep then [x] else []) <$> f x with
      | error e => rfl
      | ok kept =>
        -- An item that is kept stands in front of what was done, which is reversed at the end.
        cases keep with
        | false => rfl
        | true =>
          show Except.ok (kept.flatten.reverse ++ x :: done) =
            Except.ok ((x :: kept.flatten).reverse ++ done)
          rw [List.reverse_cons, List.append_assoc, List.singleton_append]

theorem filterM_eq (f : α → Answer Bool) (xs : List α) :
    xs.filterM f = List.flatten <$>
      xs.mapM fun x => (fun keep => if keep then [x] else []) <$> f x := by
  rw [List.filterM, filterAuxM_eq]
  cases xs.mapM fun x => (fun keep => if keep then [x] else []) <$> f x with
  | error e => rfl
  | ok kept =>
    show Except.ok (kept.flatten.reverse ++ []).reverse = _
    rw [List.append_nil, List.reverse_reverse]
    rfl

/-- **Choosing from a list** in another order. -/
theorem filterM (f : α → Answer Bool) {xs ys : List α} (h : xs.Perm ys) :
    Permuted (xs.filterM f) (ys.filterM f) := by
  rw [filterM_eq, filterM_eq]
  exact (mapM _ h).map fun _ _ hkept => hkept.flatten

end Permuted

namespace Policy

open Hcl

/-! ## Evaluators -/

/-- What is looked at, with other resources. -/
def Subject.withResources (s : Subject) (rs : List Block) : Subject :=
  { s with configuration := { s.configuration with resources := rs } }

/-- **An evaluator that does not depend on the order of resources**: in another order, its findings
are the same up to theirs. -/
def OrderFree (e : Evaluator) : Prop :=
  ∀ (s : Subject) (rs : List Block), s.configuration.resources.Perm rs →
    Permuted (e s) (e (s.withResources rs))

section Reordered

variable {s : Subject} {rs : List Block}

theorem ofTypes_perm (h : s.configuration.resources.Perm rs) (types : List String) :
    (s.configuration.ofTypes types).Perm ((s.withResources rs).configuration.ofTypes types) :=
  h.filter _

/-- Whether a block has a companion does not depend on the order of those that may be one. -/
theorem hasCompanion_perm {target : Block} {property : String} {xs ys : List Block}
    (h : xs.Perm ys) : hasCompanion target property xs = hasCompanion target property ys :=
  h.any_eq

/-- Tests that agree report the same blocks. -/
theorem flag_reordered {type : String} {fails fails' : Block → Answer Bool}
    {report : Block → Finding} (h : s.configuration.resources.Perm rs) (hfails : fails = fails') :
    Permuted (flag type fails report s) (flag type fails' report (s.withResources rs)) := by
  subst hfails
  exact (Permuted.filterM fails (ofTypes_perm h [type])).bind fun _ _ hbad =>
    .ok (hbad.map report)

end Reordered

theorem flag_orderFree {type : String} {fails : Block → Answer Bool} {report : Block → Finding} :
    OrderFree (flag type fails report) :=
  fun _ _ h => flag_reordered h rfl

theorem flagBuckets_orderFree (property : Option String) {companion : String}
    {report : Block → Finding} : OrderFree (flagBuckets property companion report) :=
  fun _ _ h => flag_reordered h <| by
    funext b
    rw [hasCompanion_perm (ofTypes_perm h [companion])]

theorem groupsNotOpen_orderFree : OrderFree groupsNotOpen.check := fun s rs h => by
  refine (Permuted.mapM _ (ofTypes_perm h _)).bind fun _ _ hgroups => ?_
  refine (Permuted.mapM _ ((ofTypes_perm h _).filter _)).bind fun _ _ hrules => ?_
  refine (Permuted.mapM _ (ofTypes_perm h _)).bind fun _ _ hingress => ?_
  exact .ok ((hgroups.append hrules).append hingress).flatten

theorem volumeEncryption_orderFree : OrderFree volumeEncryption.check := fun s rs h =>
  (flag_orderFree s rs h).append (flag_orderFree s rs h)

/-- There is a trail, or there are no resources, in any order. -/
theorem trailPresent_orderFree : OrderFree trailPresent.check := fun s rs h => by
  have hresources : s.configuration.resources.isEmpty =
      (s.withResources rs).configuration.resources.isEmpty := h.isEmpty_eq
  unfold trailPresent
  dsimp only
  rw [← hresources, ← (ofTypes_perm h ["aws_cloudtrail"]).isEmpty_eq]
  exact .refl _

/-- **No built-in evaluator depends on the order of resources.** -/
theorem builtIns_orderFree : ∀ d ∈ builtIns, OrderFree d.check := by
  simp only [builtIns, List.forall_mem_cons]
  refine ⟨flagBuckets_orderFree none, groupsNotOpen_orderFree, flag_orderFree,
    volumeEncryption_orderFree, ?noWildcards, trailPresent_orderFree, flag_orderFree, ?flowLogs,
    flagBuckets_orderFree (some "logging"), flag_orderFree, flag_orderFree, flag_orderFree,
    flag_orderFree, flag_orderFree, flag_orderFree, flag_orderFree, flag_orderFree, flag_orderFree,
    ?noSecrets, flagBuckets_orderFree (some "server_side_encryption_configuration"),
    flag_orderFree, ?oversizedMachine, flag_orderFree, ?unattachedAddress,
    by simp⟩
  case noWildcards => exact fun _ _ h => .ok ((ofTypes_perm h _).flatMap_right _)
  case oversizedMachine => exact fun _ _ h => .ok ((ofTypes_perm h _).filterMap _)
  -- The text has no resources in it.
  case noSecrets => exact fun _ _ _ => .refl _
  case flowLogs =>
    exact fun _ _ h => flag_reordered h <| by
      funext b
      rw [hasCompanion_perm (ofTypes_perm h _)]
  case unattachedAddress =>
    exact fun _ _ h => flag_reordered h <| by
      funext b
      rw [isUnattached, isUnattached, hasCompanion_perm (ofTypes_perm h ["aws_eip_association"]),
        hasCompanion_perm (ofTypes_perm h ["aws_nat_gateway"])]

/-! ## Reports -/

/-- Two violations that are the same up to the order of their findings. -/
structure Violation.Alike (v w : Violation) : Prop where
  code : v.code = w.code
  severity : v.severity = w.severity
  findings : v.findings.Perm w.findings

section Reports

variable {s t : Subject} {ps : List (Row × Definition)}

theorem raises_eq {p : Row × Definition} (h : Permuted (p.2.check s) (p.2.check t)) :
    raises s p = raises t p := by
  rw [Bool.eq_iff_iff, raises_iff, raises_iff]
  exact h.fails_iff

/-- A policy whose evaluator comes to the same up to order has a violation in both cases or in
neither. -/
theorem violation?_cases {p : Row × Definition} (h : Permuted (p.2.check s) (p.2.check t)) :
    violation? s p = none ∧ violation? t p = none ∨
      ∃ v w, violation? s p = some v ∧ violation? t p = some w ∧ v.Alike w := by
  rw [violation?, violation?]
  cases hs : p.2.check s with
  | error f =>
    rw [hs] at h
    cases ht : p.2.check t with
    | error g => exact .inl ⟨rfl, rfl⟩
    | ok gs =>
      rw [ht] at h
      cases h
  | ok fs =>
    rw [hs] at h
    cases ht : p.2.check t with
    | error g =>
      rw [ht] at h
      cases h
    | ok gs =>
      rw [ht] at h
      cases h with
      | ok hperm =>
        cases fs with
        | nil =>
          obtain rfl := hperm.nil_eq
          exact .inl ⟨rfl, rfl⟩
        | cons f fs =>
          cases gs with
          | nil => cases hperm.symm.nil_eq
          | cons g gs => exact .inr ⟨_, _, rfl, rfl, rfl, rfl, hperm⟩

theorem forall₂_violations (h : ∀ p ∈ ps, Permuted (p.2.check s) (p.2.check t)) :
    List.Forall₂ Violation.Alike (ps.filterMap (violation? s)) (ps.filterMap (violation? t)) := by
  induction ps with
  | nil => exact .nil
  | cons p ps ih =>
    rw [List.forall_mem_cons] at h
    rcases violation?_cases h.1 with ⟨hs, ht⟩ | ⟨v, w, hs, ht, halike⟩
    · rw [List.filterMap_cons_none hs, List.filterMap_cons_none ht]
      exact ih h.2
    · rw [List.filterMap_cons_some hs, List.filterMap_cons_some ht]
      exact .cons halike (ih h.2)

/-- Violations that are alike count the same. -/
theorem countOf_alike {vs ws : List Violation} (h : List.Forall₂ Violation.Alike vs ws)
    (x : Severity) : countOf x vs = countOf x ws := by
  induction h with
  | nil => rfl
  | @cons v w vs ws halike _ ih =>
    rw [countOf, countOf, List.filter_cons, List.filter_cons, halike.severity]
    split
    · show v.findings.length + countOf x vs = w.findings.length + countOf x ws
      rw [halike.findings.length_eq, ih]
    · exact ih

/-- Sorting by severity does not change the counts. -/
theorem countOf_bySeverity (x : Severity) (vs : List Violation) :
    countOf x (bySeverity vs) = countOf x vs := by
  rw [countOf, countOf, filter_bySeverity]

/-- The summary depends on the counts alone. -/
theorem summarize_congr {vs ws : List Violation} (h : ∀ x, countOf x vs = countOf x ws)
    (passed : Int) : summarize vs passed = summarize ws passed := by
  have hcounts : (fun x => countOf x vs) = fun x => countOf x ws := funext h
  rw [summarize, summarize, score, score, penalty, penalty, hcounts, h, h, h, h, h]
  simp only [h]

/-- **A report counts the same** if each evaluator comes to the same up to order. -/
theorem reportOn_permuted (h : ∀ p ∈ ps, Permuted (p.2.check s) (p.2.check t)) (id : String)
    (now : Instant) :
    (reportOn ps id now s).errors = (reportOn ps id now t).errors ∧
      (reportOn ps id now s).summary = (reportOn ps id now t).summary := by
  have halike := forall₂_violations h
  refine ⟨?_, ?_⟩
  · rw [reportOn_errors, reportOn_errors,
      List.filter_congr fun p hp => raises_eq (h p hp)]
  · have hcounts (x : Severity) : countOf x (reportOn ps id now s).violations =
        countOf x (reportOn ps id now t).violations := by
      rw [reportOn_violations, reportOn_violations, countOf_bySeverity, countOf_bySeverity]
      exact countOf_alike halike x
    have hlength : (reportOn ps id now s).violations.length =
        (reportOn ps id now t).violations.length := by
      rw [reportOn_violations, reportOn_violations, (bySeverity_perm _).length_eq,
        (bySeverity_perm _).length_eq, halike.length_eq]
    show summarize (reportOn ps id now s).violations
        (ps.length - (reportOn ps id now s).violations.length) =
      summarize (reportOn ps id now t).violations
        (ps.length - (reportOn ps id now t).violations.length)
    rw [hlength, summarize_congr hcounts]

end Reports

end Policy

end Groundplan
