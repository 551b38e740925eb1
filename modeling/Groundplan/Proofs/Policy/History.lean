import Groundplan.Proofs.Policy.Calls
import Groundplan.Proofs.Runs
import Groundplan.Proofs.Sorting

/-!
# The history of reports

Reports are saved in one order and shown in another: by the instants of their audits, which whoever
saves them may turn around. What is shown of a template is what was saved for it, no more and no
less and as it was then, whatever becomes of the catalog or of the reports that were handed out. The
history only grows, and so does what is shown of each template.

## Main definitions

* `Office`: a catalog, a history, and the reports that were handed out
* `Deed`, `Deed.run`, `Deed.after`: what is done in an office
* `saved?`, `savedFor`: what a deed saves, and what was saved for a template
* `NewestFirst`: reports as they are shown
* `Office.Keeps`, `Office.Grows`: **what an office keeps of its past**, and that it loses nothing

## Main results

* `newestFirst_ofTemplate`: what is shown of a template
* `Office.grows_after`: one deed loses nothing
* `Office.keeps_run`: **what a run leaves in the history**
* `reports_appendOnly`: all of it
-/

namespace Groundplan.Policy

/-! ## Offices -/

/-- A catalog, the history of reports, and the reports that were handed out, to whomever they now
belong. -/
structure Office where
  catalog : Catalog
  history : History
  atHand : List Report

/-- An office in which no report was saved or handed out. -/
def Office.opened (c : Catalog) : Office :=
  ⟨c, [], []⟩

/-- What is done in an office. -/
inductive Deed where
  /-- The catalog is asked; the report of an audit is handed out. -/
  | ask (t : Call)
  /-- The catalog is changed in any other way. -/
  | rewrite (change : Catalog → Catalog)
  /-- A report that was handed out is changed by whom it belongs to. -/
  | edit (i : Nat) (change : Report → Report)
  /-- A report that was handed out is saved, as it is now. -/
  | save (i : Nat)
  | list (template : String)
  | latest (template : String)

/-- What comes of a deed. -/
inductive Outturn where
  | reply (r : Reply)
  | saved (id : String)
  | listed (rs : List Report)
  | newest (r : Option Report)
  | nothing

/-- The report in an answer of a catalog. -/
def reportIn? : Answer Reply → Option Report
  | .ok (.report r) => some r
  | _ => none

namespace Deed

/-- Does a deed. Reports that are listed are handed out, too. -/
def run : Deed → Office → Answer Outturn × Office
  | ask t, s => ((t.answer s.catalog).map .reply, { s with
      catalog := t.after s.catalog
      atHand := s.atHand ++ (reportIn? (t.answer s.catalog)).toList })
  | rewrite change, s => (.ok .nothing, { s with catalog := change s.catalog })
  | edit i change, s => (.ok .nothing, { s with atHand := s.atHand.modify i change })
  | save i, s =>
    match s.atHand[i]? with
    | none => (.ok .nothing, s)
    | some r => ((s.history.save r).1.map .saved, { s with history := (s.history.save r).2 })
  | list template, s => (.ok (.listed (s.history.ofTemplate template)), { s with
      atHand := s.atHand ++ s.history.ofTemplate template })
  | latest template, s => (.ok (.newest (s.history.latest? template)), { s with
      atHand := s.atHand ++ (s.history.latest? template).toList })

/-- The office after a deed. -/
def after (d : Deed) (s : Office) : Office :=
  (d.run s).2

end Deed

/-- A report belongs to no template that has a name. -/
def Report.Unowned (r : Report) : Prop :=
  r.template = none ∨ r.template = some ""

instance : DecidablePred Report.Unowned := fun r =>
  inferInstanceAs (Decidable (r.template = none ∨ r.template = some ""))

/-- The report that a deed saves, as it is then. -/
def saved? (v : Office × Deed) : Option Report :=
  match v.2 with
  | .save i => v.1.atHand[i]?.filter (¬ Report.Unowned ·)
  | _ => none

/-- The reports that were saved for a template, in the order of saving. -/
def savedFor (template : String) (past : List (Office × Deed)) : List Report :=
  (past.filterMap saved?).filter (·.template = some template)

/-- **Reports as they are shown**: the newest first, and those of one instant in their order. -/
structure NewestFirst (shown reports : List Report) : Prop where
  perm : shown.Perm reports
  ordered : shown.Pairwise fun r s => s.createdAt ≤ r.createdAt
  stable : ∀ t, shown.filter (·.createdAt = t) = reports.filter (·.createdAt = t)

/-- **What an office keeps of its past.** -/
structure Office.Keeps (s : Office) (past : List (Office × Deed)) : Prop where
  /-- The history is what was saved. -/
  history : s.history = past.filterMap saved?
  /-- What is shown of a template is what was saved for it. -/
  listed : ∀ t, NewestFirst (s.history.ofTemplate t) (savedFor t past)
  /-- The newest report is the first that is shown. -/
  latest : ∀ t, s.history.latest? t = (s.history.ofTemplate t).head?
  /-- There is none if none was saved. -/
  unsaved : ∀ t, s.history.latest? t = none ↔ savedFor t past = []

/-- **Nothing is lost**: neither of the history nor of what is shown of a template. -/
structure Office.Grows (s u : Office) : Prop where
  history : s.history <+: u.history
  listed : ∀ t, (s.history.ofTemplate t).Sublist (u.history.ofTemplate t)

variable {s : Office} {past : List (Office × Deed)} {r : Report}

/-! ## What is shown -/

/-- One report is shown before another. -/
def shownBefore (r s : Report) : Bool :=
  s.createdAt ≤ r.createdAt

theorem shownBefore_trans (r s t : Report) (h : shownBefore r s = true)
    (h' : shownBefore s t = true) : shownBefore r t = true :=
  decide_eq_true (Int.le_trans (of_decide_eq_true h') (of_decide_eq_true h))

theorem shownBefore_total (r s : Report) : (shownBefore r s || shownBefore s r) = true := by
  rw [Bool.or_eq_true, shownBefore, shownBefore, decide_eq_true_eq, decide_eq_true_eq]
  exact Int.le_total _ _

theorem ofTemplate_eq (h : History) (template : String) : h.ofTemplate template =
    (h.filter (·.template = some template)).mergeSort shownBefore := by
  rw [History.ofTemplate]
  simp only [beq_eq_decide]
  rfl

/-- **What is shown of a template.** -/
theorem newestFirst_ofTemplate (h : History) (template : String) :
    NewestFirst (h.ofTemplate template) (h.filter (·.template = some template)) := by
  rw [ofTemplate_eq]
  refine ⟨List.mergeSort_perm _ _, ?_, fun t => ?_⟩
  · have hsorted := List.pairwise_mergeSort shownBefore_trans shownBefore_total
      (h.filter (·.template = some template))
    exact hsorted.imp fun hrs => of_decide_eq_true hrs
  · refine filter_mergeSort shownBefore_trans shownBefore_total (fun r s hr hs => ?_) _
    rw [shownBefore, of_decide_eq_true hr, of_decide_eq_true hs]
    exact decide_eq_true (Int.le_refl _)

/-- What is shown of a template remains to be shown when reports are saved. -/
theorem ofTemplate_sublist {h h' : History} (hgrown : h <+: h') (template : String) :
    (h.ofTemplate template).Sublist (h'.ofTemplate template) := by
  rw [ofTemplate_eq, ofTemplate_eq]
  exact sublist_mergeSort_mergeSort shownBefore_trans shownBefore_total
    (hgrown.sublist.filter _)

/-! ## What a deed does -/

/-- A report that belongs to no template is refused. -/
theorem save_eq (h : History) (r : Report) : h.save r =
    if r.Unowned then
      (.error (.validation "Only reports for a saved template can be stored"), h)
    else (.ok r.id, h ++ [r]) := by
  rw [History.save]
  cases htemplate : r.template with
  | none => exact (if_pos (.inl htemplate)).symm
  | some t =>
    by_cases ht : t = ""
    · rw [ht] at htemplate ⊢
      exact (if_pos (.inr htemplate)).symm
    · have howned : ¬ r.Unowned := by simp [Report.Unowned, htemplate, ht]
      rw [if_neg howned]
      exact if_neg (by simpa using ht)

/-- **Saving a report** that was handed out: it is added as it is, or refused with no change. -/
theorem Deed.run_save {i : Nat} (hi : s.atHand[i]? = some r) : (save i).run s =
    if r.Unowned then
      (.error (.validation "Only reports for a saved template can be stored"), s)
    else (.ok (.saved r.id), { s with history := s.history ++ [r] }) := by
  rw [Deed.run, hi]
  simp only [save_eq]
  split <;> rfl

/-- A deed adds to the history what it saves, and nothing else. -/
theorem Deed.history_after (d : Deed) (s : Office) :
    (d.after s).history = s.history ++ (saved? (s, d)).toList := by
  have hnone : s.history = s.history ++ (none : Option Report).toList :=
    (List.append_nil _).symm
  cases d with
  | save i =>
    have hsaved : saved? (s, save i) = s.atHand[i]?.filter (¬ Report.Unowned ·) := rfl
    rw [hsaved, Deed.after]
    cases hi : s.atHand[i]? with
    | none =>
      rw [Deed.run, hi]
      exact hnone
    | some r =>
      rw [run_save hi]
      by_cases hr : r.Unowned
      · rw [if_pos hr, Option.filter_some_neg (by simpa using hr)]
        exact hnone
      · rw [if_neg hr, Option.filter_some_pos (by simpa using hr)]
        rfl
  | _ => exact hnone

/-- **One deed loses nothing.** -/
theorem Office.grows_after (d : Deed) (s : Office) : s.Grows (d.after s) := by
  have hgrown : s.history <+: (d.after s).history := by
    rw [d.history_after]
    exact List.prefix_append _ _
  exact ⟨hgrown, ofTemplate_sublist hgrown⟩

/-! ## Runs -/

theorem Office.keeps_of_history (h : s.history = past.filterMap saved?) : s.Keeps past := by
  have hlisted (t : String) : NewestFirst (s.history.ofTemplate t) (savedFor t past) := by
    rw [savedFor, ← h]
    exact newestFirst_ofTemplate s.history t
  refine ⟨h, hlisted, fun _ => rfl, fun t => ?_⟩
  -- The newest is the first of what is shown, which is as many as were saved.
  rw [History.latest?, List.head?_eq_none_iff]
  constructor
  · intro hnil
    exact List.perm_nil.1 (hnil ▸ (hlisted t).perm).symm
  · intro hnil
    exact List.perm_nil.1 (hnil ▸ (hlisted t).perm)

/-- One more deed on the history. -/
theorem Deed.history_step (s : Office) (past : List (Office × Deed)) (d : Deed)
    (h : s.history = past.filterMap saved?) :
    (d.after s).history = (past ++ [(s, d)]).filterMap saved? := by
  rw [d.history_after, h, List.filterMap_append]
  cases hsaved : saved? (s, d) <;> simp [hsaved]

/-- **What a run leaves in the history**, if there was nothing in it. -/
theorem Office.keeps_run (c : Catalog) (ds : List Deed) :
    (stateAfter Deed.after (opened c) ds).Keeps (stepsOf Deed.after (opened c) ds) := by
  have hstart : (opened c).history = List.filterMap saved? [] := rfl
  exact keeps_of_history (run_induction (P := fun s past => s.history = past.filterMap saved?)
    Deed.history_step hstart ds)

/-- **The history of reports only grows.** After any run it is what was saved in it, each report as
it was then, and is shown for each template with the newest first; whatever is done next, nothing of
it is lost; and a report is saved as it is if it belongs to a template, and else refused with no
change. -/
theorem reports_appendOnly (c : Catalog) (ds : List Deed) :
    (stateAfter Deed.after (.opened c) ds).Keeps (stepsOf Deed.after (.opened c) ds) ∧
      (∀ d : Deed, (stateAfter Deed.after (.opened c) ds).Grows
        (d.after (stateAfter Deed.after (.opened c) ds))) ∧
      ∀ i r, (stateAfter Deed.after (.opened c) ds).atHand[i]? = some r →
        (Deed.save i).run (stateAfter Deed.after (.opened c) ds) =
          if r.Unowned then
            (.error (.validation "Only reports for a saved template can be stored"),
              stateAfter Deed.after (.opened c) ds)
          else (.ok (.saved r.id), { stateAfter Deed.after (.opened c) ds with
            history := (stateAfter Deed.after (.opened c) ds).history ++ [r] }) :=
  ⟨Office.keeps_run c ds, fun d => Office.grows_after d _, fun _ _ hi => Deed.run_save hi⟩

end Groundplan.Policy
