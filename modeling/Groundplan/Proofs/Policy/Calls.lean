import Groundplan.Proofs.Policy.Reports

/-!
# Calls of a catalog

What a catalog is asked, one call after another, and what a history of calls says of it: which
policies were registered, how they were switched, and which evaluator each code has.

## Main definitions

* `Request`, `Reply`, `Call`: what is asked of a catalog, and when
* `Call.answer`, `Call.after`: what a call answers and leaves
* `Catalog.afterAll`, `Catalog.visits`: the catalog after a run, and the calls with the catalogs
  that they met
* `switched?`, `Registered`, `Provided`: what a history says
* `Catalog.Reflects`: **the catalog holds what a history of calls makes of it**

## Main results

* `registered_append`, `provided_append`: a history with one more call
-/

namespace Groundplan.Policy

/-! ## Calls -/

/-- What is asked of a catalog. -/
inductive Request where
  | seed
  | register (d : Definition)
  | toggle (code : String) (active : Bool)
  | list (provider : Option String)
  | select (provider : String)
  | audit (text provider : String) (template : Option String)

/-- What a catalog answers. -/
inductive Reply where
  | seeded (count : Nat)
  | row (r : Row)
  | rows (rs : List Row)
  | policies (ps : List (Row × Definition))
  | report (r : Report)

/-- Answers a request. All that only reads seeds first, an audit once its text can be cut into
blocks. -/
def Request.run (now : Instant) (report : String) : Request → Catalog → Answer Reply × Catalog
  | .seed, c => (.ok (.seeded (c.seed now).1), (c.seed now).2)
  | .register d, c => ((c.register now d).1.map .row, (c.register now d).2)
  | .toggle code active, c => ((c.toggle now code active).1.map .row, (c.toggle now code active).2)
  | .list provider, c => (.ok (.rows ((c.seeded now).listing provider)), c.seeded now)
  | .select provider, c => (.ok (.policies ((c.seeded now).active provider)), c.seeded now)
  | .audit text provider template, c =>
    match Hcl.scannable text with
    | .error f => (.error f, c)
    | .ok _ =>
      let (r, c) := Policy.audit c report now text provider template
      ((priceable text).map fun _ => .report r, c)

/-- A request at an instant, with the identifier of the report that it may lead to. -/
structure Call where
  now : Instant
  report : String
  request : Request

namespace Call

/-- The answer to a call. -/
def answer (t : Call) (c : Catalog) : Answer Reply :=
  (t.request.run t.now t.report c).1

/-- The catalog after a call. -/
def after (t : Call) (c : Catalog) : Catalog :=
  (t.request.run t.now t.report c).2

section

variable (now : Instant) (report : String) (c : Catalog)

theorem answer_toggle (code : String) (active : Bool) :
    answer ⟨now, report, .toggle code active⟩ c = (c.toggle now code active).1.map .row := rfl

theorem after_toggle (code : String) (active : Bool) :
    after ⟨now, report, .toggle code active⟩ c = (c.toggle now code active).2 := rfl

theorem answer_register (d : Definition) :
    answer ⟨now, report, .register d⟩ c = (c.register now d).1.map .row := rfl

theorem after_register (d : Definition) :
    after ⟨now, report, .register d⟩ c = (c.register now d).2 := rfl

end

end Call

namespace Catalog

/-- The catalog after a run. -/
def afterAll (c : Catalog) : List Call → Catalog
  | [] => c
  | t :: ts => afterAll (t.after c) ts

/-- The calls of a run, each with the catalog that it meets. -/
def visits (c : Catalog) : List Call → List (Catalog × Call)
  | [] => []
  | t :: ts => (c, t) :: visits (t.after c) ts

end Catalog

/-! ## What a history says -/

/-- The switch that a call gave to a code. -/
def switched? (code : String) (v : Catalog × Call) : Option Bool :=
  match v.2.request with
  | .toggle other active => if other = code ∧ (v.2.answer v.1).isOk then some active else none
  | _ => none

/-- A policy that was registered in a history. -/
def Registered (past : List (Catalog × Call)) (d : Definition) : Prop :=
  ∃ v ∈ past, v.2.request = .register d ∧ (v.2.answer v.1).isOk

/-- The policy of a code: the built-in one, or else the one that was registered. -/
def Provided (past : List (Catalog × Call)) (code : String) (d : Definition) : Prop :=
  builtIn? code = some d ∨ builtIn? code = none ∧
    ∃ e, Registered past e ∧ e.code = code ∧ d = { e with builtIn := false }

/-- A row shows a definition. -/
def Row.Presents (r : Row) (d : Definition) : Prop :=
  r = { d.row r.createdAt with active := r.active, updatedAt := r.updatedAt }

/-- The codes of a catalog, in order of first appearance. -/
def Catalog.codes (c : Catalog) : List String :=
  c.rows.map (·.1)

/-- The switch of a code, on where there is no row. -/
def Catalog.switch (c : Catalog) (code : String) : Bool :=
  ((c.row? code).map (·.active)).getD true

/-- A catalog has the rows and the evaluators that a history of calls gave to it. -/
structure Catalog.Stocked (c : Catalog) (past : List (Catalog × Call)) : Prop where
  /-- No code has two rows. -/
  nodup : c.codes.Nodup
  /-- A row stands under its own code. -/
  keyed : ∀ e ∈ c.rows, e.2.code = e.1
  /-- The rows are those of built-in policies and of such as were registered. -/
  presents : ∀ r ∈ c.all, ∃ d, Provided past r.code d ∧ r.Presents d
  /-- What was registered has a row under a code of its own. -/
  listed : ∀ d, Registered past d → builtIn? d.code = none ∧ (c.row? d.code).isSome
  /-- The evaluator of a code is the built-in one, or the one with which it was registered. -/
  provided : ∀ code d, Provided past code d → c.definition? code = some d

/-- **A catalog holds what a history of calls makes of it**, its switches included. -/
structure Catalog.Reflects (c : Catalog) (past : List (Catalog × Call)) : Prop
    extends c.Stocked past where
  /-- A policy is switched as it was last, and on if it never was. -/
  switched : ∀ code, c.switch code = ((past.filterMap (switched? code)).getLast?).getD true

variable {c : Catalog} {past : List (Catalog × Call)} {v : Catalog × Call} {r : Row}
  {d : Definition} {code : String} {now : Instant}

/-! ## Definitions of a history -/

theorem registered_append : Registered (past ++ [v]) d ↔
    Registered past d ∨ v.2.request = .register d ∧ (v.2.answer v.1).isOk := by
  simp only [Registered, List.mem_append, List.mem_singleton, or_and_right, exists_or,
    exists_eq_left]

theorem provided_append (h : ∀ e, v.2.request = .register e → ¬ (v.2.answer v.1).isOk) :
    Provided (past ++ [v]) code d ↔ Provided past code d := by
  have hregistered (e : Definition) : Registered (past ++ [v]) e ↔ Registered past e :=
    registered_append.trans (or_iff_left fun hv => h e hv.1 hv.2)
  simp only [Provided, hregistered]

theorem Provided.append (h : Provided past code d) (v : Catalog × Call) :
    Provided (past ++ [v]) code d :=
  h.imp_right <| And.imp_right fun ⟨e, he, hcode⟩ => ⟨e, registered_append.2 (.inl he), hcode⟩

/-- A built-in policy is the one of its code. -/
theorem builtIn?_of_mem (h : d ∈ builtIns) : builtIn? d.code = some d := by
  obtain ⟨e, he⟩ := Option.isSome_iff_exists.1
    (List.find?_isSome.2 ⟨d, h, beq_iff_eq.2 rfl⟩ : (builtIn? d.code).isSome)
  have hcode : e.code = d.code := by simpa using List.find?_some he
  have hsame : e = d := List.inj_on_of_nodup_map (by decide : (builtIns.map (·.code)).Nodup)
    (List.mem_of_find?_eq_some he) h hcode
  exact he.trans (congrArg some hsame)

end Groundplan.Policy
