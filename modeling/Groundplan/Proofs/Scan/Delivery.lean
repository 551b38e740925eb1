import Groundplan.Proofs.Cloud.Inquiry
import Groundplan.Proofs.Tenancy.Actions
import Groundplan.Scan.Category
import Groundplan.Scan.Report
import Mathlib.Algebra.Ring.Nat

/-!
# A scan that is charged is delivered

A scan is charged once it is known whose keys are used. From then on nothing can keep the report
from the user: a category of which the scan fails is reported with the reason, and the others are
reported as if they had been scanned alone. For the scan of a category goes from reply to reply, and
learns nothing from the calls that other categories made.

## Main definitions

* `Report.Accounts`: a report that accounts for every category
* `Identified`: the cloud told which account the keys of a session belong to
* `Ready`: all that a scan waits for before it is charged
* `Delivers`: a charge for which there is a result if all is ready, and neither of them if not

## Main results

* `standalone_scanPages`: the findings of a listing
* `Category.standalone_scan`: **the scan of a category stands by itself**
* `conduct_scanAccount`: a scan does not fail, and its categories do not get in each other's way
* `accounts_of_entries`: a report of what the categories come to accounts for all of them
* `scanConnection_delivers`: **a scan costs its price and gives a report on all categories, or it
  costs nothing**, and it is known which
-/

namespace Groundplan.Scan

section Categories

open Inquiry

variable {α : Type}

/-! ## Rows and pages -/

theorem standalone_ofEach {scan : α → Inquiry Findings} (h : ∀ x, (scan x).Standalone)
    (rows : List α) : (Findings.ofEach rows scan).Standalone :=
  (Standalone.mapM h rows).bind fun _ => .pure _

/-- The findings of a listing, if those of a row stand by themselves. -/
theorem standalone_scanPages (k : Client) (operation : String) (params : Entries Data)
    (key : String) {scan : Data → Inquiry Findings} (h : ∀ row, (scan row).Standalone) :
    (scanPages k operation params key scan).Standalone := by
  refine (Standalone.pages k operation params).bind fun pages => ?_
  refine standalone_ofEach (fun page => ?_) pages
  exact (Standalone.lift page).bind fun d => (Standalone.lift _).bind fun rows =>
    standalone_ofEach h rows

/-! ## Rows that are asked about -/

theorem standalone_scanBucket (now : Instant) (region : String) (bucket : Data) :
    (scanBucket now region bucket).Standalone := by
  refine (Standalone.lift _).bind fun name => ?_
  refine (Standalone.ask _ _ _).attempt.bind fun block => ?_
  refine (Standalone.lift _).bind fun configuration => (Standalone.lift _).bind fun access => ?_
  refine (Standalone.ask _ _ _).attempt.bind fun encryption => ?_
  exact (Standalone.lift _).bind fun encrypted => .pure _

theorem standalone_scanKey (now : Instant) (user key : Data) :
    (scanKey now user key).Standalone := by
  refine (Standalone.lift _).bind fun id => ?_
  refine (Standalone.lift _).bind fun created => (Standalone.lift _).bind fun old => ?_
  refine (Standalone.ask _ _ _).bind fun lastUse => ?_
  exact (Standalone.lift _).bind fun used => .pure _

theorem standalone_scanUser (now : Instant) (user : Data) : (scanUser now user).Standalone := by
  refine (Standalone.lift _).bind fun name => ?_
  refine (Standalone.lift _).bind fun lastUsed => (Standalone.lift _).bind fun old => ?_
  refine (Standalone.ask _ _ _).bind fun reply => (Standalone.lift _).bind fun keys => ?_
  exact (Standalone.mapM (standalone_scanKey now name) keys).bind fun issues => .pure _

theorem standalone_scanTable (now : Instant) (region : String) (name : Data) :
    (scanTable now region name).Standalone := by
  refine (Standalone.ask _ _ _).bind fun reply => (Standalone.lift _).bind fun table => ?_
  refine (Standalone.lift _).bind fun guarded => ?_
  refine (Standalone.ask _ _ _).bind fun backups => (Standalone.lift _).bind fun recoverable => ?_
  refine (Standalone.lift _).bind fun throughput => ?_
  refine (Standalone.lift _).bind fun summary => (Standalone.lift _).bind fun billing => ?_
  exact (Standalone.lift _).bind fun read => (Standalone.lift _).bind fun write => .pure _

theorem standalone_scanBalancer (now : Instant) (region : String) (balancer : Data) :
    (scanBalancer now region balancer).Standalone := by
  refine (Standalone.lift _).bind fun arn => (Standalone.lift _).bind fun name => ?_
  refine (Standalone.ask _ _ _).bind fun reply => ?_
  refine (Standalone.lift _).bind fun rows => (Standalone.lift _).bind fun attributes => ?_
  refine (Standalone.ask _ _ _).bind fun reply => (Standalone.lift _).bind fun listeners => ?_
  refine (Standalone.mapM (fun l => .lift _) listeners).bind fun plain => ?_
  exact (Standalone.lift _).bind fun type => .pure _

theorem standalone_scanCluster (region : String) (name : Data) :
    (scanCluster region name).Standalone := by
  refine (Standalone.ask _ _ _).bind fun reply => (Standalone.lift _).bind fun cluster => ?_
  refine (Standalone.lift _).bind fun network => (Standalone.lift _).bind fun isPublic => ?_
  exact (Standalone.lift _).bind fun encryption => .pure _

theorem standalone_scanGroup (region : String) (group : Data) :
    (scanGroup region group).Standalone := by
  refine (Standalone.lift _).bind fun name => (Standalone.lift _).bind fun permissions => ?_
  exact (Standalone.mapM (fun p => .lift _) permissions).bind fun issues => .pure _

/-! ## Categories -/

theorem standalone_scanCompute (now : Instant) (region : String) :
    (scanCompute now region).Standalone := by
  refine (standalone_scanPages _ _ _ _ fun r => ?_).bind fun machines => ?_
  · exact (Standalone.lift _).bind fun rows => standalone_ofEach (fun machine => .lift _) rows
  · exact (standalone_scanPages _ _ _ _ fun volume => .lift _).bind fun volumes => .pure _

theorem standalone_scanStorage (now : Instant) (region : String) :
    (scanStorage now region).Standalone :=
  (Standalone.ask _ _ _).bind fun _ => (Standalone.lift _).bind fun buckets =>
    standalone_ofEach (standalone_scanBucket now region) buckets

theorem standalone_scanSpending (today : Date) : (scanSpending today).Standalone := by
  rw [scanSpending]
  -- On the first day of a month nothing is asked about that month; the rest is the same.
  split
  case' h_1 =>
    refine (Standalone.ask _ _ _).bind fun reply => (Standalone.lift _).bind fun byService => ?_
  case' h_2 => refine (Standalone.pure _).bind fun byService => ?_
  all_goals
    refine (Standalone.lift _).bind fun past => (Standalone.ask _ _ _).bind fun reply => ?_
    refine (Standalone.lift _).bind fun periods => ?_
    exact (Standalone.mapM (fun period => .lift _) periods).bind fun history => .pure _

/-- **The scan of a category stands by itself**: what was asked before it makes no difference. -/
theorem Category.standalone_scan (now : Instant) (region : String) (k : Category) :
    (k.scan now region).Standalone := by
  cases k with
  | compute => exact standalone_scanCompute now region
  | network => exact standalone_scanPages _ _ _ _ (standalone_scanGroup region)
  | storage => exact standalone_scanStorage now region
  | database => exact standalone_scanPages _ _ _ _ fun db => .lift _
  | identity => exact standalone_scanPages _ _ _ _ (standalone_scanUser now)
  | serverless => exact standalone_scanPages _ _ _ _ fun function => .lift _
  | nosql => exact standalone_scanPages _ _ _ _ (standalone_scanTable now region)
  | loadBalancers => exact standalone_scanPages _ _ _ _ (standalone_scanBalancer now region)
  | containers => exact standalone_scanPages _ _ _ _ (standalone_scanCluster region)
  | cost => exact standalone_scanSpending _

end Categories

/-! ## The scan of an account -/

theorem Entry.category_ofAnswer (limit : Int) (k : Category) (a : Answer Findings) :
    (Entry.ofAnswer limit k a).category = k := by
  cases a <;> rfl

/-- The entries of a report, where it is known what the scan of each category comes to. -/
def entriesOf (limit : Int) (own : Category → Answer Findings) : List Entry :=
  Category.all.map fun k => .ofAnswer limit k (own k)

/-- **The scan of an account does not fail**, whatever its cloud answers. Every category comes to
what it comes to by itself, and the calls are those of the categories in order. -/
theorem conduct_scanAccount (c : Cloud) (limit : Int) (now : Instant) (region : String)
    (account : Data) :
    c.conduct (scanAccount limit now region account) =
      let entries := entriesOf limit fun k => c.outcome (k.scan now region)
      (.ok ⟨account, region, entries, costSummary region entries, now⟩,
        Category.all.flatMap fun k => c.callsOf (k.scan now region)) := by
  have hentries : ((Category.all.mapM (scanCategory limit now region)).run c).run.run [] = _ :=
    Inquiry.run_mapM_of_attempt (Category.standalone_scan now region) (Entry.ofAnswer limit) _ c []
  rw [List.nil_append] at hentries
  rw [Cloud.conduct, scanAccount, Inquiry.run_bind, hentries]
  rfl

/-! ## Reports -/

/-- The texts of the categories that fail, in order. -/
def failureTexts (limit : Int) (own : Category → Answer Findings) : List String :=
  Category.all.filterMap fun k =>
    match own k with
    | .ok _ => none
    | .error f => some (failureText limit k.label f)

namespace Report

/-- A figure of the summary of a report, as it is viewed. -/
def figure (r : Report) (key : String) : Option Data :=
  (r.toData.field? "summary").bind (Data.field? key)

/-- **A report that accounts for every category**, where it is known what the scan of each comes to
by itself. -/
structure Accounts (limit : Int) (own : Category → Answer Findings) (r : Report) : Prop where
  /-- Each category is reported, under its name. -/
  categories : r.toData.field? "categories" =
    some (.map (r.entries.map fun e => (e.category.word, e.toData)))
  names : r.entries.map (·.category.word) = ["compute", "network", "storage", "database",
    "identity", "serverless", "nosql", "load_balancers", "containers", "cost"]
  /-- What a category found by itself is reported without an error, -/
  found : ∀ e ∈ r.entries, ∀ x, own e.category = .ok x → e.findings = x ∧ e.error = none
  /-- and one that failed is reported with nothing but the reason. -/
  failed : ∀ e ∈ r.entries, ∀ f, own e.category = .error f →
    e.findings = {} ∧ e.error = some (failureText limit e.category.label f)
  /-- The errors are the reasons of all that failed, in order. -/
  errors : r.errors = failureTexts limit own
  errors_toData : r.toData.field? "errors" = some (.ofTexts r.errors)
  partial_iff : r.toData.field? "partial" = some (.bool true) ↔ r.errors ≠ []
  /-- The figures of the summary are sums over the categories. -/
  resources : r.figure "total_resources" =
    some (.ofNat (r.entries.map (·.findings.scanned)).sum)
  critical : r.figure "critical_issues" =
    some (.ofNat (r.entries.map (·.findings.issues.countP (·.severity == .critical))).sum)
  high : r.figure "high_issues" =
    some (.ofNat (r.entries.map (·.findings.issues.countP (·.severity == .high))).sum)

variable {limit : Int} {own : Category → Answer Findings} {r : Report}

/-- Issues are counted category by category. -/
theorem countOf_eq_sum (r : Report) (s : Policy.Severity) :
    r.countOf s = (r.entries.map (·.findings.issues.countP (·.severity == s))).sum := by
  rw [countOf, issues, List.countP_flatMap]
  rfl

theorem scanned_eq_sum (r : Report) : r.scanned = (r.entries.map (·.findings.scanned)).sum := by
  rw [scanned, List.sum_eq_foldr]

theorem errors_of_entries (h : r.entries = entriesOf limit own) :
    r.errors = failureTexts limit own := by
  rw [errors, h, entriesOf, List.filterMap_map, failureTexts]
  congr 1
  funext k
  show (Entry.ofAnswer limit k (own k)).error = _
  cases own k <;> rfl

/-- A report is partial if there are errors. -/
theorem partial_iff_errors (r : Report) :
    r.toData.field? "partial" = some (.bool true) ↔ r.errors ≠ [] := by
  show some (Data.bool !r.errors.isEmpty) = some (.bool true) ↔ _
  simp

/-- **A report of what the categories come to accounts for all of them.** -/
theorem accounts_of_entries (h : r.entries = entriesOf limit own) : r.Accounts limit own where
  categories := rfl
  names := by
    rw [h, entriesOf, List.map_map]
    simp only [Function.comp_def, Entry.category_ofAnswer]
    rfl
  found e he x hx := by
    rw [h] at he
    obtain ⟨k, -, rfl⟩ := List.mem_map.1 he
    rw [Entry.category_ofAnswer] at hx
    rw [hx]
    exact ⟨rfl, rfl⟩
  failed e he f hf := by
    rw [h] at he
    obtain ⟨k, -, rfl⟩ := List.mem_map.1 he
    rw [Entry.category_ofAnswer] at hf ⊢
    rw [hf]
    exact ⟨rfl, rfl⟩
  errors := errors_of_entries h
  errors_toData := rfl
  partial_iff := partial_iff_errors r
  resources := by rw [← scanned_eq_sum]; rfl
  critical := by rw [← countOf_eq_sum]; rfl
  high := by rw [← countOf_eq_sum]; rfl

end Report

end Groundplan.Scan

namespace Groundplan

open Tenancy (Quiet records quiet_assumeConnection quiet_checkKeys)

/-! ## Keys -/

/-- Keys are for the region that they are asked for. -/
theorem region_of_issuedKeys {region : String} {reply : Data} {k : Keys}
    (h : issuedKeys region reply = .ok k) : k.region = region := by
  rw [Deploy.issuedKeys_map region ""] at h
  cases hother : issuedKeys "" reply with
  | error f =>
    rw [hother] at h
    cases h
  | ok other =>
    rw [hother] at h
    cases h
    rfl

theorem region_of_settle {now : Instant} {region : String} {b : Breaker} {answer : Answer Data}
    {k : Keys} (h : (settle now region b answer).1 = .ok k) : k.region = region := by
  cases answer with
  | ok reply => exact region_of_issuedKeys h
  | error f =>
    rw [settle] at h
    split at h
    · split at h <;> cases h
    · cases h

/-- The region in which a connection is used. -/
def Connection.regionIn (c : Connection) (s : Installation) : String :=
  if c.region == "" then s.settings.region else c.region

/-- The keys of a connection are for its region. -/
theorem region_of_assumeConnection {w : World} {c : Connection} {purpose : String}
    {s : Installation} {k : Keys} (h : (assumeConnection w c purpose s).1 = .ok k) :
    k.region = c.regionIn s := by
  rw [assumeConnection, Action.bind_apply, Action.get_apply] at h
  dsimp only at h
  rw [Action.bind_apply, Action.ofAnswer_apply] at h
  -- The role is revealed, the breaker lets the call through, and the reply issues keys.
  cases harn : s.vault.reveal c.id c.sealedArn with
  | error f =>
    rw [harn] at h
    cases h
  | ok arn =>
    rw [harn] at h
    dsimp only at h
    rw [Deploy.assume_eq] at h
    split at h
    · cases h
    · dsimp only at h
      split at h
      · exact region_of_settle h
      · cases h

/-- **The cloud told which account keys for a region belong to.** -/
def Identified (w : World) (region : String) (account : Data) : Prop :=
  ∃ identity, w.account.call ⟨"sts", region, "get_caller_identity", []⟩ = .ok identity ∧
    identity.getItem "Account" = .ok account

theorem checkKeys_eq_ok_iff {w : World} {k : Keys} {s : Installation} {account : Data} :
    (checkKeys w k s).1 = .ok account ↔ Identified w k.region account := by
  rw [checkKeys, Action.bind_apply, Action.note_apply, Identified]
  dsimp only
  cases w.account.call ⟨"sts", k.region, "get_caller_identity", []⟩ with
  | ok identity =>
    constructor
    · intro h
      exact ⟨identity, rfl, h⟩
    · rintro ⟨_, ⟨⟩, h⟩
      exact h
  | error f =>
    dsimp only
    constructor
    · intro h
      split at h <;> cases h
    · rintro ⟨_, ⟨⟩, _⟩

/-- **All that a scan waits for before it is charged**: the connection is one of the user, keys were
issued for it and checked, and the balance covers the price. -/
def Ready (w : World) (user id : String) (s : Installation) : Prop :=
  ∃ c k account, ownConnection s user id = .ok c ∧ (assumeConnection w c "scan" s).1 = .ok k ∧
    Identified w k.region account ∧ Metered.scan.cost ≤ s.credits.balance user

theorem ready_iff {w : World} {user id : String} {s : Installation} {c : Connection}
    (hown : ownConnection s user id = .ok c) : Ready w user id s ↔
      ∃ k account, (assumeConnection w c "scan" s).1 = .ok k ∧ Identified w k.region account ∧
        Metered.scan.cost ≤ s.credits.balance user := by
  constructor
  · rintro ⟨c', k, account, hown', hready⟩
    obtain rfl : c = c' := Except.ok.inj (hown.symm.trans hown')
    exact ⟨k, account, hready⟩
  · rintro ⟨k, account, hready⟩
    exact ⟨c, k, account, hown, hready⟩

/-! ## Charging and delivering -/

variable {α β : Type} {user : String} {s : Installation} {ready : Prop}

/-- **A charge for which there is a result if all is ready, and neither of them if not.** -/
def Delivers (user : String) (price : Int) (s : Installation) (ready : Prop) (D : α → Prop)
    (o : Answer α × Installation) : Prop :=
  (¬ ready ∧ ∃ f, o.1 = .error f ∧ o.2.credits.balance user = s.credits.balance user) ∨
    (ready ∧ ∃ x, o.1 = .ok x ∧
      o.2.credits.balance user = s.credits.balance user - price ∧ D x)

/-- What only reads and asks comes before the charge; it does not fail if all is ready. -/
theorem Delivers.quiet_bind {a : Action α} {k : α → Action β} {price : Int} {D : β → Prop}
    (ha : Quiet a) (hready : ready → ∃ x, (a s).1 = .ok x)
    (hk : ∀ x t, a s = (.ok x, t) → t.settings = s.settings → t.credits = s.credits →
      Delivers user price t ready D (k x t)) :
    Delivers user price s ready D ((a >>= k) s) := by
  have hcredits : (records (a s).2).credits = _ := congrArg Installation.credits (ha s)
  have hsettings : (records (a s).2).settings = _ := congrArg Installation.settings (ha s)
  dsimp only [records] at hcredits hsettings
  rw [Action.bind_apply]
  generalize a s = o at *
  obtain ⟨f | x, t⟩ := o
  · refine .inl ⟨fun h => ?_, f, rfl, by rw [hcredits]⟩
    obtain ⟨_, ⟨⟩⟩ := hready h
  · have hdelivers := hk x t rfl hsettings hcredits
    rwa [Delivers, hcredits] at hdelivers

/-- After the charge nothing may fail. -/
theorem Delivers.charge_bind {m : Metered} {k : Int → Action β} {D : β → Prop}
    (hready : ready ↔ m.cost ≤ s.credits.balance user)
    (hk : ∀ n t, t.settings = s.settings →
      (k n t).2.credits = t.credits ∧ ∃ x, (k n t).1 = .ok x ∧ D x) :
    Delivers user m.cost s ready D ((charge user m >>= k) s) := by
  rw [Action.bind_apply]
  obtain ⟨hpoor, f, hcharge⟩ | ⟨hcovered, n, credits, hcharge, hbalance⟩ := charge_cases user m s
  · rw [hcharge]
    exact .inl ⟨fun h => Int.not_le.2 hpoor (hready.1 h), f, rfl, rfl⟩
  · rw [hcharge]
    obtain ⟨hcredits, x, hx, hD⟩ := hk n { s with credits := credits } rfl
    refine .inr ⟨hready.2 hcovered, x, hx, ?_, hD⟩
    rw [← hbalance]
    exact congrArg (Credits.balance · user) hcredits

/-- **A scan is charged exactly if it is delivered**, in any state and whatever the cloud answers.
If all is ready, the balance falls by the price and there is a report: on the account that the
checked keys belong to, in the region of the connection, and accounting for each category by what
its scan comes to when nothing else is scanned. If not, the scan fails and the balance is as it
was. -/
theorem scanConnection_delivers (w : World) (user id : String) (s : Installation) :
    (¬ Ready w user id s ∧ ∃ f, (scanConnection w user id s).1 = .error f ∧
        (scanConnection w user id s).2.credits.balance user = s.credits.balance user) ∨
      (Ready w user id s ∧ ∃ r, (scanConnection w user id s).1 = .ok r ∧
        (scanConnection w user id s).2.credits.balance user = s.credits.balance user - 20 ∧
        (∃ c, ownConnection s user id = .ok c ∧ r.region = c.regionIn s) ∧
        Identified w r.region r.account ∧
        r.Accounts s.settings.scanSeconds fun k => w.account.outcome (k.scan w.now r.region)) := by
  show Delivers user Metered.scan.cost s _ _ _
  rw [scanConnection]
  refine .quiet_bind (fun _ => rfl) ?own fun c t hc _ _ => ?_
  case own =>
    rintro ⟨c, -, -, hown, -⟩
    exact ⟨c, hown⟩
  obtain ⟨hown, rfl⟩ := Prod.mk.inj hc
  rw [ready_iff hown]
  refine .quiet_bind (quiet_assumeConnection w c _) ?issued fun k t hk hts htc => ?_
  case issued =>
    rintro ⟨k, -, hissued, -⟩
    exact ⟨k, hissued⟩
  have hissued := congrArg Prod.fst hk
  refine .quiet_bind (quiet_checkKeys w k) ?identified fun account a ha has hac => ?_
  case identified =>
    rintro ⟨k', account, hissued', hidentified, -⟩
    obtain rfl : k = k' := Except.ok.inj (hissued.symm.trans hissued')
    exact ⟨account, checkKeys_eq_ok_iff.2 hidentified⟩
  have hidentified := checkKeys_eq_ok_iff.1 (congrArg Prod.fst ha)
  refine .charge_bind ?covered fun n b hbs => ?_
  case covered =>
    rw [hac, htc]
    constructor
    · rintro ⟨-, -, -, -, hcovered⟩
      exact hcovered
    · intro hcovered
      exact ⟨k, account, hissued, hidentified, hcovered⟩
  -- The charge is made, and what is left does not fail.
  rw [Action.bind_apply, Action.get_apply]
  dsimp only
  rw [Action.inquire_apply, Cloud.outcome, Scan.conduct_scanAccount]
  refine ⟨rfl, _, rfl, ⟨c, hown, region_of_assumeConnection hissued⟩, hidentified, ?_⟩
  rw [← hts, ← has, ← hbs]
  exact Scan.Report.accounts_of_entries rfl

end Groundplan
