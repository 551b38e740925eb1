import Groundplan.Proofs.Cloud.Discovery
import Groundplan.Proofs.Deploy.Confined

/-!
# How a discovery fails

A discovery reads what the cloud answers, and fails on an answer of another shape or on a fault that
it does not pass over. It makes no refusal of its own: as long as the cloud makes none of the
refusals of this library, there is something to record of every failure.

## Main definitions

* `Cloud.External`: the cloud makes no refusals of this library
* `Inquiry.Leads`: what an inquiry leads to, its failures being such that they can be recorded

## Main results

* `listings_proceed`: reading what is said about a resource
* `discover_proceeds`: **a discovery fails with something to record**
-/

namespace Groundplan

/-- The cloud under the keys of a role answers with faults of its own, and with none of the
refusals that this library makes. -/
structure Cloud.External (c : Cloud) : Prop where
  call : ∀ call f, c.call call = .error f → f.isRefusal = false
  pages : ∀ call f, .error f ∈ c.pages call → f.isRefusal = false

section Records

variable {α β : Type}

theorem proceeds_mapM {f : α → Answer β} {xs : List α} (h : ∀ x ∈ xs, Proceeds (f x)) :
    Proceeds (xs.mapM f) := by
  induction xs with
  | nil => exact proceeds_ok []
  | cons x xs ih =>
    rw [List.forall_mem_cons] at h
    rw [List.mapM_cons]
    exact h.1.bind fun y => (ih h.2).bind fun ys => proceeds_ok _

theorem proceeds_entry (d : Data) (key : String) : Proceeds (d.entry key) :=
  proceeds_getFieldD d key .null

theorem proceeds_innerEntry (d : Data) (key inner : String) : Proceeds (d.innerEntry key inner) :=
  (proceeds_getFieldD d key _).bind fun d => proceeds_entry d inner

theorem proceeds_elements (d : Data) : Proceeds d.elements := by
  rw [Data.elements.eq_def]
  split
  · exact proceeds_ok _
  · exact proceeds_ok _
  · exact proceeds_ok _
  · exact proceeds_fault rfl

theorem proceeds_pick (item : Data) (names : Entries String) : Proceeds (pick item names) :=
  proceeds_mapM fun n _ => (proceeds_entry item n.2).bind fun _ => proceeds_ok _

theorem proceeds_nameAmong (tags : List Data) : Proceeds (nameAmong tags) := by
  induction tags with
  | nil => exact proceeds_ok _
  | cons tag tags ih =>
    rw [nameAmong]
    refine (proceeds_entry tag "Key").bind fun key => ?_
    split
    · exact proceeds_entry tag "Value"
    · exact ih

theorem proceeds_nameTag (tags : Data) : Proceeds (nameTag tags) := by
  rw [nameTag]
  split
  · exact (proceeds_elements tags).bind fun _ => proceeds_nameAmong _
  · exact proceeds_ok _

theorem proceeds_countOf (d : Data) : Proceeds (countOf d) := by
  rw [countOf.eq_def]
  split
  · exact proceeds_ok _
  · exact proceeds_ok _
  · exact proceeds_ok _
  · exact proceeds_fault rfl

theorem proceeds_arnName (d : Data) : Proceeds (arnName d) := by
  rw [arnName.eq_def]
  split
  · exact proceeds_ok _
  · exact proceeds_fault rfl

theorem proceeds_selfNamed (key : String) (names : Entries String) (item : Data) :
    Proceeds (selfNamed key names item) :=
  (proceeds_getItem key item).bind fun _ => (proceeds_pick item names).bind fun _ => proceeds_ok _

theorem proceeds_namedBy (key nameKey : String) (names : Entries String) (item : Data) :
    Proceeds (namedBy key nameKey names item) :=
  (proceeds_getItem key item).bind fun _ => (proceeds_entry item nameKey).bind fun _ =>
    (proceeds_pick item names).bind fun _ => proceeds_ok _

theorem proceeds_tagged (key : String) (names : Entries String) (item : Data) :
    Proceeds (tagged key names item) :=
  (proceeds_getItem key item).bind fun _ => (proceeds_entry item "Tags").bind fun tags =>
    (proceeds_nameTag tags).bind fun _ => (proceeds_pick item names).bind fun _ => proceeds_ok _

theorem proceeds_machineRecord (item : Data) : Proceeds (machineRecord item) :=
  (proceeds_tagged _ _ item).bind fun _ => (proceeds_innerEntry item _ _).bind fun _ =>
    (proceeds_pick item _).bind fun _ => proceeds_ok _

theorem proceeds_groupRecord (item : Data) : Proceeds (groupRecord item) :=
  (proceeds_namedBy _ _ _ item).bind fun _ => (proceeds_getFieldD item _ _).bind fun rules =>
    (proceeds_countOf rules).bind fun _ => proceeds_ok _

theorem proceeds_zoneRecord (item : Data) : Proceeds (zoneRecord item) :=
  (proceeds_namedBy _ _ _ item).bind fun _ => (proceeds_innerEntry item _ _).bind fun _ =>
    (proceeds_pick item _).bind fun _ => proceeds_ok _

theorem proceeds_topicRecord (item : Data) : Proceeds (topicRecord item) :=
  (proceeds_getItem _ item).bind fun arn => (proceeds_arnName arn).bind fun _ => proceeds_ok _

theorem proceeds_addressRecord (item : Data) : Proceeds (addressRecord item) :=
  (proceeds_arnName item).bind fun _ => proceeds_ok _

/-- **Reading what is said about a resource** makes no refusal. -/
theorem listings_proceed : ∀ l ∈ listings, ∀ item, Proceeds (l.record item) := by
  simp only [listings, List.forall_mem_cons]
  exact ⟨proceeds_tagged _ _, proceeds_tagged _ _, proceeds_machineRecord, proceeds_groupRecord,
    proceeds_selfNamed _ _, proceeds_selfNamed _ _, proceeds_selfNamed _ _, proceeds_selfNamed _ _,
    fun _ => proceeds_ok _, proceeds_namedBy _ _ _, proceeds_addressRecord, proceeds_namedBy _ _ _,
    proceeds_zoneRecord, proceeds_topicRecord, proceeds_addressRecord, proceeds_selfNamed _ _,
    proceeds_selfNamed _ _, nofun⟩

theorem proceeds_recordsOf {l : Listing} (hl : ∀ item, Proceeds (l.record item)) (now : Instant)
    (region connection : String) (items : List Data) :
    Proceeds (recordsOf l now region connection items) :=
  proceeds_mapM fun item _ => (hl item).bind fun _ => proceeds_ok _

end Records

namespace Inquiry

variable {α β : Type} {c : Cloud} {P : α → Prop} {Q : β → Prop}

/-- **What an inquiry of a cloud leads to**: a result of some kind, or a failure that can be
recorded. -/
def Leads (c : Cloud) (q : Inquiry α) (P : α → Prop) : Prop :=
  ∀ calls, Proceeds ((q.run c).run.run calls).1 ∧
    ∀ x, ((q.run c).run.run calls).1 = .ok x → P x

theorem Leads.pure {x : α} (h : P x) : Leads c (pure x) P := by
  refine fun calls => ⟨proceeds_ok x, ?_⟩
  rintro _ ⟨⟩
  exact h

/-- An answer that does not come from the cloud. -/
theorem Leads.lift {a : Answer α} (ha : Proceeds a) : Leads c (liftM a) fun x => a = .ok x := by
  intro calls
  cases a with
  | error f => exact ⟨proceeds_error (ha f rfl), nofun⟩
  | ok x =>
    refine ⟨proceeds_ok x, ?_⟩
    rintro _ ⟨⟩
    rfl

theorem Leads.bind {q : Inquiry α} {k : α → Inquiry β} (hq : Leads c q P)
    (hk : ∀ x, P x → Leads c (k x) Q) : Leads c (q >>= k) Q := by
  intro calls
  rw [run_bind]
  have hx := hq calls
  generalize (q.run c).run.run calls = o at hx
  obtain ⟨f | x, calls'⟩ := o
  · exact ⟨proceeds_error (hx.1 f rfl), nofun⟩
  · exact hk x (hx.2 x rfl) calls'

theorem Leads.mono {P' : α → Prop} {q : Inquiry α} (hq : Leads c q P) (h : ∀ x, P x → P' x) :
    Leads c q P' :=
  fun calls => ⟨(hq calls).1, fun x hx => h x ((hq calls).2 x hx)⟩

theorem Leads.mapM {f : α → Inquiry β} {xs : List α} (h : ∀ x ∈ xs, Leads c (f x) fun _ => True) :
    Leads c (xs.mapM f) fun _ => True := by
  induction xs with
  | nil => exact .pure trivial
  | cons x xs ih =>
    rw [List.forall_mem_cons] at h
    rw [List.mapM_cons]
    exact h.1.bind fun y _ => (ih h.2).bind fun ys _ => .pure trivial

/-- An attempt does not fail, and what it leads to is an answer that can be recorded. -/
theorem Leads.attempt {q : Inquiry α} (hq : Leads c q P) : Leads c q.attempt Proceeds := by
  refine fun calls => ⟨proceeds_ok _, ?_⟩
  rintro _ ⟨⟩
  exact (hq calls).1

theorem leads_ask (hc : c.External) (k : Client) (operation : String) (params : Entries Data) :
    Leads c (k.ask operation params) fun _ => True :=
  fun _ => ⟨fun f hf => Failure.isInner_of_fault (hc.call _ f hf), fun _ _ => trivial⟩

theorem leads_pages (hc : c.External) (k : Client) (operation : String) (params : Entries Data) :
    Leads c (k.pages operation params) fun ps => ∀ p ∈ ps, Proceeds p := by
  refine fun calls => ⟨proceeds_ok _, ?_⟩
  rintro _ ⟨⟩ p hp f rfl
  exact Failure.isInner_of_fault (hc.pages _ f hp)

end Inquiry

open Inquiry

variable {c : Cloud} {now : Instant} {region connection : String}

theorem leads_discoverType (hc : c.External) {l : Listing}
    (hl : ∀ item, Proceeds (l.record item)) :
    Leads c (discoverType l now region connection) fun _ => True := by
  have hrecords (items : List Data) := proceeds_recordsOf hl now region connection items
  rw [discoverType]
  refine Leads.bind (P := fun _ => True)
    (fun _ => ⟨proceeds_ok _, fun _ _ => trivial⟩) fun paged _ => ?_
  split
  · refine (leads_pages hc _ _ _).bind fun pages hpages => ?_
    refine (Leads.mapM fun page hpage => ?_).bind fun found _ => .pure trivial
    refine (Leads.lift (hpages page hpage)).bind fun d _ => ?_
    exact (Leads.lift (hrecords _)).mono fun _ _ => trivial
  · refine (leads_ask hc _ _ _).bind fun reply _ => ?_
    refine (Leads.lift ((proceeds_getFieldD _ _ _).bind fun d => proceeds_elements d)).bind
      fun rows _ => ?_
    exact (Leads.lift (hrecords rows)).mono fun _ _ => trivial

/-- **A discovery fails with something to record**, as long as the cloud makes no refusals of this
library. -/
theorem discover_proceeds (hc : c.External) : Proceeds (c.outcome (discover now region connection))
    := by
  suffices hall : Leads c (discover now region connection) fun _ => True from (hall []).1
  rw [discover]
  refine (Leads.mapM fun l hl => ?_).bind fun found _ => .pure trivial
  refine (leads_discoverType hc (listings_proceed l hl)).attempt.bind fun a ha => ?_
  refine (Leads.lift ?_).mono fun _ _ => trivial
  cases a with
  | ok found => exact proceeds_ok _
  | error f =>
    rw [discoveredOf]
    split
    · exact proceeds_ok _
    · exact proceeds_error (ha f rfl)

end Groundplan
