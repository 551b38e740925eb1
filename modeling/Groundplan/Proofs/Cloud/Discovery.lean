import Groundplan.Cloud.Discovery
import Groundplan.Proofs.Answer
import Groundplan.Proofs.Cloud.Inquiry

/-!
# What a discovery finds

Whatever a cloud answers, the resources that are found in it are recorded under the connection for
which the discovery was made.

## Main definitions

* `Inquiry.Gives`: all results of an inquiry are of some kind

## Main results

* `Inquiry.Gives.bind`, `Inquiry.Gives.mapM`: the combinations
* `discover_connection`: **the resources that are found are of the connection**
-/

namespace Groundplan

namespace Inquiry

variable {α β : Type} {P : α → Prop} {Q : β → Prop}

/-- All results of an inquiry are of some kind, whatever the cloud answers. -/
def Gives (q : Inquiry α) (P : α → Prop) : Prop :=
  ∀ c calls x, ((q.run c).run.run calls).1 = .ok x → P x

theorem Gives.pure {x : α} (h : P x) : Gives (pure x) P := by
  rintro _ _ _ ⟨⟩
  exact h

/-- An answer that does not come from the cloud. -/
theorem Gives.lift {a : Answer α} (h : ∀ x, a = .ok x → P x) : Gives (liftM a) P := by
  intro c calls x hx
  cases a with
  | error f => cases hx
  | ok y =>
    cases hx
    exact h _ rfl

theorem gives_true (q : Inquiry α) : Gives q fun _ => True :=
  fun _ _ _ _ => trivial

/-- What the second inquiry gives may depend on what the first one gives. -/
theorem Gives.bind {q : Inquiry α} {k : α → Inquiry β} (hq : Gives q P)
    (hk : ∀ x, P x → Gives (k x) Q) : Gives (q >>= k) Q := by
  intro c calls y hy
  rw [run_bind] at hy
  have hx := hq c calls
  generalize (q.run c).run.run calls = o at hx hy
  obtain ⟨f | x, calls'⟩ := o
  · cases hy
  · exact hk x (hx x rfl) c calls' y hy

theorem Gives.mapM {f : α → Inquiry β} {xs : List α} (h : ∀ x, Gives (f x) Q) :
    Gives (xs.mapM f) fun ys => ∀ y ∈ ys, Q y := by
  induction xs with
  | nil => exact .pure (by simp)
  | cons x xs ih =>
    rw [List.mapM_cons]
    refine .bind (h x) fun y hy => .bind ih fun ys hys => .pure ?_
    exact List.forall_mem_cons.2 ⟨hy, hys⟩

/-- An attempt gives what the inquiry gives, or a failure. -/
theorem Gives.attempt {q : Inquiry α} (h : Gives q P) :
    Gives q.attempt fun a => ∀ x, a = .ok x → P x := by
  rintro c calls _ ⟨⟩ x hx
  exact h c calls x hx

end Inquiry

open Inquiry

variable {now : Instant} {region connection : String}

theorem recordsOf_connection {l : Listing} {items : List Data} {found : List LiveResource}
    (h : recordsOf l now region connection items = .ok found) :
    ∀ r ∈ found, r.connection = connection := by
  intro r hr
  obtain ⟨item, -, hitem⟩ := mem_of_mapM h hr
  cases hrecord : l.record item with
  | error f =>
    rw [hrecord] at hitem
    cases hitem
  | ok record =>
    rw [hrecord] at hitem
    cases hitem
    rfl

theorem discoverType_connection (l : Listing) :
    (discoverType l now region connection).Gives fun found =>
      ∀ r ∈ found, r.connection = connection := by
  rw [discoverType]
  refine .bind (gives_true _) fun paged _ => ?_
  split
  · refine .bind (gives_true _) fun pages _ => ?_
    refine .bind (P := fun found : List (List LiveResource) =>
      ∀ rs ∈ found, ∀ r ∈ rs, r.connection = connection) (.mapM fun page => ?_) fun found h => ?_
    · refine .bind (gives_true _) fun d _ => .lift fun found h => recordsOf_connection h
    · refine .pure fun r hr => ?_
      obtain ⟨rs, hrs, hr⟩ := List.mem_flatten.1 hr
      exact h rs hrs r hr
  · refine .bind (gives_true _) fun reply _ => .bind (gives_true _) fun rows _ => ?_
    exact .lift fun found h => recordsOf_connection h

theorem discoveredOf_connection {a : Answer (List LiveResource)} {d : Discovered}
    (ha : ∀ found, a = .ok found → ∀ r ∈ found, r.connection = connection)
    (h : discoveredOf a = .ok d) : ∀ r ∈ d.resources, r.connection = connection := by
  cases a with
  | ok found =>
    cases h
    exact ha found rfl
  | error f =>
    rw [discoveredOf] at h
    split at h <;> cases h
    simp

/-- **The resources that are found are of the connection** for which they are looked for. -/
theorem discover_connection {c : Cloud} {d : Discovered}
    (h : (c.conduct (discover now region connection)).1 = .ok d) :
    ∀ r ∈ d.resources, r.connection = connection := by
  suffices hall : (discover now region connection).Gives fun d =>
      ∀ r ∈ d.resources, r.connection = connection from hall c [] d h
  rw [discover]
  refine .bind (P := fun ds : List Discovered => ∀ d ∈ ds, ∀ r ∈ d.resources,
    r.connection = connection) (.mapM fun l => ?_) fun ds hds => .pure ?_
  · refine .bind (discoverType_connection l).attempt fun a ha => ?_
    exact .lift fun d hd => discoveredOf_connection ha hd
  · -- The discoveries of all types are put one behind the other.
    induction ds with
    | nil => simp
    | cons d ds ih =>
      rw [List.forall_mem_cons] at hds
      intro r hr
      rcases List.mem_append.1 (show r ∈ d.resources ++ _ from hr) with hr | hr
      · exact hds.1 r hr
      · exact ih hds.2 r hr

end Groundplan
