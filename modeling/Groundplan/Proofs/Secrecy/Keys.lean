import Groundplan.Account.Session
import Groundplan.Deploy.Workspace
import Groundplan.Proofs.Entries

/-!
# Other keys

The same role may be taken on twice, and the token service then issues other keys. Its replies
differ in nothing else, so what is read from them belongs together: the same failure, or keys that
differ only as texts. Whether there are such keys and whether they make an override does not depend
on what they say.

## Main definitions

* `Matches`: answers that are the same failure, or results that belong together
* `Interchangeable`: the same value, or two texts that are not empty
* `Reissued`: replies of the token service that differ only in the keys that they issue
* `Keys.Alike`: keys that differ only as texts
* `World.Reissues`: worlds that differ only in the keys that are issued

## Main results

* `matches_issuedKeys`: the keys of such replies belong together
* `matches_settle`: so does what the replies mean, and the breaker is the same
* `matches_override`: alike keys both make an override, or fail alike
-/

namespace Groundplan

/-! ## Answers that match -/

/-- **Answers that match**: the same failure, or results that belong together. -/
inductive Matches {α β : Type} (R : α → β → Prop) : Answer α → Answer β → Prop where
  | ok {x : α} {y : β} (h : R x y) : Matches R (.ok x) (.ok y)
  | error (f : Failure) : Matches R (.error f) (.error f)

namespace Matches

variable {α β γ δ : Type} {R : α → β → Prop} {S : γ → δ → Prop} {a : Answer α} {b : Answer β}

theorem of_eq {a b : Answer α} (h : a = b) : Matches Eq a b := by
  subst h
  cases a with
  | ok x => exact .ok rfl
  | error f => exact .error f

theorem eq {a b : Answer α} (h : Matches Eq a b) : a = b := by
  cases h with
  | ok h => rw [h]
  | error f => rfl

/-- An answer matches itself if its results belong together with themselves. -/
theorem refl {R : α → α → Prop} (hR : ∀ x, R x x) (a : Answer α) : Matches R a a := by
  cases a with
  | ok x => exact .ok (hR x)
  | error f => exact .error f

theorem bind {k : α → Answer γ} {l : β → Answer δ} (h : Matches R a b)
    (hk : ∀ x y, R x y → Matches S (k x) (l y)) : Matches S (a >>= k) (b >>= l) := by
  cases h with
  | ok h => exact hk _ _ h
  | error f => exact .error f

theorem map {g : α → γ} {g' : β → δ} (h : Matches R a b) (hg : ∀ x y, R x y → S (g x) (g' y)) :
    Matches S (a.map g) (b.map g') := by
  cases h with
  | ok h => exact .ok (hg _ _ h)
  | error f => exact .error f

end Matches

/-! ## Maps that belong together -/

/-- Maps that have the same keys in the same order, and values that belong together. -/
abbrev Entries.Related (R : String → Data → Data → Prop) (es fs : Entries Data) : Prop :=
  List.Forall₂ (fun e f => e.1 = f.1 ∧ R e.1 e.2 f.2) es fs

section Maps

variable {R : String → Data → Data → Prop} {es fs : Entries Data}

/-- What is found in maps that belong together belongs together. -/
theorem Entries.Related.get? (h : Entries.Related R es fs) (key : String) :
    Option.Rel (R key) (Entries.get? key es) (Entries.get? key fs) := by
  induction h with
  | nil => exact .none
  | @cons e f es fs hef _ ih =>
    obtain ⟨k, d⟩ := e
    obtain ⟨_, d'⟩ := f
    obtain ⟨rfl, hR⟩ := hef
    simp only [Entries.get?, List.lookup_cons]
    split
    · rename_i hk
      rw [beq_iff_eq] at hk
      subst hk
      exact .some hR
    · exact ih

theorem matches_getItem (h : Entries.Related R es fs) (key : String) :
    Matches (R key) ((Data.map es).getItem key) ((Data.map fs).getItem key) := by
  have hfound := h.get? key
  rw [Data.getItem, Data.getItem]
  generalize Entries.get? key es = d at hfound
  generalize Entries.get? key fs = e at hfound
  cases hfound with
  | none => exact .error _
  | some hR => exact .ok hR

theorem matches_getFieldD (h : Entries.Related R es fs) {key : String} {default : Data}
    (hdefault : R key default default) :
    Matches (R key) ((Data.map es).getFieldD key default)
      ((Data.map fs).getFieldD key default) := by
  have hfound := h.get? key
  show Matches (R key) (.ok ((Entries.get? key es).getD default))
    (.ok ((Entries.get? key fs).getD default))
  generalize Entries.get? key es = d at hfound
  generalize Entries.get? key fs = e at hfound
  cases hfound with
  | none => exact .ok hdefault
  | some hR => exact .ok hR

end Maps

/-! ## Replies that issue keys -/

/-- The entries of a reply that make up the keys. -/
def keyNames : List String := ["AccessKeyId", "SecretAccessKey", "SessionToken"]

/-- **The same value, or two texts that are not empty.** -/
def Interchangeable (d e : Data) : Prop :=
  d = e ∨ ∃ x y, d = .text x ∧ x ≠ "" ∧ e = .text y ∧ y ≠ ""

theorem Interchangeable.refl (d : Data) : Interchangeable d d := .inl rfl

/-- What is issued is the same but for the keys. -/
def IssuedAlike (name : String) (d e : Data) : Prop :=
  d = e ∨ (name ∈ keyNames ∧ Interchangeable d e)

theorem IssuedAlike.interchangeable {name : String} {d e : Data} (h : IssuedAlike name d e) :
    Interchangeable d e :=
  h.elim .inl fun h => h.2

theorem IssuedAlike.eq {name : String} {d e : Data} (h : IssuedAlike name d e)
    (hname : name ∉ keyNames) : d = e :=
  h.resolve_right fun h => hname h.1

/-- A reply is the same but for what is issued with it. -/
def ReplyAlike (name : String) (d e : Data) : Prop :=
  d = e ∨ (name = "Credentials" ∧ ∃ es fs, d = .map es ∧ e = .map fs ∧
    Entries.Related IssuedAlike es fs)

/-- **Replies of the token service that differ only in the keys** that they issue. -/
def Reissued (a b : Answer Data) : Prop :=
  a = b ∨ ∃ es fs, a = .ok (.map es) ∧ b = .ok (.map fs) ∧ Entries.Related ReplyAlike es fs

/-- **Keys that differ only as texts.** -/
structure Keys.Alike (k l : Keys) : Prop where
  accessKey : Interchangeable k.accessKey l.accessKey
  secretKey : Interchangeable k.secretKey l.secretKey
  token : Interchangeable k.token l.token
  region : k.region = l.region
  expiration : k.expiration = l.expiration

theorem Keys.Alike.refl (k : Keys) : k.Alike k :=
  ⟨.refl _, .refl _, .refl _, rfl, rfl⟩

/-- The keys that are issued with replies that are alike. -/
theorem matches_issuedKeys {es fs : Entries Data} (h : Entries.Related ReplyAlike es fs)
    (region : String) :
    Matches Keys.Alike (issuedKeys region (.map es)) (issuedKeys region (.map fs)) := by
  rw [issuedKeys, issuedKeys]
  refine (matches_getItem h "Credentials").bind ?_
  rintro d _ (rfl | ⟨-, is, js, rfl, rfl, hissued⟩)
  · exact .refl Keys.Alike.refl _
  -- What is issued is read entry by entry.
  refine (matches_getItem hissued "AccessKeyId").bind fun access access' haccess => ?_
  refine (matches_getItem hissued "SecretAccessKey").bind fun secret secret' hsecret => ?_
  refine (matches_getFieldD hissued (.inl rfl)).bind fun token token' htoken => ?_
  refine (matches_getFieldD hissued (.inl rfl)).bind fun expiration expiration' hexpiration => ?_
  exact .ok ⟨haccess.interchangeable, hsecret.interchangeable, htoken.interchangeable, rfl,
    hexpiration.eq (by decide)⟩

/-- **What replies mean that differ only in the keys**: the same failure or alike keys, and the same
for the breaker. -/
theorem matches_settle {a b : Answer Data} (h : Reissued a b) (now : Instant) (region : String)
    (breaker : Breaker) :
    Matches Keys.Alike (settle now region breaker a).1 (settle now region breaker b).1 ∧
      (settle now region breaker b).2 = (settle now region breaker a).2 := by
  obtain rfl | ⟨es, fs, rfl, rfl, hreply⟩ := h
  · exact ⟨.refl Keys.Alike.refl _, rfl⟩
  · exact ⟨matches_issuedKeys hreply region, rfl⟩

/-- **Worlds that differ only in the keys that are issued** for roles. -/
structure World.Reissues (w w' : World) : Prop where
  rest : w' = { w with host := w'.host }
  host : ∀ call, call.operation ≠ "assume_role" → w'.host call = w.host call
  issued : ∀ call, call.operation = "assume_role" → Reissued (w.host call) (w'.host call)

/-! ## The override -/

theorem matches_literalOf {d e : Data} (h : Interchangeable d e) :
    Matches (fun _ _ => True) (Deploy.literalOf d) (Deploy.literalOf e) := by
  obtain rfl | ⟨x, y, rfl, -, rfl, -⟩ := h
  · exact .refl (fun _ => trivial) _
  · exact .ok trivial

theorem Interchangeable.isTruthy_eq {d e : Data} (h : Interchangeable d e) :
    e.isTruthy = d.isTruthy := by
  obtain rfl | ⟨x, y, rfl, hx, rfl, hy⟩ := h
  · rfl
  · show (y != "") = (x != "")
    rw [bne_iff_ne.2 hx, bne_iff_ne.2 hy]

/-- **Alike keys both make an override**, or fail alike. -/
theorem matches_override {k l : Keys} (h : k.Alike l) (app region : String) :
    Matches (fun _ _ => True) (Deploy.override app k region) (Deploy.override app l region) := by
  rw [Deploy.override, Deploy.override]
  refine (matches_literalOf h.accessKey).bind fun _ _ _ => ?_
  refine (matches_literalOf h.secretKey).bind fun _ _ _ => ?_
  rw [h.token.isTruthy_eq]
  split
  · refine Matches.bind (R := fun _ _ => True) ?_ fun _ _ _ => .ok trivial
    exact (matches_literalOf h.token).map fun _ _ _ => trivial
  · exact .ok trivial

end Groundplan
