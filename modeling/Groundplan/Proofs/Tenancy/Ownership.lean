import Groundplan.Account.Connections
import Groundplan.Deploy.Lifecycle
import Groundplan.Proofs.Entries
import Groundplan.Proofs.Routine

/-!
# Who owns what

Every identifier is drawn once, for a user; what is kept under it is of that user. So each
collection falls into the records of one user and the records of all others, and whoever writes only
under identifiers of their own leaves alone what the others read.

Throughout, `own` says for whom an identifier was drawn.

## Main definitions

* `Filed`: the records of a collection are kept under their identifiers, each of its owner
* `SameBut`: lists that are the same but for what is of one user
* `Orderly`: the records of an installation are filed, and deployments are made from templates
* `Later`, `Turn`: what anyone may do to an installation, and what one user may do
* `View`, `view`: all that a user can read

## Main results

* `rules`: turns are turns among others
* `Turn.view_eq`: **a turn of one user leaves what another reads as it is**
-/

namespace Groundplan.Tenancy

open Deploy

variable {own : String → String} {u v : String}

/-! ## Collections -/

section Collections

variable {α : Type} {id user : α → String} {es fs : Entries α} {key what : String} {x : α}

/-- The records of a collection are kept under their identifiers, each of its owner. -/
def Filed (own : String → String) (id user : α → String) (es : Entries α) : Prop :=
  ∀ e ∈ es, id e.2 = e.1 ∧ user e.2 = own e.1

theorem Filed.set (h : Filed own id user es) (hid : id x = key) (huser : user x = own key) :
    Filed own id user (Entries.set key x es) := by
  intro e he
  rcases Entries.mem_of_mem_set he with rfl | he
  · exact ⟨hid, huser⟩
  · exact h e he

theorem Filed.erase (h : Filed own id user es) : Filed own id user (Entries.erase key es) :=
  fun e he => h e (List.mem_of_mem_filter he)

theorem Filed.get? (h : Filed own id user es) (hx : Entries.get? key es = some x) :
    id x = key ∧ user x = own key :=
  h _ (Entries.mem_of_get? hx)

/-- A record that a user finds was drawn for that user. -/
theorem Filed.owned (h : Filed own id user es) (hx : owned user what u key es = .ok x) :
    id x = key ∧ user x = u ∧ own key = u := by
  obtain ⟨hget, hu⟩ := owned_eq_ok.1 hx
  obtain ⟨hid, hown⟩ := h.get? hget
  exact ⟨hid, hu, hown.symm.trans hu⟩

/-- A user for whom an identifier was not drawn finds nothing under it. -/
theorem Filed.owned_eq_error (h : Filed own id user es) (hne : own key ≠ u) :
    Groundplan.owned user what u key es = .error (.notFound what) := by
  rw [Groundplan.owned]
  cases hget : Entries.get? key es with
  | none => rfl
  | some x =>
    have huser : user x ≠ u := fun hx => hne ((h.get? hget).2.symm.trans hx)
    simp [huser]

/-- **Lists that are the same but for what is of one user.** -/
def SameBut (owner : α → String) (v : String) (xs ys : List α) : Prop :=
  ys.filter (fun y => owner y != v) = xs.filter fun x => owner x != v

theorem SameBut.refl (owner : α → String) (v : String) (xs : List α) : SameBut owner v xs xs :=
  rfl

theorem SameBut.trans {owner : α → String} {xs ys zs : List α} (h : SameBut owner v xs ys)
    (h' : SameBut owner v ys zs) : SameBut owner v xs zs :=
  Eq.trans h' h

/-- Entries that are the same but for those of one user. -/
abbrev SameEntries (own : String → String) (v : String) (es fs : Entries α) : Prop :=
  SameBut (fun e => own e.1) v es fs

theorem SameEntries.set (h : own key = v) (x : α) (es : Entries α) :
    SameEntries own v es (Entries.set key x es) :=
  Entries.filter_set (p := fun k => own k != v) (by simp [h]) es

theorem SameEntries.erase (h : own key = v) (es : Entries α) :
    SameEntries own v es (Entries.erase key es) :=
  Entries.filter_erase (p := fun k => own k != v) (by simp [h]) es

theorem SameEntries.get? (h : SameEntries own v es fs) (hne : own key ≠ v) :
    Entries.get? key fs = Entries.get? key es := by
  have hkey : (own key != v) = true := by simpa using hne
  rw [← Entries.get?_filter (p := fun k => own k != v) hkey fs,
    ← Entries.get?_filter (p := fun k => own k != v) hkey es]
  exact congrArg (Entries.get? key) h

/-- What another user finds under an identifier stays. -/
theorem SameEntries.owned (h : SameEntries own v es fs) (hes : Filed own id user es)
    (hfs : Filed own id user fs) (hu : u ≠ v) :
    owned user what u key fs = owned user what u key es := by
  by_cases hkey : own key = v
  · have hne : own key ≠ u := fun hown => hu (hown.symm.trans hkey)
    rw [hfs.owned_eq_error hne, hes.owned_eq_error hne]
  · rw [Groundplan.owned, h.get? hkey, Groundplan.owned]

/-- What another user finds in a collection stays. -/
theorem SameEntries.filter_eq (h : SameEntries own v es fs) (hes : Filed own id user es)
    (hfs : Filed own id user fs) (hu : u ≠ v) {p : α → Bool} (hp : ∀ x, p x = true → user x = u) :
    (fs.map (·.2)).filter p = (es.map (·.2)).filter p := by
  -- Whatever passes the test is under an identifier of the other user.
  have hothers {gs : Entries α} (hgs : Filed own id user gs) :
      (gs.map (·.2)).filter p = ((gs.filter fun e => own e.1 != v).map (·.2)).filter p := by
    rw [List.filter_map, List.filter_map, List.filter_filter]
    congr 1
    refine List.filter_congr fun e he => ?_
    cases hpe : p e.2 with
    | false => simp [hpe]
    | true =>
      have hown : own e.1 = u := (hgs e he).2.symm.trans (hp _ hpe)
      simp [hpe, hown, hu]
  rw [hothers hfs, hothers hes]
  exact congrArg (fun gs : Entries α => (gs.map (·.2)).filter p) h

end Collections

/-! ## Inventories -/

theorem sameBut_insert {r : LiveResource} (h : own r.connection = v) (inv : Inventory) :
    SameBut (fun r => own r.connection) v inv (inv.insert r) := by
  induction inv with
  | nil => simp [SameBut, Inventory.insert, h]
  | cons s inv ih =>
    rw [Inventory.insert]
    split
    · rename_i hkey
      rw [LiveResource.sameKey, Bool.and_eq_true, beq_iff_eq] at hkey
      simp [SameBut, h, hkey.1]
    · rw [SameBut, List.filter_cons, List.filter_cons, ih]

theorem sameBut_upsert {r : LiveResource} (h : own r.connection = v) (inv : Inventory) :
    SameBut (fun r => own r.connection) v inv (inv.upsert r).2 := by
  rw [Inventory.upsert]
  split
  · exact sameBut_insert h inv
  · exact .refl _ _ _

theorem sameBut_dropConnection {connection : String} (h : own connection = v) (inv : Inventory) :
    SameBut (fun r => own r.connection) v inv (inv.dropConnection connection).2 := by
  rw [SameBut, Inventory.dropConnection, List.filter_filter]
  refine List.filter_congr fun r _ => ?_
  by_cases hr : r.connection = connection
  · simp [hr, h]
  · simp [hr]

/-- The resources of a connection of another user stay. -/
theorem SameBut.ofConnection {inv inv' : Inventory} {connection : String}
    (h : SameBut (fun r => own r.connection) v inv inv') (hne : own connection ≠ v)
    (type : Option String) :
    inv'.ofConnection connection type = inv.ofConnection connection type := by
  have hothers (i : Inventory) : i.ofConnection connection type =
      Inventory.ofConnection (i.filter fun r => own r.connection != v) connection type := by
    rw [Inventory.ofConnection, Inventory.ofConnection, List.filter_filter]
    refine List.filter_congr fun r _ => ?_
    by_cases hr : r.connection = connection
    · simp [hr, hne]
    · simp [hr]
  rw [hothers inv', hothers inv]
  exact congrArg (fun i => Inventory.ofConnection i connection type) h

/-! ## Installations -/

/-- **An installation is orderly**: its records are filed, and every deployment is made from a
template of its owner. -/
structure Orderly (own : String → String) (s : Installation) : Prop where
  templates : Filed own Template.id Template.user s.templates
  credentials : Filed own Credential.id Credential.user s.credentials
  deployments : Filed own Deployment.id Deployment.user s.deployments
  connections : Filed own Connection.id Connection.user s.connections
  made : ∀ e ∈ s.deployments,
    own e.2.template = own e.1 ∧ (Entries.get? e.2.template s.templates).isSome

/-- **What anyone may do** to an installation: it stays orderly, and no template is dropped. -/
structure Later (own : String → String) (s t : Installation) : Prop where
  orderly : Orderly own t
  templates : ∀ id, (Entries.get? id s.templates).isSome → (Entries.get? id t.templates).isSome

/-- What stays as it is for all users but one. -/
structure Spares (own : String → String) (v : String) (s t : Installation) : Prop where
  vault : t.vault = s.vault
  templates : SameEntries own v s.templates t.templates
  credentials : SameEntries own v s.credentials t.credentials
  deployments : SameEntries own v s.deployments t.deployments
  states : SameEntries own v s.states t.states
  connections : SameEntries own v s.connections t.connections
  inventory : SameBut (fun r => own r.connection) v s.inventory t.inventory
  balance : ∀ u, u ≠ v → t.credits.balance u = s.credits.balance u
  slots : ∀ u, u ≠ v → t.slots.active u = s.slots.active u

/-- **What one user may do** to an installation. -/
structure Turn (own : String → String) (v : String) (s t : Installation) : Prop
    extends Later own s t where
  spares : Spares own v s t

variable {s t a : Installation}

theorem orderly_fresh (own : String → String) (settings : Settings) :
    Orderly own (.fresh settings) where
  templates _ he := absurd he List.not_mem_nil
  credentials _ he := absurd he List.not_mem_nil
  deployments _ he := absurd he List.not_mem_nil
  connections _ he := absurd he List.not_mem_nil
  made _ he := absurd he List.not_mem_nil

theorem Later.refl (h : Orderly own s) : Later own s s :=
  ⟨h, fun _ h => h⟩

theorem Later.trans (h : Later own s t) (h' : Later own t a) : Later own s a :=
  ⟨h'.orderly, fun id hid => h'.templates id (h.templates id hid)⟩

theorem Spares.refl (own : String → String) (v : String) (s : Installation) : Spares own v s s :=
  ⟨rfl, rfl, rfl, rfl, rfl, rfl, rfl, fun _ _ => rfl, fun _ _ => rfl⟩

theorem Spares.trans (h : Spares own v s t) (h' : Spares own v t a) : Spares own v s a where
  vault := h'.vault.trans h.vault
  templates := h.templates.trans h'.templates
  credentials := h.credentials.trans h'.credentials
  deployments := h.deployments.trans h'.deployments
  states := h.states.trans h'.states
  connections := h.connections.trans h'.connections
  inventory := h.inventory.trans h'.inventory
  balance u hu := (h'.balance u hu).trans (h.balance u hu)
  slots u hu := (h'.slots u hu).trans (h.slots u hu)

theorem Turn.refl (v : String) (h : Orderly own s) : Turn own v s s :=
  ⟨.refl h, .refl own v s⟩

theorem Turn.trans (h : Turn own v s t) (h' : Turn own v t a) : Turn own v s a :=
  ⟨h.toLater.trans h'.toLater, h.spares.trans h'.spares⟩

/-- The turns of a user are turns among those of all users. -/
theorem rules (own : String → String) (v : String) : Routine.Rules (Later own) (Turn own v) where
  rely_trans := Later.trans
  turn_refl h := .refl v h.orderly
  turn_trans := Turn.trans
  rely_of_turn := Turn.toLater

/-! ## What a user reads -/

/-- The state that is kept of a deployment of a user. -/
def stateOf (s : Installation) (user id : String) : Answer (Option String) := do
  let d ← ownDeployment s user id
  s.states.retrieve s.vault d.id

/-- The resources of a connection of a user, all or those of a type. -/
def resourcesIn (s : Installation) (user id : String) (type : Option String) :
    Answer (List LiveResource) := do
  let _ ← ownConnection s user id
  return s.inventory.ofConnection id type

/-- All that a user can read. -/
structure View where
  templates : List Template
  template : String → Answer Template
  credentials : List Credential
  credential : String → Answer Credential
  deployments : Option String → List Deployment
  deployment : String → Answer Deployment
  state : String → Answer (Option String)
  connections : List Connection
  connection : String → Answer Connection
  resources : String → Option String → Answer (List LiveResource)
  balance : Int
  slots : Nat

/-- **What a user reads** of an installation. -/
def view (u : String) (s : Installation) : View where
  templates := templatesOf s u
  template := ownTemplate s u
  credentials := credentialsOf s u
  credential := ownCredential s u
  deployments := deploymentsOf s u
  deployment := ownDeployment s u
  state := stateOf s u
  connections := connectionsOf s u
  connection := ownConnection s u
  resources := resourcesIn s u
  balance := s.credits.balance u
  slots := s.slots.active u

/-- **A turn of one user leaves what another reads as it is.** -/
theorem Turn.view_eq (h : Turn own v s t) (hs : Orderly own s) (hu : u ≠ v) :
    view u t = view u s := by
  obtain ⟨⟨ht, -⟩, h⟩ := h
  have htemplate : ownTemplate t u = ownTemplate s u :=
    funext fun _ => h.templates.owned hs.templates ht.templates hu
  have hcredential : ownCredential t u = ownCredential s u :=
    funext fun _ => h.credentials.owned hs.credentials ht.credentials hu
  have hdeployment : ownDeployment t u = ownDeployment s u :=
    funext fun _ => h.deployments.owned hs.deployments ht.deployments hu
  have hconnection : ownConnection t u = ownConnection s u :=
    funext fun _ => h.connections.owned hs.connections ht.connections hu
  have htemplates : templatesOf t u = templatesOf s u := by
    rw [templatesOf, h.templates.filter_eq hs.templates ht.templates hu (by simp), templatesOf]
  have hcredentials : credentialsOf t u = credentialsOf s u := by
    rw [credentialsOf, h.credentials.filter_eq hs.credentials ht.credentials hu (by simp),
      credentialsOf]
  have hdeployments : deploymentsOf t u = deploymentsOf s u := by
    funext template
    rw [deploymentsOf, deploymentsOf,
      h.deployments.filter_eq hs.deployments ht.deployments hu (by simp +contextual)]
  have hconnections : connectionsOf t u = connectionsOf s u :=
    h.connections.filter_eq hs.connections ht.connections hu (by simp)
  -- What hangs on a record that the user finds is under an identifier of the user.
  have hstate : stateOf t u = stateOf s u := by
    funext id
    rw [stateOf, stateOf, hdeployment]
    dsimp only [bind, Except.bind]
    cases hd : ownDeployment s u id with
    | error f => dsimp only
    | ok d =>
      obtain ⟨hid, -, hown⟩ := hs.deployments.owned hd
      have hne : own d.id ≠ v := by rwa [hid, hown]
      dsimp only
      rw [SealedRecords.retrieve, h.states.get? hne, h.vault, SealedRecords.retrieve]
  have hresources : resourcesIn t u = resourcesIn s u := by
    funext id type
    rw [resourcesIn, resourcesIn, hconnection]
    dsimp only [bind, Except.bind]
    cases hc : ownConnection s u id with
    | error f => dsimp only
    | ok c =>
      obtain ⟨-, -, hown⟩ := hs.connections.owned hc
      have hne : own id ≠ v := by rwa [hown]
      dsimp only
      rw [h.inventory.ofConnection hne]
  rw [view, htemplates, htemplate, hcredentials, hcredential, hdeployments, hdeployment, hstate,
    hconnections, hconnection, hresources, h.balance u hu, h.slots u hu, view]

end Groundplan.Tenancy
