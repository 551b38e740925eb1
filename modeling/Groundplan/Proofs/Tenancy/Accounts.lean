import Groundplan.Proofs.Cloud.Faults
import Groundplan.Proofs.Tenancy.Actions
import Groundplan.Proofs.Text.Classes

/-!
# What becomes of a connection

A connection is written in one place of each action: when it is created, after its role has been
taken on or refused, and when stock is taken of its resources, after these have been found or
looking for them has failed. Up to there an action only asks the cloud, which leaves everything but
the breaker of sessions as it is. So a failure on the way either is written with the connection or
leaves all records alone.

## Main definitions

* `Writes`, `Asked`: what an action leaves behind that writes connections and resources, or neither
* `Refuses`: the token service refused a role
* `Created`: what creating a connection comes to
* `Restocked`: an inventory in which resources of one connection were added or replaced
* `Synced`: what taking stock of a connection comes to

## Main results

* `assume_refuses`: the only refusal of a well-formed role is the token service's
* `createConnection_created`: **creating a connection**
* `syncConnection_synced`: **taking stock of a connection**
-/

namespace Groundplan

open Deploy (trimmed roleCall assume_eq)

variable {s t u : Installation} {w : World} {es fs : List Event} {cs : Entries Connection}
  {inv inv' inv'' : Inventory} {user id name arn external region : String} {c : Connection}

/-! ## What is left behind -/

/-- **What an action leaves behind** that asks the cloud and writes connections and resources: these
as given, the calls among the events, the breaker of sessions in some way, and the rest as it
was. -/
def Writes (s : Installation) (cs : Entries Connection) (inv : Inventory) (es : List Event)
    (t : Installation) : Prop :=
  ∃ b, t = { s with
    connections := cs, inventory := inv, sessionBreaker := b, events := s.events ++ es }

/-- What an action leaves behind that only asks the cloud. -/
abbrev Asked (s : Installation) (es : List Event) (t : Installation) : Prop :=
  Writes s s.connections s.inventory es t

theorem Asked.refl (s : Installation) : Asked s [] s :=
  ⟨s.sessionBreaker, by simp⟩

theorem Asked.trans (h : Asked s es t) (h' : Asked t fs u) : Asked s (es ++ fs) u := by
  obtain ⟨_, rfl⟩ := h
  obtain ⟨b, rfl⟩ := h'
  exact ⟨b, by rw [List.append_assoc]⟩

theorem Writes.connections (h : Writes s cs inv es t) : t.connections = cs := by
  obtain ⟨_, rfl⟩ := h
  rfl

/-- A connection is written last. -/
theorem Writes.putConnection (h : Writes s cs inv es t) (c : Connection) :
    Writes s (Entries.set c.id c cs) inv es (putConnection c t) := by
  obtain ⟨b, rfl⟩ := h
  exact ⟨b, rfl⟩

/-! ## Asking the token service -/

/-- **The token service refuses a role** in one of the calls among some events. -/
def Refuses (w : World) (es : List Event) : Prop :=
  ∃ call f, .called call ∈ es ∧ w.host call = .error f ∧ f.isCloudFault ∧ refusesRole f

theorem not_refuses_nil : ¬ Refuses w [] := by simp [Refuses]

theorem refuses_call {call : CloudCall} :
    Refuses w [.called call] ↔ ∃ f, w.host call = .error f ∧ f.isCloudFault ∧ refusesRole f := by
  simp [Refuses]

/-- An answer that is no refusal of this library. -/
def Unrefused {α : Type} (a : Answer α) : Prop :=
  ∀ f, a = .error f → f.isRefusal = false

theorem Unrefused.bind {α β : Type} {a : Answer α} {k : α → Answer β} (ha : Unrefused a)
    (hk : ∀ x, Unrefused (k x)) : Unrefused (a >>= k) := by
  cases a with
  | error f =>
    rintro _ ⟨⟩
    exact ha f rfl
  | ok x => exact hk x

theorem unrefused_getItem (key : String) (d : Data) : Unrefused (d.getItem key) := by
  intro f hf
  rw [Data.getItem.eq_def] at hf
  split at hf
  · split at hf <;> cases hf
    rfl
  · cases hf
    rfl

theorem unrefused_getFieldD (d : Data) (key : String) (default : Data) :
    Unrefused (d.getFieldD key default) := by
  intro f hf
  cases d <;> cases hf <;> rfl

/-- A reply that issues no keys is of the wrong shape; it is not refused for that. -/
theorem unrefused_issuedKeys (region : String) (reply : Data) :
    Unrefused (issuedKeys region reply) := by
  refine (unrefused_getItem _ _).bind fun _ => (unrefused_getItem _ _).bind fun _ => ?_
  refine (unrefused_getItem _ _).bind fun _ => (unrefused_getFieldD _ _ _).bind fun _ => ?_
  exact (unrefused_getFieldD _ _ _).bind fun _ => nofun

theorem isValidation_of_fault {f : Failure} (h : f.isRefusal = false) : f.isValidation = false := by
  cases f with
  | refusal r => cases h
  | _ => rfl

/-- **The only refusal of a well-formed role** is the one for which the token service refuses it. -/
theorem assume_refuses (hw : w.External) {r : SessionRequest} (harn : checkRoleArn r.arn = .ok ())
    (s : Installation) : ∃ es, Asked s es (assume w r s).2 ∧
      (Refuses w es → (assume w r s).1 = .error roleRefused) ∧
      ∀ f, (assume w r s).1 = .error f → f.isValidation → f = roleRefused ∧ Refuses w es := by
  rw [assume_eq, harn]
  dsimp only
  split
  · refine ⟨[.called (roleCall w r s)], ⟨_, rfl⟩, ?_⟩
    rw [refuses_call]
    dsimp only
    cases hreply : w.host (roleCall w r s) with
    | ok reply =>
      refine ⟨nofun, fun f hf hvalid => ?_⟩
      rw [isValidation_of_fault (unrefused_issuedKeys _ reply f hf)] at hvalid
      cases hvalid
    | error f =>
      rw [settle]
      by_cases hfault : f.isCloudFault
      · rw [if_pos hfault]
        by_cases hrefuses : refusesRole f
        · rw [if_pos hrefuses]
          refine ⟨fun _ => rfl, ?_⟩
          rintro _ ⟨⟩ -
          exact ⟨rfl, f, rfl, hfault, hrefuses⟩
        · rw [if_neg hrefuses]
          refine ⟨?_, ?_⟩
          · rintro ⟨_, ⟨⟩, -, h⟩
            exact absurd h hrefuses
          · rintro _ ⟨⟩ ⟨⟩
      · rw [if_neg hfault]
        refine ⟨?_, ?_⟩
        · rintro ⟨_, ⟨⟩, h, -⟩
          exact absurd h hfault
        · rintro _ ⟨⟩ hvalid
          rw [isValidation_of_fault (hw _ f hreply)] at hvalid
          cases hvalid
  · -- The breaker did not let the call through.
    refine ⟨[], ⟨_, by rw [List.append_nil]⟩, fun h => absurd h not_refuses_nil, ?_⟩
    rintro _ ⟨⟩ ⟨⟩

/-! ## Creating a connection -/

/-- **What creating a connection comes to.** -/
inductive Created (w : World) (user : String) (s : Installation) :
    Answer Connection → Installation → Prop where
  /-- The role works: the connection is added, and it is the answer. -/
  | connected {c : Connection} {es t} (hid : c.id = w.recordId) (huser : c.user = user)
      (hstatus : c.status = .active) (herror : c.lastError = none)
      (hwrites : Writes s (s.connections ++ [(c.id, c)]) s.inventory es t) :
      Created w user s (.ok c) t
  /-- The token service refuses the role: the connection is added with the error, which is the
  answer. -/
  | refused {f : Failure} {c : Connection} {es t} (hrefuses : Refuses w es)
      (hid : c.id = w.recordId) (huser : c.user = user) (hstatus : c.status = .failed)
      (herror : c.lastError = some f.message) (hmessage : f.message ≠ "")
      (hwrites : Writes s (s.connections ++ [(c.id, c)]) s.inventory es t) :
      Created w user s (.error f) t
  /-- Anything else goes wrong: no connection is added. -/
  | declined {f : Failure} {es t} (hrefuses : ¬ Refuses w es) (hasked : Asked s es t) :
      Created w user s (.error f) t

/-- A role that is well-formed is so without the blanks around it. -/
theorem checkRoleArn_trimmed (arn : String) : checkRoleArn (trimmed arn) = checkRoleArn arn := by
  rw [checkRoleArn, checkRoleArn, trimmed, String.toList_ofList, Text.trim_trim]

/-- The role of a new connection, as it is taken on. -/
def connectRequest (s : Installation) (arn external region : String) : SessionRequest where
  arn := trimmed arn
  purpose := "connect"
  externalId := .text external
  region := if region == "" then s.settings.region else region

/-- A new connection, before its role has been taken on. -/
def newConnection (w : World) (user name arn external region : String) (s : Installation) :
    Connection where
  id := w.recordId
  user := user
  name := trimmed name
  sealedArn := s.vault.conceal w.nonce w.recordId (trimmed arn)
  externalId := external
  region := if region == "" then s.settings.region else region
  account := accountOf (trimmed arn)
  createdAt := w.now
  updatedAt := w.now

/-- Once what was given has been checked, the role decides. -/
theorem createConnection_apply (harn : checkRoleArn arn = .ok ()) (hname : trimmed name ≠ "")
    (hexternal : external ≠ "") (s : Installation) :
    createConnection w user name arn external region s =
      match assume w (connectRequest s arn external region) s with
      | (.ok _, t) =>
        let c := { newConnection w user name arn external region s with status := .active }
        (.ok c, putConnection c t)
      | (.error f, t) =>
        (.error f,
          if f.isValidation then
            putConnection { newConnection w user name arn external region s with
              status := .failed, lastError := some f.message } t
          else t) := by
  rw [createConnection, Action.bind_apply, Action.ofAnswer_apply, harn]
  dsimp only
  rw [if_neg (by simpa using hname), if_neg (by simpa using hexternal), Action.bind_apply,
    Action.get_apply]
  dsimp only
  rw [Action.bind_apply, Action.tryCatch_apply, Action.bind_apply]
  rw [connectRequest]
  -- Of all that can go wrong with the role, only what is invalid leaves a connection that failed.
  generalize assume w _ s = o
  obtain ⟨f | k, t⟩ := o
  · dsimp only
    cases f.isValidation <;> rfl
  · rfl

/-- The message of a refused role. -/
theorem message_roleRefused : roleRefused.message ≠ "" := by decide

/-- **Creating a connection** under an identifier that is not taken: it is added if its role works,
and also if the token service refuses the role, then with the error. Otherwise nothing is written,
whatever goes wrong. -/
theorem createConnection_created (hw : w.External)
    (hfresh : Entries.get? w.recordId s.connections = none)
    (user name arn external region : String) :
    Created w user s (createConnection w user name arn external region s).1
      (createConnection w user name arn external region s).2 := by
  have hadds (c : Connection) (hid : c.id = w.recordId) :
      Entries.set c.id c s.connections = s.connections ++ [(c.id, c)] := by
    refine Entries.set_of_notMem fun hmem => ?_
    rw [hid, ← Entries.isSome_get?_iff, hfresh] at hmem
    cases hmem
  -- What was given is checked first.
  cases harn : checkRoleArn arn with
  | error f =>
    rw [createConnection, Action.bind_apply, Action.ofAnswer_apply, harn]
    exact .declined not_refuses_nil (.refl s)
  | ok _ =>
    by_cases hname : trimmed name = ""
    · rw [createConnection, Action.bind_apply, Action.ofAnswer_apply, harn]
      dsimp only
      rw [if_pos (by simpa using hname)]
      exact .declined not_refuses_nil (.refl s)
    by_cases hexternal : external = ""
    · rw [createConnection, Action.bind_apply, Action.ofAnswer_apply, harn]
      dsimp only
      rw [if_neg (by simpa using hname), if_pos (by simpa using hexternal)]
      exact .declined not_refuses_nil (.refl s)
    -- Then the token service is asked.
    rw [createConnection_apply harn hname hexternal]
    have htrimmed : checkRoleArn (connectRequest s arn external region).arn = .ok () :=
      (checkRoleArn_trimmed arn).trans harn
    obtain ⟨es, hasked, herror, honly⟩ := assume_refuses hw htrimmed s
    generalize assume w (connectRequest s arn external region) s = o at hasked herror honly
    obtain ⟨f | k, t⟩ := o
    · dsimp only
      split
      · rename_i hvalid
        obtain ⟨rfl, hrefuses⟩ := honly f rfl hvalid
        refine .refused (c := { newConnection w user name arn external region s with
          status := .failed, lastError := some roleRefused.message }) hrefuses rfl rfl rfl rfl
          message_roleRefused ?_
        rw [← hadds _ rfl]
        exact hasked.putConnection _
      · rename_i hvalid
        refine .declined (fun hrefuses => hvalid ?_) hasked
        cases herror hrefuses
        rfl
    · refine .connected rfl rfl rfl rfl (?_ : Writes s _ _ es _)
      rw [← hadds _ rfl]
      exact hasked.putConnection _

/-! ## Resources -/

/-- **An inventory in which resources of one connection were added or replaced**: what is there is
still there, or there is another record of the same resource in its place; what is new comes
behind. -/
inductive Restocked (connection : String) : Inventory → Inventory → Prop where
  | added {rs : Inventory} (hrs : ∀ r ∈ rs, r.connection = connection) :
      Restocked connection [] rs
  | kept (r : LiveResource) {inv inv' : Inventory} (h : Restocked connection inv inv') :
      Restocked connection (r :: inv) (r :: inv')
  | replaced {r r' : LiveResource} {inv inv' : Inventory} (hr : r.connection = connection)
      (hr' : r'.connection = connection) (hid : r'.id = r.id)
      (h : Restocked connection inv inv') : Restocked connection (r :: inv) (r' :: inv')

theorem Restocked.refl (id : String) (inv : Inventory) : Restocked id inv inv := by
  induction inv with
  | nil => exact .added nofun
  | cons r inv ih => exact .kept r ih

/-- Where all resources are of the connection, they still are. -/
theorem Restocked.all (h : Restocked id inv inv') (hinv : ∀ r ∈ inv, r.connection = id) :
    ∀ r ∈ inv', r.connection = id := by
  induction h with
  | added hrs => exact hrs
  | kept r _ ih =>
    rw [List.forall_mem_cons] at hinv ⊢
    exact ⟨hinv.1, ih hinv.2⟩
  | replaced _ hr' _ _ ih =>
    rw [List.forall_mem_cons] at hinv ⊢
    exact ⟨hr', ih hinv.2⟩

theorem Restocked.trans (h : Restocked id inv inv') (h' : Restocked id inv' inv'') :
    Restocked id inv inv'' := by
  induction h generalizing inv'' with
  | added hrs => exact .added (h'.all hrs)
  | kept r _ ih =>
    cases h' with
    | kept _ h' => exact .kept r (ih h')
    | replaced hr hr' hid h' => exact .replaced hr hr' hid (ih h')
  | replaced hr hr' hid _ ih =>
    cases h' with
    | kept _ h' => exact .replaced hr hr' hid (ih h')
    | replaced _ hr'' hid' h' => exact .replaced hr hr'' (hid'.trans hid) (ih h')

/-- What is the same as a text is that text. -/
theorem eq_of_same_text {d : Data} {x : String} (h : d.same (.text x) = true) : d = .text x := by
  cases d with
  | text y => simpa [Data.same] using h
  | _ => simp [Data.same, Data.numeric?] at h

/-- One resource that is written replaces a record of the same resource, or is new. -/
theorem restocked_insert {r : LiveResource} {x : String} (hr : r.connection = id)
    (hx : r.id = .text x) (inv : Inventory) : Restocked id inv (inv.insert r) := by
  induction inv with
  | nil => exact .added (by simpa [Inventory.insert] using hr)
  | cons z inv ih =>
    rw [Inventory.insert]
    split
    · rename_i hsame
      rw [LiveResource.sameKey, Bool.and_eq_true, beq_iff_eq, hx] at hsame
      refine .replaced (hsame.1.trans hr) hr ?_ (.refl id inv)
      rw [hx, eq_of_same_text hsame.2]
    · exact .kept z ih

/-- One resource after another: if one cannot be written, those before it have been. -/
theorem putResources_cons (r : LiveResource) (rs : List LiveResource) (s : Installation) :
    putResources (r :: rs) s =
      if LiveResource.isKey r.id then
        putResources rs { s with inventory := s.inventory.insert r }
      else (.error (.mismatch .kind), s) := by
  show (Action.draw _ >>= fun _ => putResources rs) s = _
  rw [Action.bind_apply, Action.draw, Inventory.upsert]
  cases LiveResource.isKey r.id <;> rfl

/-- Writing resources writes nothing else. -/
theorem putResources_inventory (rs : List LiveResource) (s : Installation) :
    ∃ inv, (putResources rs s).2 = { s with inventory := inv } := by
  induction rs generalizing s with
  | nil => exact ⟨s.inventory, rfl⟩
  | cons r rs ih =>
    rw [putResources_cons]
    split
    · exact ih _
    · exact ⟨s.inventory, rfl⟩

/-- **Writing resources of a connection** that are identified by texts. -/
theorem putResources_restocked {rs : List LiveResource} (hrs : ∀ r ∈ rs, r.connection = id)
    (htexts : ∀ r ∈ rs, ∃ x, r.id = .text x) (s : Installation) :
    ∃ inv, Restocked id s.inventory inv ∧
      putResources rs s = (.ok (), { s with inventory := inv }) := by
  -- Induction on the resources, each of which is written into the inventory that the others left.
  induction rs generalizing s with
  | nil => exact ⟨s.inventory, .refl id _, rfl⟩
  | cons r rs ih =>
    rw [List.forall_mem_cons] at hrs htexts
    obtain ⟨x, hx⟩ := htexts.1
    obtain ⟨inv, hinv, hrun⟩ :=
      ih hrs.2 htexts.2 { s with inventory := s.inventory.insert r }
    refine ⟨inv, (restocked_insert hrs.1 hx _).trans hinv, ?_⟩
    rw [putResources_cons, hx]
    exact hrun

/-! ## Taking stock -/

/-- **What taking stock of a connection comes to.** -/
inductive Synced (w : World) (s : Installation) (id : String) (c : Connection) :
    Answer Connection → Installation → Prop where
  /-- It works: the connection, which is the answer, has no error any more, and stock was taken of
  it just now. -/
  | synced {inv : Inventory} {es t} (hinv : Restocked id s.inventory inv)
      (hwrites : Writes s (Entries.set id { c with
        status := .active, lastError := none, lastSync := some w.now, updatedAt := w.now }
        s.connections) inv es t) :
      Synced w s id c (.ok { c with
        status := .active, lastError := none, lastSync := some w.now, updatedAt := w.now }) t
  /-- It does not work: the connection is kept with an error, and nothing else is written. -/
  | failed {f : Failure} {message : String} {es t} (hmessage : message ≠ "")
      (hlength : message.length ≤ maxErrorChars)
      (hwrites : Writes s (Entries.set id { c with
        status := .failed, lastError := some message, updatedAt := w.now } s.connections)
        s.inventory es t) : Synced w s id c (.error f) t

/-- The resources that are found in an account are identified by texts. -/
def Cloud.Identifies (c : Cloud) : Prop :=
  ∀ now region connection found, c.outcome (discover now region connection) = .ok found →
    ∀ r ∈ found.resources, ∃ x, r.id = .text x

/-- **An action that only asks the cloud.** -/
def Asks {α : Type} (a : Action α) : Prop :=
  ∀ s, ∃ es, Asked s es (a s).2

section Asks

variable {α β : Type}

theorem Asks.bind {a : Action α} {k : α → Action β} (ha : Asks a) (hk : ∀ x, Asks (k x)) :
    Asks (a >>= k) := by
  intro s
  obtain ⟨es, hes⟩ := ha s
  rw [Action.bind_apply]
  generalize a s = o at hes
  obtain ⟨f | x, t⟩ := o
  · exact ⟨es, hes⟩
  · obtain ⟨fs, hfs⟩ := hk x t
    exact ⟨es ++ fs, hes.trans hfs⟩

theorem asks_answer (a : Answer α) : Asks fun s => (a, s) :=
  fun s => ⟨[], .refl s⟩

theorem asks_get : Asks (get : Action Installation) :=
  fun s => ⟨[], .refl s⟩

theorem asks_inquire (w : World) (q : Inquiry α) : Asks (Action.inquire w q) :=
  fun s => ⟨_, s.sessionBreaker, rfl⟩

end Asks

theorem asks_assume (w : World) (r : SessionRequest) : Asks (assume w r) := by
  intro s
  rw [assume_eq]
  cases checkRoleArn r.arn with
  | error f => exact ⟨[], .refl s⟩
  | ok _ =>
    dsimp only
    split
    · exact ⟨_, _, rfl⟩
    · exact ⟨[], _, by rw [List.append_nil]⟩

theorem asks_discoverConnection (w : World) (c : Connection) : Asks (discoverConnection w c) := by
  refine Asks.bind ?_ fun _ => (asks_inquire w _).bind fun found => ?_
  · exact asks_get.bind fun _ => Asks.bind (asks_answer _) fun _ => asks_assume w _
  · split
    · exact asks_answer _
    · exact asks_answer _

/-- What is found for a connection is what the discovery finds. -/
theorem outcome_of_discoverConnection {found : Discovered}
    (h : discoverConnection w c s = (.ok found, t)) :
    w.account.outcome (discover w.now c.region c.id) = .ok found := by
  rw [discoverConnection, Action.bind_apply] at h
  generalize assumeConnection w c "sync" s = o at h
  obtain ⟨f | k, a⟩ := o
  · cases h
  dsimp only at h
  rw [Action.bind_apply, Action.inquire_apply] at h
  cases hfound : w.account.outcome (discover w.now c.region c.id) with
  | error f =>
    rw [hfound] at h
    cases h
  | ok d =>
    rw [hfound] at h
    dsimp only at h
    split at h <;> cases h
    rfl

/-- Looking for the resources of a connection fails with something to record. -/
theorem discoverConnection_proceeds (hw : w.External) (haccount : w.account.External)
    (c : Connection) (s : Installation) : Proceeds (discoverConnection w c s).1 := by
  suffices h : Deploy.Confined w id (discoverConnection w c) from (h s).2 hw
  refine Deploy.Confined.action ?_ fun _ => Deploy.Confined.action ?_ fun found => ?_
  · refine Deploy.confined_get.action fun _ => Deploy.Confined.action ?_ fun _ =>
      Deploy.confined_assume _
    exact Deploy.confined_answer fun _ => proceeds_reveal _ _ _
  · exact Deploy.confined_beside (fun _ => rfl) (fun _ => rfl) fun _ _ =>
      discover_proceeds haccount
  · split
    · exact Deploy.confined_answer fun _ => proceeds_refusal rfl (by decide) (by decide)
    · exact Deploy.confined_answer fun _ => proceeds_ok _

/-- What a connection that was looked up becomes depends on whether its resources are found and can
be written. -/
theorem syncConnection_apply (hown : ownConnection s user id = .ok c) :
    syncConnection w user id s =
      match discoverConnection w c s with
      | (.error f, t) =>
        (.error (syncFailure f).2, putConnection (c.broken (syncFailure f).1 w.now) t)
      | (.ok found, t) =>
        match putResources found.resources t with
        | (.error f, u) => (.error f, u)
        | (.ok _, u) =>
          let c := { c with
            status := .active, lastError := none, lastSync := some w.now, updatedAt := w.now }
          (.ok c, putConnection c u) := by
  rw [syncConnection, Action.bind_apply, connectionOf, hown]
  dsimp only
  rw [Action.bind_apply, Action.tryCatch_apply]
  -- The discovery can fail, and then the writing of what it found.
  generalize discoverConnection w c s = o
  obtain ⟨f | found, t⟩ := o
  · rfl
  · dsimp only
    rw [Action.bind_apply]
    generalize putResources found.resources t = p
    obtain ⟨f | _, u⟩ := p <;> rfl

/-- What is kept of a failure that can be recorded says something, and is not too long. -/
theorem syncFailure_message {f : Failure} (hf : f.IsInner) :
    let message := String.ofList ((syncFailure f).1.toList.take maxErrorChars)
    message ≠ "" ∧ message.length ≤ maxErrorChars := by
  have hsays : (syncFailure f).1 ≠ "" := by
    rw [syncFailure]
    split
    · rename_i hrefuses
      have hrecorded := hf.recorded
      rwa [Deploy.recordedMessage, hrefuses] at hrecorded
    · decide
  constructor
  · intro h
    have hnil := congrArg String.toList h
    rw [String.toList_ofList, String.toList_empty, List.take_eq_nil_iff] at hnil
    exact hsays (String.toList_eq_nil_iff.1 (hnil.resolve_left (by decide)))
  · rw [String.length_ofList]
    exact List.length_take_le _ _

/-- **Taking stock of a connection** that was looked up: if its resources are found, they are added
to those that are known or replace them, and the connection works. If not, it is kept with an error,
whatever goes wrong, and the resources that are known stay as they are. -/
theorem syncConnection_synced (hw : w.External) (haccount : w.account.External)
    (htexts : w.account.Identifies) (hown : ownConnection s user id = .ok c) (hid : c.id = id) :
    Synced w s id c (syncConnection w user id s).1 (syncConnection w user id s).2 := by
  subst hid
  obtain ⟨es, hasked⟩ := asks_discoverConnection w c s
  have hproceeds := discoverConnection_proceeds hw haccount c s
  rw [syncConnection_apply hown]
  cases hrun : discoverConnection w c s with
  | mk answer t =>
    rw [hrun] at hasked hproceeds
    cases answer with
    | error f =>
      obtain ⟨hmessage, hlength⟩ := syncFailure_message (hproceeds f rfl)
      exact .failed hmessage hlength (hasked.putConnection (c.broken _ w.now))
    | ok found =>
      -- What is found is of this connection, and is identified by texts.
      have hfound := htexts _ _ _ _ (outcome_of_discoverConnection hrun)
      obtain ⟨inv, hinv, hput⟩ :=
        putResources_restocked (Tenancy.discoverConnection_connection hrun) hfound t
      obtain ⟨b, rfl⟩ := hasked
      dsimp only
      rw [hput]
      exact .synced hinv (⟨b, rfl⟩ : Writes s _ inv es _)

end Groundplan
