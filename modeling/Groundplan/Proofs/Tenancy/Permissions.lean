import Groundplan.Proofs.Seal.Vault
import Groundplan.Proofs.Tenancy.Connections
import Groundplan.Proofs.Tenancy.Isolation

/-!
# When a role may read nothing

Seventeen listings are asked for when stock is taken of a connection, and each of them succeeds, is
denied or fails in another way. That the role may read nothing is concluded from the failures and
from what was found. A listing that succeeded without finding anything leaves no trace in either, so
it does not count: the refusal takes one denied listing, and that no other listing found anything or
failed in another way.

## Main definitions

* `Cloud.listed`: what a listing comes to in an account
* `Cloud.Answering`: every listing succeeds or fails with a fault of the cloud
* `Cloud.Barren`: some listing is denied, and all others are denied or find nothing
* `Judged`: what taking stock comes to, in terms of the listings

## Main results

* `discover_answering`, `discover_not_answering`: what a discovery comes to
* `syncConnection_judged`: **when taking stock is refused for missing permissions**
-/

namespace Groundplan

open Inquiry

/-! ## Listings -/

theorem standalone_discoverType (l : Listing) (now : Instant) (region connection : String) :
    (discoverType l now region connection).Standalone := by
  refine (Standalone.paginates _ _).bind fun paged => ?_
  split
  · refine (Standalone.pages _ _ _).bind fun pages => ?_
    refine (Standalone.mapM (fun page => ?_) pages).bind fun found => .pure _
    exact (Standalone.lift page).bind fun d => .lift _
  · exact (Standalone.ask _ _ _).bind fun reply => (Standalone.lift _).bind fun rows => .lift _

namespace Cloud

variable {a : Cloud} {now : Instant} {region connection : String}

/-- **What a listing comes to** in an account. -/
def listed (a : Cloud) (now : Instant) (region connection : String) (l : Listing) :
    Answer (List LiveResource) :=
  a.outcome (discoverType l now region connection)

/-- Every listing succeeds, or fails with a fault of the cloud. -/
def Answering (a : Cloud) (now : Instant) (region connection : String) : Prop :=
  ∀ l ∈ listings, ∀ f, a.listed now region connection l = .error f → f.isCloudFault

/-- **Nothing is to be had**: some listing is denied, and every listing is denied or finds
nothing. -/
structure Barren (a : Cloud) (now : Instant) (region connection : String) : Prop where
  denied : ∃ l ∈ listings, ∃ f, a.listed now region connection l = .error f
  listed : ∀ l ∈ listings, a.listed now region connection l = .ok [] ∨
    ∃ f, a.listed now region connection l = .error f ∧ f.isDenied

theorem outcome_discover (a : Cloud) (now : Instant) (region connection : String) :
    a.outcome (discover now region connection) =
      (listings.mapM fun l => discoveredOf (a.listed now region connection l)).map
        fun found => found.foldr (· ++ ·) {} := by
  have hall := outcome_mapM_of_attempt
    (fun l => standalone_discoverType l now region connection) discoveredOf listings a []
  show (((discover now region connection).run a).run.run []).1 = _
  rw [discover, run_bind]
  generalize ((listings.mapM fun l => do
    discoveredOf (← (discoverType l now region connection).attempt)).run a).run.run [] = o at hall
  obtain ⟨r, calls⟩ := o
  obtain rfl : r = _ := hall
  show _ = Except.map _ _
  unfold listed
  cases listings.mapM fun l => discoveredOf (a.outcome (discoverType l now region connection)) <;> rfl

end Cloud

/-! ## What a discovery comes to -/

/-- What is noted of a listing: what it found, or the code of its fault. -/
def noted : Answer (List LiveResource) → Discovered
  | .ok found => ⟨found, []⟩
  | .error f => ⟨[], [if f.cloudCode == "" then f.name else f.cloudCode]⟩

/-- A fault of the cloud that has no code of its own is noted by a name that is none of the codes of
denials. -/
theorem contains_noted {f : Failure} (hf : f.isCloudFault) :
    deniedCodes.contains (if f.cloudCode == "" then f.name else f.cloudCode) = f.isDenied := by
  rw [Failure.isDenied]
  split
  · rename_i hcode
    rw [beq_iff_eq.1 hcode]
    cases f with
    | connector fault => cases fault <;> rfl
    | cloud => rfl
    | _ => cases hf
  · rfl

theorem discoveredOf_eq_noted {a : Answer (List LiveResource)}
    (h : ∀ f, a = .error f → f.isCloudFault) : discoveredOf a = .ok (noted a) := by
  cases a with
  | ok found => rfl
  | error f => rw [discoveredOf, if_pos (h f rfl), noted]

section Sequence

variable {o : Listing → Answer (List LiveResource)} {ls : List Listing}

theorem mapM_discoveredOf (h : ∀ l ∈ ls, ∀ f, o l = .error f → f.isCloudFault) :
    (ls.mapM fun l => discoveredOf (o l)) = .ok (ls.map fun l => noted (o l)) := by
  induction ls with
  | nil => rfl
  | cons l ls ih =>
    rw [List.forall_mem_cons] at h
    rw [List.mapM_cons, discoveredOf_eq_noted h.1, ih h.2]
    rfl

/-- A listing that fails in another way ends the discovery. -/
theorem mapM_discoveredOf_error (h : ¬ ∀ l ∈ ls, ∀ f, o l = .error f → f.isCloudFault) :
    ∃ l ∈ ls, ∃ f, o l = .error f ∧ ¬ f.isCloudFault ∧
      (ls.mapM fun l => discoveredOf (o l)) = .error f := by
  induction ls with
  | nil => exact absurd nofun h
  | cons l ls ih =>
    rw [List.mapM_cons]
    -- The first listing either goes well or is noted, or it is the one that ends the discovery.
    by_cases hfirst : ∀ f, o l = .error f → f.isCloudFault
    · rw [List.forall_mem_cons, not_and] at h
      obtain ⟨l', hl', f, hf, hfault, hrest⟩ := ih (h hfirst)
      refine ⟨l', List.mem_cons_of_mem _ hl', f, hf, hfault, ?_⟩
      rw [discoveredOf_eq_noted hfirst, hrest]
      rfl
    · push Not at hfirst
      obtain ⟨f, hf, hfault⟩ := hfirst
      refine ⟨l, List.mem_cons_self, f, hf, hfault, ?_⟩
      rw [hf, discoveredOf, if_neg hfault]
      rfl

end Sequence

theorem resources_foldr (ds : List Discovered) :
    (ds.foldr (· ++ ·) {} : Discovered).resources = ds.flatMap Discovered.resources := by
  induction ds with
  | nil => rfl
  | cons d ds ih => exact congrArg (d.resources ++ ·) ih

theorem failures_foldr (ds : List Discovered) :
    (ds.foldr (· ++ ·) {} : Discovered).failures = ds.flatMap Discovered.failures := by
  induction ds with
  | nil => rfl
  | cons d ds ih => exact congrArg (d.failures ++ ·) ih

/-- What was found altogether shows that everything was denied exactly if some part failed, and each
part found nothing and failed, if it did, by a denial. -/
theorem isDenied_foldr_iff (ds : List Discovered) :
    (ds.foldr (· ++ ·) {} : Discovered).isDenied ↔ (∃ d ∈ ds, d.failures ≠ []) ∧
      ∀ d ∈ ds, d.resources = [] ∧ ∀ code ∈ d.failures, deniedCodes.contains code := by
  rw [Discovered.isDenied, resources_foldr, failures_foldr]
  simp only [Bool.and_eq_true, Bool.not_eq_true', List.isEmpty_eq_false_iff, List.isEmpty_iff,
    List.flatMap_eq_nil_iff, List.all_eq_true, List.mem_flatMap, ne_eq, not_forall]
  constructor
  · rintro ⟨⟨⟨d, hd, hfailed⟩, hnone⟩, hall⟩
    exact ⟨⟨d, hd, hfailed⟩, fun d hd => ⟨hnone d hd, fun code hcode => hall code ⟨d, hd, hcode⟩⟩⟩
  · rintro ⟨⟨d, hd, hfailed⟩, hall⟩
    refine ⟨⟨⟨d, hd, hfailed⟩, fun d hd => (hall d hd).1⟩, ?_⟩
    rintro code ⟨d, hd, hcode⟩
    exact (hall d hd).2 code hcode

section Discovery

variable {a : Cloud} {now : Instant} {region connection : String}

/-- **A discovery in an account that answers**: it is taken for denied exactly if nothing was to be
had. -/
theorem discover_answering (h : a.Answering now region connection) :
    ∃ found, a.outcome (discover now region connection) = .ok found ∧
      (found.isDenied ↔ a.Barren now region connection) := by
  rw [a.outcome_discover, mapM_discoveredOf h]
  refine ⟨_, rfl, (isDenied_foldr_iff _).trans ?_⟩
  simp only [List.mem_map, exists_exists_and_eq_and, forall_exists_index, and_imp,
    forall_apply_eq_imp_iff₂]
  -- What is noted of one listing says how it came out.
  have hfailed (o : Answer (List LiveResource)) :
      (noted o).failures ≠ [] ↔ ∃ f, o = .error f := by
    cases o <;> simp [noted]
  have hnothing {o : Answer (List LiveResource)} (ho : ∀ f, o = .error f → f.isCloudFault) :
      ((noted o).resources = [] ∧ ∀ code ∈ (noted o).failures, deniedCodes.contains code) ↔
        (o = .ok [] ∨ ∃ f, o = .error f ∧ f.isDenied) := by
    cases o with
    | ok found => simp [noted]
    | error f => simp only [noted, List.mem_singleton, forall_eq, contains_noted (ho f rfl)]; simp
  constructor
  · rintro ⟨⟨l, hl, hf⟩, hall⟩
    exact ⟨⟨l, hl, (hfailed _).1 hf⟩, fun l hl => (hnothing (h l hl)).1 (hall l hl)⟩
  · rintro ⟨⟨l, hl, hf⟩, hall⟩
    exact ⟨⟨l, hl, (hfailed _).2 hf⟩, fun l hl => (hnothing (h l hl)).2 (hall l hl)⟩

/-- A discovery in an account that does not answer fails as one of the listings does. -/
theorem discover_not_answering (h : ¬ a.Answering now region connection) :
    ∃ l ∈ listings, ∃ f, a.listed now region connection l = .error f ∧
      a.outcome (discover now region connection) = .error f := by
  obtain ⟨l, hl, f, hf, -, hall⟩ := mapM_discoveredOf_error h
  refine ⟨l, hl, f, hf, ?_⟩
  rw [a.outcome_discover, hall]
  rfl

/-- Where nothing is to be had, every listing answers. -/
theorem Cloud.Barren.answering (h : a.Barren now region connection) :
    a.Answering now region connection := by
  intro l hl f hf
  rcases h.listed l hl with hnone | ⟨g, hg, hdenied⟩
  · cases hnone.symm.trans hf
  · cases hg.symm.trans hf
    cases f with
    | cloud => rfl
    | _ => simp [Failure.isDenied, Failure.cloudCode, deniedCodes] at hdenied

end Discovery

/-! ## Taking stock -/

variable {w : World} {s t : Installation} {user id : String} {c : Connection} {k : Keys}

/-- Once the role has been taken on, the discovery decides. -/
theorem discoverConnection_apply (hrole : (assumeConnection w c "sync" s).1 = .ok k) :
    ∃ t, discoverConnection w c s =
      (match w.account.outcome (discover w.now c.region c.id) with
        | .ok found => if found.isDenied then .error mayReadNothing else .ok found
        | .error f => .error f, t) := by
  rw [discoverConnection, Action.bind_apply]
  generalize assumeConnection w c "sync" s = o at hrole
  obtain ⟨a, t⟩ := o
  obtain rfl : a = .ok k := hrole
  dsimp only
  rw [Action.bind_apply, Action.inquire_apply]
  refine ⟨{ t with events := t.events ++
    (w.account.callsOf (discover w.now c.region c.id)).map .called }, ?_⟩
  cases w.account.outcome (discover w.now c.region c.id) with
  | error f => rfl
  | ok found =>
    dsimp only
    cases found.isDenied <;> rfl

/-- The refusal is answered for no other failure. -/
theorem syncFailure_eq_mayReadNothing {f : Failure} (h : (syncFailure f).2 = mayReadNothing) :
    f = mayReadNothing := by
  rw [syncFailure] at h
  split at h
  · exact h
  · cases h

/-- **What taking stock of a connection comes to**, in terms of the listings of its account. -/
structure Judged (w : World) (s : Installation) (user id : String) (c : Connection) : Prop where
  /-- It is refused for missing permissions exactly if nothing is to be had. -/
  refused_iff : (syncConnection w user id s).1 = .error mayReadNothing ↔
    w.account.Barren w.now c.region id
  /-- Then the connection is kept with the refusal. -/
  refused : w.account.Barren w.now c.region id →
    Entries.get? id (syncConnection w user id s).2.connections =
      some (c.broken mayReadNothing.message w.now)
  /-- If every listing answers and something is to be had, the connection works. -/
  synced : w.account.Answering w.now c.region id → ¬ w.account.Barren w.now c.region id →
    ∃ synced, (syncConnection w user id s).1 = .ok synced ∧ synced.status = .active ∧
      Entries.get? id (syncConnection w user id s).2.connections = some synced
  /-- If a listing fails in another way, that is answered for it, and the connection is kept with
  it. -/
  failed : ¬ w.account.Answering w.now c.region id →
    ∃ l ∈ listings, ∃ f, w.account.listed w.now c.region id l = .error f ∧
      (syncConnection w user id s).1 = .error (syncFailure f).2 ∧
      Entries.get? id (syncConnection w user id s).2.connections =
        some (c.broken (syncFailure f).1 w.now)

/-- **When taking stock of a connection is refused** for missing permissions: its role can be taken
on, what is found is identified by texts, and no listing itself fails with that refusal. -/
theorem syncConnection_judged (hown : ownConnection s user id = .ok c) (hid : c.id = id)
    (hrole : (assumeConnection w c "sync" s).1 = .ok k) (htexts : w.account.Identifies)
    (hcloud : ∀ l ∈ listings, w.account.listed w.now c.region id l ≠ .error mayReadNothing) :
    Judged w s user id c := by
  subst hid
  obtain ⟨t, hdiscover⟩ := discoverConnection_apply hrole
  -- What the connection becomes where its resources are not found.
  have herror {f : Failure} (hf : discoverConnection w c s = (.error f, t)) :
      (syncConnection w user c.id s).1 = .error (syncFailure f).2 ∧
        Entries.get? c.id (syncConnection w user c.id s).2.connections =
          some (c.broken (syncFailure f).1 w.now) := by
    rw [syncConnection_apply hown, hf]
    exact ⟨rfl, Entries.get?_set_self c.id _ _⟩
  have hbarren (hb : w.account.Barren w.now c.region c.id) :
      discoverConnection w c s = (.error mayReadNothing, t) := by
    obtain ⟨found, hfound, hdenied⟩ := discover_answering hb.answering
    rw [hdiscover, hfound]
    dsimp only
    rw [if_pos (hdenied.2 hb)]
  have hsynced (ha : w.account.Answering w.now c.region c.id)
      (hb : ¬ w.account.Barren w.now c.region c.id) :
      ∃ synced, (syncConnection w user c.id s).1 = .ok synced ∧ synced.status = .active ∧
        Entries.get? c.id (syncConnection w user c.id s).2.connections = some synced := by
    obtain ⟨found, hfound, hdenied⟩ := discover_answering ha
    have hrun : discoverConnection w c s = (.ok found, t) := by
      rw [hdiscover, hfound]
      dsimp only
      rw [if_neg (mt hdenied.1 hb)]
    -- What is found is identified by texts, so that it can be written.
    obtain ⟨inv, -, hput⟩ := putResources_restocked
      (Tenancy.discoverConnection_connection hrun) (htexts _ _ _ _ hfound) t
    rw [syncConnection_apply hown, hrun]
    dsimp only
    rw [hput]
    exact ⟨_, rfl, rfl, Entries.get?_set_self c.id _ _⟩
  have hfailed (ha : ¬ w.account.Answering w.now c.region c.id) :
      ∃ l ∈ listings, ∃ f, w.account.listed w.now c.region c.id l = .error f ∧
        (syncConnection w user c.id s).1 = .error (syncFailure f).2 ∧
        Entries.get? c.id (syncConnection w user c.id s).2.connections =
          some (c.broken (syncFailure f).1 w.now) := by
    obtain ⟨l, hl, f, hf, hall⟩ := discover_not_answering ha
    exact ⟨l, hl, f, hf, herror (by rw [hdiscover, hall])⟩
  refine ⟨⟨fun hrefused => ?_, fun hb => (herror (hbarren hb)).1⟩,
    fun hb => (herror (hbarren hb)).2, hsynced, hfailed⟩
  -- The two other ways to come out are not refused so.
  by_contra hb
  by_cases ha : w.account.Answering w.now c.region c.id
  · obtain ⟨synced, hok, -⟩ := hsynced ha hb
    cases hok.symm.trans hrefused
  · obtain ⟨l, hl, f, hf, hanswer, -⟩ := hfailed ha
    have hsame := Except.error.inj (hanswer.symm.trans hrefused)
    rw [syncFailure_eq_mayReadNothing hsame] at hf
    exact hcloud l hl hf

namespace Tenancy

open Deploy

/-- What is found under an identifier in a state that can be reached is kept under its own. -/
theorem id_of_run {ts : List Task} (hs : Blank s) (hnodup : (ts.map (·.world.recordId)).Nodup)
    (hown : ownConnection (afterAll s ts) user id = .ok c) : c.id = id := by
  obtain ⟨own, htasks⟩ := exists_own hnodup
  have hfresh : ∀ t ∈ ts, t.Fresh s := fun t _ => by
    rw [Task.Fresh, hs.deployments]
    rfl
  exact (((hs.valid own).run htasks hnodup hfresh).1.connections.owned hown).1

/-- **When taking stock is refused for missing permissions** in any state that can be reached: if and
only if some listing of the account is denied and every other one is denied or finds nothing. One
listing that succeeds prevents the refusal only if it finds something; if one does, and all that fail
do so by a fault of the cloud, the connection works. -/
theorem judged_of_run {ts : List Task} (hs : Blank s) (hnodup : (ts.map (·.world.recordId)).Nodup)
    (hown : ownConnection (afterAll s ts) user id = .ok c)
    (hrole : (assumeConnection w c "sync" (afterAll s ts)).1 = .ok k)
    (htexts : w.account.Identifies)
    (hcloud : ∀ l ∈ listings, w.account.listed w.now c.region id l ≠ .error mayReadNothing) :
    Judged w (afterAll s ts) user id c :=
  syncConnection_judged hown (id_of_run hs hnodup hown) hrole htexts hcloud

/-- The role of a connection is taken on if it is well-formed, the breaker lets the call through and
the token service issues keys. -/
theorem assumeConnection_ok {arn purpose : String} {reply : Data}
    (harn : s.vault.reveal c.id c.sealedArn = .ok arn) (hcheck : checkRoleArn arn = .ok ())
    (hallow : (s.sessionBreaker.allow w.now).1 = true) (hreply : ∀ call, w.host call = .ok reply) :
    (assumeConnection w c purpose s).1 =
      issuedKeys (if c.region == "" then s.settings.region else c.region) reply := by
  rw [assumeConnection, Action.bind_apply, Action.get_apply]
  dsimp only
  rw [Action.bind_apply, Action.ofAnswer_apply, harn]
  dsimp only
  rw [assume_eq, hcheck]
  dsimp only
  rw [if_pos hallow, hreply]
  rfl

/-! ### A sample -/

/-- A user connects an account. -/
def sampleConnecting : List Task :=
  [⟨sampleWorld "n", "v",
    .createConnection "Account" "arn:aws:iam::123456789012:role/Read" "x" "us-east-1"⟩]

/-- The connection that is made. -/
def sampleConnection : Connection where
  id := "n"
  user := "v"
  name := "Account"
  sealedArn := sampleVault.conceal sampleNonce "n" "arn:aws:iam::123456789012:role/Read"
  externalId := "x"
  region := "us-east-1"
  account := "123456789012"
  status := .active
  createdAt := 0
  updatedAt := 0

theorem sampleConnection_made :
    ownConnection (afterAll sampleBlank sampleConnecting) "v" "n" = .ok sampleConnection := rfl

/-- Its role can be taken on. -/
theorem assume_sampleConnection {w : World} (hnow : w.now = 0)
    (hhost : w.host = fun _ => .ok sampleReply) :
    ∃ k, (assumeConnection w sampleConnection "sync"
      (afterAll sampleBlank sampleConnecting)).1 = .ok k := by
  have hvault : (afterAll sampleBlank sampleConnecting).vault = sampleVault := rfl
  have hallow : ((afterAll sampleBlank sampleConnecting).sessionBreaker.allow 0).1 = true := rfl
  rw [assumeConnection_ok (hvault ▸ sampleVault.reveal_conceal (by decide) _ _) rfl
    (hnow ▸ hallow) (fun call => congrFun hhost call)]
  exact ⟨_, rfl⟩

/-- An account in which networks may be listed, but there are none, and everything else is denied. -/
def networksOnly : Cloud where
  call _ := .error (.cloud "AccessDenied" "" "")
  pages call :=
    if call.operation = "describe_vpcs" then [.ok (.map [("Vpcs", .list [])])]
    else [.error (.cloud "AccessDenied" "" "")]
  paginates _ _ := true

/-- A world in which a role reads that account. -/
def networksWorld : World :=
  { sampleWorld "m" with account := networksOnly }

/-- Nothing is to be had in that account. -/
theorem barren_networksOnly (now : Instant) (region connection : String) :
    networksOnly.Barren now region connection := by
  have hdenied {l : Listing} (h : networksOnly.listed now region connection l =
      .error (.cloud "AccessDenied" "" "")) :
      networksOnly.listed now region connection l = .ok [] ∨
        ∃ f, networksOnly.listed now region connection l = .error f ∧ f.isDenied :=
    .inr ⟨_, h, by decide⟩
  refine ⟨⟨listings[1], List.getElem_mem _, _, rfl⟩, ?_⟩
  simp only [listings, List.forall_mem_cons]
  exact ⟨.inl rfl, hdenied rfl, hdenied rfl, hdenied rfl, hdenied rfl, hdenied rfl, hdenied rfl,
    hdenied rfl, hdenied rfl, hdenied rfl, hdenied rfl, hdenied rfl, hdenied rfl, hdenied rfl,
    hdenied rfl, hdenied rfl, hdenied rfl, List.forall_mem_nil _⟩

theorem identifies_networksOnly : networksOnly.Identifies := by
  intro now region connection found hfound
  have hnone : (networksOnly.outcome (discover now region connection)).map (·.resources) =
      .ok [] := rfl
  rw [hfound] at hnone
  have hempty : found.resources = [] := Except.ok.inj hnone
  rw [hempty]
  nofun

/-- One of the listings succeeds, and taking stock is refused all the same. -/
theorem judged_of_run_sample : ∃ k,
    ownConnection (afterAll sampleBlank sampleConnecting) "v" "n" = .ok sampleConnection ∧
      (assumeConnection networksWorld sampleConnection "sync"
        (afterAll sampleBlank sampleConnecting)).1 = .ok k ∧
      Judged networksWorld (afterAll sampleBlank sampleConnecting) "v" "n" sampleConnection ∧
      (∃ l ∈ listings, networksOnly.listed 0 "us-east-1" "n" l = .ok []) ∧
      (syncConnection networksWorld "v" "n" (afterAll sampleBlank sampleConnecting)).1 =
        .error mayReadNothing := by
  have hown := sampleConnection_made
  obtain ⟨k, hrole⟩ := assume_sampleConnection (w := networksWorld) rfl rfl
  have hbarren := barren_networksOnly 0 "us-east-1" "n"
  have hjudged : Judged networksWorld _ "v" "n" sampleConnection :=
    judged_of_run ⟨rfl, rfl, rfl, rfl, rfl, rfl⟩ (by decide) hown hrole identifies_networksOnly
      fun l hl hf => by
        rcases hbarren.listed l hl with hnone | ⟨f, herror, hdenied⟩
        · cases hnone.symm.trans hf
        · cases herror.symm.trans hf
          exact absurd hdenied (by decide)
  exact ⟨k, hown, hrole, hjudged, ⟨listings[0], List.getElem_mem _, rfl⟩,
    hjudged.refused_iff.2 hbarren⟩

end Tenancy

end Groundplan
