import Groundplan.Proofs.Deploy.Statuses
import Groundplan.Proofs.Tenancy.Requests

/-!
# Tenants are isolated

Users work side by side: tasks are begun at any time, and their steps are taken in any order. No
step of a task changes what another user can read, and so no task does, whether it is left alone or
not. And no task tells whether a record of another user is there.

## Main definitions

* `Scene`: an installation, and the tasks that were begun, each with what is left of it
* `Scene.begin`, `Scene.turn`: a task is begun, and a task takes a step
* `Reachable`: the scenes that there can be

## Main results

* `Reachable.sound`: what holds of all scenes that there can be
* `tenants_isolated`: **tenants are isolated**
-/

namespace Groundplan.Tenancy

open Deploy

/-! ## Scenes -/

/-- An installation, and the tasks that were begun, each with what is left of it. -/
structure Scene where
  state : Installation
  begun : List (Task × Work Reply)

namespace Scene

/-- A task is begun. -/
def begin (c : Scene) (t : Task) : Scene :=
  { c with begun := c.begun ++ [(t, t.work)] }

/-- **A task takes a step**, if any is left of it. -/
def turn (c : Scene) (i : Nat) : Scene :=
  match c.begun[i]? with
  | none => c
  | some (t, p) => ⟨(p.tick c.state).2, c.begun.set i (t, (p.tick c.state).1)⟩

/-- A task draws an identifier that no task has drawn before. -/
def Draws (c : Scene) (t : Task) : Prop :=
  ∀ b ∈ c.begun, b.1.world.recordId ≠ t.world.recordId

instance (c : Scene) (t : Task) : Decidable (c.Draws t) :=
  inferInstanceAs (Decidable (∀ b ∈ c.begun, b.1.world.recordId ≠ t.world.recordId))

end Scene

/-- **The scenes that there can be**: tasks are begun and take their steps; meanwhile balances are
set, and what concerns no user changes in any way. -/
inductive Reachable (settings : Settings) : Scene → Prop where
  | fresh : Reachable settings ⟨.fresh settings, []⟩
  | begin {c : Scene} (t : Task) (hc : Reachable settings c) (ht : c.Draws t) :
      Reachable settings (c.begin t)
  | turn {c : Scene} (i : Nat) (hc : Reachable settings c) : Reachable settings (c.turn i)
  | deposit {c : Scene} (user : String) (amount : Int) (hc : Reachable settings c) :
      Reachable settings { c with
        state := { c.state with credits := c.state.credits.set user amount } }
  | aside {c : Scene} (s : Installation) (hc : Reachable settings c)
      (hs : records s = records c.state) : Reachable settings { c with state := s }

variable {own : String → String} {settings : Settings} {c : Scene} {u : String}

/-! ## What holds of all scenes -/

/-- For whom identifiers were drawn: by each task that was begun for its user. -/
def Scene.Owned (own : String → String) (c : Scene) : Prop :=
  ∀ b ∈ c.begun, own b.1.world.recordId = b.1.user

/-- **A sound scene**: the installation is orderly, and what is left of each task is a task among
those of others. -/
structure Scene.Sound (own : String → String) (c : Scene) : Prop where
  orderly : Orderly own c.state
  going : ∀ b ∈ c.begun,
    b.2.Among (Later own) (Turn own b.1.user) (fun _ _ => True) c.state

/-- What is left of a task is a task among those of others after what anyone may do. -/
theorem Scene.Sound.later {s : Installation} (h : c.Sound own) (hs : Later own c.state s) :
    Scene.Sound own { c with state := s } where
  orderly := hs.orderly
  going b hb := (h.going b hb).later (rules own b.1.user) (fun _ _ _ _ h => h) hs

/-- **One step of a task** is a turn of its user, and leaves a sound scene. -/
theorem Scene.Sound.turn (h : c.Sound own) {i : Nat} {b : Task × Work Reply}
    (hb : c.begun[i]? = some b) :
    Turn own b.1.user c.state (c.turn i).state ∧ (c.turn i).Sound own := by
  obtain ⟨t, p⟩ := b
  have hp := h.going _ (List.mem_of_getElem? hb)
  obtain ⟨hturn, hrest⟩ := hp.tick (rules own t.user) (.refl h.orderly)
  rw [Scene.turn, hb]
  refine ⟨hturn, hturn.orderly, fun b hmem => ?_⟩
  rcases List.mem_or_eq_of_mem_set hmem with hmem | rfl
  · exact (h.later hturn.toLater).going b hmem
  · exact hrest

theorem Scene.map_turn (c : Scene) (i : Nat) :
    (c.turn i).begun.map (·.1) = c.begun.map (·.1) := by
  rw [Scene.turn]
  cases hi : c.begun[i]? with
  | none => rfl
  | some b =>
    obtain ⟨h, hb⟩ := List.getElem?_eq_some_iff.1 hi
    have hi : i < (c.begun.map (·.1)).length := by rwa [List.length_map]
    have hfirst : (c.begun.map (·.1))[i] = b.1 := by simp [hb]
    rw [List.map_set, ← hfirst, List.set_getElem_self]

/-- The tasks are the same after a step of one of them. -/
theorem Scene.owned_turn {i : Nat} : (c.turn i).Owned own ↔ c.Owned own := by
  have hmap (d : Scene) : d.Owned own ↔
      ∀ t ∈ d.begun.map (·.1), own t.world.recordId = t.user := by
    rw [List.forall_mem_map]
    rfl
  rw [hmap, Scene.map_turn, ← hmap]

/-- **What holds of all scenes that there can be.** -/
theorem Reachable.sound (hc : Reachable settings c) (hown : c.Owned own) : c.Sound own := by
  induction hc with
  | fresh => exact ⟨orderly_fresh own settings, nofun⟩
  | begin t _ _ ih =>
    have hold := ih fun b hb => hown b (List.mem_append_left _ hb)
    refine ⟨hold.orderly, fun b hb => ?_⟩
    rcases List.mem_append.1 hb with hb | hb
    · exact hold.going b hb
    · have ht := hown b (List.mem_append_right _ hb)
      obtain rfl := List.mem_singleton.1 hb
      exact t.among ht
  | @turn c i _ ih =>
    have hold := ih (Scene.owned_turn.1 hown)
    cases hi : c.begun[i]? with
    | none => rwa [Scene.turn, hi]
    | some b => exact (hold.turn hi).2
  | deposit user amount _ ih =>
    have hold := ih hown
    refine hold.later (turn_credits (v := user) hold.orderly fun u hu => ?_).toLater
    exact Credits.balance_set_of_ne hu _ amount
  | aside s _ hs ih =>
    have hold := ih hown
    exact hold.later (turn_of_records (v := "") hold.orderly hs).toLater

/-- Identifiers that are drawn once are each drawn for somebody. -/
theorem Reachable.exists_owned (hc : Reachable settings c) : ∃ own, c.Owned own := by
  induction hc with
  | fresh => exact ⟨fun _ => "", nofun⟩
  | @begin c t _ ht ih =>
    obtain ⟨own, hown⟩ := ih
    refine ⟨Function.update own t.world.recordId t.user, fun b hb => ?_⟩
    rcases List.mem_append.1 hb with hb | hb
    · rw [Function.update_of_ne (ht b hb)]
      exact hown b hb
    · obtain rfl := List.mem_singleton.1 hb
      exact Function.update_self ..
  | turn i _ ih =>
    obtain ⟨own, hown⟩ := ih
    exact ⟨own, Scene.owned_turn.2 hown⟩
  | deposit _ _ _ ih => exact ih
  | aside _ _ _ ih => exact ih

/-! ## Isolation -/

/-- **Tenants are isolated.** Whatever was done so far, by whomever and in whatever order, and
whatever the world does:

* no step of a task of one user changes anything that another user can read;
* nor does a whole task of one user that is left alone;
* a task that is given the identifier of a record of another user comes to the same as with an
  identifier that is not there: it is answered that nothing is found, or an empty list where it asks
  for the deployments of a template, and it changes nothing. -/
theorem tenants_isolated (hc : Reachable settings c) (u : String) :
    (∀ i b, c.begun[i]? = some b → u ≠ b.1.user → view u (c.turn i).state = view u c.state) ∧
      (∀ t : Task, u ≠ t.user → c.Draws t → view u (t.after c.state) = view u c.state) ∧
      ∀ (t : Task) kind id other, u ≠ t.user → t.request.given kind = some id →
        ownerOf c.state id kind = some u → ownerOf c.state other kind = none →
        (t.withId other kind).work.run c.state = t.work.run c.state ∧
          t.after c.state = c.state ∧
          ((∃ what, t.answer c.state = .error (.notFound what)) ∨
            ∃ template, t.request = .listDeployments template ∧
              t.answer c.state = .ok (.deployments [])) := by
  obtain ⟨own, hown⟩ := hc.exists_owned
  have hsound := hc.sound hown
  refine ⟨fun i b hb hu => ?_, fun t hu ht => ?_, fun t kind id other hu hgiven hid hother => ?_⟩
  · exact (hsound.turn hb).1.view_eq hsound.orderly hu
  · -- The task could have been begun in this scene.
    obtain ⟨own, hown⟩ := (hc.begin t ht).exists_owned
    have hsound := (hc.begin t ht).sound hown
    have hwork := hsound.going (t, t.work) (List.mem_append_right _ (List.mem_singleton_self _))
    have hturn := (hwork.run (rules own t.user) (.refl hsound.orderly)).1
    exact hturn.view_eq hsound.orderly hu
  · refine Task.denied hsound.orderly hgiven ?_ ?_
    · rw [hid]
      exact fun h => hu (Option.some.inj h)
    · rw [hother]
      exact nofun

/-! ## A sample -/

/-- A user saves a template. -/
def sampleSave : Task :=
  ⟨sampleWorld "t", "u", .manage (.saveTemplate "Site" "terraform \x7b\x7d" "aws" none)⟩

/-- Another user saves one as well. -/
def sampleOther : Task :=
  ⟨sampleWorld "o", "v", .manage (.saveTemplate "Site" "terraform \x7b\x7d" "aws" none)⟩

/-- The other user plans a deployment of a template of the first. -/
def samplePlan : Task :=
  ⟨sampleWorld "d", "v", .manage (.plan "t" "c" "us-east-1")⟩

/-- One user has a template, and another is about to save one. -/
def sampleScene : Scene :=
  (((Scene.mk (.fresh {}) []).begin sampleSave).turn 0).begin sampleOther

theorem reachable_sample : Reachable {} sampleScene :=
  .begin sampleOther (.turn 0 (.begin sampleSave .fresh (by decide))) (by decide)

/-- The template of one user while the other saves one, and plans a deployment of it. -/
theorem tenants_isolated_sample :
    Reachable {} sampleScene ∧
      ownerOf sampleScene.state "t" .template = some "u" ∧
      ownerOf sampleScene.state "x" .template = none ∧
      view "u" (sampleScene.turn 1).state = view "u" sampleScene.state ∧
      view "u" (samplePlan.after sampleScene.state) = view "u" sampleScene.state ∧
      (samplePlan.withId "x" .template).work.run sampleScene.state =
        samplePlan.work.run sampleScene.state := by
  have h := tenants_isolated reachable_sample "u"
  have howner : ownerOf sampleScene.state "t" .template = some "u" := by rfl
  have hnone : ownerOf sampleScene.state "x" .template = none := by rfl
  refine ⟨reachable_sample, howner, hnone, h.1 1 _ rfl (by decide), ?_, ?_⟩
  · exact h.2.1 samplePlan (by decide) (by decide)
  · exact (h.2.2 samplePlan .template "t" "x" (by decide) rfl howner hnone).1

end Groundplan.Tenancy
