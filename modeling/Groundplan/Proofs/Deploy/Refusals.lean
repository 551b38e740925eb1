import Groundplan.Proofs.Deploy.Releases
import Groundplan.Proofs.Tenancy.Requests

/-!
# Requests that are declined

A request for an operation is declined if what it names is not there, if its credential is switched
off, if the deployment is in no state for it, or if the user has no slot or no credits left. Some of
this shows before the request has a slot and some only then. In all cases nothing has changed, and
nothing was asked of the world: later refusals are of other kinds.

## Main definitions

* `Unaffected`: nothing has changed but how the slots are written down
* `Declines`: what is promised of requests that are declined

## Main results

* `run_conflict`: a deployment that may not change as asked
* `declines_of_operation`: **requests that are declined have no effect**
-/

namespace Groundplan.Deploy

open Tenancy (run_look run_map_error)

variable {s u : Installation} {user id : String} {d : Deployment}

/-- **Nothing has changed**: a slot may have been taken, but then it was given back. -/
structure Unaffected (s u : Installation) : Prop where
  /-- All records, balances, workspaces, breakers and events are as before. -/
  rest : u = { s with slots := u.slots }
  limit : u.slots.limit = s.slots.limit
  active : ∀ v, u.slots.active v = s.slots.active v

/-- The failure of a request that a deployment in its state does not allow. -/
def wrongState (verb : String) (d : Deployment) : Failure :=
  .conflict ("Cannot " ++ verb ++ ": deployment is in " ++ d.status.word ++ " state")

/-! ## Deployments in another state -/

theorem canBecome_applying (x : Status) : x.canBecome .applying = decide (x = .planReady) := by
  cases x <;> rfl

theorem canBecome_destroying (x : Status) :
    x.canBecome .destroying = decide (x = .succeeded ∨ x = .failed) := by
  cases x <;> rfl

/-- **A deployment of the user that may not change as asked**: the request fails and says so. -/
theorem run_conflict {target : Status} {verb : String}
    {k : Deployment × Credential × Template → Work Deployment}
    (hd : Entries.get? id s.deployments = some d) (huser : d.user = user)
    (hstatus : d.status.canBecome target = false) :
    (enterDeployment user id target verb >>= k).run s = (.error (wrongState verb d), s) := by
  have hfound : ownDeployment s user id = .ok d := owned_eq_ok.2 ⟨hd, huser⟩
  rw [enterDeployment, Routine.bind_bind]
  refine (run_look (o := fun s => ownDeployment s user id) hfound).trans ?_
  rw [hstatus]
  rfl

/-! ## Requests -/

/-- **What is promised of a request for an operation**: if it is declined it has no effect, and a
deployment of the user that is in no state for it is one reason to decline it. -/
structure Declines (t : Task) (s : Installation) : Prop where
  declined : ∀ f, t.answer s = .error f → f.declines →
    Unaffected s (t.after s) ∧ t.events s = []
  apply : ∀ id d, t.request = .apply id → Entries.get? id s.deployments = some d →
    d.user = t.user → d.status ≠ .planReady → t.answer s = .error (wrongState "apply" d)
  destroy : ∀ id d, t.request = .destroy id → Entries.get? id s.deployments = some d →
    d.user = t.user → d.status ≠ .succeeded → d.status ≠ .failed →
      t.answer s = .error (wrongState "destroy" d)

/-- **Requests that are declined have no effect**, in every state, as long as the cloud's own faults
are none of this library's refusals. -/
theorem declines_of_operation {t : Task} {op : Operation} (hop : t.request.operation? = some op)
    (hworld : t.world.External) (s : Installation) : Declines t s where
  declined f hf hdeclines := by
    have hback := t.givesBack hop s
    have hrest : t.after s = { s with slots := (t.after s).slots } :=
      hback.untouched hworld f hf hdeclines
    refine ⟨⟨hrest, hback.limit, hback.active⟩, ?_⟩
    rw [Task.events, hrest, List.drop_length]
  apply id d hrequest hd huser hstatus := by
    have hno : d.status.canBecome .applying = false := by
      rw [canBecome_applying, decide_eq_false hstatus]
    obtain ⟨w, user, request⟩ := t
    cases hrequest
    exact congrArg Prod.fst (run_map_error _ (run_conflict hd huser hno))
  destroy id d hrequest hd huser hsucceeded hfailed := by
    have hno : d.status.canBecome .destroying = false := by
      rw [canBecome_destroying, decide_eq_false (not_or.2 ⟨hsucceeded, hfailed⟩)]
    obtain ⟨w, user, request⟩ := t
    cases hrequest
    exact congrArg Prod.fst (run_map_error _ (run_conflict hd huser hno))

/-- A planned deployment cannot be destroyed, and nothing is done for the request. -/
example : sampleDestroy.answer sampleInstallation =
    .error (.conflict "Cannot destroy: deployment is in PLAN_READY state") :=
  rfl

/-- In the world of the samples the token service always replies. -/
theorem declines_of_operation_sample :
    sampleDestroy.request.operation? = some .destroy ∧ sampleDestroy.world.External ∧
      Declines sampleDestroy sampleInstallation :=
  have hexternal : sampleDestroy.world.External := fun _ _ h => by cases h
  ⟨rfl, hexternal, declines_of_operation rfl hexternal sampleInstallation⟩

end Groundplan.Deploy
