import Groundplan.Cloud.Inquiry

/-!
# Inquiries one after the other

An inquiry learns nothing from the calls that were made before it. It comes to the same and makes
the same calls whenever it is conducted, and its calls are put behind the earlier ones. An attempt
does not fail either, so inquiries that are attempted one after the other do not get in each other's
way.

## Main definitions

* `Inquiry.Standalone`: an inquiry of which earlier calls make no difference

## Main results

* `Standalone.bind`, `Standalone.mapM`, `Standalone.attempt`: the combinations
* `run_mapM_of_attempt`: **inquiries that are attempted in turn** each come to what they come to by
  themselves
* `outcome_mapM_of_attempt`: the same where what they come to is judged
* `callsOf_bind`: the calls of a sequence
-/

namespace Groundplan.Inquiry

variable {α β ι : Type}

/-- A failure ends a sequence of inquiries, and the calls up to there are kept. -/
theorem run_bind (q : Inquiry α) (k : α → Inquiry β) (c : Cloud) (calls : List CloudCall) :
    ((q >>= k).run c).run.run calls =
      match (q.run c).run.run calls with
      | (.ok x, calls) => ((k x).run c).run.run calls
      | (.error f, calls) => (.error f, calls) := by
  show ExceptT.bindCont (fun x => (k x).run c) ((q.run c).run.run calls).1
    ((q.run c).run.run calls).2 = _
  rcases (q.run c).run.run calls with ⟨f | x, calls⟩ <;> rfl

/-- **An inquiry of which earlier calls make no difference.** -/
def Standalone (q : Inquiry α) : Prop :=
  ∀ c calls, (q.run c).run.run calls = (c.outcome q, calls ++ c.callsOf q)

/-- It is enough to say for every cloud what the inquiry comes to and which calls it makes. -/
theorem Standalone.intro {q : Inquiry α}
    (h : ∀ c, ∃ a made, ∀ calls, (q.run c).run.run calls = (a, calls ++ made)) : Standalone q := by
  intro c calls
  obtain ⟨a, made, h⟩ := h c
  have halone : c.conduct q = (a, made) := h []
  rw [h, Cloud.outcome, Cloud.callsOf, halone]

theorem Standalone.pure (x : α) : Standalone (pure x) :=
  .intro fun _ => ⟨.ok x, [], fun calls => by rw [List.append_nil]; rfl⟩

/-- An answer that does not come from the cloud. -/
theorem Standalone.lift (a : Answer α) : Standalone (liftM a) :=
  .intro fun _ => ⟨a, [], fun calls => by rw [List.append_nil]; cases a <;> rfl⟩

theorem Standalone.ask (k : Client) (operation : String) (params : Entries Data) :
    Standalone (k.ask operation params) :=
  .intro fun c => ⟨c.call (k.call operation params), [k.call operation params], fun _ => rfl⟩

theorem Standalone.pages (k : Client) (operation : String) (params : Entries Data) :
    Standalone (k.pages operation params) :=
  .intro fun c => ⟨.ok (c.pages (k.call operation params)), [k.call operation params], fun _ => rfl⟩

theorem Standalone.paginates (k : Client) (operation : String) :
    Standalone (k.paginates operation) :=
  .intro fun c => ⟨.ok (c.paginates k.service operation), [], fun calls => by
    rw [List.append_nil]
    rfl⟩

theorem Standalone.bind {q : Inquiry α} {k : α → Inquiry β} (hq : Standalone q)
    (hk : ∀ x, Standalone (k x)) : Standalone (q >>= k) := by
  refine .intro fun c => ?_
  cases hx : c.outcome q with
  | error f =>
    refine ⟨.error f, c.callsOf q, fun calls => ?_⟩
    rw [run_bind, hq, hx]
  | ok x =>
    refine ⟨c.outcome (k x), c.callsOf q ++ c.callsOf (k x), fun calls => ?_⟩
    rw [run_bind, hq, hx]
    dsimp only
    rw [hk, List.append_assoc]

theorem Standalone.mapM {f : α → Inquiry β} (h : ∀ x, Standalone (f x)) (xs : List α) :
    Standalone (xs.mapM f) := by
  induction xs with
  | nil => exact .pure []
  | cons x xs ih =>
    rw [List.mapM_cons]
    exact (h x).bind fun y => ih.bind fun ys => .pure (y :: ys)

/-- An attempt comes to the outcome of the inquiry, and does not fail. -/
theorem run_attempt {q : Inquiry α} (hq : Standalone q) (c : Cloud) (calls : List CloudCall) :
    (q.attempt.run c).run.run calls = (.ok (c.outcome q), calls ++ c.callsOf q) := by
  show (Except.ok ((q.run c).run.run calls).1, ((q.run c).run.run calls).2) = _
  rw [hq]

theorem Standalone.attempt {q : Inquiry α} (hq : Standalone q) : Standalone q.attempt :=
  .intro fun c => ⟨.ok (c.outcome q), c.callsOf q, run_attempt hq c⟩

/-- **Inquiries that are attempted in turn** each come to what they come to by themselves, whichever
of them fail; none of their failures ends the sequence. -/
theorem run_mapM_of_attempt {f : ι → Inquiry α} (hf : ∀ i, Standalone (f i)) (g : ι → Answer α → β)
    (is : List ι) (c : Cloud) (calls : List CloudCall) :
    ((is.mapM fun i => do return g i (← (f i).attempt)).run c).run.run calls =
      (.ok (is.map fun i => g i (c.outcome (f i))),
        calls ++ is.flatMap fun i => c.callsOf (f i)) := by
  -- Induction on the inquiries still to come; the calls so far are those of the ones before.
  induction is generalizing calls with
  | nil => exact congrArg (Prod.mk _) (List.append_nil calls).symm
  | cons i is ih =>
    have hfirst : ((do return g i (← (f i).attempt) : Inquiry β).run c).run.run calls =
        (.ok (g i (c.outcome (f i))), calls ++ c.callsOf (f i)) := by
      rw [run_bind, run_attempt (hf i)]
      rfl
    rw [List.mapM_cons, run_bind, hfirst]
    dsimp only
    rw [run_bind, ih, List.append_assoc]
    rfl

/-- Inquiries that are attempted in turn, each of them being judged: the first one that is judged to
be a failure ends the sequence. -/
theorem outcome_mapM_of_attempt {f : ι → Inquiry α} (hf : ∀ i, Standalone (f i))
    (g : Answer α → Answer β) (is : List ι) (c : Cloud) (calls : List CloudCall) :
    ((is.mapM fun i => do g (← (f i).attempt)).run c |>.run.run calls).1 =
      is.mapM fun i => g (c.outcome (f i)) := by
  -- Induction on the inquiries still to come; the calls so far make no difference to them.
  induction is generalizing calls with
  | nil => rfl
  | cons i is ih =>
    have hfirst : ((do g (← (f i).attempt) : Inquiry β).run c).run.run calls =
        (g (c.outcome (f i)), calls ++ c.callsOf (f i)) := by
      rw [run_bind, run_attempt (hf i)]
      dsimp only
      cases g (c.outcome (f i)) <;> rfl
    rw [List.mapM_cons, List.mapM_cons, run_bind, hfirst]
    cases g (c.outcome (f i)) with
    | error e => rfl
    | ok y =>
      dsimp only
      rw [run_bind]
      specialize ih (calls ++ c.callsOf (f i))
      generalize ((is.mapM fun i => do g (← (f i).attempt)).run c).run.run _ = o at ih
      obtain ⟨a, calls'⟩ := o
      obtain rfl : a = _ := ih
      show _ = Except.bind _ _
      cases is.mapM fun i => g (c.outcome (f i)) <;> rfl

/-! ## The calls of an inquiry -/

section Calls

variable {c : Cloud}

/-- **The calls of a sequence** are those of its first part, and then those of its second part if
the first one has a result. -/
theorem callsOf_bind {q : Inquiry α} {k : α → Inquiry β} (hk : ∀ x, Standalone (k x)) :
    c.callsOf (q >>= k) = c.callsOf q ++
      match c.outcome q with
      | .ok x => c.callsOf (k x)
      | .error _ => [] := by
  have hrun := run_bind q k c []
  have hq : (q.run c).run.run [] = (c.outcome q, c.callsOf q) := rfl
  rw [hq] at hrun
  rw [Cloud.callsOf, Cloud.conduct, hrun]
  cases c.outcome q with
  | ok x => exact congrArg Prod.snd (hk x c _)
  | error f => exact (List.append_nil _).symm

theorem callsOf_lift (a : Answer α) : c.callsOf (liftM a : Inquiry α) = [] := by
  cases a <;> rfl

theorem outcome_lift (a : Answer α) : c.outcome (liftM a : Inquiry α) = a := by
  cases a <;> rfl

theorem callsOf_ask (k : Client) (operation : String) (params : Entries Data) :
    c.callsOf (k.ask operation params) = [k.call operation params] := rfl

theorem outcome_ask (k : Client) (operation : String) (params : Entries Data) :
    c.outcome (k.ask operation params) = c.call (k.call operation params) := rfl

/-- An inquiry that asks nothing. -/
theorem callsOf_bind_lift {a : Answer α} {k : α → Inquiry β} (hk : ∀ x, Standalone (k x))
    (hnone : ∀ x, c.callsOf (k x) = []) : c.callsOf (liftM a >>= k) = [] := by
  rw [callsOf_bind hk, callsOf_lift, outcome_lift]
  cases a with
  | ok x => exact hnone x
  | error f => rfl

theorem callsOf_mapM_lift (f : α → Answer β) (xs : List α) :
    c.callsOf (xs.mapM fun x => (liftM (f x) : Inquiry β)) = [] := by
  induction xs with
  | nil => rfl
  | cons x xs ih =>
    rw [List.mapM_cons]
    refine callsOf_bind_lift (fun y => ?_) fun y => ?_
    · exact (Standalone.mapM (fun x => .lift _) xs).bind fun _ => .pure _
    · rw [callsOf_bind fun _ => .pure _, ih]
      cases c.outcome (xs.mapM fun x => (liftM (f x) : Inquiry β)) <;> rfl

end Calls

end Groundplan.Inquiry
