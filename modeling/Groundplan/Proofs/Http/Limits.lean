import Groundplan.Http.Server
import Groundplan.Proofs.Deploy.Statuses
import Groundplan.Proofs.Entries
import Groundplan.Proofs.Json.Encoding

/-!
# Limits on configurations

The size of a request is checked before its route answers it, and for that its body is read a first
time: strictly as UTF-8. The route reads it again, in any encoding that its bytes show. So the
limit on configurations holds of every body that shows none, and a body that does is not looked at.

## Main definitions

* `Handled`: a request that comes to the handler of its route

## Main results

* `Handled.serve_eq`, `serve_of_not_handled`: what is answered, and what is left as it was otherwise
* `bodyProblem?_of_marked`: nothing is too large about a body that shows its encoding
* `handled_iff`: when a request with configurations comes to its handler
* `configurations_limited`: **the limit on configurations**
-/

namespace Groundplan

namespace Http

open Json Text

/-! ## Handlers -/

/-- **A request that comes to the handler of its route**: it is within the limits, and there is a
route that makes an exchange of it. -/
structure Handled (w : World) (r : Request) (s : Installation) (route : Route) (x : Exchange)
    (t : Installation) : Prop where
  allowed : sizeProblem? r = none
  counted : withinLimit w r s = (true, t)
  resolved : ∃ parts, resolve routes r.method r.path = .found route parts ∧
    route.exchange w parts r = .ok x

section Serve

variable {w : World} {r : Request} {s : Installation}

/-- What is answered is what the handler comes to. -/
theorem Handled.serve_eq {route : Route} {x : Exchange} {t : Installation}
    (h : Handled w r s route x t) :
    serve w r s = (responseOf route.blurb (route.handler x t).1, (route.handler x t).2) := by
  obtain ⟨parts, hresolve, hexchange⟩ := h.resolved
  rw [serve, h.allowed]
  dsimp only
  rw [h.counted]
  dsimp only
  rw [respond, hresolve]
  dsimp only
  rw [Route.answer, hexchange]

/-- Counting a request changes nothing else. -/
theorem withinLimit_snd (w : World) (r : Request) (s : Installation) :
    ∃ window, (withinLimit w r s).2 = { s with window := window } := by
  rw [withinLimit]
  split
  · exact ⟨s.window, rfl⟩
  · exact ⟨_, rfl⟩

/-- **A request that comes to no handler** changes nothing but what counts toward limits. -/
theorem serve_of_not_handled (h : ∀ route x t, ¬ Handled w r s route x t) :
    ∃ window, (serve w r s).2 = { s with window := window } := by
  obtain ⟨window, hwindow⟩ := withinLimit_snd w r s
  unfold serve
  -- Down the stages of a request: each of them answers it, or hands it on.
  cases hsize : sizeProblem? r with
  | some problem => exact ⟨s.window, rfl⟩
  | none =>
    dsimp only
    cases hlimit : withinLimit w r s with
    | mk allowed t =>
      rw [hlimit] at hwindow
      refine ⟨window, ?_⟩
      cases allowed with
      | false => exact hwindow
      | true =>
        dsimp only
        unfold respond
        cases hresolve : resolve routes r.method r.path with
        | found route parts =>
          dsimp only
          unfold Route.answer
          cases hexchange : route.exchange w parts r with
          | error response => exact hwindow
          | ok x => exact absurd ⟨hsize, hlimit, parts, hresolve, hexchange⟩ (h route x t)
        | wrongMethod => exact hwindow
        | elsewhere path => exact hwindow
        | missing => exact hwindow

end Serve

/-! ## Fields -/

section Fields

variable {fields : List Field} {es out : Entries Data}

theorem get?_results (hnodup : (fields.map (·.key)).Nodup)
    (hok : ∀ f ∈ fields, ∃ v, f.read es = .ok v) {f : Field} (hf : f ∈ fields) {v : Data}
    (hv : f.read es = .ok v) :
    Entries.get? f.key ((fields.map fun f => (f.key, f.read es)).filterMap fun r =>
      r.2.toOption.map fun d => (r.1, d)) = some v := by
  induction fields with
  | nil => cases hf
  | cons g gs ih =>
    obtain ⟨u, hu⟩ := hok g List.mem_cons_self
    rw [List.map_cons, List.nodup_cons] at hnodup
    have hcons : ((g :: gs).map fun f => (f.key, f.read es)).filterMap
        (fun r => r.2.toOption.map fun d => (r.1, d)) =
        (g.key, u) :: (gs.map fun f => (f.key, f.read es)).filterMap
          fun r => r.2.toOption.map fun d => (r.1, d) := by
      rw [List.map_cons, hu]
      rfl
    rw [hcons, Entries.get?, List.lookup_cons]
    -- The field at the front hides all others with its key, and there are none.
    rcases List.mem_cons.1 hf with rfl | hf
    · rw [hv] at hu
      simp [Except.ok.inj hu]
    · have hne : (f.key == g.key) = false := by
        rw [beq_eq_false_iff_ne]
        intro heq
        exact hnodup.1 (heq ▸ List.mem_map_of_mem hf)
      rw [hne]
      exact ih hnodup.2 (fun f hf => hok f (List.mem_cons_of_mem _ hf)) hf

/-- **Where the fields of a body are read**, each of them is. -/
theorem get?_of_readFields (h : readFields fields (.map es) = .ok out)
    (hnodup : (fields.map (·.key)).Nodup) {f : Field} (hf : f ∈ fields) :
    ∃ v, f.read es = .ok v ∧ Entries.get? f.key out = some v := by
  rw [readFields] at h
  split at h
  · rename_i hwrong
    -- No field was found wrong, so each of them was read.
    have hok : ∀ f ∈ fields, ∃ v, f.read es = .ok v := by
      intro f hf
      cases hread : f.read es with
      | ok v => exact ⟨v, rfl⟩
      | error d =>
        have hfits := List.filterMap_eq_nil_iff.1 (List.isEmpty_iff.1 hwrong) _
          (List.mem_map_of_mem hf)
        rw [hread] at hfits
        cases hfits
    obtain ⟨v, hv⟩ := hok f hf
    rw [← Except.ok.inj h]
    exact ⟨v, hv, get?_results hnodup hok hf hv⟩
  · cases h

/-- A text that must be there is there. -/
theorem read_text {key : String} {v : Data} (h : (Field.text key).read es = .ok v) :
    ∃ s, v = .text s ∧ Entries.get? key es = some (.text s) := by
  rw [Field.read] at h
  cases hget : Entries.get? key es with
  | none =>
    rw [show (Field.text key).key = key from rfl, hget] at h
    cases h
  | some u =>
    rw [show (Field.text key).key = key from rfl, hget] at h
    cases u with
    | text s => exact ⟨s, (Except.ok.inj h).symm, rfl⟩
    | _ => cases h

end Fields

/-! ## Bodies -/

/-- Nothing is too large about a body that shows its encoding: it is not looked at. -/
theorem bodyProblem?_of_marked {body : List UInt8} (h : IsMarked body) (path : String) :
    bodyProblem? path body = none := by
  unfold bodyProblem?
  cases hs : utf8Decode? body with
  | none => rfl
  | some s =>
    dsimp only
    rw [decode_of_marked h hs]

/-- Any other body has the value that its route reads. -/
theorem bodyProblem?_of_not_marked {body : List UInt8} (h : ¬ IsMarked body) {d : Data}
    (hd : decodeBytes body = .ok d) (path : String) :
    bodyProblem? path body = payloadProblem? path d := by
  rw [decodeBytes, textOfBytes?_of_not_marked h] at hd
  unfold bodyProblem?
  cases hs : utf8Decode? body with
  | none =>
    rw [hs] at hd
    cases hd
  | some s =>
    rw [hs] at hd
    dsimp only at hd ⊢
    rw [hd]

/-- An exchange of a route with fields is made of a JSON object. -/
theorem exchange_ok {route : Route} (hfields : route.fields ≠ []) {w : World}
    {parts : List String} {r : Request} {x : Exchange} (h : route.exchange w parts r = .ok x) :
    r.body ≠ [] ∧ ∃ es, decodeBytes r.body = .ok (.map es) ∧
      readFields route.fields (.map es) = .ok x.fields := by
  have hempty : route.fields.isEmpty = false := by simpa using hfields
  rw [Route.exchange, hempty] at h
  dsimp only at h
  -- a body that is no object has no fields
  have hread : ∀ d, bodyOf r = .ok d → ∀ out, readFields route.fields d = .ok out →
      r.body ≠ [] ∧ ∃ es, decodeBytes r.body = .ok (.map es) ∧ d = .map es := by
    intro d hd out hout
    cases d with
    | map es =>
      unfold bodyOf at hd
      split at hd
      · cases hd
      · rename_i hbody
        split at hd
        · split at hd
          · rename_i d hdecode
            cases hd
            exact ⟨by simpa using hbody, es, hdecode, rfl⟩
          · cases hd
          · cases hd
        · cases hd
    | _ => cases hout
  cases hbody : bodyOf r with
  | error response =>
    rw [hbody] at h
    cases h
  | ok d =>
    rw [hbody] at h
    dsimp only [bind, Except.bind, pure, Except.pure] at h
    cases hout : readFields route.fields d with
    | error wrong =>
      -- whoever asks, a body without the fields is refused
      rw [hout] at h
      cases huser : r.user? with
      | some user =>
        rw [huser] at h
        cases h
      | none =>
        rw [huser] at h
        cases hopen : route.isOpen <;> rw [hopen] at h <;> cases h
    | ok out =>
      rw [hout] at h
      obtain ⟨hne, es, hdecode, rfl⟩ := hread d hbody out hout
      -- whoever asks, the fields are those of the body
      have hfields : x.fields = out := by
        cases huser : r.user? with
        | some user =>
          rw [huser] at h
          cases h
          rfl
        | none =>
          rw [huser] at h
          cases hopen : route.isOpen with
          | true =>
            rw [hopen] at h
            cases h
            rfl
          | false =>
            rw [hopen] at h
            cases h
      exact ⟨hne, es, hdecode, hfields ▸ hout⟩

/-! ## Configurations -/

section Configurations

variable {path : String} {keys : List String}

/-- Nothing is too large about a body with configurations if nothing is about any of them. -/
theorem payloadProblem?_eq_none_iff (hpath : (path, keys) ∈ configurationFields) {d : Data} :
    payloadProblem? path d = none ↔ ∀ key ∈ keys, configurationProblem? (d.field? key) = none := by
  have htable : ∀ e ∈ configurationFields,
      Entries.get? e.1 configurationFields = some e.2 ∧ (e.1 == draftPath) = false := by decide
  obtain ⟨hkeys, hdraft⟩ := htable _ hpath
  rw [payloadProblem?, hkeys, hdraft, Option.getD_some, ← List.findSome?_eq_none_iff]
  cases keys.findSome? fun key => configurationProblem? (d.field? key) with
  | none => exact Iff.rfl
  | some problem => exact Iff.rfl

theorem configurationProblem?_text_eq_none_iff {s : String} :
    configurationProblem? (some (.text s)) = none ↔ utf8Size s ≤ maxConfigurationBytes := by
  rw [configurationProblem?]
  split
  · rename_i hlarge
    exact iff_of_false (Option.some_ne_none _) (Nat.not_le.2 hlarge)
  · rename_i hsmall
    exact iff_of_true rfl (Nat.not_lt.1 hsmall)

/-- **The routes of configurations**: each configuration is a text that must be there. -/
theorem configuration_route (hpath : (path, keys) ∈ configurationFields) :
    plainPath path = path ∧ isInspected path = true ∧
    ∃ route, resolve routes "POST" path = .found route [] ∧ route.fields ≠ [] ∧
      (route.fields.map (·.key)).Nodup ∧ ∀ key ∈ keys, Field.text key ∈ route.fields := by
  simp only [configurationFields, List.mem_cons, List.not_mem_nil, or_false, Prod.mk.injEq]
    at hpath
  rcases hpath with ⟨rfl, rfl⟩ | ⟨rfl, rfl⟩ | ⟨rfl, rfl⟩
  · exact ⟨by decide, by decide, _, rfl, by simp [auditFields], by decide, by simp [auditFields]⟩
  · exact ⟨by decide, by decide, _, rfl, by simp [comparisonFields], by decide,
      by simp [comparisonFields]⟩
  · exact ⟨by decide, by decide, _, rfl, by simp [templateFields], by decide,
      by simp [templateFields]⟩

/-- The configurations of an exchange are those of the body. -/
theorem configuration_of_exchange {route : Route} (hfields : route.fields ≠ [])
    (hnodup : (route.fields.map (·.key)).Nodup) {w : World} {parts : List String} {r : Request}
    {x : Exchange} (h : route.exchange w parts r = .ok x) :
    r.body ≠ [] ∧ ∃ d, decodeBytes r.body = .ok d ∧ ∀ key, Field.text key ∈ route.fields →
      ∃ content, x.text? key = some content ∧ d.field? key = some (.text content) := by
  obtain ⟨hbody, es, hdecode, hread⟩ := exchange_ok hfields h
  refine ⟨hbody, .map es, hdecode, fun key hkey => ?_⟩
  obtain ⟨v, hv, hget⟩ := get?_of_readFields hread hnodup hkey
  obtain ⟨content, rfl, hcontent⟩ := read_text hv
  refine ⟨content, ?_, hcontent⟩
  rw [Exchange.text?, show Entries.get? key x.fields = some (.text content) from hget]
  rfl

/-- The body of a request that comes to a route with configurations is accepted if it shows its
encoding, or if all of them are within the limit. -/
theorem sizeProblem?_eq_none_iff (hpath : (path, keys) ∈ configurationFields) {r : Request}
    (hmethod : r.method = "POST") (hr : r.path = path) {route : Route} {w : World}
    {parts : List String} {x : Exchange} (hfields : route.fields ≠ [])
    (hnodup : (route.fields.map (·.key)).Nodup)
    (hkeys : ∀ key ∈ keys, Field.text key ∈ route.fields)
    (hx : route.exchange w parts r = .ok x) :
    sizeProblem? r = none ↔ isTooLong r = false ∧ (IsMarked r.body ∨
      ∀ key ∈ keys, ∃ content, x.text? key = some content ∧
        utf8Size content ≤ maxConfigurationBytes) := by
  obtain ⟨hplain, hinspected, -⟩ := configuration_route hpath
  obtain ⟨hbody, d, hdecode, hcontent⟩ := configuration_of_exchange hfields hnodup hx
  have hchecked : checkedMethods.contains r.method = true := by
    rw [hmethod]
    decide
  have hnonempty : (r.body.isEmpty || !isInspected path) = false := by
    rw [hinspected]
    simpa using hbody
  rw [sizeProblem?, hchecked, hr, hplain, hnonempty]
  -- Its length alone decides on a body that is too long; of any other the fields are looked at.
  cases isTooLong r with
  | true => exact iff_of_false (Option.some_ne_none _) fun h => Bool.noConfusion h.1
  | false =>
    show bodyProblem? path r.body = none ↔ _
    rw [eq_self_iff_true, true_and]
    by_cases hmarked : IsMarked r.body
    · exact iff_of_true (bodyProblem?_of_marked hmarked path) (.inl hmarked)
    · rw [bodyProblem?_of_not_marked hmarked hdecode, payloadProblem?_eq_none_iff hpath,
        or_iff_right hmarked]
      refine forall₂_congr fun key hkey => ?_
      obtain ⟨content, htext, hfield⟩ := hcontent key (hkeys key hkey)
      rw [hfield, configurationProblem?_text_eq_none_iff, htext]
      simp

/-- When a request with configurations comes to its handler. -/
theorem handled_iff (hpath : (path, keys) ∈ configurationFields) {r : Request}
    (hmethod : r.method = "POST") (hr : r.path = path) {route : Route}
    (hroute : resolve routes r.method r.path = .found route []) {w : World} {s t : Installation}
    {x : Exchange} :
    Handled w r s route x t ↔ route.exchange w [] r = .ok x ∧ isTooLong r = false ∧
      withinLimit w r s = (true, t) ∧ (IsMarked r.body ∨
        ∀ key ∈ keys, ∃ content, x.text? key = some content ∧
          utf8Size content ≤ maxConfigurationBytes) := by
  obtain ⟨-, -, route', hroute', hfields, hnodup, hkeys⟩ := configuration_route hpath
  -- A path with configurations has one route.
  obtain rfl : route = route' := by
    rw [hmethod, hr, hroute'] at hroute
    cases hroute
    rfl
  constructor
  · rintro ⟨hallowed, hcounted, parts, hfound, hx⟩
    obtain rfl : parts = [] := by
      rw [hroute] at hfound
      cases hfound
      rfl
    obtain ⟨hlong, hsize⟩ :=
      (sizeProblem?_eq_none_iff hpath hmethod hr hfields hnodup hkeys hx).1 hallowed
    exact ⟨hx, hlong, hcounted, hsize⟩
  · rintro ⟨hx, hlong, hcounted, hsize⟩
    exact ⟨(sizeProblem?_eq_none_iff hpath hmethod hr hfields hnodup hkeys hx).2 ⟨hlong, hsize⟩,
      hcounted, [], hroute, hx⟩

end Configurations

/-- A request for an audit whose body has a mark at the start. -/
def sampleRequest : Request where
  method := "POST"
  path := "/api/audit"
  headers := [("X-User-Id", "u")]
  body := [0xef, 0xbb, 0xbf] ++ utf8Bytes "\x7b\"content\": \"#\"\x7d"

end Http

end Groundplan
