import Groundplan.Deploy.Library
import Groundplan.Policy.Comparison
import Groundplan.Policy.Audit

/-!
# Auditing as actions

Audits, comparisons and the catalog as operations on an installation.

## Main definitions

* `auditText`: an audit, the report of which may be kept with a template
* `compareVersions`: the change from one text to another
* `latestReport`, `policiesOf`, `togglePolicy`
-/

namespace Groundplan.Policy

/-- Puts the built-in policies into the catalog. -/
def seedPolicies (now : Instant) (s : Installation) : Installation :=
  { s with catalog := s.catalog.seeded now }

/-- **Audits a text.** If it belongs to a template, that has to be one of the user, and the report
is kept with it. -/
def auditText (w : World) (user text provider : String) (template : Option String) :
    Action Report := do
  let isKept := template.getD "" != ""
  if isKept then let _ ← Deploy.templateOf user (template.getD "")
  let s ← get
  let (r, catalog) := audit s.catalog w.reportId w.now text provider template
  set { s with catalog := catalog }
  if isKept then
    let _ ← Action.draw fun s =>
      let (a, history) := s.history.save r
      (a, { s with history := history })
  return r

/-- **The change from one text to another.** -/
def compareVersions (w : World) (old new provider : String) : Action Comparison := do
  let s ← get
  let (c, catalog) := compareTexts s.catalog w.now old new provider
  set { s with catalog := catalog }
  return c

/-- The newest report of a template of a user. -/
def latestReport (user template : String) : Action Report := do
  let _ ← Deploy.templateOf user template
  match (← get).history.latest? template with
  | some r => return r
  | none => throw (.notFound "Audit report")

/-- The policies of the catalog, all or those of a provider. -/
def policiesOf (w : World) (provider : Option String) : Action (List Row) := do
  modify (seedPolicies w.now)
  return (← get).catalog.listing provider

/-- Switches a policy on or off. -/
def togglePolicy (w : World) (code : String) (active : Bool) : Action Row :=
  Action.draw fun s =>
    let (a, catalog) := s.catalog.toggle w.now code active
    (a, { s with catalog := catalog })

end Groundplan.Policy
