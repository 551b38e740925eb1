import Groundplan.Cloud.Call

/-!
# Inquiries

Finding something out by asking a cloud: a chain of calls that a failure ends. The calls are
recorded in order.

## Main definitions

* `Inquiry`: what can be found out by asking a cloud
* `Client`: a service as it is asked in a region; `Client.ask`, `Client.pages`
* `Cloud.outcome`, `Cloud.callsOf`: what an inquiry comes to, and the calls that it makes
-/

namespace Groundplan

/-- What can be found out by asking a cloud. -/
abbrev Inquiry := ReaderT Cloud (ExceptT Failure (StateM (List CloudCall)))

/-- Conducts an inquiry: its outcome, and the calls that it makes. -/
def Cloud.conduct {α : Type} (c : Cloud) (q : Inquiry α) : Answer α × List CloudCall :=
  (q.run c).run.run []

/-- What an inquiry comes to. -/
def Cloud.outcome {α : Type} (c : Cloud) (q : Inquiry α) : Answer α :=
  (c.conduct q).1

/-- The calls that an inquiry makes. -/
def Cloud.callsOf {α : Type} (c : Cloud) (q : Inquiry α) : List CloudCall :=
  (c.conduct q).2

namespace Inquiry

variable {α : Type}

/-- The outcome of an inquiry, a failure being one. -/
def attempt (q : Inquiry α) : Inquiry (Answer α) :=
  fun c calls =>
    let (a, calls) := (q.run c).run.run calls
    (.ok a, calls)

/-- Records a call. -/
def record (call : CloudCall) : Inquiry Unit :=
  modify (· ++ [call])

end Inquiry

/-- A service as it is asked in a region. -/
structure Client where
  service : String
  region : String
deriving Repr, Inhabited

namespace Client

/-- The client of a service for a session in a region. -/
def of (service region : String) : Client :=
  ⟨service, clientRegion service region region⟩

/-- A call of a client. -/
def call (k : Client) (operation : String) (params : Entries Data) : CloudCall :=
  ⟨k.service, k.region, operation, params⟩

/-- **Asks for an operation.** -/
def ask (k : Client) (operation : String) (params : Entries Data) : Inquiry Data := do
  Inquiry.record (k.call operation params)
  (← read).call (k.call operation params)

/-- **Asks for a listing**: its pages, each of which may be a failure. -/
def pages (k : Client) (operation : String) (params : Entries Data) :
    Inquiry (List (Answer Data)) := do
  Inquiry.record (k.call operation params)
  return (← read).pages (k.call operation params)

/-- Whether an operation answers in pages. -/
def paginates (k : Client) (operation : String) : Inquiry Bool := do
  return (← read).paginates k.service operation

end Client

end Groundplan
