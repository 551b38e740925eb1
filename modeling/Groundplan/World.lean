import Groundplan.Cloud.Call
import Groundplan.Deploy.Tool

/-!
# The world outside

All that an operation learns from outside: the time, fresh identifiers, and how the cloud, the
provisioning tool and the text model answer while it runs.

## Main definitions

* `ModelReply`: how the text model answers
* `World`: the world as one operation meets it
* `Event`: what an operation asks of the world
-/

namespace Groundplan

/-- How the text model answers. -/
inductive ModelReply where
  /-- An answer of success with a body. -/
  | replied (body : String)
  /-- An answer of another status with a body, and how the client puts it. -/
  | refused (status : Int) (body fault : String)
  /-- Time ran out. -/
  | timedOut
  /-- It was not reached. -/
  | unreachable (reason : String)
deriving Repr, Inhabited

/-- The world as one operation meets it. -/
structure World where
  now : Instant
  /-- A fresh identifier for a record. -/
  recordId : String
  /-- A fresh identifier for a report. -/
  reportId : String
  /-- A fresh external identifier for a role. -/
  externalId : String
  /-- Fresh random bytes for sealing. -/
  nonce : List UInt8
  /-- The environment of this process. -/
  environment : Entries String
  /-- The cloud under the keys of this installation. -/
  host : CloudCall → Answer Data
  /-- The cloud under the keys of a role. -/
  account : Cloud
  /-- The provisioning tool, by arguments. -/
  tool : List String → Deploy.ToolReply
  /-- The text model, by request. -/
  model : Data → ModelReply

/-- What an operation asks of the world. -/
inductive Event where
  /-- A call under the keys of this installation or of a role. -/
  | called (call : CloudCall)
  /-- A run of the provisioning tool. -/
  | ran (run : Deploy.ToolRun)
  /-- A request to the text model. -/
  | drafted (request : Data)
deriving Repr, Inhabited

end Groundplan
