import Groundplan.Calendar
import Groundplan.Failure

/-!
# Connections

A connection gives reading access to an account of a customer. The ARN of its role is kept sealed;
neither the ARN nor the external identifier is ever shown.

## Main definitions

* `ConnectionStatus`: whether a connection works
* `Connection`: the record of a connection
-/

namespace Groundplan

/-- Whether a connection works. -/
inductive ConnectionStatus where
  | pending
  | active
  | failed
  | disconnected
deriving DecidableEq, Repr, Inhabited

/-- The word for a status. -/
def ConnectionStatus.word : ConnectionStatus → String
  | .pending => "PENDING"
  | .active => "ACTIVE"
  | .failed => "FAILED"
  | .disconnected => "DISCONNECTED"

/-- Reading access to an account. -/
structure Connection where
  id : String
  user : String
  name : String
  sealedArn : String
  externalId : String
  region : String
  status : ConnectionStatus := .pending
  account : String
  lastSync : Option Instant := none
  lastError : Option String := none
  createdAt : Instant
  updatedAt : Instant
deriving Repr, Inhabited

/-- The view of a connection. -/
def Connection.toData (c : Connection) : Data :=
  .map [("id", .text c.id), ("name", .text c.name), ("provider", .text "aws"),
    ("region", .text c.region), ("status", .text c.status.word), ("account_id", .text c.account),
    ("last_sync_at", .ofText? (c.lastSync.map instantText)), ("last_error", .ofText? c.lastError),
    ("created_at", .text (instantText c.createdAt))]

end Groundplan
