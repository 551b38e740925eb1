import Groundplan.Calendar
import Groundplan.Data

/-!
# Sliding windows

How many requests a client made to an endpoint within the last minute. The instants of accepted
requests are kept as long as they matter.

## Main definitions

* `Window`: the instants by client and endpoint
* `Window.allow`: asks for a request to be accepted
* `Window.remaining`: how many more would be accepted
-/

namespace Groundplan

/-- Seconds that a request counts for. -/
def windowSeconds : Int := 60

/-- The instants of accepted requests by client and endpoint. An entry without instants remains of a
look-up. -/
abbrev Window := Entries (Entries (List Instant))

namespace Window

/-- The instants that still count. -/
def recent (now : Instant) (ts : List Instant) : List Instant :=
  ts.filter fun t => now - windowSeconds * microsPerSecond < t

/-- The instants kept for a client at an endpoint. -/
def stamps (w : Window) (client endpoint : String) : List Instant :=
  ((Entries.get? client w).bind (Entries.get? endpoint ·)).getD []

/-- Writes the instants of a client at an endpoint. -/
def put (w : Window) (client endpoint : String) (ts : List Instant) : Window :=
  Entries.set client (Entries.set endpoint ts ((Entries.get? client w).getD [])) w

/-- **Asks for a request to be accepted**: fewer than the limit were within the window. -/
def allow (w : Window) (now : Instant) (client endpoint : String) (limit : Int) : Bool × Window :=
  let ts := recent now (w.stamps client endpoint)
  -- A request that is not accepted leaves no instant, but the old ones are dropped all the same.
  if limit ≤ ts.length then (false, w.put client endpoint ts)
  else (true, w.put client endpoint (ts ++ [now]))

/-- **How many more requests would be accepted.** -/
def remaining (w : Window) (now : Instant) (client endpoint : String) (limit : Int) :
    Nat × Window :=
  let ts := recent now (w.stamps client endpoint)
  ((limit - ts.length).toNat, w.put client endpoint ts)

end Window

end Groundplan
