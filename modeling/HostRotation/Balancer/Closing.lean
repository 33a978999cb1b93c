/-
# Closing and dropping

Closing a balancer stops the reconciler, cancels the pending resubscribe and
every health check, empties the table and closes every pooled connection,
whichever of these closes fail. It waits for the connections and then reports
how many failed; closing again does nothing. Dropping does the same without
waiting, and leaves the gauges as they are.
-/
import HostRotation.Balancer.Table

namespace HostRotation
namespace Balancer

variable {α σ : Type}

/-- Stops the reconciler, and the resubscribe for good. -/
def stopBackground (b : Balancer α σ) : Balancer α σ :=
  { b with reconciler := .stopped, monitor := { pending := none, shutDown := true } }.cancelIfAny
    b.monitor.pending

/-- Closes every host of the table and empties it. Returns all that was
pooled. -/
def clearTable (b : Balancer α σ) : Balancer α σ × List (Link α) :=
  { b with table := [] }.closeHosts b.table

/-- Begins to close the balancer. -/
def close (b : Balancer α σ) : Balancer α σ :=
  if b.isClosed then b
  else
    let (b, links) := b.stopBackground.clearTable
    let (b, failed) := b.closeLinks links
    { b with lifecycle := .closing failed links.length }

/-- What a call that closes the balancer returns at once. The call that does
close it waits for the connections first. -/
def closeAtOnce? (b : Balancer α σ) : Option (Except BalancerError Unit) :=
  if b.isClosed then some (.ok ()) else none

/-- The last of the connections is closed. -/
def closeSettled (b : Balancer α σ) : Balancer α σ :=
  match b.lifecycle with
  | .closing failed total => { b with lifecycle := .closed failed total }.recordGauges []
  | _ => b

/-- What the call that closed the balancer reports. -/
def closeResult? (b : Balancer α σ) : Option (Except BalancerError Unit) :=
  match b.lifecycle with
  | .closed failed total => some (if 0 < failed then .error (.closeFailed failed total) else .ok ())
  | _ => none

/-- Drops the balancer. -/
def drop (b : Balancer α σ) : Balancer α σ :=
  if b.isClosed then b
  else
    let (b, links) := b.stopBackground.clearTable
    { b with lifecycle := .dropped }.closeLater links

end Balancer
end HostRotation
