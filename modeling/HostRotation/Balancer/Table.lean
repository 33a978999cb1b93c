/-
# The table of hosts

The reconciler alone changes the table while the balancer runs: it applies
batches of discovery events, and it removes expired hosts that lost their
last connection. A host that leaves the table is closed at once; its
connections are closed in the background (`Closing`).
-/
import HostRotation.Balancer.Background

namespace HostRotation
namespace Balancer

variable {α σ : Type}

/-- Closes a host and cancels its health check. Returns what it had pooled. -/
def closeHost (b : Balancer α σ) (h : HostId) : Balancer α σ × List (Link α) :=
  match b.hosts[h]? with
  | none => (b, [])
  | some host =>
    let (host, links) := host.close
    ((b.setHost h host).cancelCheck h, links)

/-- Closes hosts one after the other. -/
def closeHosts (b : Balancer α σ) : List HostId → Balancer α σ × List (Link α)
  | [] => (b, [])
  | h :: hs =>
    let (b, links) := b.closeHost h
    let (b, more) := b.closeHosts hs
    (b, links ++ more)

/-- Hands connections over to be closed in the background. -/
def closeLater (b : Balancer α σ) (links : List (Link α)) : Balancer α σ :=
  if links.isEmpty then b else { b with closings := b.closings ++ [{ links }] }

/-- Closes a host that left the table. -/
def closeRemoved (b : Balancer α σ) (h : HostId) : Balancer α σ :=
  let (b, links) := b.closeHost h
  b.closeLater links

/-- A task that closes connections in the background runs. -/
def runClosing (b : Balancer α σ) (k : Nat) : Balancer α σ :=
  match b.closings[k]? with
  | none => b
  | some c =>
    if c.begun then b
    else ({ b with closings := b.closings.set k { c with begun := true } }.closeLinks c.links).1

/-! ### Batches -/

section

variable [DecidableEq α]

/-- The host of an address in the table. -/
def lookup (b : Balancer α σ) (a : α) : Option HostId :=
  b.table.find? fun h => (b.hosts[h]?).any fun host => host.address = a

/-- A host that was not in the table appears. -/
def addHost (b : Balancer α σ) (a : α) : Balancer α σ :=
  { b with hosts := b.hosts ++ [{ address := a }], table := b.table ++ [b.hosts.length] }

def activateHost (b : Balancer α σ) (h : HostId) : Balancer α σ :=
  match b.hosts[h]? with
  | none => b
  | some host =>
    let b := b.setHost h host.activate
    if host.status = .unhealthy then b.cancelCheck h else b

/-- Says whether the host has nothing left to serve with. -/
def expireHost (b : Balancer α σ) (h : HostId) : Balancer α σ × Bool :=
  match b.hosts[h]? with
  | none => (b, false)
  | some host => ((b.setHost h host.expire).cancelCheck h, host.expire.isDrained)

/-- Takes a host out of the table. -/
def removeHost (b : Balancer α σ) (h : HostId) : Balancer α σ :=
  { b with table := b.table.erase h }

/-- Applies one event, and notes the host that it removes. -/
def applyEvent (s : Balancer α σ × List HostId) (e : HostEvent α) : Balancer α σ × List HostId :=
  let (b, removed) := s
  match e.status, b.lookup e.address with
  | .available, none => (b.addHost e.address, removed)
  | .available, some h => (b.activateHost h, removed)
  | .expired, some h =>
    let (b, drained) := b.expireHost h
    if drained then (b.removeHost h, removed ++ [h]) else (b, removed)
  | .unavailable, some h => (b.removeHost h, removed ++ [h])
  | .expired, none | .unavailable, none => (b, removed)

/-- Applies a batch. The hosts it removes are closed when the table is
complete. An empty batch is passed over. -/
def applyBatch (b : Balancer α σ) (batch : Batch α) : Balancer α σ :=
  let events := lastEvents batch
  if events.isEmpty || b.isClosed then b
  else
    let (b, removed) := events.foldl applyEvent (b, [])
    (removed.foldl closeRemoved b).observeTable

/-- Removes the host of an address if it is expired and has no connection
left. -/
def removeDrained (b : Balancer α σ) (a : α) : Balancer α σ :=
  if b.isClosed then b
  else
    let drained := b.table.find? fun h =>
      (b.hosts[h]?).any fun host => host.address = a && host.isDrained
    match drained with
    | none => b
    | some h => ((b.removeHost h).closeRemoved h).observeTable

end

end Balancer
end HostRotation
