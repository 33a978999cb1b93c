/-
# Background tasks of a balancer

Scheduling and cancelling tasks, the slot of a host for its health check, the
slot for the pending resubscribe, and the gauges. After every change of the
table, and when a pass found no active host, `observeTable` records the
gauges and arms a resubscribe if every host is expired or unhealthy; this
last part only while health checks are on.
-/
import HostRotation.Balancer.State

namespace HostRotation
namespace Balancer

variable {α σ : Type}

/-- Hands a task to the executor, after a delay drawn from a window. -/
def schedule (b : Balancer α σ) (kind : TaskKind) (window : JitterWindow) :
    Balancer α σ × TaskId :=
  let (delay, tape) := window.draw b.tape
  ({ b with tape, tasks := b.tasks ++ [{ kind, delay }] }, b.tasks.length)

def cancelTask (b : Balancer α σ) (t : TaskId) : Balancer α σ :=
  b.modifyTask t (Task.cancel b.setup.aborts)

def cancelIfAny (b : Balancer α σ) : Option TaskId → Balancer α σ
  | some t => b.cancelTask t
  | none => b

/-! ### The health check of a host -/

/-- Empties the slot of a host and cancels what it held. -/
def cancelCheck (b : Balancer α σ) (h : HostId) : Balancer α σ :=
  match b.hosts[h]? with
  | some host => (b.setHost h { host with check := none }).cancelIfAny host.check
  | none => b

/-- Empties the slot of a host and leaves alone what it held. -/
def clearCheck (b : Balancer α σ) (h : HostId) : Balancer α σ :=
  match b.hosts[h]? with
  | some host => b.setHost h { host with check := none }
  | none => b

/-- Puts a task into the slot of a host and cancels the one it displaces. A
host that is not unhealthy needs no check: then the task is cancelled. -/
def installCheck (b : Balancer α σ) (h : HostId) (t : TaskId) : Balancer α σ :=
  match b.hosts[h]? with
  | some host =>
    if host.status = .unhealthy then
      (b.setHost h { host with check := some t }).cancelIfAny host.check
    else b.cancelTask t
  | none => b.cancelTask t

/-- Schedules the next attempt to reach a host. -/
def scheduleAttempt (b : Balancer α σ) (h : HostId) : Balancer α σ :=
  match b.setup.health with
  | some plan =>
    let (b, t) := b.schedule (.health h) plan.window
    b.installCheck h t
  | none => b

/-! ### The pending resubscribe -/

/-- Arms a resubscribe, unless one is pending or the balancer is shut down. -/
def scheduleResubscribe (b : Balancer α σ) : Balancer α σ :=
  if b.monitor.shutDown || b.monitor.pending.isSome then b
  else
    let (b, t) := b.schedule .resubscribe b.setup.resubscribe
    { b with monitor := { b.monitor with pending := some t } }

/-! ### Gauges and starvation -/

/-- Records the gauges of a list of hosts. -/
def recordGauges (b : Balancer α σ) (hosts : List (Host α (Link α))) : Balancer α σ :=
  { b with metrics := { b.metrics with
      hosts := hosts.length
      unhealthy := (hosts.filter fun h => h.status = .unhealthy).length } }

def recordHosts (b : Balancer α σ) : Balancer α σ := b.recordGauges b.tableHosts

/-- Whether there are hosts and none of them is active. -/
def isStarved (b : Balancer α σ) : Bool :=
  !b.table.isEmpty && b.tableHosts.all Host.isStarved

/-- Records the gauges and arms a resubscribe when the table is starved. -/
def observeTable (b : Balancer α σ) : Balancer α σ :=
  let b := b.recordHosts
  if b.setup.health.isSome && !b.isClosed && b.isStarved then b.scheduleResubscribe else b

/-! ### Connections -/

/-- Closes a connection. Says whether that failed. -/
def closeLink (b : Balancer α σ) (l : Link α) : Balancer α σ × Bool :=
  (b.modifyConnection l.id fun c => { c with closed := true, closeCalls := c.closeCalls + 1 },
    (b.connections[l.id]?).any Connection.failsToClose)

/-- Closes connections one after the other and counts the failures. -/
def closeLinks (b : Balancer α σ) : List (Link α) → Balancer α σ × Nat
  | [] => (b, 0)
  | l :: ls =>
    let (b, failed) := b.closeLink l
    let (b, n) := b.closeLinks ls
    (b, n + if failed then 1 else 0)

/-- A connection that never existed before. -/
def openLink (b : Balancer α σ) (address : α) : Balancer α σ × Link α :=
  ({ b with connections := b.connections ++ [{ address }] }, ⟨b.connections.length, address⟩)

/-- The connection that a connect to an address ended with, or why there is
none. -/
def obtain (b : Balancer α σ) (address : α) :
    DialOutcome → Balancer α σ × Except String (Link α)
  | .refused reason => (b, .error reason)
  | .opened =>
    let (b, l) := b.openLink address
    (b, .ok l)
  | .reopened c =>
    match b.connections[c]? with
    | some k => (b, .ok ⟨c, k.address⟩)
    | none =>
      let (b, l) := b.openLink address
      (b, .ok l)

end Balancer
end HostRotation
