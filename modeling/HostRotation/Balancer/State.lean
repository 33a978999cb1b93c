/-
# The state of a balancer

A balancer keeps every host it ever knew; the table lists, in rotation order,
those that are in use now. A host that leaves the table is never changed back
by what later happens to an entry of the same address, because passes and
health attempts hold on to hosts, not to addresses.

Whoever waits, waits in the state: a selection in its connect, a health
attempt in its connect, connections that are yet to be closed, notices and
commands that the reconciler has not taken. So every point at which something
else may run in between is a state, and one step leads from one to the next.

What lies outside is part of the state only as far as the balancer sees or
causes it: which connections exist, which of them are closed, how often it
closed them, and what the callers know (`callers`), which selectors read and
change.
-/
import HostRotation.Discovery
import HostRotation.Host
import HostRotation.Pool.Search
import HostRotation.Rotation
import HostRotation.Settings

namespace HostRotation

abbrev SelectionId := Nat

/-- A connection as it is pooled and handed out. -/
structure Link (α : Type) where
  id : ConnId
  address : α
deriving DecidableEq

/-- What there is to know of a connection besides its link. -/
structure Connection (α : Type) where
  address : α
  closed : Bool := false
  /-- How often the balancer closed it. -/
  closeCalls : Nat := 0
  /-- Whether closing it reports a failure. -/
  failsToClose : Bool := false
deriving DecidableEq

/-- How a connect ends. -/
inductive DialOutcome
  | refused (reason : String)
  /-- A connection that never existed before. -/
  | opened
  /-- A connection that was handed out before. -/
  | reopened (c : ConnId)
deriving DecidableEq

/-- A pass of a selection over the hosts. -/
structure Pass where
  /-- The number of hosts in the table when the pass began. -/
  size : Nat
  /-- The connects begun. -/
  attempted : Nat := 0
  lastError : Option BalancerError := none

/-- How far a selection has come. -/
inductive SelectionPhase (α : Type)
  /-- Between two points of waiting. -/
  | walking
  /-- In the connect to a host, with the hosts that are left to visit. -/
  | connecting (host : HostId) (pass : Pass) (rest : List HostId)
  /-- Closing a connection that came too late for its host. -/
  | discarding
  | done (result : Except BalancerError (Link α))

structure Selection (α σ : Type) where
  accepts : Selector (Link α) σ
  /-- The connections shown to the selector and its answers, in order. -/
  shown : List (Link α × Bool) := []
  phase : SelectionPhase α := .walking

/-- The result of a selection that ended. -/
def Selection.result? {α σ : Type} (s : Selection α σ) :
    Option (Except BalancerError (Link α)) :=
  match s.phase with
  | .done r => some r
  | _ => none

/-- What the reconciler is told besides the notices of its subscription. -/
inductive Command (α : Type)
  | resubscribe
  /-- An expired host of this address lost its last connection. -/
  | drained (address : α)
deriving DecidableEq

inductive ReconcilerPhase
  | unstarted
  | listening
  /-- The subscription failed or ended. -/
  | idle
  | stopped
deriving DecidableEq

/-- The slot of the one resubscribe that may be pending. -/
structure Monitor where
  pending : Option TaskId := none
  shutDown : Bool := false
deriving DecidableEq

/-- Connections of a removed host that are closed in the background. -/
structure Closing (α : Type) where
  links : List (Link α)
  begun : Bool := false
deriving DecidableEq

inductive Lifecycle
  | running
  /-- Some connections are still being closed. -/
  | closing (failed total : Nat)
  | closed (failed total : Nat)
  | dropped
deriving DecidableEq

/-- Counters and gauges. The gauges keep what was recorded last. -/
structure Metrics where
  selections : Nat := 0
  rejections : Nat := 0
  created : Nat := 0
  connectFailures : Nat := 0
  resubscribes : Nat := 0
  hosts : Nat := 0
  unhealthy : Nat := 0
deriving DecidableEq

/-- What a balancer is started with. -/
structure Setup (α : Type) extends Settings where
  target : String
  source : DiscoverySource α
  /-- How addresses appear in errors. -/
  describe : α → String
  /-- Whether cancelling a task aborts it. -/
  aborts : Bool

structure Balancer (α σ : Type) where
  setup : Setup α
  /-- Every host there ever was. -/
  hosts : List (Host α (Link α)) := []
  /-- The hosts in use, in rotation order. -/
  table : List HostId := []
  rotation : Rotation := {}
  lifecycle : Lifecycle := .running
  reconciler : ReconcilerPhase := .unstarted
  /-- Every subscription there ever was; the last one is current. -/
  subscriptions : List (Subscription α) := []
  commands : List (Command α) := []
  monitor : Monitor := {}
  /-- Every task given to the executor. -/
  tasks : List Task := []
  /-- Every selection begun. -/
  selections : List (Selection α σ) := []
  closings : List (Closing α) := []
  connections : List (Connection α) := []
  /-- The addresses of all connects begun, the latest first. -/
  attempts : List α := []
  metrics : Metrics := {}
  tape : Tape
  callers : σ

namespace Balancer

variable {α σ : Type}

/-- Whether the balancer was closed or dropped. -/
def isClosed (b : Balancer α σ) : Bool := b.lifecycle ≠ .running

/-- The hosts of the table, in rotation order. -/
def tableHosts (b : Balancer α σ) : List (Host α (Link α)) :=
  b.table.filterMap fun h => b.hosts[h]?

/-- The hosts of the table as users see them. -/
def summaries (b : Balancer α σ) : List (HostSummary α) := b.tableHosts.map Host.summary

/-- Whether a connection is closed. -/
def linkClosed (b : Balancer α σ) (l : Link α) : Bool :=
  (b.connections[l.id]?).any Connection.closed

/-- The number of connections that are not closed. -/
def openConnections (b : Balancer α σ) : Nat :=
  (b.connections.filter fun c => !c.closed).length

def setHost (b : Balancer α σ) (h : HostId) (host : Host α (Link α)) : Balancer α σ :=
  { b with hosts := b.hosts.set h host }

def modifyTask (b : Balancer α σ) (t : TaskId) (f : Task → Task) : Balancer α σ :=
  { b with tasks := b.tasks.modify t f }

def modifyConnection (b : Balancer α σ) (c : ConnId) (f : Connection α → Connection α) :
    Balancer α σ :=
  { b with connections := b.connections.modify c f }

end Balancer
end HostRotation
