/-
# The moves a step is made of

A step of a balancer does several things one after the other. In between, a
host may have left the table without being closed yet, and a connection may
be in no pool and not be handed over for closing. A `Moment` is a balancer in
the middle of a step: the balancer itself, what the step has in its hands,
and two records that nothing reads, of the connections pruned and of the
discovery events applied so far.

A `Move` is one thing a step does, with all that is known when it does it.
Every step is a chain of moves that begins and ends with empty hands
(`moves_step` in `StepMoves`), so what every move keeps, every step keeps.

Key definitions: `Moment`, `Move`, `Moves`.
-/
import HostRotation.Balancer.Step
import Mathlib.Logic.Relation

namespace HostRotation

variable {α σ : Type}

/-- The tasks after the handle of one of them, if any, is cancelled. -/
def cancelIn (aborts : Bool) (tasks : List Task) : Option TaskId → List Task
  | some t => tasks.modify t (Task.cancel aborts)
  | none => tasks

namespace Event

/-- Whether a connect is over. -/
def Dials : Event α σ → Prop
  | dialled _ _ | probed _ _ => True
  | _ => False

/-- Whether a connect ends with a connection that was handed out before. -/
def Reopens : Event α σ → Prop
  | dialled _ (.reopened _) | probed _ (.reopened _) => True
  | _ => False

end Event

/-- The batch that the step of an event applies to the table. -/
def Balancer.announced (b : Balancer α σ) : Event α σ → Batch α
  | .takeNotice =>
    match b.nextNotice? with
    | some (.batch events) => if b.isClosed then [] else events
    | _ => []
  | _ => []

/-- A balancer in the middle of a step. -/
structure Moment (α σ : Type) extends Balancer α σ where
  /-- Hosts that left the table and are not closed yet. -/
  leaving : List HostId := []
  /-- Connections that are in no pool and not handed over for closing. -/
  inHand : List (Link α) := []
  /-- The connections pruned so far. -/
  pruned : List (Link α) := []
  /-- The discovery events applied so far. -/
  applied : Batch α := []

section

variable [DecidableEq α]

/-- The things that the step of an event does, one at a time. -/
inductive Move (e : Event α σ) : Moment α σ → Moment α σ → Prop
  -- Bookkeeping, the reconciler and the life of the balancer
  | note {m} (rotation subscriptions selections attempts metrics tape callers) :
      Move e m { m with rotation, subscriptions, selections, attempts, metrics, tape, callers }
  | listen {m} (subscriptions) (hr : m.reconciler ≠ .stopped) :
      Move e m { m with subscriptions, reconciler := .listening }
  | lose {m} (hr : m.reconciler ≠ .stopped) : Move e m { m with reconciler := .idle }
  | resubscribe {m cs} (subscriptions metrics) (he : e = .takeCommand)
      (hr : m.reconciler ≠ .stopped) (hc : m.commands = .resubscribe :: cs) :
      Move e m { m with
        commands := cs, monitor := { m.monitor with pending := none }
        subscriptions, metrics, reconciler := .listening }
  | heed {m a cs} (he : e = .takeCommand) (hr : m.reconciler ≠ .stopped)
      (hc : m.commands = .drained a :: cs) :
      Move e m { m with commands := cs }
  /-- Every host leaves when the balancer is shut. -/
  | shut {m} (lifecycle) (ho : m.lifecycle = .running) (hl : lifecycle ≠ .running) :
      Move e m { m with
        lifecycle, reconciler := .stopped, monitor := { pending := none, shutDown := true }
        tasks := cancelIn m.setup.aborts m.tasks m.monitor.pending
        table := [], leaving := m.table ++ m.leaving }
  | settle {m failed total} (metrics) (hl : m.lifecycle = .closing failed total) :
      Move e m { m with lifecycle := .closed failed total, metrics }
  -- The pending resubscribe
  | arm {m} (delay tape) (hs : m.monitor.shutDown = false) (hp : m.monitor.pending = none) :
      Move e m { m with
        tape, tasks := m.tasks ++ [{ kind := .resubscribe, delay }]
        monitor := { m.monitor with pending := some m.tasks.length } }
  | fire {m t task} (ht : m.tasks[t]? = some task) (hk : task.kind = .resubscribe)
      (hp : task.phase = .waiting) :
      Move e m { m with
        tasks := m.tasks.modify t (·.start .finished), commands := m.commands ++ [.resubscribe] }
  -- Health attempts
  | attempt {m t task h host} (attempts) (ht : m.tasks[t]? = some task)
      (hk : task.kind = .health h) (hp : task.phase = .waiting) (hh : m.hosts[h]? = some host)
      (hu : host.status = .unhealthy) :
      Move e m { m with tasks := m.tasks.modify t (·.start .connecting), attempts }
  | skip {m t task h} (ht : m.tasks[t]? = some task) (hk : task.kind = .health h)
      (hp : task.phase = .waiting)
      (hu : ∀ host, m.hosts[h]? = some host → host.status ≠ .unhealthy) :
      Move e m { m with tasks := m.tasks.modify t (·.start .finished) }
  | reach {m t outcome task h host l ls} (he : e = .probed t outcome)
      (ho : ∀ reason, outcome ≠ .refused reason) (ht : m.tasks[t]? = some task)
      (hk : task.kind = .health h) (hp : task.phase = .connecting)
      (hh : m.hosts[h]? = some host) (hc : host.status ≠ .closed) (hl : m.inHand = l :: ls) :
      Move e m { m with
        hosts := m.hosts.set h { (host.add l).1 with check := none }
        tasks := m.tasks.modify t (·.start .finished), inHand := ls }
  | discard {m t task h host} (ht : m.tasks[t]? = some task) (hk : task.kind = .health h)
      (hp : task.phase = .connecting) (hh : m.hosts[h]? = some host)
      (hc : host.status = .closed) :
      Move e m { m with tasks := m.tasks.modify t (·.start .discarding) }
  | discarded {m t task} (ht : m.tasks[t]? = some task) (hp : task.phase = .discarding) :
      Move e m { m with tasks := m.tasks.modify t (·.start .finished) }
  | retry {m t task h host} (delay tape) (ht : m.tasks[t]? = some task)
      (hk : task.kind = .health h) (hp : task.phase = .connecting) (hh : m.hosts[h]? = some host)
      (hu : host.status = .unhealthy) :
      Move e m { m with
        tape, hosts := m.hosts.set h { host with check := some m.tasks.length }
        tasks := cancelIn m.setup.aborts
          (m.tasks.modify t (·.start .finished) ++ [{ kind := .health h, delay }]) host.check }
  | giveUp {m t task h host} (delay tape) (ht : m.tasks[t]? = some task)
      (hk : task.kind = .health h) (hp : task.phase = .connecting) (hh : m.hosts[h]? = some host)
      (hu : host.status ≠ .unhealthy) :
      Move e m { m with
        tape
        tasks := cancelIn m.setup.aborts
          (m.tasks.modify t (·.start .finished) ++ [{ kind := .health h, delay }])
          (some m.tasks.length) }
  /-- The balancer checks no hosts. -/
  | unplanned {m t task h} (ht : m.tasks[t]? = some task) (hk : task.kind = .health h)
      (hp : task.phase = .connecting) (hs : m.setup.health = none) :
      Move e m { m with tasks := m.tasks.modify t (·.start .finished) }
  -- A selection at a host
  | prune {m h host l} (hh : m.hosts[h]? = some host) (hl : l ∈ host.pool)
      (hc : m.linkClosed l = true) :
      Move e m { m with
        hosts := m.hosts.set h (host.remove l).1
        commands := m.commands ++ if (host.remove l).2 then [.drained host.address] else []
        pruned := m.pruned ++ [l] }
  | fail {m h host} (hh : m.hosts[h]? = some host)
      (hf : (host.recordFailure (m.setup.health.map HealthPlan.threshold)).2 = false) :
      Move e m { m with
        hosts := m.hosts.set h
          (host.recordFailure (m.setup.health.map HealthPlan.threshold)).1 }
  | fallSick {m h host plan} (delay tape) (hh : m.hosts[h]? = some host)
      (hs : m.setup.health = some plan)
      (hf : (host.recordFailure (some plan.threshold)).2 = true) :
      Move e m { m with
        tape
        hosts := m.hosts.set h
          { (host.recordFailure (some plan.threshold)).1 with check := some m.tasks.length }
        tasks := cancelIn m.setup.aborts (m.tasks ++ [{ kind := .health h, delay }]) host.check }
  | welcome {m i outcome h host l ls} (he : e = .dialled i outcome) (hh : m.hosts[h]? = some host)
      (hu : host.status = .unhealthy) (hl : m.inHand = l :: ls) :
      Move e m { m with
        hosts := m.hosts.set h { (host.add l).1 with check := none }
        tasks := cancelIn m.setup.aborts m.tasks host.check, inHand := ls }
  | pool {m i outcome h host l ls} (he : e = .dialled i outcome) (hh : m.hosts[h]? = some host)
      (hc : host.status ≠ .closed) (hu : host.status ≠ .unhealthy) (hl : m.inHand = l :: ls) :
      Move e m { m with hosts := m.hosts.set h (host.add l).1, inHand := ls }
  -- Discovery
  | appear {m} (a) (ho : m.lifecycle = .running) (hn : m.lookup a = none) :
      Move e m { m with
        hosts := m.hosts ++ [{ address := a }], table := m.table ++ [m.hosts.length]
        applied := m.applied ++ [⟨a, .available⟩] }
  | reannounce {m h host} (a) (hf : m.lookup a = some h) (hh : m.hosts[h]? = some host)
      (hu : host.status ≠ .unhealthy) :
      Move e m { m with
        hosts := m.hosts.set h host.activate, applied := m.applied ++ [⟨a, .available⟩] }
  | revive {m h host} (a) (hf : m.lookup a = some h) (hh : m.hosts[h]? = some host)
      (hu : host.status = .unhealthy) :
      Move e m { m with
        hosts := m.hosts.set h { host.activate with check := none }
        tasks := cancelIn m.setup.aborts m.tasks host.check
        applied := m.applied ++ [⟨a, .available⟩] }
  | expire {m h host} (a) (hf : m.lookup a = some h) (hh : m.hosts[h]? = some host)
      (hd : host.expire.isDrained = false) :
      Move e m { m with
        hosts := m.hosts.set h { host.expire with check := none }
        tasks := cancelIn m.setup.aborts m.tasks host.check
        applied := m.applied ++ [⟨a, .expired⟩] }
  | expireOut {m h host} (a) (hf : m.lookup a = some h) (hh : m.hosts[h]? = some host)
      (hd : host.expire.isDrained = true) :
      Move e m { m with
        hosts := m.hosts.set h { host.expire with check := none }
        tasks := cancelIn m.setup.aborts m.tasks host.check
        table := m.table.erase h, leaving := m.leaving ++ [h]
        applied := m.applied ++ [⟨a, .expired⟩] }
  | withdraw {m h} (a) (hf : m.lookup a = some h) :
      Move e m { m with
        table := m.table.erase h, leaving := m.leaving ++ [h]
        applied := m.applied ++ [⟨a, .unavailable⟩] }
  | ignore {m} (event : HostEvent α) (hn : m.lookup event.address = none)
      (ha : event.status ≠ .available) :
      Move e m { m with applied := m.applied ++ [event] }
  | retire {m h host} (ht : h ∈ m.table) (hh : m.hosts[h]? = some host)
      (hd : host.isDrained = true) :
      Move e m { m with table := m.table.erase h, leaving := m.leaving ++ [h] }
  | closeHost {m h host hs} (he : ¬ e.Dials) (hl : m.leaving = h :: hs)
      (hh : m.hosts[h]? = some host) :
      Move e m { m with
        hosts := m.hosts.set h { host.close.1 with check := none }
        tasks := cancelIn m.setup.aborts m.tasks host.check
        leaving := hs, inHand := m.inHand ++ host.close.2 }
  /-- A host there never was needs no closing. -/
  | closeNone {m h hs} (hl : m.leaving = h :: hs) (hh : m.hosts[h]? = none) :
      Move e m { m with leaving := hs }
  -- Connections
  | opens {m} (a) (he : e.Dials) :
      Move e m { m with
        connections := m.connections ++ [{ address := a }]
        inHand := ⟨m.connections.length, a⟩ :: m.inHand }
  | reopen {m} (l) (he : e.Reopens) (hl : l.id < m.connections.length) :
      Move e m { m with inHand := l :: m.inHand }
  | closeLink {m l ls} (hl : m.inHand = l :: ls) :
      Move e m { m with
        connections := m.connections.modify l.id fun c =>
          { c with closed := true, closeCalls := c.closeCalls + 1 }
        inHand := ls }
  | handOver {m} :
      Move e m { m with closings := m.closings ++ [{ links := m.inHand }], inHand := [] }
  | beginClosing {m k c} (he : e = .runClosing k) (hk : m.closings[k]? = some c)
      (hb : c.begun = false) :
      Move e m { m with
        closings := m.closings.set k { c with begun := true }, inHand := c.links ++ m.inHand }
  | peerCloses {m} (c) (he : e = .peerCloses c) :
      Move e m { m with connections := m.connections.modify c fun k => { k with closed := true } }
  | closeWillFail {m} (c) (he : e = .closeWillFail c) :
      Move e m { m with
        connections := m.connections.modify c fun k => { k with failsToClose := true } }

/-- A chain of moves. -/
abbrev Moves (e : Event α σ) : Moment α σ → Moment α σ → Prop :=
  Relation.ReflTransGen (Move e)

/-- What every move of a chain keeps, the chain keeps. -/
theorem Moves.keeps {e : Event α σ} {I : Moment α σ → Prop}
    (hI : ∀ m m', Move e m m' → I m → I m') {m m' : Moment α σ} (h : Moves e m m') (hm : I m) :
    I m' := by
  induction h with
  | refl => exact hm
  | tail _ hmove ih => exact hI _ _ hmove ih

end

end HostRotation
