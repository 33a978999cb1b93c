/-
# Selections

A selection makes one pass over the hosts of the table, as it was when the
pass began, in cyclic order from the next place in the rotation. A host that
is active or expired is searched first, and a connection found there ends the
pass. If none is found at an active host, one is opened: this is where a
selection waits (`SelectionPhase.connecting`), and `dialled` goes on when the
connect is over. A connect that succeeds ends the pass, one that fails sends
it on to the hosts that are left.

`walk` is the part of a pass between two such points.
-/
import HostRotation.Balancer.Background

namespace HostRotation

variable {α σ : Type}

namespace Selection

def finish (s : Selection α σ) (result : Except BalancerError (Link α)) : Selection α σ :=
  { s with phase := .done result }

/-- Notes what a search showed to the selector. -/
def noteShown (s : Selection α σ) (shown : List (Link α × Bool)) : Selection α σ :=
  { s with shown := s.shown ++ shown }

end Selection

namespace Balancer

/-- Takes a connection that was found closed out of the pool of a host. The
reconciler is told when this drained the host. -/
def prune (b : Balancer α σ) [DecidableEq α] (h : HostId) (l : Link α) : Balancer α σ :=
  match b.hosts[h]? with
  | some host =>
    let (host, drained) := host.remove l
    let b := b.setHost h host
    if drained then { b with commands := b.commands ++ [.drained host.address] } else b
  | none => b

/-- Searches the pool of a host and prunes the closed connections that the
search came across. -/
def searchHost [DecidableEq α] (b : Balancer α σ) (accepts : Selector (Link α) σ) (h : HostId)
    (pool : List (Link α)) : Balancer α σ × Pool.Finding (Link α) σ :=
  let rest := pool.length - b.setup.linearSpace
  let (drawn, tape) := b.tape.sample rest (Pool.probeBudget rest)
  let f := Pool.search b.setup.linearSpace drawn b.linkClosed accepts pool b.callers
  (f.closed.foldl (fun b l => b.prune h l) { b with tape, callers := f.callers }, f)

/-- Ends a selection with a rejection. -/
def reject (b : Balancer α σ) (s : Selection α σ) (e : BalancerError) :
    Balancer α σ × Selection α σ :=
  ({ b with metrics := { b.metrics with rejections := b.metrics.rejections + 1 } },
    s.finish (.error e))

/-- Ends a pass that visited every host. -/
def endPass (b : Balancer α σ) (s : Selection α σ) (pass : Pass) :
    Balancer α σ × Selection α σ :=
  if pass.attempted = 0 then
    b.observeTable.reject s (.noActiveHost b.setup.target pass.size)
  else
    b.reject s
      (.connectionRejected b.setup.target (.noConnection pass.attempted) pass.lastError)

/-- Begins a connect to a host and leaves the selection waiting for it. -/
def beginDial (b : Balancer α σ) (s : Selection α σ) (h : HostId) (address : α) (pass : Pass)
    (rest : List HostId) : Balancer α σ × Selection α σ :=
  ({ b with attempts := address :: b.attempts },
    { s with phase := .connecting h { pass with attempted := pass.attempted + 1 } rest })

/-- Goes on with a pass, given the hosts that are left to visit. -/
def walk [DecidableEq α] (b : Balancer α σ) (s : Selection α σ) (pass : Pass) :
    List HostId → Balancer α σ × Selection α σ
  | [] => b.endPass s pass
  | h :: rest =>
    match b.hosts[h]? with
    | none => walk b s pass rest
    | some host =>
      if host.isUsable then
        let (b, f) := b.searchHost s.accepts h host.pool
        let s := s.noteShown f.shown
        match f.found with
        | some l => (b, s.finish (.ok l))
        | none =>
          if host.status = .active then b.beginDial s h host.address pass rest
          else walk b s pass rest
      else walk b s pass rest

/-- Begins a pass over the table. Among no hosts there is none, and the
rotation stays where it is. -/
def beginPass [DecidableEq α] (b : Balancer α σ) (s : Selection α σ) :
    Balancer α σ × Selection α σ :=
  match b.rotation.start? b.table.length with
  | none => b.reject s (.noAvailableHost b.setup.target)
  | some start =>
    { b with rotation := b.rotation.advance }.walk s { size := b.table.length }
      (cyclicFrom start b.table)

/-- Begins a selection. A balancer that is closed refuses it and does not
count it. -/
def select [DecidableEq α] (b : Balancer α σ) (accepts : Selector (Link α) σ) :
    Balancer α σ :=
  let s : Selection α σ := { accepts }
  if b.isClosed then
    { b with selections := b.selections ++ [s.finish (.error (.closed b.setup.target))] }
  else
    let b := { b with metrics := { b.metrics with selections := b.metrics.selections + 1 } }
    let (b, s) := b.beginPass s
    { b with selections := b.selections ++ [s] }

/-- Counts a failed connect of a selection. The failure that makes a host
unhealthy starts its health check. -/
def connectFailed (b : Balancer α σ) (h : HostId) : Balancer α σ :=
  let b := { b with
    metrics := { b.metrics with connectFailures := b.metrics.connectFailures + 1 } }
  match b.hosts[h]? with
  | none => b
  | some host =>
    let (host, crossed) := host.recordFailure (b.setup.health.map HealthPlan.threshold)
    let b := b.setHost h host
    if crossed then (b.scheduleAttempt h).observeTable else b

/-- Shows a connection that was just opened to the selector it was opened
for. -/
def offer (b : Balancer α σ) (s : Selection α σ) (l : Link α) : Balancer α σ × Selection α σ :=
  let b := { b with metrics := { b.metrics with created := b.metrics.created + 1 } }
  let (accepted, callers) := s.accepts l b.callers
  let b := { b with callers }
  let s := s.noteShown [(l, accepted)]
  if accepted then (b, s.finish (.ok l))
  else b.reject s (.connectionRejected b.setup.target .refusedBySelector none)

/-- Pools a connection that was just opened and offers it to its selection.
If the host was closed meanwhile, the connection is closed instead, and the
selection waits for that. -/
def poolAndOffer [DecidableEq α] (b : Balancer α σ) (s : Selection α σ) (h : HostId) (l : Link α) :
    Balancer α σ × Selection α σ :=
  match b.hosts[h]? with
  | none => (b, s)
  | some host =>
    match host.add l with
    | (_, .hostClosed) => ((b.closeLink l).1, { s with phase := .discarding })
    | (host, .restored) => (((b.setHost h host).cancelCheck h).recordHosts).offer s l
    | (host, .added) => (b.setHost h host).offer s l

/-- The connect of a selection is over. -/
def dialled [DecidableEq α] (b : Balancer α σ) (i : SelectionId) (outcome : DialOutcome) :
    Balancer α σ :=
  match b.selections[i]? with
  | none => b
  | some s =>
    match s.phase with
    | .connecting h pass rest =>
      match b.hosts[h]? with
      | none => b
      | some host =>
        let (b, s) :=
          match b.obtain host.address outcome with
          | (b, .ok l) => b.poolAndOffer s h l
          | (b, .error reason) =>
            let e := BalancerError.connectFailed (b.setup.describe host.address) (.foreign reason)
            (b.connectFailed h).walk s { pass with lastError := some e } rest
        { b with selections := b.selections.set i s }
    | _ => b

/-- The connection that came too late for its host is closed. -/
def discarded (b : Balancer α σ) (i : SelectionId) : Balancer α σ :=
  match b.selections[i]? with
  | none => b
  | some s =>
    match s.phase with
    | .discarding =>
      let (b, s) := b.reject s (.connectionRejected b.setup.target .hostRemoved none)
      { b with selections := b.selections.set i s }
    | _ => b

end Balancer
end HostRotation
