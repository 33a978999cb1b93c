/-
# Health checks

A host that became unhealthy is tried again in the background, one attempt
per task. An attempt does nothing when its host is not unhealthy any more
when it starts. A connect that fails schedules the next attempt; one that
succeeds brings the host back. An attempt that was not aborted when the host
left the unhealthy status may still end in its connect: the connection is
then pooled, or closed if the host is closed.
-/
import HostRotation.Balancer.Background

namespace HostRotation
namespace Balancer

variable {α σ : Type}

/-- Starts a task. A task that was aborted or ran already does nothing. -/
def startTask (b : Balancer α σ) (t : TaskId) : Balancer α σ :=
  match b.tasks[t]? with
  | none => b
  | some task =>
    if task.phase ≠ .waiting then b
    else
      match task.kind with
      | .resubscribe =>
        { b.modifyTask t (·.start .finished) with commands := b.commands ++ [.resubscribe] }
      | .health h =>
        match b.hosts[h]? with
        | none => b.modifyTask t (·.start .finished)
        | some host =>
          if host.status = .unhealthy then
            { b.modifyTask t (·.start .connecting) with attempts := host.address :: b.attempts }
          else b.modifyTask t (·.start .finished)

/-- An attempt reached its host. -/
def probeSucceeded [DecidableEq α] (b : Balancer α σ) (t : TaskId) (h : HostId)
    (host : Host α (Link α)) (l : Link α) : Balancer α σ :=
  let created (b : Balancer α σ) : Balancer α σ :=
    { b with metrics := { b.metrics with created := b.metrics.created + 1 } }
  match host.add l with
  | (host, .restored) =>
    (created ((b.setHost h host).clearCheck h)).recordHosts.modifyTask t (·.start .finished)
  | (host, .added) =>
    (created ((b.setHost h host).clearCheck h)).modifyTask t (·.start .finished)
  | (_, .hostClosed) => (b.closeLink l).1.modifyTask t (·.start .discarding)

/-- The connect of a health attempt is over. -/
def probed [DecidableEq α] (b : Balancer α σ) (t : TaskId) (outcome : DialOutcome) :
    Balancer α σ :=
  match b.tasks[t]? with
  | none => b
  | some task =>
    match task.kind, task.phase with
    | .health h, .connecting =>
      match b.hosts[h]? with
      | none => b
      | some host =>
        match b.obtain host.address outcome with
        | (b, .ok l) => b.probeSucceeded t h host l
        | (b, .error _) => (b.modifyTask t (·.start .finished)).scheduleAttempt h
    | _, _ => b

/-- The connection that came too late for its host is closed. -/
def probeDiscarded (b : Balancer α σ) (t : TaskId) : Balancer α σ :=
  b.modifyTask t fun task =>
    if task.phase = .discarding then task.start .finished else task

end Balancer
end HostRotation
