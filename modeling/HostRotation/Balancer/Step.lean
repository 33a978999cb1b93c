/-
# Steps

One step of a balancer and everything around it. Each event names one thing
that runs from one point of waiting to the next, or one change from outside.
An event that cannot happen now changes nothing, so every list of events is a
run.
-/
import HostRotation.Balancer.Closing
import HostRotation.Balancer.Health
import HostRotation.Balancer.Reconciler
import HostRotation.Balancer.Selecting

namespace HostRotation

inductive Event (α σ : Type)
  /-- The reconciler runs for the first time. -/
  | startReconciler
  /-- Discovery delivers a notice. -/
  | deliver (notice : Notice α)
  | takeNotice
  | takeCommand
  /-- A selection begins. -/
  | select (accepts : Selector (Link α) σ)
  /-- The connect of a selection is over. -/
  | dialled (selection : SelectionId) (outcome : DialOutcome)
  /-- The connection that a selection had to close is closed. -/
  | discarded (selection : SelectionId)
  /-- The executor starts a task. -/
  | startTask (task : TaskId)
  /-- The connect of a health attempt is over. -/
  | probed (task : TaskId) (outcome : DialOutcome)
  /-- The connection that a health attempt had to close is closed. -/
  | probeDiscarded (task : TaskId)
  /-- A task that closes connections of a removed host runs. -/
  | runClosing (closing : Nat)
  | close
  /-- All connections that `close` had to close are closed. -/
  | closeSettled
  | drop
  /-- The peer closes a connection. -/
  | peerCloses (connection : ConnId)
  /-- Closing a connection will report a failure. -/
  | closeWillFail (connection : ConnId)
  /-- What the callers know changes. -/
  | callersChange (change : σ → σ)

namespace Balancer

variable {α σ : Type}

/-- A balancer that was just started. -/
def start (setup : Setup α) (tape : Tape) (callers : σ) : Balancer α σ :=
  { setup, tape, callers }

/-- One step. -/
def step [DecidableEq α] (b : Balancer α σ) : Event α σ → Balancer α σ
  | .startReconciler => b.startReconciler
  | .deliver n => b.deliver n
  | .takeNotice => b.takeNotice
  | .takeCommand => b.takeCommand
  | .select accepts => b.select accepts
  | .dialled i o => b.dialled i o
  | .discarded i => b.discarded i
  | .startTask t => b.startTask t
  | .probed t o => b.probed t o
  | .probeDiscarded t => b.probeDiscarded t
  | .runClosing k => b.runClosing k
  | .close => b.close
  | .closeSettled => b.closeSettled
  | .drop => b.drop
  | .peerCloses c => b.modifyConnection c fun k => { k with closed := true }
  | .closeWillFail c => b.modifyConnection c fun k => { k with failsToClose := true }
  | .callersChange f => { b with callers := f b.callers }

/-- A run of steps. -/
def run [DecidableEq α] (b : Balancer α σ) (events : List (Event α σ)) : Balancer α σ :=
  events.foldl step b

end Balancer
end HostRotation
