/-
# Background tasks

A task is handed to an executor with a delay and runs once. Its handle can be
cancelled any number of times; only the first time counts. Whether cancelling
also aborts the task depends on the executor: one that runs the task itself
aborts it while it waits or hangs in a connect, one that only looks at the
handle before it starts a task does not.
-/
import HostRotation.Duration

namespace HostRotation

abbrev HostId := Nat
abbrev ConnId := Nat
abbrev TaskId := Nat

/-- What a task is for. -/
inductive TaskKind
  /-- One attempt to reach an unhealthy host. -/
  | health (host : HostId)
  /-- One fresh subscription to discovery. -/
  | resubscribe
deriving DecidableEq

/-- How far a task has come. -/
inductive TaskPhase
  | waiting
  /-- In the connect of a health attempt. -/
  | connecting
  /-- Closing a connection that came too late for its host. -/
  | discarding
  | finished
  | aborted
deriving DecidableEq

structure Task where
  kind : TaskKind
  delay : Duration
  started : Bool := false
  cancelled : Bool := false
  phase : TaskPhase := .waiting
deriving DecidableEq

namespace Task

/-- Whether the task may still do something. -/
def isLive (t : Task) : Bool :=
  match t.phase with
  | .finished | .aborted => false
  | _ => true

/-- Cancels the handle of a task. With `aborts` a live task goes no further. -/
def cancel (aborts : Bool) (t : Task) : Task :=
  if t.cancelled then t
  else { t with cancelled := true, phase := if aborts && t.isLive then .aborted else t.phase }

/-- Starts the task, which leaves it in the phase it gets to. -/
def start (t : Task) (phase : TaskPhase) : Task := { t with started := true, phase }

/-- What the handle of a task looks like. -/
def handleText (t : Task) : String :=
  "TaskHandle \x7b cancelled: " ++ (if t.cancelled then "true" else "false") ++ " \x7d"

@[simp] theorem cancelled_cancel (aborts : Bool) (t : Task) :
    (t.cancel aborts).cancelled = true := by
  unfold cancel
  split <;> simp_all

@[simp] theorem kind_cancel (aborts : Bool) (t : Task) : (t.cancel aborts).kind = t.kind := by
  unfold cancel
  split <;> rfl

@[simp] theorem started_cancel (aborts : Bool) (t : Task) :
    (t.cancel aborts).started = t.started := by
  unfold cancel
  split <;> rfl

theorem cancel_cancel (aborts : Bool) (t : Task) :
    (t.cancel aborts).cancel aborts = t.cancel aborts :=
  if_pos (cancelled_cancel aborts t)

end Task
end HostRotation
