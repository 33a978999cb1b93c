/-
# Timetables

A virtual clock in whole milliseconds and the alarms set on it. Moving the
clock lets the alarms ring at their own times, the earliest first, and those
of one time in the order in which they were set.
-/
import HostRotation.Duration

namespace HostRotation
namespace Rehearsal

structure Timetable (κ : Type) where
  now : Nat := 0
  /-- What rings when, in the order in which the alarms were set. -/
  alarms : List (κ × Nat) := []

namespace Timetable

variable {κ : Type}

/-- The clock ticks in milliseconds, so a delay ends at the tick after it. -/
def ticks (d : Duration) : Nat := (d.total + (Duration.perMilli - 1)) / Duration.perMilli

/-- Sets an alarm so many ticks from now. -/
def set (t : Timetable κ) (key : κ) (delay : Nat) : Timetable κ :=
  { t with alarms := t.alarms ++ [(key, t.now + delay)] }

/-- The earliest time up to `limit` at which an alarm rings. -/
def nextDue? (t : Timetable κ) (limit : Nat) : Option Nat :=
  ((t.alarms.map Prod.snd).filter fun due => due ≤ limit).min?

/-- Moves the clock to a time and takes out the alarms that ring then. -/
def ring (t : Timetable κ) (time : Nat) : List κ × Timetable κ :=
  (((t.alarms.filter fun a => a.2 ≤ time).map Prod.fst),
    { now := max t.now time, alarms := t.alarms.filter fun a => !decide (a.2 ≤ time) })

end Timetable

/-! ### An executor on a virtual clock -/

/-- A task that only notes that it ran. -/
structure ClockTask where
  name : String
  cancelled : Bool := false
  ranAt : Option Nat := none

/-- An executor that runs its tasks itself, on a virtual clock. -/
structure ClockExecutor where
  tasks : List ClockTask := []
  timetable : Timetable Nat := {}

inductive ClockStep
  | schedule (name : String) (delay : Nat)
  | cancel (name : String)
  | advance (ms : Nat)

namespace ClockExecutor

/-- Runs the tasks whose time has come at `time`. A cancelled task does not
run. -/
def runAt (e : ClockExecutor) (time : Nat) : ClockExecutor :=
  let (due, timetable) := e.timetable.ring time
  let mark (tasks : List ClockTask) (i : Nat) : List ClockTask :=
    tasks.modify i fun t => if t.cancelled then t else { t with ranAt := some time }
  { tasks := due.foldl mark e.tasks, timetable }

/-- Moves the clock to `time`. Every round lets at least one alarm ring, so
there are no more rounds than alarms. -/
def moveTo (time : Nat) : Nat → ClockExecutor → ClockExecutor
  | 0, e => e.runAt time
  | rounds + 1, e =>
    match e.timetable.nextDue? time with
    | none => e.runAt time
    | some due => moveTo time rounds (e.runAt due)

/-- The newest task of a name. -/
def newest? (e : ClockExecutor) (name : String) : Option Nat :=
  (List.range e.tasks.length).reverse.find? fun i =>
    (e.tasks[i]?).any fun t => t.name = name

def step (e : ClockExecutor) : ClockStep → ClockExecutor
  | .schedule name delay =>
    let e := { tasks := e.tasks ++ [{ name }], timetable := e.timetable.set e.tasks.length delay }
    if delay = 0 then e.runAt e.timetable.now else e
  | .cancel name =>
    match e.newest? name with
    | none => e
    | some i => { e with tasks := e.tasks.modify i fun t => { t with cancelled := true } }
  | .advance ms => moveTo (e.timetable.now + ms) e.timetable.alarms.length e

/-- Which tasks ran, and when: ordered by time, then by name. -/
def ran (e : ClockExecutor) : List (String × Nat) :=
  (e.tasks.filterMap fun t => t.ranAt.map fun at' => (t.name, at')).mergeSort fun x y =>
    x.2 < y.2 || (x.2 == y.2 && x.1 ≤ y.1)

/-- The names of the tasks that were cancelled, in order. -/
def cancelled (e : ClockExecutor) : List String :=
  ((e.tasks.filter ClockTask.cancelled).map ClockTask.name).mergeSort fun x y => x ≤ y

end ClockExecutor
end Rehearsal
end HostRotation
