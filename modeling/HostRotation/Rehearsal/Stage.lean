/-
# The stage of a rehearsal

A rehearsal runs a balancer on one thread, against a network and a discovery
source that follow a script. Whatever became ready waits in a queue and runs
in that order, each job until it has to wait itself. The balancer only
changes by `Balancer.step`.

A connect to a gated address waits until it is resumed. Then it fails if the
script says so, or else if the address is down at that moment.
-/
import HostRotation.Balancer.Step
import HostRotation.Rehearsal.Predicate
import HostRotation.Rehearsal.Timetable

namespace HostRotation
namespace Rehearsal

/-- Whoever waits for a connect. -/
inductive Dialer
  | selection (i : SelectionId)
  | task (t : TaskId)
deriving DecidableEq

/-- What became ready to run. -/
inductive Job
  | reconcile
  /-- A background selection that has not begun. -/
  | begin (name : String) (predicate : Predicate)
  /-- A connect that may end now. -/
  | endDial (dialer : Dialer) (forced : Option Bool)
  | startTask (t : TaskId)
  /-- Frees what an aborted task held. -/
  | release (t : TaskId)
  | runClosing (k : Nat)

/-- Who starts the tasks of the balancer. -/
inductive ExecutorKind
  /-- The script does. A task that started is never aborted. -/
  | manual
  /-- The virtual clock does. -/
  | clock
  /-- The virtual clock does, and no record is kept. -/
  | unrecorded
deriving DecidableEq

structure Stage where
  balancer : Balancer String Reservations
  executor : ExecutorKind
  timetable : Timetable TaskId := {}
  ready : List Job := []
  /-- Connects that wait to be resumed, the oldest first. -/
  held : List (Dialer × String) := []
  gated : List String := []
  /-- The addresses that are down, with the message of their connects. -/
  down : List (String × Option String) := []
  /-- The connections that connects to an address end with. -/
  reuse : List (String × ConnId) := []
  /-- Background selections, and which one each became when it began. -/
  named : List (String × Option SelectionId) := []
  /-- The tasks that the script started. -/
  fired : List TaskId := []
  /-- Whether anybody listens to the current subscription. -/
  listened : Bool := false
  /-- Whether the script ended the current subscription. -/
  ended : Bool := false
  /-- Whether the caller let go of the balancer. -/
  letGo : Bool := false

namespace Stage

/-- Where a connect stands. -/
inductive Standing
  | connecting (address : String)
  | discarding
  | over

/-- Where the connect of a dialer stands. -/
def standing (s : Stage) : Dialer → Standing
  | .selection i =>
    match s.balancer.selections[i]?.map Selection.phase with
    | some (.connecting h _ _) => addressOf h
    | some .discarding => .discarding
    | _ => .over
  | .task t =>
    match s.balancer.tasks[t]? with
    | some task =>
      match task.kind, task.phase with
      | .health h, .connecting => addressOf h
      | _, .discarding => .discarding
      | _, _ => .over
    | none => .over
where
  addressOf (h : HostId) : Standing :=
    match s.balancer.hosts[h]? with
    | some host => .connecting host.address
    | none => .over

def enqueue (s : Stage) (jobs : List Job) : Stage := { s with ready := s.ready ++ jobs }

/-- Whether the reconciler has something to do. -/
def wantsReconciler (s : Stage) : Bool :=
  s.balancer.nextNotice?.isSome || s.balancer.nextCommand?.isSome ||
    (s.listened && s.balancer.reconciler = .stopped)

def reconcilerQueued (s : Stage) : Bool :=
  s.ready.any fun
    | .reconcile => true
    | _ => false

/-- The tasks that an event aborted. -/
def newlyAborted (before after : List Task) : List TaskId :=
  (List.range before.length).filter fun t =>
    (before[t]?).any Task.isLive && (after[t]?).any fun task => task.phase = .aborted

/-- One step of the balancer, and what it makes ready: aborted tasks are
freed, closings run, new tasks are put on the clock, and the reconciler wakes
up if it has something to do. -/
def happen (s : Stage) (e : Event String Reservations) : Stage :=
  let before := s.balancer
  let after := before.step e
  let aborted := newlyAborted before.tasks after.tasks
  let newTasks := (List.range' before.tasks.length (after.tasks.length - before.tasks.length))
  let alarm (t : Timetable TaskId) (i : TaskId) : Timetable TaskId :=
    match after.tasks[i]? with
    | some task => t.set i (Timetable.ticks task.delay)
    | none => t
  let s := { s with
    balancer := after
    timetable :=
      if s.executor = ExecutorKind.manual then s.timetable else newTasks.foldl alarm s.timetable
    ended := s.ended && after.subscriptions.length = before.subscriptions.length }
  let s := s.enqueue (aborted.map .release)
  let s := s.enqueue ((List.range' before.closings.length
    (after.closings.length - before.closings.length)).map .runClosing)
  if s.wantsReconciler && !s.reconcilerQueued then s.enqueue [.reconcile] else s

/-- How a connect to an address ends now. -/
def outcome (s : Stage) (address : String) (forced : Option Bool) : DialOutcome :=
  let isDown := s.down.find? fun d => d.1 = address
  let message := (isDown.bind Prod.snd).getD ("connection refused by " ++ address)
  if forced.getD isDown.isNone then
    match s.reuse.find? fun r => r.1 = address with
    | some (_, c) => .reopened c
    | none => .opened
  else .refused message

/-- The connect of a dialer is over. -/
def endDial (s : Stage) (d : Dialer) (forced : Option Bool) : Stage :=
  match s.standing d with
  | .connecting address =>
    let o := s.outcome address forced
    match d with
    | .selection i => s.happen (.dialled i o)
    | .task t => s.happen (.probed t o)
  | _ => s

/-- Lets a dialer go on until it waits at a gate or is done. It visits every
host at most once, so `visits` need not be more than there are hosts. -/
def goOn : Nat → Stage → Dialer → Stage
  | visits, s, d =>
    match s.standing d with
    | .over => s
    | .discarding =>
      match d with
      | .selection i => s.happen (.discarded i)
      | .task t => s.happen (.probeDiscarded t)
    | .connecting address =>
      if s.gated.contains address then { s with held := s.held ++ [(d, address)] }
      else
        match visits with
        | 0 => s
        | visits + 1 => goOn visits (s.endDial d none) d

/-- Lets a dialer go on as far as it can. -/
def proceed (s : Stage) (d : Dialer) : Stage := goOn (s.balancer.hosts.length + 1) s d

/-- Begins a selection and lets it go on. -/
def beginSelection (s : Stage) (p : Predicate) : Stage × SelectionId :=
  let i := s.balancer.selections.length
  ((s.happen (.select p.selector)).proceed (.selection i), i)

/-- The reconciler takes all there is to take. -/
def reconcile : Nat → Stage → Stage
  | 0, s => s
  | rounds + 1, s =>
    if s.balancer.nextNotice?.isSome then reconcile rounds (s.happen .takeNotice)
    else if s.balancer.nextCommand?.isSome then reconcile rounds (s.happen .takeCommand)
    else s

/-- What the reconciler may have to take: every command may bring one more
notice. -/
def reconcilerLoad (s : Stage) : Nat :=
  let untaken (u : Subscription String) (n : Nat) : Nat := u.notices.length - u.taken + n
  2 * s.balancer.commands.length + s.balancer.subscriptions.foldr untaken 0 + 1

/-- Whether a background selection is under way. -/
def hasSelectionsUnderWay (s : Stage) : Bool :=
  s.named.any fun n =>
    match n.2 with
    | none => true
    | some i => (s.balancer.selections[i]?).any fun x => x.result?.isNone

/-- A balancer that the caller let go of is dropped when the last selection
that uses it is over. -/
def dropIfUnused (s : Stage) : Stage :=
  if s.letGo && !s.balancer.isClosed && !s.hasSelectionsUnderWay then s.happen .drop else s

/-- Runs a job. -/
def runJob (s : Stage) : Job → Stage
  | .reconcile =>
    let s := reconcile s.reconcilerLoad s
    { s with
      listened := s.balancer.reconciler = .listening
      ready := s.ready.filter fun
        | .reconcile => false
        | _ => true }
  | .begin name p =>
    let (s, i) := s.beginSelection p
    { s with named := s.named.map fun n => if n.1 = name then (name, some i) else n }
  | .endDial d forced => (s.endDial d forced).proceed d
  | .startTask t => (s.happen (.startTask t)).proceed (.task t)
  | .release t => { s with held := s.held.filter fun w => w.1 ≠ .task t }
  | .runClosing k => s.happen (.runClosing k)

/-- Runs what is ready until nothing is, for at most so many jobs. -/
def settleFor : Nat → Stage → Stage
  | 0, s => s
  | jobs + 1, s =>
    match s.ready with
    | [] => s
    | j :: ready => settleFor jobs ({ s with ready }.runJob j).dropIfUnused

/-- A bound on the jobs between two steps of a script that no script
reaches. -/
def jobLimit : Nat := 1000000

/-- Runs what is ready until nothing is. -/
def settle (s : Stage) : Stage := settleFor jobLimit s

/-- Moves the clock to `time`, tick by tick. Tasks whose time has come start,
and everything that this makes ready runs before the clock moves on. -/
def moveClock (time : Nat) : Nat → Stage → Stage
  | 0, s => { s with timetable := (s.timetable.ring time).2 }
  | ticks + 1, s =>
    match s.timetable.nextDue? time with
    | none => { s with timetable := (s.timetable.ring time).2 }
    | some due =>
      let (tasks, timetable) := s.timetable.ring due
      moveClock time ticks ({ s with timetable }.enqueue (tasks.map .startTask)).settle

/-- A stage on which a balancer was just started. -/
def start (setup : Setup String) (executor : ExecutorKind) (tape : Tape) : Stage :=
  let s : Stage := { balancer := Balancer.start setup tape [], executor }
  { s.happen .startReconciler with listened := true }.settle

end Stage
end Rehearsal
end HostRotation
