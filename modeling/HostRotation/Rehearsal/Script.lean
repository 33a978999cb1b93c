/-
# The script of a rehearsal

A script is a list of acts. Each act has an answer, and after each act
everything that became ready runs before the next one, unless the act is
held: then the next one follows at once.
-/
import HostRotation.Rehearsal.Stage
import HostRotation.SelectionContext

namespace HostRotation
namespace Rehearsal

inductive Act
  /-- Discovery delivers a batch. -/
  | publish (batch : Batch String)
  /-- The subscription fails. -/
  | fail (reason : String)
  /-- The subscription ends. -/
  | finish
  /-- Connects to an address fail from now on. -/
  | takeDown (address : String) (message : Option String)
  | bringUp (address : String)
  /-- Connects to an address wait from now on. -/
  | gate (address : String)
  | ungate (address : String)
  /-- The oldest connect that waits for an address goes on. -/
  | resume (address : String) (forced : Option Bool)
  /-- Connects to an address end with this connection, or with new ones. -/
  | reuse (address : String) (connection : Option ConnId)
  /-- Selections in turn. -/
  | select (predicate : Predicate) (context : SelectionContext) (count : Nat)
  /-- A selection in the background. -/
  | launch (name : String) (predicate : Predicate) (context : SelectionContext)
  /-- The result of a background selection. -/
  | join (name : String)
  | release (connection : ConnId)
  /-- The peer closes a connection. -/
  | kill (connection : ConnId)
  | killAll
  | failClose (connection : ConnId)
  | listConnections
  | fire (task : TaskId) (force : Bool)
  | advance (ms : Nat)
  | close
  | drop
  | look

/-- How a selection of a script went. -/
inductive Outcome
  | selected (link : Link String) (visits : Nat)
  | failed (error : BalancerError) (visits : Nat)
  /-- It waits for a connect. -/
  | waiting
  /-- There is no balancer any more. -/
  | dropped

structure ConnectionRow where
  id : ConnId
  address : String
  closed : Bool
  closeCalls : Nat
  reserved : Bool

inductive FireAnswer
  | missing
  | cancelled
  | alreadyRan
  | fired

inductive Answer
  | nothing
  | delivered (listened : Bool)
  | resumed (any : Bool)
  | outcomes (list : List Outcome)
  | launched
  | unknown
  | connections (rows : List ConnectionRow)
  | fire (answer : FireAnswer)
  | closed (result : Except BalancerError Unit)
  | dropped

namespace Stage

/-- How a selection went so far. -/
def outcomeOf (s : Stage) (i : SelectionId) : Outcome :=
  match s.balancer.selections[i]? with
  | none => .waiting
  | some x =>
    match x.result? with
    | none => .waiting
    | some (.ok l) => .selected l x.shown.length
    | some (.error e) => .failed e x.shown.length

/-- Selections one after the other. Everything that became ready runs between
two of them. -/
def selectInTurn (p : Predicate) : Nat → Stage → Stage × List Outcome
  | 0, s => (s, [])
  | n + 1, s =>
    let (s, i) := s.beginSelection p
    let o := s.outcomeOf i
    let (s, os) := selectInTurn p n (if n = 0 then s else s.settle)
    (s, o :: os)

/-- Delivers a notice if somebody listens to the subscription. -/
def deliver (s : Stage) (n : Notice String) : Stage × Bool :=
  match s.balancer.setup.source with
  | .fixed _ => (s, false)
  | .live => if s.listened && !s.ended then (s.happen (.deliver n), true) else (s, false)

/-- What a record says of an address replaces what it said before. -/
def replace {β : Type} (address : String) (value : Option β) (record : List (String × β)) :
    List (String × β) :=
  let others := record.filter fun r => r.1 ≠ address
  match value with
  | some v => others ++ [(address, v)]
  | none => others

/-- Takes out the first entry that satisfies `p`. -/
def takeFirst {β : Type} (p : β → Bool) (xs : List β) : Option β × List β :=
  (xs.find? p, xs.eraseP p)

def resume (s : Stage) (address : String) (forced : Option Bool) : Stage × Answer :=
  match takeFirst (fun w => w.2 = address) s.held with
  | (some (d, _), held) => ({ s with held }.enqueue [.endDial d forced], .resumed true)
  | (none, _) => (s, .resumed false)

def connectionRows (s : Stage) : List ConnectionRow :=
  s.balancer.connections.mapIdx fun id c =>
    { id, address := c.address, closed := c.closed, closeCalls := c.closeCalls,
      reserved := s.balancer.callers.contains id }

def fireTask (s : Stage) (t : TaskId) (force : Bool) : Stage × FireAnswer :=
  if s.executor ≠ .manual then (s, .missing)
  else
    match s.balancer.tasks[t]? with
    | none => (s, .missing)
    | some task =>
      if task.cancelled && !force then (s, .cancelled)
      else if s.fired.contains t then (s, .alreadyRan)
      else ({ s with fired := t :: s.fired }.enqueue [.startTask t], .fired)

def close (s : Stage) : Stage × Answer :=
  if s.letGo then (s, .dropped)
  else
    match s.balancer.closeAtOnce? with
    | some result => (s, .closed result)
    | none =>
      let s := (s.happen .close).happen .closeSettled
      (s, .closed (s.balancer.closeResult?.getD (.ok ())))

def join (s : Stage) (name : String) : Stage × Answer :=
  match s.named.find? fun n => n.1 = name with
  | none => (s, .unknown)
  | some (_, none) => (s, .outcomes [.waiting])
  | some (_, some i) =>
    match s.outcomeOf i with
    | .waiting => (s, .outcomes [.waiting])
    | o => ({ s with named := s.named.filter fun n => n.1 ≠ name }, .outcomes [o])

/-- Performs an act. -/
def perform (s : Stage) : Act → Stage × Answer
  | .publish batch =>
    let (s, listened) := s.deliver (.batch batch)
    (s, .delivered listened)
  | .fail reason =>
    let (s, listened) := s.deliver (.failed reason)
    (s, .delivered listened)
  | .finish => ({ (s.deliver .ended).1 with ended := true }, .nothing)
  | .takeDown address message =>
    ({ s with down := replace address (some message) s.down }, .nothing)
  | .bringUp address => ({ s with down := replace address none s.down }, .nothing)
  | .gate address => ({ s with gated := address :: s.gated }, .nothing)
  | .ungate address => ({ s with gated := s.gated.filter fun a => a ≠ address }, .nothing)
  | .resume address forced => s.resume address forced
  | .reuse address c => ({ s with reuse := replace address c s.reuse }, .nothing)
  | .select p _ count =>
    if s.letGo then (s, .outcomes (List.replicate count .dropped))
    else
      let (s, os) := selectInTurn p count s
      (s, .outcomes os)
  | .launch name p _ =>
    if s.letGo then (s, .outcomes [.dropped])
    else
      let others := s.named.filter fun n => n.1 ≠ name
      ({ s with named := others ++ [(name, none)] }.enqueue [.begin name p], .launched)
  | .join name => s.join name
  | .release c =>
    (s.happen (.callersChange fun reserved => reserved.filter fun d => d ≠ c), .nothing)
  | .kill c => (s.happen (.peerCloses c), .nothing)
  | .killAll =>
    ((List.range s.balancer.connections.length).foldl (fun s c => s.happen (.peerCloses c)) s,
      .nothing)
  | .failClose c => (s.happen (.closeWillFail c), .nothing)
  | .listConnections => (s, .connections s.connectionRows)
  | .fire t force =>
    let (s, answer) := s.fireTask t force
    (s, .fire answer)
  | .advance ms =>
    let s := s.settle
    (moveClock (s.timetable.now + ms) ms s, .nothing)
  | .close => s.close
  | .drop => ({ s with letGo := true }.dropIfUnused, .nothing)
  | .look => (s, .nothing)

end Stage

/-! ### What can be seen after an act -/

/-- What the delay of a task shows of its kind. -/
inductive TaskLabel
  | health
  | resubscribe
  /-- The delay lies in both windows. -/
  | both
  | outside

structure TaskRow where
  label : TaskLabel
  started : Bool
  cancelled : Bool

structure Report where
  /-- Absent when the balancer was let go of, as are the hosts. -/
  closed : Option Bool
  hosts : Option (List (HostSummary String))
  subscriptions : Nat
  /-- Connects begun, by address. -/
  attempts : List (String × Nat)
  openConnections : Nat
  tasks : List TaskRow
  metrics : Metrics

namespace Stage

/-- How often each entry of a list occurs, in the order of first
occurrence. -/
def tally : List String → List (String × Nat)
  | xs => xs.eraseDups.map fun x => (x, xs.count x)

def taskLabel (s : Stage) (task : Task) : TaskLabel :=
  let health := s.balancer.setup.health.any fun plan => plan.window.contains task.delay
  let resubscribe := s.balancer.setup.resubscribe.contains task.delay
  match health, resubscribe with
  | true, true => .both
  | true, false => .health
  | false, true => .resubscribe
  | false, false => .outside

def taskRows (s : Stage) : List TaskRow :=
  if s.executor = .unrecorded then []
  else
    s.balancer.tasks.mapIdx fun t task =>
      { label := s.taskLabel task, started := task.started || s.fired.contains t,
        cancelled := task.cancelled }

def report (s : Stage) : Report where
  closed := if s.letGo then none else some s.balancer.isClosed
  hosts := if s.letGo then none else some s.balancer.summaries
  subscriptions := s.balancer.subscriptions.length
  attempts := tally s.balancer.attempts.reverse
  openConnections := s.balancer.openConnections
  tasks := s.taskRows
  metrics := s.balancer.metrics

/-- Performs acts in turn. A held act has no report. -/
def performAll : List (Act × Bool) → Stage → List (Answer × Option Report)
  | [], _ => []
  | (act, isHeld) :: acts, s =>
    let (s, answer) := s.perform act
    if isHeld then (answer, none) :: performAll acts s
    else
      let s := s.settle
      (answer, some s.report) :: performAll acts s

end Stage
end Rehearsal
end HostRotation
