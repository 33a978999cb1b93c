/-
# What a pass over the hosts comes to

What a pass comes to that nothing interrupts can be told beforehand, from the
hosts as they are when it begins (`Stop`) and from what will happen to it
(`Trial`): how the rest of each pool is drawn, and how each connect ends.

A host offers a connection of its pool, or, while it is active, one that a
connect opens, or nothing (`Trial.offer`). The first host with an offer decides
the pass: its offer is the result (`Trial.result`), and no host after it is
visited (`Trial.visited`). `Trial.after` is what a visit makes of a host.

`Trial.Foretold` says all this of a pass that is under way and visits the hosts
that are left. A pass is foretold from its end: a host with an offer decides it
(`foretold_pooled`, `foretold_opened`), and a stop at any other host
(`Trial.Vain`) leaves the rest of it to the hosts that follow (`Foretold.cons`).
-/
import HostRotation.Proofs.Counters
import HostRotation.Proofs.Searches

namespace HostRotation

variable {α σ : Type}

/-- A host at which a pass stops, as it is when the pass begins, and the draw of
a search of its pool. -/
structure Stop (α : Type) where
  id : HostId
  host : Host α (Link α)
  drawn : List Nat

/-- Whether the host of a stop is active. -/
def Stop.isActive (st : Stop α) : Bool := st.host.status = .active

theorem Stop.isUsable_of_isActive {st : Stop α} (ha : st.isActive = true) :
    st.host.isUsable = true := by
  simp only [isActive, decide_eq_true_eq] at ha
  simp [Host.isUsable, ha]

theorem Stop.not_isActive {st : Stop α} (hu : st.host.isUsable = false) : st.isActive = false := by
  refine Bool.eq_false_iff.mpr fun ha => ?_
  rw [isUsable_of_isActive ha] at hu
  exact Bool.noConfusion hu

/-- The count of failed connects of a host after one more. -/
def Stop.failures (st : Stop α) : Nat := min (st.host.failures + 1) maxFailures

/-- What the reconciler is told when only `pool` is left of the pool of a host: an
expired host may have lost its last connection. -/
def Host.drainage (host : Host α (Link α)) (pool : List (Link α)) : List (Command α) :=
  if host.status = .expired ∧ host.pool ≠ [] ∧ pool = [] then [.drained host.address] else []

/-- What a host has to offer to a selection. -/
inductive Offer (α : Type)
  /-- A connection that is pooled. -/
  | pooled (l : Link α)
  /-- A connection that a connect opens. -/
  | opened (l : Link α)

/-- The circumstances of a pass: the balancer that it begins at, which
connections its selector accepts, and how a connect to a host ends. -/
structure Trial (α σ : Type) where
  start : Balancer α σ
  accepts : Link α → Bool
  outcome : HostId → DialOutcome

namespace Trial

section

variable (t : Trial α σ) (st : Stop α) (stops : List (Stop α))

def threshold : Option Nat := t.start.setup.health.map HealthPlan.threshold

/-- The connections of the pool of a host that there are to try, in order. -/
def candidates : List (Link α) :=
  Pool.candidates t.start.setup.linearSpace st.drawn st.host.pool

/-- The first of them that is open and accepted. -/
def found : Option (Link α) :=
  (t.candidates st).find? (Pool.usable t.start.linkClosed t.accepts)

/-- The closed connections that are tried on the way there. -/
def stale : List (Link α) :=
  (upTo (Pool.usable t.start.linkClosed t.accepts) (t.candidates st)).filter t.start.linkClosed

/-- What a connect to a host ends with. -/
def dial : Balancer α σ × Except String (Link α) :=
  t.start.obtain st.host.address (t.outcome st.id)

/-- The offer of a host. Connections of its pool come first, and a connect begins
only to an active host. -/
def offer : Option (Offer α) :=
  if st.host.isUsable then
    match t.found st with
    | some l => some (.pooled l)
    | none => if st.isActive then (t.dial st).2.toOption.map .opened else none
  else none

/-- Whether a connect to a host begins. -/
def dials : Bool := st.isActive && (t.found st).isNone

/-- Whether a connect to a host begins and fails. -/
def fails : Bool := t.dials st && (t.offer st).isNone

/-- Whether a connect to a host fails and makes the host unhealthy. -/
def crosses : Bool := t.fails st && t.threshold.any fun limit => limit ≤ st.failures

/-- Whether a connect to a host begins and succeeds. -/
def opens : Bool := t.dials st && (t.offer st).isSome

/-- The error of a connect to a host, which the outcome refuses. -/
def failure : BalancerError :=
  .connectFailed (t.start.setup.describe st.host.address) <| .foreign <|
    match t.outcome st.id with
    | .refused reason => reason
    | _ => ""

/-- The stops that a pass comes to: none after the first with an offer. -/
def visited : List (Stop α) := upTo (fun st => (t.offer st).isSome) stops

/-- What the selector makes of a connection that was just opened. -/
def verdict (l : Link α) : Except BalancerError (Link α) :=
  if t.accepts l then .ok l
  else .error (.connectionRejected t.start.setup.target .refusedBySelector none)

/-- What a pass over these stops returns. -/
def result : Except BalancerError (Link α) :=
  match stops.findSome? t.offer with
  | some (.pooled l) => .ok l
  | some (.opened l) => t.verdict l
  | none =>
    match (stops.filter Stop.isActive).getLast? with
    | none => .error (.noActiveHost t.start.setup.target stops.length)
    | some st => .error (.connectionRejected t.start.setup.target
        (.noConnection (stops.countP Stop.isActive)) (some (t.failure st)))

/-- What a pass returns that has been elsewhere and has these stops to go. -/
def resultFrom (pass : Pass) : Except BalancerError (Link α) :=
  match stops.findSome? t.offer with
  | some (.pooled l) => .ok l
  | some (.opened l) => t.verdict l
  | none =>
    if pass.attempted + stops.countP Stop.isActive = 0 then
      .error (.noActiveHost t.start.setup.target pass.size)
    else .error (.connectionRejected t.start.setup.target
      (.noConnection (pass.attempted + stops.countP Stop.isActive))
      (((stops.filter Stop.isActive).getLast?.map t.failure).or pass.lastError))

theorem resultFrom_start : t.resultFrom stops { size := stops.length } = t.result stops := by
  unfold resultFrom result
  split
  · rfl
  · rfl
  · rw [List.countP_eq_length_filter]
    cases h : (stops.filter Stop.isActive).getLast? with
    | none => simp [List.getLast?_eq_none_iff.mp h]
    | some st =>
      have hne : (stops.filter Stop.isActive).length ≠ 0 := by
        intro hz
        rw [List.length_eq_zero_iff.mp hz] at h
        simp at h
      simp [hne]

end

section

variable [DecidableEq α] (t : Trial α σ) (st : Stop α)

/-- A host without the closed connections that were tried. -/
def pruned : Host α (Link α) :=
  if st.host.isUsable then { st.host with pool := (t.stale st).foldl List.erase st.host.pool }
  else st.host

@[simp] theorem status_pruned : (t.pruned st).status = st.host.status := by
  unfold pruned
  split <;> rfl

@[simp] theorem check_pruned : (t.pruned st).check = st.host.check := by
  unfold pruned
  split <;> rfl

@[simp] theorem address_pruned : (t.pruned st).address = st.host.address := by
  unfold pruned
  split <;> rfl

theorem pruned_of_unusable (hu : st.host.isUsable = false) : t.pruned st = st.host := by
  simp [pruned, hu]

/-- What a visit makes of a host, but for its slot: a connection that was opened is
pooled, a connect that failed is counted. -/
def after : Host α (Link α) :=
  let host := t.pruned st
  match t.offer st with
  | some (.pooled _) => host
  | some (.opened l) =>
    { host with pool := if l ∈ host.pool then host.pool else host.pool ++ [l], failures := 0 }
  | none =>
    if st.isActive then
      { host with
        failures := st.failures, status := if t.crosses st then .unhealthy else .active }
    else host

/-- What the reconciler is told of the search of a pool. -/
def drains : List (Command α) := st.host.drainage (t.pruned st).pool

end

/-- What becomes of a balancer and of the selection whose pass goes over the stops
that are left: the hosts, the connects begun, what the reconciler is told,
connections and counters, and what the selection returns. -/
structure Foretold [DecidableEq α] (t : Trial α σ) (b : Balancer α σ) (pass : Pass)
    (stops : List (Stop α)) (b' : Balancer α σ) (r : Except BalancerError (Link α)) : Prop where
  result : r = t.resultFrom stops pass
  visited : ∀ st ∈ t.visited stops, ∃ check,
    b'.hosts[st.id]? = some { t.after st with check } ∧
      if t.crosses st then check ≠ none else check = st.host.check
  unvisited : ∀ h : HostId, h ∉ (t.visited stops).map Stop.id → b'.hosts[h]? = b.hosts[h]?
  attempts : b'.attempts =
    (((t.visited stops).filter t.dials).map fun st => st.host.address).reverse ++ b.attempts
  commands : b'.commands = b.commands ++ (t.visited stops).flatMap t.drains
  connections : b'.connections = match (t.visited stops).find? t.opens with
    | some st => (t.dial st).1.connections
    | none => b.connections
  counters : b'.metrics.counters = { b.metrics.counters with
    rejections := b.metrics.rejections + if r.toBool then 0 else 1
    created := b.metrics.created + (t.visited stops).countP t.opens
    connectFailures := b.metrics.connectFailures + (t.visited stops).countP t.fails }
  rest : b' = { b with
    hosts := b'.hosts, attempts := b'.attempts, commands := b'.commands
    connections := b'.connections, metrics := b'.metrics, tasks := b'.tasks
    monitor := b'.monitor, tape := b'.tape, selections := b'.selections }

/-- A stop at a host that has no offer: what becomes of the balancer and of the
pass. -/
structure Vain [DecidableEq α] (t : Trial α σ) (b : Balancer α σ) (pass : Pass) (st : Stop α)
    (b' : Balancer α σ) (pass' : Pass) : Prop where
  offer : t.offer st = none
  visited : ∃ check, b'.hosts[st.id]? = some { t.after st with check } ∧
    if t.crosses st then check ≠ none else check = st.host.check
  unvisited : ∀ h : HostId, h ≠ st.id → b'.hosts[h]? = b.hosts[h]?
  attempts : b'.attempts = (if t.dials st then [st.host.address] else []) ++ b.attempts
  commands : b'.commands = b.commands ++ t.drains st
  counters : b'.metrics.counters = { b.metrics.counters with
    connectFailures := b.metrics.connectFailures + if t.dials st then 1 else 0 }
  rest : b' = { b with
    hosts := b'.hosts, attempts := b'.attempts, commands := b'.commands
    metrics := b'.metrics, tasks := b'.tasks
    monitor := b'.monitor, tape := b'.tape, selections := b'.selections }
  pass : pass' = if st.isActive then
      { pass with attempted := pass.attempted + 1, lastError := some (t.failure st) }
    else pass

section

variable {t : Trial α σ} {b b₁ b' : Balancer α σ} {pass pass₁ : Pass} {st : Stop α}
  {stops : List (Stop α)} {r : Except BalancerError (Link α)}

theorem visited_cons_of_none (h : t.offer st = none) (stops : List (Stop α)) :
    t.visited (st :: stops) = st :: t.visited stops := by
  simp [visited, upTo, h]

theorem visited_cons_of_some {o : Offer α} (h : t.offer st = some o) (stops : List (Stop α)) :
    t.visited (st :: stops) = [st] := by
  simp [visited, upTo, h]

/-- An active host without an offer was connected to. -/
theorem dials_of_none (h : t.offer st = none) : t.dials st = st.isActive := by
  unfold dials
  cases ha : st.isActive with
  | false => rfl
  | true =>
    cases hf : t.found st with
    | none => rfl
    | some l => simp [offer, Stop.isUsable_of_isActive ha, hf] at h

/-- What is pooled was found. -/
theorem found_of_offer {l : Link α} (h : t.offer st = some (.pooled l)) :
    t.found st = some l := by
  unfold offer at h
  cases hf : t.found st with
  | some l' => simp_all
  | none => cases hd : (t.dial st).2 <;> simp_all [Except.toOption]

/-- What a connect opened is at an active host, and nothing was found there. -/
theorem dial_of_offer {l : Link α} (h : t.offer st = some (.opened l)) :
    st.isActive = true ∧ t.found st = none ∧ (t.dial st).2 = .ok l := by
  unfold offer at h
  cases hf : t.found st with
  | some l' => simp_all
  | none => cases hd : (t.dial st).2 <;> simp_all [Except.toOption]

/-- The connect to an active host without an offer was refused. -/
theorem dial_of_none (ha : st.isActive = true) (h : t.offer st = none) : ∃ reason,
    t.dial st = (t.start, .error reason) ∧ t.failure st =
      .connectFailed (t.start.setup.describe st.host.address) (.foreign reason) := by
  have hd : (t.dial st).2.toOption = none := by
    have hfound : t.found st = none := by
      simpa [dials, ha] using dials_of_none h
    simpa [offer, Stop.isUsable_of_isActive ha, hfound, ha] using h
  rcases hr : t.dial st with ⟨b', reason | l⟩
  · obtain ⟨rfl, hrefused⟩ := Balancer.obtain_error hr
    exact ⟨reason, rfl, by simp [failure, hrefused]⟩
  · simp [hr, Except.toOption] at hd

theorem resultFrom_cons (h : t.offer st = none) :
    t.resultFrom (st :: stops) pass = t.resultFrom stops (if st.isActive then
      { pass with attempted := pass.attempted + 1, lastError := some (t.failure st) }
    else pass) := by
  unfold resultFrom
  rw [List.findSome?_cons, h]
  dsimp only
  cases ha : st.isActive with
  | false => simp [ha]
  | true =>
    have hcount : pass.attempted + ((st :: stops).countP Stop.isActive) =
        pass.attempted + 1 + stops.countP Stop.isActive := by
      rw [List.countP_cons_of_pos ha]
      omega
    have hlast : (((st :: stops).filter Stop.isActive).getLast?.map t.failure).or pass.lastError =
        ((stops.filter Stop.isActive).getLast?.map t.failure).or (some (t.failure st)) := by
      rw [List.filter_cons_of_pos ha, List.getLast?_cons]
      cases (stops.filter Stop.isActive).getLast? <;> rfl
    rw [hcount, hlast]
    rfl

variable [DecidableEq α]

/-- A stop in vain, and then the rest of the pass. -/
theorem Foretold.cons (hv : Vain t b pass st b₁ pass₁) (hf : Foretold t b₁ pass₁ stops b' r)
    (hout : st.id ∉ stops.map Stop.id) : Foretold t b pass (st :: stops) b' r := by
  have hvisited := visited_cons_of_none hv.offer stops
  have hopens : t.opens st = false := by simp [opens, hv.offer]
  have hfails : t.fails st = t.dials st := by simp [fails, hv.offer]
  have hmem {h : HostId} (hm : h ∈ (t.visited stops).map Stop.id) : h ∈ stops.map Stop.id :=
    ((upTo_begins _ stops).map Stop.id).subset hm
  refine ⟨?_, ?_, ?_, ?_, ?_, ?_, ?_, ?_⟩
  · rw [hf.result, resultFrom_cons hv.offer, hv.pass]
  · rw [hvisited]
    intro st' hm
    rcases List.mem_cons.mp hm with rfl | hm
    · obtain ⟨check, hhost, hcheck⟩ := hv.visited
      exact ⟨check, (hf.unvisited _ fun hin => hout (hmem hin)).trans hhost, hcheck⟩
    · exact hf.visited st' hm
  · rw [hvisited]
    intro h hn
    rw [List.map_cons, List.mem_cons, not_or] at hn
    exact (hf.unvisited h hn.2).trans (hv.unvisited h hn.1)
  · rw [hf.attempts, hv.attempts, hvisited, List.filter_cons]
    split <;> simp [*]
  · rw [hf.commands, hv.commands, hvisited, List.flatMap_cons, List.append_assoc]
  · have hsame : b₁.connections = b.connections := by rw [hv.rest]
    rw [hf.connections, hvisited, List.find?_cons_of_neg (by simp [hopens]), hsame]
  · obtain ⟨hselections, hrejections, hcreated, hfailures⟩ :
        b₁.metrics.selections = b.metrics.selections ∧
          b₁.metrics.rejections = b.metrics.rejections ∧
          b₁.metrics.created = b.metrics.created ∧ b₁.metrics.connectFailures =
            b.metrics.connectFailures + if t.dials st = true then 1 else 0 := by
      simpa [Metrics.counters] using hv.counters
    rw [hf.counters, hvisited, List.countP_cons, List.countP_cons, hopens, hfails]
    simp only [Metrics.counters, hselections, hrejections, hcreated, hfailures]
    congr 1
    omega
  · have hrest := hf.rest
    rw [hv.rest] at hrest
    exact hrest

end

end Trial

/-! ### Pools that are pruned -/

theorem foldl_erase_nil {β : Type} [BEq β] (xs : List β) : xs.foldl List.erase [] = [] := by
  induction xs with
  | nil => rfl
  | cons x xs ih => rwa [List.foldl_cons, List.erase_nil]

namespace Balancer

section

variable [DecidableEq α] {b : Balancer α σ} {h : HostId} {host : Host α (Link α)}

theorem prune_eq (hh : b.hosts[h]? = some host) (l : Link α) : b.prune h l = { b with
    hosts := b.hosts.set h { host with pool := host.pool.erase l }
    commands := b.commands ++ host.drainage (host.pool.erase l) } := by
  unfold prune Host.drainage
  simp only [hh, Host.remove]
  by_cases hl : l ∈ host.pool
  · have hne : host.pool ≠ [] := List.ne_nil_of_mem hl
    simp only [hl, hne, setHost, List.contains_iff_mem, ↓reduceIte, Bool.and_eq_true,
      decide_eq_true_eq, List.isEmpty_iff, ne_eq, not_false_eq_true, true_and]
    split
    · rfl
    · rw [List.append_nil]
  · have hsame : host.pool.erase l = host.pool := List.erase_of_not_mem hl
    simp [hl, hsame, setHost]

theorem prunes_eq : ∀ (closed : List (Link α)) {b : Balancer α σ} {host : Host α (Link α)},
    b.hosts[h]? = some host → closed.foldl (fun b l => b.prune h l) b = { b with
      hosts := b.hosts.set h { host with pool := closed.foldl List.erase host.pool }
      commands := b.commands ++ host.drainage (closed.foldl List.erase host.pool) }
  | [], b, host, hh => by
    have hset : b.hosts.set h host = b.hosts := set_getElem?_self hh
    simp [Host.drainage, hset]
  | l :: closed, b, host, hh => by
    have hlt : h < b.hosts.length := (List.getElem?_eq_some_iff.mp hh).1
    have hone : (b.prune h l).hosts[h]? = some { host with pool := host.pool.erase l } := by
      simp [prune_eq hh l, hlt]
    -- What was drained before is not drained again.
    have htold : host.drainage (host.pool.erase l) ++
        { host with pool := host.pool.erase l }.drainage
          (closed.foldl List.erase (host.pool.erase l)) =
        host.drainage (closed.foldl List.erase (host.pool.erase l)) := by
      by_cases hempty : host.pool.erase l = []
      · simp [Host.drainage, hempty, foldl_erase_nil]
      · have hne : host.pool ≠ [] := by
          intro heq
          simp [heq] at hempty
        simp only [Host.drainage, hempty, hne, and_false, ↓reduceIte, List.nil_append, ne_eq,
          not_false_eq_true, true_and]
    rw [List.foldl_cons, prunes_eq closed hone, prune_eq hh l]
    simp [← htold]

end

/-- A failed connect changes its host and, when it makes the host unhealthy, the
slot of the host. -/
theorem connectFailed_eq {b : Balancer α σ} {h : HostId} {host : Host α (Link α)}
    (hh : b.hosts[h]? = some host) :
    let failed := host.recordFailure (b.setup.health.map HealthPlan.threshold)
    ∃ check tasks monitor metrics tape, b.connectFailed h = { b with
        hosts := b.hosts.set h { failed.1 with check }, tasks, monitor, metrics, tape } ∧
      if failed.2 then check ≠ none else check = host.check := by
  intro failed
  let counted : Balancer α σ := { b with
    metrics := { b.metrics with connectFailures := b.metrics.connectFailures + 1 } }
  have hone : b.connectFailed h = if failed.2 then
      ((counted.setHost h failed.1).scheduleAttempt h).observeTable
      else counted.setHost h failed.1 := by
    unfold connectFailed
    simp only [hh]
    rfl
  cases hf : failed.2 with
  | false =>
    have hcheck : failed.1.check = host.check := Host.check_recordFailure _ _
    rw [hone, hf, if_neg Bool.false_ne_true]
    exact ⟨host.check, _, _, _, _, by rw [← hcheck]; rfl, by simp⟩
  | true =>
    obtain ⟨plan, hs⟩ := exists_plan hf
    have hu : failed.1.status = .unhealthy := by rw [Host.status_recordFailure, if_pos hf]
    have hattempt := scheduleAttempt_setHost (b := counted) hh hs _ hu
    obtain ⟨tasks, monitor, metrics, tape, heq, -⟩ :=
      ((counted.setHost h failed.1).scheduleAttempt h).observeTable_footprint
    rw [hattempt] at heq
    rw [hone, hf, if_pos rfl, hattempt]
    exact ⟨_, tasks, monitor, metrics, tape, heq, by simp⟩

/-- How a connect ends depends on the connections that exist alone. -/
theorem obtain_eq {b b' : Balancer α σ} (hc : b.connections = b'.connections) (a : α)
    (outcome : DialOutcome) : b.obtain a outcome =
      ({ b with connections := (b'.obtain a outcome).1.connections }, (b'.obtain a outcome).2) := by
  cases outcome with
  | refused reason => simp [obtain, ← hc]
  | opened => simp [obtain, openLink, ← hc]
  | reopened c =>
    simp only [obtain, ← hc]
    cases b.connections[c]? <;> simp [openLink, ← hc]

end Balancer

open Balancer

namespace Trial

/-! ### A single stop -/

/-- The circumstances are still those in which the pass began. -/
structure Holds (t : Trial α σ) (b : Balancer α σ) : Prop where
  setup : b.setup = t.start.setup
  connections : b.connections = t.start.connections

/-- A stop is at a host as it is now, with a draw that its pool allows. -/
structure IsAt (t : Trial α σ) (b : Balancer α σ) (st : Stop α) : Prop where
  host : b.hosts[st.id]? = some st.host
  draw : Pool.IsDraw (Pool.rest t.start.setup.linearSpace st.host.pool.length)
    (Pool.probeBudget (Pool.rest t.start.setup.linearSpace st.host.pool.length)) st.drawn

section

variable {t : Trial α σ} {b b' : Balancer α σ} {h : HostId} {host : Host α (Link α)}
  {s : Selection α σ} {pass : Pass} {rest : List HostId}

theorem Holds.linkClosed (ht : t.Holds b) : b.linkClosed = t.start.linkClosed := by
  funext l
  rw [Balancer.linkClosed, Balancer.linkClosed, ht.connections]

theorem Holds.dial (ht : t.Holds b) (st : Stop α) : b.obtain st.host.address (t.outcome st.id) =
    ({ b with connections := (t.dial st).1.connections }, (t.dial st).2) :=
  obtain_eq ht.connections _ _

/-- There is a draw for every host. -/
theorem isAt_sample (t : Trial α σ) (hh : b.hosts[h]? = some host) :
    let rest := Pool.rest t.start.setup.linearSpace host.pool.length
    t.IsAt b ⟨h, host, (b.tape.sample rest (Pool.probeBudget rest)).1⟩ :=
  ⟨hh, Pool.isDraw_sample b.tape _⟩

variable [DecidableEq α]

/-- A balancer after the search of the pool of a host. -/
def searched (t : Trial α σ) (b : Balancer α σ) (st : Stop α) (tape : Tape) : Balancer α σ :=
  { b with
    hosts := b.hosts.set st.id (t.pruned st), commands := b.commands ++ t.drains st, tape }

/-- A search of the pool of a host comes to what was to be expected. -/
theorem searchHost_eq (ht : t.Holds b) (hh : b.hosts[h]? = some host)
    (hu : host.isUsable = true) : ∃ drawn tape f, t.IsAt b ⟨h, host, drawn⟩ ∧
      b.searchHost (.pure t.accepts) h host.pool = (t.searched b ⟨h, host, drawn⟩ tape, f) ∧
      f.found = t.found ⟨h, host, drawn⟩ := by
  let n := Pool.rest t.start.setup.linearSpace host.pool.length
  let drawing := b.tape.sample n (Pool.probeBudget n)
  let st : Stop α := ⟨h, host, drawing.1⟩
  let f := Pool.scan t.start.linkClosed (.pure t.accepts) (t.candidates st) b.callers
  have hspace : b.setup.linearSpace = t.start.setup.linearSpace := by rw [ht.setup]
  have hsearch : b.searchHost (.pure t.accepts) h host.pool = (f.closed.foldl
      (fun b l => b.prune h l) { b with tape := drawing.2, callers := f.callers }, f) := by
    simp only [searchHost, hspace, ht.linkClosed, ← Pool.rest_eq]
    rfl
  have hcallers : f.callers = b.callers := Pool.callers_scan_pure ..
  obtain ⟨hfound, hclosed⟩ :=
    Pool.scan_pure t.start.linkClosed t.accepts (t.candidates st) b.callers
  refine ⟨drawing.1, drawing.2, f, isAt_sample t hh, ?_, hfound⟩
  rw [hsearch, hcallers, show f.closed = t.stale st from hclosed,
    prunes_eq (b := { b with tape := drawing.2 }) (t.stale st) hh]
  simp [searched, drains, pruned, hu, st]

end

section

variable [DecidableEq α] {t : Trial α σ} {b : Balancer α σ} {st : Stop α}

theorem getElem?_searched (hh : b.hosts[st.id]? = some st.host) (tape : Tape) :
    (t.searched b st tape).hosts[st.id]? = some (t.pruned st) := by
  simp [searched, (List.getElem?_eq_some_iff.mp hh).1]

theorem getElem?_searched_ne {h : HostId} (hn : h ≠ st.id) (tape : Tape) :
    (t.searched b st tape).hosts[h]? = b.hosts[h]? :=
  List.getElem?_set_ne (Ne.symm hn)

theorem searched_of_unusable (hh : b.hosts[st.id]? = some st.host)
    (hu : st.host.isUsable = false) : t.searched b st b.tape = b := by
  have hset : b.hosts.set st.id st.host = b.hosts := set_getElem?_self hh
  have hdrains : t.drains st = [] := by
    rw [drains, t.pruned_of_unusable st hu, Host.drainage, if_neg]
    rintro ⟨-, hne, heq⟩
    exact hne heq
  simp [searched, t.pruned_of_unusable st hu, hset, hdrains]

/-- A pass goes past a host that is not active and has no offer. -/
theorem vain_of_inactive (hh : b.hosts[st.id]? = some st.host) (ha : st.isActive = false)
    (ho : t.offer st = none) (tape : Tape) (pass : Pass) :
    Vain t b pass st (t.searched b st tape) pass := by
  have hdials : t.dials st = false := by simp [dials, ha]
  refine ⟨ho, ⟨st.host.check, ?_, ?_⟩, fun h hn => getElem?_searched_ne hn _, ?_, rfl, ?_, rfl, ?_⟩
  · have hafter : t.after st = t.pruned st := by simp [after, ho, ha]
    rw [getElem?_searched hh tape, hafter, ← t.check_pruned]
  · simp [crosses, fails, hdials]
  · simp [hdials, searched]
  · simp [hdials, searched, Metrics.counters]
  · simp [ha]

/-- A balancer while a selection is connecting to the host of a stop. -/
def waiting (t : Trial α σ) (b : Balancer α σ) (st : Stop α) (tape : Tape)
    (selections : List (Selection α σ)) : Balancer α σ :=
  { t.searched b st tape with attempts := st.host.address :: b.attempts, selections }

/-- A connect to an active host is refused. -/
theorem vain_of_active (ht : t.Holds b) (hh : b.hosts[st.id]? = some st.host)
    (ha : st.isActive = true) (ho : t.offer st = none) (tape : Tape)
    (selections : List (Selection α σ)) (pass : Pass) :
    Vain t b pass st ((t.waiting b st tape selections).connectFailed st.id)
      { pass with attempted := pass.attempted + 1, lastError := some (t.failure st) } := by
  let waiting := t.waiting b st tape selections
  have hhost : waiting.hosts[st.id]? = some (t.pruned st) := getElem?_searched hh tape
  have hlt : st.id < waiting.hosts.length := (List.getElem?_eq_some_iff.mp hhost).1
  have hcounters := waiting.counters_connectFailed st.id
  have hthreshold : waiting.setup.health.map HealthPlan.threshold = t.threshold := by
    rw [threshold, ← ht.setup]
    rfl
  have hactive : (t.pruned st).status = .active := by simpa [Stop.isActive] using ha
  have hfailures : (t.pruned st).failures = st.host.failures := by
    unfold pruned
    split <;> rfl
  have hdials : t.dials st = true := by rw [dials_of_none ho, ha]
  have hfails : t.fails st = true := by simp [fails, hdials, ho]
  have hrecord : (t.pruned st).recordFailure (waiting.setup.health.map HealthPlan.threshold) =
      (t.after st, t.crosses st) := by
    rw [hthreshold, Host.recordFailure_of_active _ _ hactive]
    simp [after, ho, ha, crosses, hfails, hfailures, Stop.failures]
  obtain ⟨check, tasks, monitor, metrics, tape', heq, hcheck⟩ := connectFailed_eq hhost
  rw [hrecord, check_pruned] at hcheck
  change Vain t b pass st (waiting.connectFailed st.id) _
  rw [heq, hrecord] at hcounters ⊢
  refine ⟨ho, ⟨check, List.getElem?_set_self hlt, hcheck⟩, fun h hn => ?_, ?_, rfl, ?_, rfl, ?_⟩
  · exact (List.getElem?_set_ne (Ne.symm hn)).trans (getElem?_searched_ne hn tape)
  · simp only [hdials, ↓reduceIte]
    rfl
  · simp only [hdials, ↓reduceIte]
    exact hcounters
  · simp [ha]

/-- A connection that is pooled decides a pass. -/
theorem foretold_pooled {l : Link α} (hh : b.hosts[st.id]? = some st.host)
    (ho : t.offer st = some (.pooled l)) (pass : Pass) (stops : List (Stop α)) (tape : Tape)
    (selections : List (Selection α σ)) :
    Foretold t b pass (st :: stops) { t.searched b st tape with selections } (.ok l) := by
  have hvisited := visited_cons_of_some ho stops
  have hdials : t.dials st = false := by simp [dials, found_of_offer ho]
  have hopens : t.opens st = false := by simp [opens, hdials]
  have hfails : t.fails st = false := by simp [fails, hdials]
  refine ⟨?_, ?_, ?_, ?_, ?_, ?_, ?_, rfl⟩
  · simp [resultFrom, ho]
  · rw [hvisited, List.forall_mem_singleton]
    refine ⟨st.host.check, ?_, by simp [crosses, hfails]⟩
    rw [← t.check_pruned, after, ho]
    exact getElem?_searched hh tape
  · rw [hvisited]
    intro h hn
    exact getElem?_searched_ne (by simpa using hn) tape
  · simp [hvisited, hdials, searched]
  · simp [hvisited, searched]
  · simp [hvisited, hopens, searched]
  · simp [hvisited, hopens, hfails, searched, Metrics.counters, Except.toBool]

/-- A connection that a connect opens decides a pass. -/
theorem foretold_opened {l : Link α} (hh : b.hosts[st.id]? = some st.host)
    (ho : t.offer st = some (.opened l)) (pass : Pass) (stops : List (Stop α)) (tape : Tape)
    (selections : List (Selection α σ)) :
    Foretold t b pass (st :: stops) { t.searched b st tape with
      hosts := (t.searched b st tape).hosts.set st.id ((t.pruned st).add l).1
      attempts := st.host.address :: b.attempts
      connections := (t.dial st).1.connections
      metrics := { b.metrics with
        created := b.metrics.created + 1
        rejections := b.metrics.rejections + if (t.verdict l).toBool then 0 else 1 }
      selections } (t.verdict l) := by
  obtain ⟨ha, hfound, -⟩ := dial_of_offer ho
  have hvisited := visited_cons_of_some ho stops
  have hdials : t.dials st = true := by simp [dials, ha, hfound]
  have hopens : t.opens st = true := by simp [opens, hdials, ho]
  have hfails : t.fails st = false := by simp [fails, ho]
  have hactive : (t.pruned st).status = .active := by simpa [Stop.isActive] using ha
  have hafter : { t.after st with check := st.host.check } = ((t.pruned st).add l).1 := by
    rw [← t.check_pruned, Host.add_of_active hactive]
    simp [after, ho]
  have hlt : st.id < (t.searched b st tape).hosts.length :=
    (List.getElem?_eq_some_iff.mp (getElem?_searched hh tape)).1
  refine ⟨?_, ?_, ?_, ?_, ?_, ?_, ?_, rfl⟩
  · simp only [resultFrom, List.findSome?_cons, ho]
  · rw [hvisited, List.forall_mem_singleton]
    refine ⟨st.host.check, ?_, by simp [crosses, hfails]⟩
    rw [hafter]
    exact List.getElem?_set_self hlt
  · rw [hvisited]
    intro h hn
    have hne : h ≠ st.id := by simpa using hn
    exact (List.getElem?_set_ne (Ne.symm hne)).trans (getElem?_searched_ne hne tape)
  · simp [hvisited, hdials]
  · simp [hvisited, searched]
  · simp [hvisited, hopens]
  · simp [hvisited, hopens, hfails, Metrics.counters]

end

end Trial
end HostRotation
