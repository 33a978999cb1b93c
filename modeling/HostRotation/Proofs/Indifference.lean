/-
# What closes that fail make no difference to

Closing a connection may report a failure. The balancer counts the failures of
the call that closes it, for the report of this call, and otherwise never looks
at them. So all that happens is the same whichever closes fail. To say this, the
failures are taken out of a state (`Balancer.unfailing`): no connection fails to
close, and a call that closes the balancer has counted none. Every operation
commutes with this, so a step does (`unfailing_step`); and a run does, in which
the events that make closes fail do nothing (`unfailing_run`).

The other way round, any connections may be those that fail: the states in which
they do (`Balancer.failing`) are reached as well (`exists_run_failing`).
-/
import HostRotation.Proofs.Accounts
import HostRotation.Proofs.History
import Mathlib.Data.List.Induction

namespace HostRotation

variable {α σ : Type}

/-- The connection, when closing it does not fail. -/
def Connection.unfailing (k : Connection α) : Connection α := { k with failsToClose := false }

/-- No close failed so far. -/
def Lifecycle.unfailing : Lifecycle → Lifecycle
  | closing _ total => closing 0 total
  | closed _ total => closed 0 total
  | running => running
  | dropped => dropped

/-- Closing a connection will report a failure. -/
def Event.fails : Event α σ → Bool
  | .closeWillFail _ => true
  | _ => false

namespace Balancer

/-- The balancer, when no close fails or failed. -/
def unfailing (b : Balancer α σ) : Balancer α σ :=
  { b with
    lifecycle := b.lifecycle.unfailing
    connections := b.connections.map Connection.unfailing }

/-- The balancer, when just these connections fail to close. -/
def failing (b : Balancer α σ) (fails : ConnId → Bool) : Balancer α σ :=
  { b with connections := b.connections.mapIdx fun c k => { k with failsToClose := fails c } }

variable (b : Balancer α σ)

/-- Connections that differ in nothing but which of them fail to close. -/
theorem unfailing_connections {connections : List (Connection α)}
    (hc : connections.map Connection.unfailing = b.connections.map Connection.unfailing) :
    { b with connections }.unfailing = b.unfailing := by
  rw [unfailing, hc]
  rfl

theorem unfailing_failing (fails : ConnId → Bool) : (b.failing fails).unfailing = b.unfailing := by
  refine b.unfailing_connections (List.ext_getElem? fun c => ?_)
  simp only [List.getElem?_map, List.getElem?_mapIdx, Option.map_map]
  rfl

/-! ### What is read of a balancer -/

@[simp] theorem setup_unfailing : b.unfailing.setup = b.setup := rfl

@[simp] theorem hosts_unfailing : b.unfailing.hosts = b.hosts := rfl

@[simp] theorem table_unfailing : b.unfailing.table = b.table := rfl

@[simp] theorem tasks_unfailing : b.unfailing.tasks = b.tasks := rfl

@[simp] theorem selections_unfailing : b.unfailing.selections = b.selections := rfl

@[simp] theorem closings_unfailing : b.unfailing.closings = b.closings := rfl

@[simp] theorem monitor_unfailing : b.unfailing.monitor = b.monitor := rfl

@[simp] theorem metrics_unfailing : b.unfailing.metrics = b.metrics := rfl

@[simp] theorem isClosed_unfailing : b.unfailing.isClosed = b.isClosed := by
  unfold isClosed unfailing
  cases b.lifecycle <;> rfl

@[simp] theorem linkClosed_unfailing : b.unfailing.linkClosed = b.linkClosed := by
  funext l
  simp only [linkClosed, unfailing, List.getElem?_map, Option.any_map]
  rfl

/-! ### Tasks and slots -/

theorem unfailing_cancelIfAny (t : Option TaskId) :
    (b.cancelIfAny t).unfailing = b.unfailing.cancelIfAny t := by
  cases t <;> rfl

theorem unfailing_cancelCheck (h : HostId) :
    (b.cancelCheck h).unfailing = b.unfailing.cancelCheck h := by
  simp only [cancelCheck, hosts_unfailing]
  split
  · exact unfailing_cancelIfAny _ _
  · rfl

theorem unfailing_clearCheck (h : HostId) :
    (b.clearCheck h).unfailing = b.unfailing.clearCheck h := by
  simp only [clearCheck, hosts_unfailing]
  split <;> rfl

theorem unfailing_installCheck (h : HostId) (t : TaskId) :
    (b.installCheck h t).unfailing = b.unfailing.installCheck h t := by
  simp only [installCheck, hosts_unfailing]
  split
  · split
    · exact unfailing_cancelIfAny _ _
    · rfl
  · rfl

theorem unfailing_scheduleAttempt (h : HostId) :
    (b.scheduleAttempt h).unfailing = b.unfailing.scheduleAttempt h := by
  simp only [scheduleAttempt, setup_unfailing]
  split
  · exact unfailing_installCheck _ _ _
  · rfl

theorem unfailing_scheduleResubscribe :
    b.scheduleResubscribe.unfailing = b.unfailing.scheduleResubscribe :=
  apply_ite unfailing _ _ _

theorem unfailing_observeTable : b.observeTable.unfailing = b.unfailing.observeTable := by
  have hrecord : b.unfailing.recordHosts = b.recordHosts.unfailing := rfl
  have hstarved : b.recordHosts.unfailing.isStarved = b.recordHosts.isStarved := rfl
  simp only [observeTable, hrecord, hstarved, setup_unfailing, isClosed_unfailing]
  rw [apply_ite unfailing, unfailing_scheduleResubscribe]

/-! ### Connections -/

/-- Connections change in a way that leaves alone which of them fail to close. -/
theorem unfailing_modifyConnection {f : Connection α → Connection α}
    (hf : ∀ k, (f k).unfailing = f k.unfailing) (c : ConnId) :
    (b.modifyConnection c f).unfailing = b.unfailing.modifyConnection c f := by
  have hsame : (b.connections.modify c f).map Connection.unfailing =
      (b.connections.map Connection.unfailing).modify c f := by
    refine List.ext_getElem? fun c' => ?_
    simp only [List.getElem?_map, List.getElem?_modify]
    cases b.connections[c']? with
    | none => rfl
    | some k =>
      by_cases hc : c = c'
      · simp [hc, hf]
      · simp [hc]
  simp only [modifyConnection, unfailing, hsame]

theorem unfailing_closeLink (l : Link α) :
    (b.closeLink l).1.unfailing = (b.unfailing.closeLink l).1 :=
  b.unfailing_modifyConnection
    (f := fun k => { k with closed := true, closeCalls := k.closeCalls + 1 }) (fun _ => rfl) l.id

theorem unfailing_closeLinks : ∀ (ls : List (Link α)) (b : Balancer α σ),
    (b.closeLinks ls).1.unfailing = (b.unfailing.closeLinks ls).1
  | [], _ => rfl
  | l :: ls, b => by
    have ih := unfailing_closeLinks ls (b.closeLink l).1
    rwa [unfailing_closeLink] at ih

/-- When no close fails, none is counted. -/
theorem closeLinks_unfailing : ∀ (ls : List (Link α)) (b : Balancer α σ),
    (b.unfailing.closeLinks ls).2 = 0
  | [], _ => rfl
  | l :: ls, b => by
    have ih := closeLinks_unfailing ls (b.closeLink l).1
    have hone : (b.unfailing.closeLink l).2 = false := by
      simp only [closeLink, unfailing, List.getElem?_map, Option.any_map]
      cases b.connections[l.id]? <;> rfl
    rw [unfailing_closeLink] at ih
    simp only [closeLinks, ih, hone]
    rfl

theorem unfailing_openLink (a : α) :
    (b.openLink a).map unfailing id = b.unfailing.openLink a := by
  simp only [openLink, unfailing, Prod.map_apply, List.map_append, List.length_map]
  rfl

theorem unfailing_obtain (a : α) (outcome : DialOutcome) :
    (b.obtain a outcome).map unfailing id = b.unfailing.obtain a outcome := by
  have hopen : ((b.openLink a).1.unfailing, (.ok (b.openLink a).2 : Except String (Link α))) =
      ((b.unfailing.openLink a).1, .ok (b.unfailing.openLink a).2) := by
    rw [← unfailing_openLink]
    rfl
  cases outcome with
  | refused => rfl
  | opened => exact hopen
  | reopened c =>
    have hget : b.unfailing.connections[c]? = (b.connections[c]?).map Connection.unfailing :=
      List.getElem?_map
    simp only [obtain, hget]
    cases b.connections[c]? with
    | none => exact hopen
    | some k => rfl

/-! ### Selections -/

section

variable (s : Selection α σ)

theorem unfailing_endPass (pass : Pass) :
    (b.endPass s pass).map unfailing id = b.unfailing.endPass s pass := by
  simp only [endPass, ← unfailing_observeTable]
  exact apply_ite (Prod.map unfailing id) _ _ _

theorem unfailing_connectFailed (h : HostId) :
    (b.connectFailed h).unfailing = b.unfailing.connectFailed h := by
  cases hh : b.hosts[h]? with
  | none =>
    simp only [connectFailed, hosts_unfailing, hh]
    rfl
  | some host =>
    simp only [connectFailed, hosts_unfailing, hh]
    rw [apply_ite unfailing, unfailing_observeTable, unfailing_scheduleAttempt]
    rfl

theorem unfailing_offer (l : Link α) :
    (b.offer s l).map unfailing id = b.unfailing.offer s l :=
  apply_ite (Prod.map unfailing id) _ _ _

variable [DecidableEq α]

theorem unfailing_prune (h : HostId) (l : Link α) :
    (b.prune h l).unfailing = b.unfailing.prune h l := by
  simp only [prune, hosts_unfailing]
  cases b.hosts[h]? with
  | none => rfl
  | some host => exact apply_ite unfailing _ _ _

theorem unfailing_prunes (h : HostId) : ∀ (ls : List (Link α)) (b : Balancer α σ),
    (ls.foldl (fun b l => b.prune h l) b).unfailing =
      ls.foldl (fun b l => b.prune h l) b.unfailing
  | [], _ => rfl
  | l :: ls, b => by
    have ih := unfailing_prunes h ls (b.prune h l)
    rwa [unfailing_prune] at ih

theorem unfailing_searchHost (accepts : Selector (Link α) σ) (h : HostId) (pool : List (Link α)) :
    (b.searchHost accepts h pool).map unfailing id = b.unfailing.searchHost accepts h pool := by
  simp only [searchHost, linkClosed_unfailing, Prod.map_apply, unfailing_prunes]
  rfl

theorem unfailing_walk (pass : Pass) : ∀ (rest : List HostId) (b : Balancer α σ)
    (s : Selection α σ), (b.walk s pass rest).map unfailing id = b.unfailing.walk s pass rest
  | [], b, s => b.unfailing_endPass s pass
  | h :: rest, b, s => by
    have ih := unfailing_walk pass rest
    cases hh : b.hosts[h]? with
    | none =>
      simp only [walk, hosts_unfailing, hh]
      exact ih b s
    | some host =>
      obtain ⟨⟨b', f⟩, hs⟩ : ∃ r, b.searchHost s.accepts h host.pool = r := ⟨_, rfl⟩
      have hs' := (b.unfailing_searchHost s.accepts h host.pool).symm
      rw [hs] at hs'
      simp only [walk, hosts_unfailing, hh, hs, hs', Prod.map_apply, id_eq]
      split
      · split
        · rfl
        · split
          · rfl
          · exact ih _ _
      · exact ih b s

theorem unfailing_beginPass :
    (b.beginPass s).map unfailing id = b.unfailing.beginPass s := by
  have hstart : b.unfailing.rotation.start? b.unfailing.table.length =
      b.rotation.start? b.table.length := rfl
  simp only [beginPass, hstart]
  cases b.rotation.start? b.table.length with
  | none => rfl
  | some start => exact unfailing_walk _ _ _ _

theorem unfailing_select (accepts : Selector (Link α) σ) :
    (b.select accepts).unfailing = b.unfailing.select accepts := by
  have hpass := unfailing_beginPass
    { b with metrics := { b.metrics with selections := b.metrics.selections + 1 } } { accepts }
  simp only [select, isClosed_unfailing]
  rw [apply_ite unfailing]
  refine if_congr Iff.rfl rfl ?_
  exact congrArg (fun r => { r.1 with selections := r.1.selections ++ [r.2] }) hpass

theorem unfailing_poolAndOffer (h : HostId) (l : Link α) :
    (b.poolAndOffer s h l).map unfailing id = b.unfailing.poolAndOffer s h l := by
  simp only [poolAndOffer, hosts_unfailing]
  split
  · rfl
  · split
    · rw [← unfailing_closeLink]
      rfl
    · rename_i host _
      have hcancel := unfailing_cancelCheck (b.setHost h host) h
      rw [unfailing_offer]
      exact congrArg (fun b => b.recordHosts.offer s l) hcancel
    · exact unfailing_offer _ _ _

theorem unfailing_dialled (i : SelectionId) (outcome : DialOutcome) :
    (b.dialled i outcome).unfailing = b.unfailing.dialled i outcome := by
  cases hi : b.selections[i]? with
  | none => simp only [dialled, selections_unfailing, hi]
  | some s =>
    cases hp : s.phase with
    | walking | discarding | done => simp only [dialled, selections_unfailing, hi, hp]
    | connecting h pass rest =>
      cases hh : b.hosts[h]? with
      | none => simp only [dialled, selections_unfailing, hosts_unfailing, hi, hp, hh]
      | some host =>
        obtain ⟨⟨b', x⟩, ho⟩ : ∃ r, b.obtain host.address outcome = r := ⟨_, rfl⟩
        have ho' := (b.unfailing_obtain host.address outcome).symm
        rw [ho] at ho'
        simp only [dialled, selections_unfailing, hosts_unfailing, hi, hp, hh, ho, ho',
          Prod.map_apply, id_eq]
        cases x with
        | ok l =>
          exact congrArg (fun r => { r.1 with selections := r.1.selections.set i r.2 })
            (b'.unfailing_poolAndOffer s h l)
        | error reason =>
          dsimp only
          rw [← unfailing_connectFailed, ← unfailing_walk]
          rfl

end

theorem unfailing_discarded (i : SelectionId) :
    (b.discarded i).unfailing = b.unfailing.discarded i := by
  simp only [discarded, selections_unfailing]
  split
  · rfl
  · split <;> rfl

/-! ### Health attempts -/

theorem unfailing_startTask (t : TaskId) : (b.startTask t).unfailing = b.unfailing.startTask t := by
  simp only [startTask, tasks_unfailing, hosts_unfailing]
  split
  · rfl
  · split
    · rfl
    · split
      · rfl
      · split
        · rfl
        · split <;> rfl

section

variable [DecidableEq α]

theorem unfailing_probeSucceeded (t : TaskId) (h : HostId) (host : Host α (Link α)) (l : Link α) :
    (b.probeSucceeded t h host l).unfailing = b.unfailing.probeSucceeded t h host l := by
  have hclear (host : Host α (Link α)) : (b.unfailing.setHost h host).clearCheck h =
      ((b.setHost h host).clearCheck h).unfailing :=
    (unfailing_clearCheck (b.setHost h host) h).symm
  simp only [probeSucceeded, hclear, ← unfailing_closeLink]
  split <;> rfl

theorem unfailing_probed (t : TaskId) (outcome : DialOutcome) :
    (b.probed t outcome).unfailing = b.unfailing.probed t outcome := by
  simp only [probed, tasks_unfailing, hosts_unfailing]
  split
  · rfl
  · split
    · split
      · rfl
      · rename_i h _ _ _ host _
        obtain ⟨⟨b', x⟩, ho⟩ : ∃ r, b.obtain host.address outcome = r := ⟨_, rfl⟩
        have ho' := (b.unfailing_obtain host.address outcome).symm
        rw [ho] at ho'
        rw [ho, ho', Prod.map_apply]
        cases x with
        | ok l => exact b'.unfailing_probeSucceeded t h host l
        | error reason => exact unfailing_scheduleAttempt _ _
    · rfl

end

/-! ### The table -/

theorem unfailing_closeHost (h : HostId) :
    (b.closeHost h).map unfailing id = b.unfailing.closeHost h := by
  simp only [closeHost, hosts_unfailing]
  split
  · rfl
  · rename_i host _
    exact congrArg (·, host.close.2) (unfailing_cancelCheck (b.setHost h host.close.1) h)

theorem unfailing_closeHosts : ∀ (hs : List HostId) (b : Balancer α σ),
    (b.closeHosts hs).map unfailing id = b.unfailing.closeHosts hs
  | [], _ => rfl
  | h :: hs, b => by
    simp only [closeHosts, ← unfailing_closeHost, Prod.map_fst, ← unfailing_closeHosts hs]
    rfl

theorem unfailing_closeLater (links : List (Link α)) :
    (b.closeLater links).unfailing = b.unfailing.closeLater links :=
  apply_ite unfailing _ _ _

theorem unfailing_closeRemoved (h : HostId) :
    (b.closeRemoved h).unfailing = b.unfailing.closeRemoved h := by
  simp only [closeRemoved, ← unfailing_closeHost, unfailing_closeLater]
  rfl

theorem unfailing_closeRemoveds : ∀ (hs : List HostId) (b : Balancer α σ),
    (hs.foldl closeRemoved b).unfailing = hs.foldl closeRemoved b.unfailing
  | [], _ => rfl
  | h :: hs, b => by
    have ih := unfailing_closeRemoveds hs (b.closeRemoved h)
    rwa [unfailing_closeRemoved] at ih

theorem unfailing_runClosing (k : Nat) :
    (b.runClosing k).unfailing = b.unfailing.runClosing k := by
  simp only [runClosing, closings_unfailing]
  split
  · rfl
  · split
    · rfl
    · exact unfailing_closeLinks _ _

theorem unfailing_activateHost (h : HostId) :
    (b.activateHost h).unfailing = b.unfailing.activateHost h := by
  simp only [activateHost, hosts_unfailing]
  split
  · rfl
  · split
    · exact unfailing_cancelCheck _ _
    · rfl

theorem unfailing_expireHost (h : HostId) :
    (b.expireHost h).map unfailing id = b.unfailing.expireHost h := by
  simp only [expireHost, hosts_unfailing]
  split
  · rfl
  · rename_i host _
    exact congrArg (·, host.expire.isDrained) (unfailing_cancelCheck (b.setHost h host.expire) h)

section

variable [DecidableEq α]

theorem unfailing_applyEvent (s : Balancer α σ × List HostId) (e : HostEvent α) :
    (applyEvent s e).map unfailing id = applyEvent (s.map unfailing id) e := by
  obtain ⟨b, removed⟩ := s
  have hlookup : b.unfailing.lookup e.address = b.lookup e.address := rfl
  simp only [applyEvent, Prod.map_apply, hlookup, ← unfailing_expireHost, id_eq]
  split
  · rfl
  · rw [← unfailing_activateHost]
    rfl
  · exact apply_ite (Prod.map unfailing id) _ _ _
  · rfl
  · rfl
  · rfl

theorem unfailing_applyEvents : ∀ (events : Batch α) (s : Balancer α σ × List HostId),
    (events.foldl applyEvent s).map unfailing id = events.foldl applyEvent (s.map unfailing id)
  | [], _ => rfl
  | e :: events, s => by
    have ih := unfailing_applyEvents events (applyEvent s e)
    rwa [unfailing_applyEvent] at ih

theorem unfailing_applyBatch (batch : Batch α) :
    (b.applyBatch batch).unfailing = b.unfailing.applyBatch batch := by
  have hevents := unfailing_applyEvents (lastEvents batch) (b, [])
  simp only [applyBatch, isClosed_unfailing]
  rw [apply_ite unfailing, unfailing_observeTable, unfailing_closeRemoveds]
  refine if_congr Iff.rfl rfl ?_
  exact congrArg (fun s => (s.2.foldl closeRemoved s.1).observeTable) hevents

theorem unfailing_removeDrained (a : α) :
    (b.removeDrained a).unfailing = b.unfailing.removeDrained a := by
  simp only [removeDrained, isClosed_unfailing, hosts_unfailing, table_unfailing]
  rw [apply_ite unfailing]
  refine if_congr Iff.rfl rfl ?_
  split
  · rfl
  · rw [unfailing_observeTable, unfailing_closeRemoved]
    rfl

end

/-! ### The reconciler -/

theorem unfailing_loseSubscription :
    b.loseSubscription.unfailing = b.unfailing.loseSubscription :=
  unfailing_scheduleResubscribe _

theorem unfailing_takeNotice [DecidableEq α] :
    b.takeNotice.unfailing = b.unfailing.takeNotice := by
  have hnext : b.unfailing.nextNotice? = b.nextNotice? := rfl
  simp only [takeNotice, hnext]
  split
  · rfl
  · split
    · exact unfailing_applyBatch _ _
    · exact unfailing_loseSubscription _
    · exact unfailing_loseSubscription _

theorem unfailing_takeCommand [DecidableEq α] :
    b.takeCommand.unfailing = b.unfailing.takeCommand := by
  have hnext : b.unfailing.nextCommand? = b.nextCommand? := rfl
  simp only [takeCommand, hnext]
  split
  · rfl
  · split
    · rfl
    · exact unfailing_removeDrained _ _

/-! ### The end -/

theorem unfailing_clearAll : (b.stopBackground.clearTable).map unfailing id =
    b.unfailing.stopBackground.clearTable := by
  have hstop : b.stopBackground.unfailing = b.unfailing.stopBackground :=
    unfailing_cancelIfAny _ _
  rw [← hstop]
  exact unfailing_closeHosts _ _

theorem unfailing_close : b.close.unfailing = b.unfailing.close := by
  obtain ⟨⟨b', links⟩, hc⟩ : ∃ r, b.stopBackground.clearTable = r := ⟨_, rfl⟩
  have hc' := b.unfailing_clearAll.symm
  rw [hc] at hc'
  simp only [close, isClosed_unfailing, hc, hc', Prod.map_apply, id_eq, closeLinks_unfailing,
    ← unfailing_closeLinks]
  rw [apply_ite unfailing]
  rfl

theorem unfailing_closeSettled : b.closeSettled.unfailing = b.unfailing.closeSettled := by
  have hl : b.unfailing.lifecycle = b.lifecycle.unfailing := rfl
  unfold closeSettled
  rw [hl]
  cases b.lifecycle <;> rfl

theorem unfailing_drop : b.drop.unfailing = b.unfailing.drop := by
  simp only [drop, isClosed_unfailing, ← unfailing_clearAll]
  rw [apply_ite unfailing, unfailing_closeLater]
  rfl

/-! ### Steps and runs -/

section

variable [DecidableEq α]

/-- A step is the same whichever closes fail; to let a close fail is no step. -/
theorem unfailing_step (e : Event α σ) :
    (b.step e).unfailing = if e.fails then b.unfailing else b.unfailing.step e := by
  cases e with
  | startReconciler => exact apply_ite unfailing _ _ _
  | deliver | callersChange => rfl
  | takeNotice => exact b.unfailing_takeNotice
  | takeCommand => exact b.unfailing_takeCommand
  | select accepts => exact b.unfailing_select accepts
  | dialled i outcome => exact b.unfailing_dialled i outcome
  | discarded i => exact b.unfailing_discarded i
  | startTask t => exact b.unfailing_startTask t
  | probed t outcome => exact b.unfailing_probed t outcome
  | probeDiscarded t => rfl
  | runClosing k => exact b.unfailing_runClosing k
  | close => exact b.unfailing_close
  | closeSettled => exact b.unfailing_closeSettled
  | drop => exact b.unfailing_drop
  | peerCloses c =>
    exact b.unfailing_modifyConnection (f := fun k => { k with closed := true }) (fun _ => rfl) c
  | closeWillFail c =>
    refine b.unfailing_connections (List.ext_getElem? fun c' => ?_)
    simp only [List.getElem?_map, List.getElem?_modify]
    cases b.connections[c']? with
    | none => rfl
    | some k =>
      by_cases hc : c = c'
      · simp [hc, Connection.unfailing]
      · simp [hc]

/-- **Which closes fail makes no difference.** Take a run, and take out of it all
that makes closes fail. It comes to the same state, but for the failures that
were counted and the connections that fail to close. -/
theorem unfailing_run (b : Balancer α σ) (events : List (Event α σ)) :
    (b.run events).unfailing = b.unfailing.run (events.filter fun e => !e.fails) := by
  induction events using List.reverseRecOn with
  | nil => rfl
  | append_singleton events e ih =>
    rw [run_concat, unfailing_step, List.filter_append, run_append, ih]
    cases he : e.fails <;> simp [he, run]

/-! ### Which closes may fail -/

/-- One connection more is made to fail. -/
theorem failing_step (fails : ConnId → Bool) (c : ConnId) :
    (b.failing fails).step (.closeWillFail c) = b.failing fun c' => c' = c || fails c' := by
  have hone : (b.failing fails).connections.modify c (fun k => { k with failsToClose := true }) =
      (b.failing fun c' => c' = c || fails c').connections := by
    refine List.ext_getElem? fun c' => ?_
    simp only [failing, List.getElem?_modify, List.getElem?_mapIdx]
    cases b.connections[c']? with
    | none => rfl
    | some k =>
      by_cases hc : c = c'
      · simp [hc]
      · simp [hc, Ne.symm hc]
  exact congrArg (fun connections => { b with connections }) hone

theorem failing_run (cs : List ConnId) : (b.failing fun _ => false).run (cs.map .closeWillFail) =
    b.failing fun c => cs.contains c := by
  induction cs using List.reverseRecOn with
  | nil => rfl
  | append_singleton cs c ih =>
    rw [List.map_append, run_append, ih]
    refine (b.failing_step _ c).trans (congrArg b.failing (funext fun c' => ?_))
    simp [Bool.or_comm]

omit [DecidableEq α] in
theorem failing_congr {fails fails' : ConnId → Bool}
    (hf : ∀ c < b.connections.length, fails c = fails' c) : b.failing fails = b.failing fails' := by
  have hsame : (b.failing fails).connections = (b.failing fails').connections := by
    refine List.ext_getElem? fun c => ?_
    simp only [failing, List.getElem?_mapIdx]
    cases hc : b.connections[c]? with
    | none => rfl
    | some k => rw [hf c (List.getElem?_eq_some_iff.mp hc).1]
  exact congrArg (fun connections => { b with connections }) hsame

/-- Any connections may be those that fail to close. -/
theorem exists_run_failing (setup : Setup α) (tape : Tape) (callers : σ)
    (events : List (Event α σ)) (fails : ConnId → Bool) :
    let b₀ := Balancer.start setup tape callers
    (b₀.run events).lifecycle = .running →
      ∃ events', b₀.run events' = (b₀.run events).failing fails := by
  intro b₀ hr
  have hnone : b₀.run (events.filter fun e => !e.fails) =
      (b₀.run events).failing fun _ => false := by
    have hl : (b₀.run events).lifecycle.unfailing = (b₀.run events).lifecycle := by rw [hr]; rfl
    have hsame : (b₀.run events).connections.map Connection.unfailing =
        ((b₀.run events).failing fun _ => false).connections := by
      refine List.ext_getElem? fun c => ?_
      simp only [failing, List.getElem?_mapIdx, List.getElem?_map]
      rfl
    refine (unfailing_run b₀ events).symm.trans ?_
    rw [unfailing, hl, hsame]
    rfl
  refine ⟨(events.filter fun e => !e.fails) ++
    ((List.range (b₀.run events).connections.length).filter fails).map .closeWillFail, ?_⟩
  rw [run_append, hnone, failing_run]
  refine failing_congr _ fun c hc => ?_
  simp [hc]

end

end Balancer
end HostRotation
