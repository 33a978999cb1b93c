/-
# What the operations leave alone

For each operation on hosts, tasks and the table: the parts of a balancer that
it may change. Whoever asks about another part cites the footprint and does not
unfold the operation. Only beginning a selection, the end of its connect and
the end of its closing change a selection (`selections_step`).
-/
import HostRotation.Proofs.StepMoves

namespace HostRotation

variable {α σ : Type}

namespace Event

/-- Whether an event is about a selection. -/
def Selects : Event α σ → Prop
  | select _ | dialled _ _ | discarded _ => True
  | _ => False

/-- Whether an event is about a task, a connection or the callers. -/
def Aside : Event α σ → Prop
  | startTask _ | probed _ _ | probeDiscarded _ | runClosing _ | closeSettled => True
  | peerCloses _ | closeWillFail _ | callersChange _ => True
  | _ => False

/-- Whether an event ends the balancer. -/
def Ends : Event α σ → Prop
  | close | drop => True
  | _ => False

end Event

namespace Balancer

variable (b : Balancer α σ) (h : HostId)

/-! ### Tasks and checks -/

theorem cancelCheck_footprint : ∃ hosts tasks, b.cancelCheck h = { b with hosts, tasks } := by
  unfold cancelCheck
  split
  · rw [cancelIfAny_eq]
    exact ⟨_, _, rfl⟩
  · exact ⟨_, _, rfl⟩

theorem clearCheck_footprint : ∃ hosts, b.clearCheck h = { b with hosts } := by
  unfold clearCheck
  split
  · exact ⟨_, rfl⟩
  · exact ⟨_, rfl⟩

theorem installCheck_footprint (t : TaskId) :
    ∃ hosts tasks, b.installCheck h t = { b with hosts, tasks } := by
  unfold installCheck
  split
  · split
    · rw [cancelIfAny_eq]
      exact ⟨_, _, rfl⟩
    · exact ⟨_, _, rfl⟩
  · exact ⟨_, _, rfl⟩

theorem scheduleAttempt_footprint :
    ∃ hosts tasks tape, b.scheduleAttempt h = { b with hosts, tasks, tape } := by
  unfold scheduleAttempt
  split
  · rename_i plan _
    obtain ⟨hosts, tasks, heq⟩ := (b.schedule (.health h) plan.window).1.installCheck_footprint h
      (b.schedule (.health h) plan.window).2
    exact ⟨hosts, tasks, _, heq⟩
  · exact ⟨_, _, _, rfl⟩

theorem scheduleResubscribe_footprint :
    ∃ tasks monitor tape, b.scheduleResubscribe = { b with tasks, monitor, tape } := by
  unfold scheduleResubscribe
  split
  · exact ⟨_, _, _, rfl⟩
  · exact ⟨_, _, _, rfl⟩

theorem loseSubscription_footprint : ∃ tasks monitor tape,
    b.loseSubscription = { b with reconciler := .idle, tasks, monitor, tape } :=
  scheduleResubscribe_footprint { b with reconciler := .idle }

theorem observeTable_footprint : ∃ tasks monitor metrics tape,
    b.observeTable = { b with tasks, monitor, metrics, tape } ∧
      metrics.resubscribes = b.metrics.resubscribes := by
  unfold observeTable
  dsimp only
  split
  · obtain ⟨tasks, monitor, tape, heq⟩ := b.recordHosts.scheduleResubscribe_footprint
    exact ⟨tasks, monitor, _, tape, heq, rfl⟩
  · exact ⟨_, _, _, _, rfl, rfl⟩

theorem startTask_footprint (t : TaskId) :
    ∃ tasks commands attempts, b.startTask t = { b with tasks, commands, attempts } := by
  unfold startTask
  repeat' split
  all_goals exact ⟨_, _, _, rfl⟩

/-! ### Connections -/

theorem closeLinks_footprint : ∀ (ls : List (Link α)) (b : Balancer α σ),
    ∃ connections, (b.closeLinks ls).1 = { b with connections }
  | [], _ => ⟨_, rfl⟩
  | l :: ls, b => by
    obtain ⟨connections, heq⟩ := closeLinks_footprint ls (b.closeLink l).1
    exact ⟨connections, heq⟩

theorem closeLater_footprint (links : List (Link α)) :
    ∃ closings, b.closeLater links = { b with closings } := by
  unfold closeLater
  split
  · exact ⟨_, rfl⟩
  · exact ⟨_, rfl⟩

theorem runClosing_footprint (k : Nat) :
    ∃ closings connections, b.runClosing k = { b with closings, connections } := by
  unfold runClosing
  split
  · exact ⟨_, _, rfl⟩
  · rename_i c _
    split
    · exact ⟨_, _, rfl⟩
    · obtain ⟨connections, heq⟩ := closeLinks_footprint c.links
        { b with closings := b.closings.set k { c with begun := true } }
      exact ⟨_, connections, heq⟩

/-! ### Failed connects, offers, and the end of a pass -/

theorem endPass_footprint (s : Selection α σ) (pass : Pass) : ∃ tasks monitor metrics tape,
    (b.endPass s pass).1 = { b with tasks, monitor, metrics, tape } ∧
      metrics.resubscribes = b.metrics.resubscribes := by
  unfold endPass
  split
  · obtain ⟨tasks, monitor, _, tape, heq, hm⟩ := b.observeTable_footprint
    rw [heq]
    exact ⟨tasks, monitor, _, tape, rfl, hm⟩
  · exact ⟨_, _, _, _, rfl, rfl⟩

theorem connectFailed_footprint : ∃ hosts tasks monitor metrics tape,
    b.connectFailed h = { b with hosts, tasks, monitor, metrics, tape } ∧
      metrics.resubscribes = b.metrics.resubscribes := by
  unfold connectFailed
  dsimp only
  split
  · exact ⟨_, _, _, _, _, rfl, rfl⟩
  · split
    · rename_i host _ _
      generalize hr : setHost _ h _ = b₁
      obtain ⟨_, _, _, hone⟩ := b₁.scheduleAttempt_footprint h
      obtain ⟨tasks, monitor, metrics, tape, heq, hm⟩ :=
        (b₁.scheduleAttempt h).observeTable_footprint
      rw [hone] at hm
      subst hr
      exact ⟨_, tasks, monitor, metrics, tape, heq.trans (by rw [hone]; rfl), hm⟩
    · exact ⟨_, _, _, _, _, rfl, rfl⟩

theorem offer_footprint (s : Selection α σ) (l : Link α) : ∃ metrics callers,
    (b.offer s l).1 = { b with metrics, callers } ∧
      metrics.resubscribes = b.metrics.resubscribes := by
  unfold offer
  dsimp only
  split
  · exact ⟨_, _, rfl, rfl⟩
  · exact ⟨_, _, rfl, rfl⟩

/-! ### Hosts that leave -/

theorem closeHost_footprint : ∃ hosts tasks, (b.closeHost h).1 = { b with hosts, tasks } := by
  unfold closeHost
  split
  · exact ⟨_, _, rfl⟩
  · rename_i host _
    exact (b.setHost h host.close.1).cancelCheck_footprint h

theorem closeHosts_footprint : ∀ (hs : List HostId) (b : Balancer α σ),
    ∃ hosts tasks, (b.closeHosts hs).1 = { b with hosts, tasks }
  | [], _ => ⟨_, _, rfl⟩
  | h :: hs, b => by
    obtain ⟨_, _, hone⟩ := b.closeHost_footprint h
    obtain ⟨hosts, tasks, heq⟩ := closeHosts_footprint hs (b.closeHost h).1
    exact ⟨hosts, tasks, heq.trans (by rw [hone])⟩

theorem closeRemoved_footprint :
    ∃ hosts tasks closings, b.closeRemoved h = { b with hosts, tasks, closings } := by
  obtain ⟨hosts, tasks, hone⟩ := b.closeHost_footprint h
  obtain ⟨closings, heq⟩ := (b.closeHost h).1.closeLater_footprint (b.closeHost h).2
  exact ⟨hosts, tasks, closings, heq.trans (by rw [hone])⟩

theorem closeRemoveds_footprint : ∀ (hs : List HostId) (b : Balancer α σ),
    ∃ hosts tasks closings, hs.foldl closeRemoved b = { b with hosts, tasks, closings }
  | [], _ => ⟨_, _, _, rfl⟩
  | h :: hs, b => by
    obtain ⟨_, _, _, hone⟩ := b.closeRemoved_footprint h
    obtain ⟨hosts, tasks, closings, heq⟩ := closeRemoveds_footprint hs (b.closeRemoved h)
    exact ⟨hosts, tasks, closings, heq.trans (by rw [hone])⟩

theorem clearTable_footprint :
    ∃ hosts tasks, b.clearTable.1 = { b with hosts, table := [], tasks } :=
  closeHosts_footprint b.table { b with table := [] }

theorem stopBackground_footprint : ∃ tasks, b.stopBackground =
    { b with reconciler := .stopped, monitor := { pending := none, shutDown := true }, tasks } := by
  unfold stopBackground
  rw [cancelIfAny_eq]
  exact ⟨_, rfl⟩

theorem clearAll_footprint : ∃ hosts tasks, b.stopBackground.clearTable.1 = { b with
    hosts, table := [], tasks
    reconciler := .stopped, monitor := { pending := none, shutDown := true } } := by
  obtain ⟨_, hstop⟩ := b.stopBackground_footprint
  obtain ⟨hosts, tasks, heq⟩ := b.stopBackground.clearTable_footprint
  exact ⟨hosts, tasks, heq.trans (by rw [hstop])⟩

/-- The first call that closes a balancer. -/
theorem close_footprint (ho : b.isClosed = false) : ∃ hosts tasks connections lifecycle,
    b.close = { b with
      hosts, table := [], tasks, connections, lifecycle
      reconciler := .stopped, monitor := { pending := none, shutDown := true } } ∧
    lifecycle ≠ .running := by
  unfold close
  simp only [ho, Bool.false_eq_true, ↓reduceIte]
  obtain ⟨hosts, tasks, hclear⟩ := b.clearAll_footprint
  obtain ⟨connections, heq⟩ := closeLinks_footprint b.stopBackground.clearTable.2
    b.stopBackground.clearTable.1
  rw [heq, hclear]
  exact ⟨hosts, tasks, connections, _, rfl, by simp⟩

theorem drop_footprint (ho : b.isClosed = false) : ∃ hosts tasks closings,
    b.drop = { b with
      hosts, table := [], tasks, closings, lifecycle := .dropped
      reconciler := .stopped, monitor := { pending := none, shutDown := true } } := by
  unfold drop
  simp only [ho, Bool.false_eq_true, ↓reduceIte]
  obtain ⟨hosts, tasks, hclear⟩ := b.clearAll_footprint
  obtain ⟨closings, heq⟩ := closeLater_footprint
    { b.stopBackground.clearTable.1 with lifecycle := .dropped } b.stopBackground.clearTable.2
  rw [heq, hclear]
  exact ⟨hosts, tasks, closings, rfl⟩

section

variable [DecidableEq α]

/-! ### Connects that end -/

theorem poolAndOffer_footprint (s : Selection α σ) (l : Link α) :
    ∃ hosts tasks connections metrics callers,
      (b.poolAndOffer s h l).1 = { b with hosts, tasks, connections, metrics, callers } ∧
        metrics.resubscribes = b.metrics.resubscribes := by
  unfold poolAndOffer
  split
  · exact ⟨_, _, _, _, _, rfl, rfl⟩
  · split
    · exact ⟨_, _, _, _, _, rfl, rfl⟩
    · rename_i host _
      obtain ⟨_, _, hcancel⟩ := (b.setHost h host).cancelCheck_footprint h
      obtain ⟨_, _, heq, hm⟩ := ((b.setHost h host).cancelCheck h).recordHosts.offer_footprint s l
      rw [hcancel] at hm
      exact ⟨_, _, _, _, _, heq.trans (by rw [hcancel]; rfl), hm⟩
    · rename_i host _
      obtain ⟨_, _, heq, hm⟩ := (b.setHost h host).offer_footprint s l
      exact ⟨_, _, _, _, _, heq, hm⟩

theorem probeSucceeded_footprint (t : TaskId) (host : Host α (Link α)) (l : Link α) :
    ∃ hosts tasks connections metrics,
      b.probeSucceeded t h host l = { b with hosts, tasks, connections, metrics } ∧
        metrics.resubscribes = b.metrics.resubscribes := by
  have hclear (host' : Host α (Link α)) :
      ∃ hosts, (b.setHost h host').clearCheck h = { b with hosts } :=
    (b.setHost h host').clearCheck_footprint h
  unfold probeSucceeded
  dsimp only
  split
  · rename_i host' _
    obtain ⟨hosts, heq⟩ := hclear host'
    rw [heq]
    exact ⟨hosts, _, _, _, rfl, rfl⟩
  · rename_i host' _
    obtain ⟨hosts, heq⟩ := hclear host'
    rw [heq]
    exact ⟨hosts, _, _, _, rfl, rfl⟩
  · exact ⟨_, _, _, _, rfl, rfl⟩

theorem probed_footprint (t : TaskId) (outcome : DialOutcome) :
    ∃ hosts tasks connections metrics tape,
      b.probed t outcome = { b with hosts, tasks, connections, metrics, tape } ∧
        metrics.resubscribes = b.metrics.resubscribes := by
  have hp := b.probe_probed t outcome
  generalize b.probed t outcome = b' at hp ⊢
  cases hp with
  | idle => exact ⟨_, _, _, _, _, rfl, rfl⟩
  | @reached _ h host connections l =>
    obtain ⟨hosts, tasks, connections', metrics, heq, hm⟩ :=
      { b with connections }.probeSucceeded_footprint h t host l
    exact ⟨hosts, tasks, connections', metrics, _, heq, hm⟩
  | @missed h =>
    obtain ⟨hosts, tasks, tape, heq⟩ := scheduleAttempt_footprint
      (b.modifyTask t (·.start .finished)) h
    exact ⟨hosts, tasks, _, _, tape, heq, rfl⟩

/-! ### The table -/

theorem applyEvent_footprint (s : Balancer α σ × List HostId) (event : HostEvent α) :
    ∃ hosts table tasks, (applyEvent s event).1 = { s.1 with hosts, table, tasks } := by
  obtain ⟨b, removed⟩ := s
  unfold applyEvent
  dsimp only
  split
  · exact ⟨_, _, _, rfl⟩
  · rename_i h _ _
    unfold activateHost
    split
    · exact ⟨_, _, _, rfl⟩
    · rename_i host _
      dsimp only
      split
      · obtain ⟨hosts, tasks, heq⟩ := (b.setHost h host.activate).cancelCheck_footprint h
        exact ⟨hosts, _, tasks, heq⟩
      · exact ⟨_, _, _, rfl⟩
  · rename_i h _ _
    obtain ⟨hosts, tasks, hexpire⟩ :
        ∃ hosts tasks, (b.expireHost h).1 = { b with hosts, tasks } := by
      unfold expireHost
      split
      · exact ⟨_, _, rfl⟩
      · rename_i host _
        exact (b.setHost h host.expire).cancelCheck_footprint h
    split
    · exact ⟨hosts, _, tasks, by rw [hexpire]; rfl⟩
    · exact ⟨hosts, _, tasks, hexpire⟩
  · exact ⟨_, _, _, rfl⟩
  · exact ⟨_, _, _, rfl⟩
  · exact ⟨_, _, _, rfl⟩

theorem applyEvents_footprint : ∀ (events : Batch α) (s : Balancer α σ × List HostId),
    ∃ hosts table tasks, (events.foldl applyEvent s).1 = { s.1 with hosts, table, tasks }
  | [], _ => ⟨_, _, _, rfl⟩
  | event :: events, s => by
    obtain ⟨_, _, _, hone⟩ := applyEvent_footprint s event
    obtain ⟨hosts, table, tasks, heq⟩ := applyEvents_footprint events (applyEvent s event)
    exact ⟨hosts, table, tasks, heq.trans (by rw [hone])⟩

theorem applyBatch_footprint (batch : Batch α) :
    ∃ hosts table tasks closings monitor metrics tape, b.applyBatch batch =
        { b with hosts, table, tasks, closings, monitor, metrics, tape } ∧
      metrics.resubscribes = b.metrics.resubscribes := by
  unfold applyBatch
  dsimp only
  split
  · exact ⟨_, _, _, _, _, _, _, rfl, rfl⟩
  · generalize hr : (lastEvents batch).foldl applyEvent (b, []) = r
    obtain ⟨hosts, table, tasks, happly⟩ := applyEvents_footprint (lastEvents batch) (b, [])
    rw [hr] at happly
    obtain ⟨hosts, tasks, closings, hclose⟩ := closeRemoveds_footprint r.2 r.1
    obtain ⟨tasks, monitor, metrics, tape, heq, hm⟩ :=
      (r.2.foldl closeRemoved r.1).observeTable_footprint
    rw [hclose, happly] at hm
    exact ⟨hosts, table, tasks, closings, monitor, metrics, tape,
      heq.trans (by rw [hclose, happly]), hm⟩

theorem removeDrained_footprint (a : α) :
    ∃ hosts table tasks closings monitor metrics tape, b.removeDrained a =
        { b with hosts, table, tasks, closings, monitor, metrics, tape } ∧
      metrics.resubscribes = b.metrics.resubscribes := by
  unfold removeDrained
  dsimp only
  split
  · exact ⟨_, _, _, _, _, _, _, rfl, rfl⟩
  · split
    · exact ⟨_, _, _, _, _, _, _, rfl, rfl⟩
    · rename_i h _
      obtain ⟨hosts, tasks, closings, hclose⟩ := (b.removeHost h).closeRemoved_footprint h
      obtain ⟨tasks, monitor, metrics, tape, heq, hm⟩ :=
        ((b.removeHost h).closeRemoved h).observeTable_footprint
      rw [hclose] at hm
      exact ⟨hosts, _, tasks, closings, monitor, metrics, tape, heq.trans (by rw [hclose]; rfl), hm⟩

/-! ### Taking notices and commands -/

/-- The subscriptions after the current one lost its oldest notice. -/
def advanced (b : Balancer α σ) : List (Subscription α) :=
  b.subscriptions.modify (b.subscriptions.length - 1) Subscription.take

theorem takeNotice_footprint :
    ∃ hosts table tasks closings monitor metrics tape reconciler subscriptions, b.takeNotice =
      { b with hosts, table, tasks, closings, monitor, metrics, tape, reconciler, subscriptions } ∧
      metrics.resubscribes = b.metrics.resubscribes := by
  obtain ⟨_, _, _, hlose⟩ := loseSubscription_footprint { b with subscriptions := b.advanced }
  unfold takeNotice
  split
  · exact ⟨_, _, _, _, _, _, _, _, _, rfl, rfl⟩
  · dsimp only
    split
    · rename_i events _
      obtain ⟨_, _, _, _, _, _, _, heq, hm⟩ :=
        applyBatch_footprint { b with subscriptions := b.advanced } events
      exact ⟨_, _, _, _, _, _, _, _, _, heq, hm⟩
    · exact ⟨_, _, _, _, _, _, _, _, _, hlose, rfl⟩
    · exact ⟨_, _, _, _, _, _, _, _, _, hlose, rfl⟩

theorem takeCommand_footprint :
    ∃ hosts table tasks closings monitor metrics tape reconciler subscriptions commands,
      b.takeCommand = { b with
        hosts, table, tasks, closings, monitor, metrics, tape, reconciler
        subscriptions, commands } := by
  unfold takeCommand
  split
  · exact ⟨_, _, _, _, _, _, _, _, _, _, rfl⟩
  · dsimp only
    split
    · exact ⟨_, _, _, _, _, _, _, _, _, _, rfl⟩
    · rename_i a _
      obtain ⟨_, _, _, _, _, _, _, heq, -⟩ :=
        removeDrained_footprint { b with commands := b.commands.tail } a
      exact ⟨_, _, _, _, _, _, _, _, _, _, heq⟩

/-! ### Steps -/

theorem aside_footprint {e : Event α σ} (he : e.Aside) :
    ∃ hosts lifecycle commands tasks closings connections attempts metrics tape callers,
      b.step e = { b with
        hosts, lifecycle, commands, tasks, closings, connections, attempts, metrics, tape
        callers } ∧
      metrics.resubscribes = b.metrics.resubscribes := by
  cases e with
  | startTask t =>
    obtain ⟨_, _, _, heq⟩ := b.startTask_footprint t
    exact ⟨_, _, _, _, _, _, _, _, _, _, heq, rfl⟩
  | probed t outcome =>
    obtain ⟨_, _, _, _, _, heq, hm⟩ := b.probed_footprint t outcome
    exact ⟨_, _, _, _, _, _, _, _, _, _, heq, hm⟩
  | runClosing k =>
    obtain ⟨_, _, heq⟩ := b.runClosing_footprint k
    exact ⟨_, _, _, _, _, _, _, _, _, _, heq, rfl⟩
  | closeSettled =>
    simp only [step, closeSettled]
    split
    · exact ⟨_, _, _, _, _, _, _, _, _, _, rfl, rfl⟩
    · exact ⟨_, _, _, _, _, _, _, _, _, _, rfl, rfl⟩
  | probeDiscarded | peerCloses | closeWillFail | callersChange =>
    exact ⟨_, _, _, _, _, _, _, _, _, _, rfl, rfl⟩
  | _ => exact he.elim

/-- A balancer that was closed or dropped takes no notice of it again. -/
theorem ends_footprint {e : Event α σ} (he : e.Ends) : b.isClosed = true ∧ b.step e = b ∨
    ∃ hosts tasks closings connections lifecycle, b.step e = { b with
      hosts, table := [], tasks, closings, connections, lifecycle
      reconciler := .stopped, monitor := { pending := none, shutDown := true } } ∧
    lifecycle ≠ .running := by
  cases ho : b.isClosed with
  | true =>
    refine .inl ⟨rfl, ?_⟩
    cases e with
    | close | drop => exact if_pos ho
    | _ => exact he.elim
  | false =>
    refine .inr ?_
    cases e with
    | close =>
      obtain ⟨_, _, _, _, heq, hl⟩ := b.close_footprint ho
      exact ⟨_, _, _, _, _, heq, hl⟩
    | drop =>
      obtain ⟨_, _, _, heq⟩ := b.drop_footprint ho
      exact ⟨_, _, _, _, _, heq, by simp⟩
    | _ => exact he.elim

theorem lifecycle_ends {e : Event α σ} (he : e.Ends) : (b.step e).lifecycle ≠ .running := by
  obtain ⟨ho, heq⟩ | ⟨_, _, _, _, _, heq, hl⟩ := b.ends_footprint he
  · rw [heq]
    simpa [isClosed] using ho
  · rw [heq]
    exact hl

/-- An event that is about no selection leaves the selections and the rotation
alone. Of these only the start of a task begins a connect, and only one event
changes what the callers know. -/
theorem outside_footprint {e : Event α σ} (he : ¬ e.Selects) :
    ∃ hosts table lifecycle reconciler subscriptions commands monitor tasks closings connections
      attempts metrics tape callers,
      b.step e = { b with
        hosts, table, lifecycle, reconciler, subscriptions, commands, monitor, tasks, closings
        connections, attempts, metrics, tape, callers } ∧
      ((∀ t, e ≠ .startTask t) → attempts = b.attempts) ∧
      ((∀ f, e ≠ .callersChange f) → callers = b.callers) := by
  by_cases hends : e.Ends
  · obtain ⟨-, heq⟩ | ⟨_, _, _, _, _, heq, -⟩ := b.ends_footprint hends
    · exact ⟨_, _, _, _, _, _, _, _, _, _, _, _, _, _, heq, fun _ => rfl, fun _ => rfl⟩
    · exact ⟨_, _, _, _, _, _, _, _, _, _, _, _, _, _, heq, fun _ => rfl, fun _ => rfl⟩
  cases e with
  | select | dialled | discarded => exact absurd trivial he
  | close | drop => exact absurd trivial hends
  | startTask t =>
    obtain ⟨_, _, _, heq⟩ := b.startTask_footprint t
    exact ⟨_, _, _, _, _, _, _, _, _, _, _, _, _, _, heq, fun ht => absurd rfl (ht t), fun _ => rfl⟩
  | callersChange f =>
    exact ⟨_, _, _, _, _, _, _, _, _, _, _, _, _, _, rfl, fun _ => rfl, fun hc => absurd rfl (hc f)⟩
  | startReconciler =>
    simp only [step, startReconciler]
    split
    · exact ⟨_, _, _, _, _, _, _, _, _, _, _, _, _, _, rfl, fun _ => rfl, fun _ => rfl⟩
    · exact ⟨_, _, _, _, _, _, _, _, _, _, _, _, _, _, rfl, fun _ => rfl, fun _ => rfl⟩
  | takeNotice =>
    obtain ⟨_, _, _, _, _, _, _, _, _, heq, -⟩ := b.takeNotice_footprint
    exact ⟨_, _, _, _, _, _, _, _, _, _, _, _, _, _, heq, fun _ => rfl, fun _ => rfl⟩
  | takeCommand =>
    obtain ⟨_, _, _, _, _, _, _, _, _, _, heq⟩ := b.takeCommand_footprint
    exact ⟨_, _, _, _, _, _, _, _, _, _, _, _, _, _, heq, fun _ => rfl, fun _ => rfl⟩
  | probed t outcome =>
    obtain ⟨_, _, _, _, _, heq, -⟩ := b.probed_footprint t outcome
    exact ⟨_, _, _, _, _, _, _, _, _, _, _, _, _, _, heq, fun _ => rfl, fun _ => rfl⟩
  | runClosing k =>
    obtain ⟨_, _, heq⟩ := b.runClosing_footprint k
    exact ⟨_, _, _, _, _, _, _, _, _, _, _, _, _, _, heq, fun _ => rfl, fun _ => rfl⟩
  | closeSettled =>
    simp only [step, closeSettled]
    split
    · exact ⟨_, _, _, _, _, _, _, _, _, _, _, _, _, _, rfl, fun _ => rfl, fun _ => rfl⟩
    · exact ⟨_, _, _, _, _, _, _, _, _, _, _, _, _, _, rfl, fun _ => rfl, fun _ => rfl⟩
  | deliver | probeDiscarded | peerCloses | closeWillFail =>
    exact ⟨_, _, _, _, _, _, _, _, _, _, _, _, _, _, rfl, fun _ => rfl, fun _ => rfl⟩

theorem selections_step {e : Event α σ} (he : ¬ e.Selects) :
    (b.step e).selections = b.selections := by
  obtain ⟨_, _, _, _, _, _, _, _, _, _, _, _, _, _, heq, -, -⟩ := b.outside_footprint he
  rw [heq]

theorem attempts_step_of_ne {e : Event α σ} (he : ¬ e.Selects) (ht : ∀ t, e ≠ .startTask t) :
    (b.step e).attempts = b.attempts := by
  obtain ⟨_, _, _, _, _, _, _, _, _, _, _, _, _, _, heq, hattempts, -⟩ := b.outside_footprint he
  rw [heq]
  exact hattempts ht

theorem callers_step_of_ne {e : Event α σ} (he : ¬ e.Selects) (hc : ∀ f, e ≠ .callersChange f) :
    (b.step e).callers = b.callers := by
  obtain ⟨_, _, _, _, _, _, _, _, _, _, _, _, _, _, heq, -, hcallers⟩ := b.outside_footprint he
  rw [heq]
  exact hcallers hc

end

end Balancer
end HostRotation
