/-
# The table is watched

Whatever goes on, a resubscribe that is pending stays so, and a table that
becomes starved finds one pending, if health checks are on; if they are off,
none is armed (`Watched`, `watched_step`). Four things are no part of this:
losing a subscription, which arms a resubscribe in any case, replacing it,
which takes the pending one, and closing and dropping the balancer
(`Balancer.Interrupts`).

A table starves when its last active host becomes unhealthy, expires or
leaves. Each of these has an operation of its own, and each such operation has
the table looked at afterwards (`Watched.observed`); all others leave every
host at least as well as it was (`Eased`).
-/
import HostRotation.Proofs.Orders
import HostRotation.Proofs.Passes

namespace HostRotation

variable {α σ : Type}

/-- Whether a notice is a batch, after which the subscription goes on. -/
def Notice.GoesOn : Notice α → Prop
  | .batch _ => True
  | .failed _ | .ended => False

/-- An event by which the subscription is lost or replaced, or the balancer
ends. -/
def Balancer.Interrupts (b : Balancer α σ) : Event α σ → Prop
  | .takeNotice => ∃ n, b.nextNotice? = some n ∧ ¬ n.GoesOn
  | .takeCommand => b.nextCommand? = some .resubscribe
  | .close | .drop => True
  | _ => False

/-! ### Starvation -/

theorem isStarved_iff {b : Balancer α σ} : b.isStarved = true ↔ b.table ≠ [] ∧
    ∀ h ∈ b.table, ∀ host, b.hosts[h]? = some host → host.isStarved = true := by
  simp only [Balancer.isStarved, Balancer.tableHosts, Bool.and_eq_true, Bool.not_eq_true',
    List.isEmpty_eq_false_iff, List.all_eq_true, List.mem_filterMap]
  refine and_congr_right fun _ => ⟨fun hall h hm host hh => hall host ⟨h, hm, hh⟩, ?_⟩
  rintro hall host ⟨h, hm, hh⟩
  exact hall h hm host hh

/-- No host fares worse than it did. -/
def Eased (hosts hosts' : List (Host α (Link α))) : Prop :=
  ∀ (h : HostId) (host : Host α (Link α)), hosts[h]? = some host →
    ∃ host', hosts'[h]? = some host' ∧ (host'.isStarved = true → host.isStarved = true)

theorem Eased.refl (hosts : List (Host α (Link α))) : Eased hosts hosts :=
  fun _ host hh => ⟨host, hh, id⟩

theorem Eased.set {hosts : List (Host α (Link α))} {h : HostId} {host host' : Host α (Link α)}
    (hh : hosts[h]? = some host) (hs : host'.isStarved = true → host.isStarved = true) :
    Eased hosts (hosts.set h host') := by
  intro j k hj
  by_cases hjh : h = j
  · subst hjh
    obtain rfl := Option.some.inj (hh.symm.trans hj)
    exact ⟨host', List.getElem?_set_self (List.getElem?_eq_some_iff.mp hh).1, hs⟩
  · exact ⟨k, by rw [List.getElem?_set_ne hjh, hj], id⟩

/-- A table that is starved was starved before, if no host fares worse. -/
theorem Eased.isStarved {b b' : Balancer α σ} (he : Eased b.hosts b'.hosts)
    (ht : b'.table = b.table) (hs : b'.isStarved = true) : b.isStarved = true := by
  obtain ⟨hne, hall⟩ := isStarved_iff.mp hs
  rw [ht] at hne hall
  refine isStarved_iff.mpr ⟨hne, fun h hm host hhost => ?_⟩
  obtain ⟨host', hhost', heased⟩ := he h host hhost
  exact heased (hall h hm host' hhost')

/-- A task that starts is no new one. -/
theorem map_kind_start (tasks : List Task) (t : TaskId) (phase : TaskPhase) :
    ∃ new, (tasks.modify t (·.start phase)).map Task.kind = tasks.map Task.kind ++ new ∧
      .resubscribe ∉ new :=
  ⟨[], by rw [List.append_nil]; exact kinds_of_orders (orders_modify tasks t fun _ => rfl), by simp⟩

/-! ### The relation -/

/-- From one balancer to another, a resubscribe that is pending stays so, and a
table that starves on the way finds one pending. -/
structure Watched (b b' : Balancer α σ) : Prop where
  setup : b'.setup = b.setup
  running : b.lifecycle = .running → b'.lifecycle = .running
  shutDown : b'.monitor.shutDown = b.monitor.shutDown
  pending : b.monitor.pending.isSome = true → b'.monitor.pending.isSome = true
  starved : b.setup.health.isSome = true → b.lifecycle = .running → b.monitor.shutDown = false →
    b'.isStarved = true → b.isStarved = true ∨ b'.monitor.pending.isSome = true
  /-- Without health checks, no new task is a resubscribe. -/
  kinds : ∃ new, b'.tasks.map Task.kind = b.tasks.map Task.kind ++ new ∧
    (b.setup.health = none → .resubscribe ∉ new)

namespace Watched

variable {b b' b'' : Balancer α σ}

theorem trans (h : Watched b b') (h' : Watched b' b'') : Watched b b'' where
  setup := h'.setup.trans h.setup
  running := h'.running ∘ h.running
  shutDown := h'.shutDown.trans h.shutDown
  pending := h'.pending ∘ h.pending
  starved := by
    intro hc hr hs hst
    have hst' := h'.starved (by rwa [h.setup]) (h.running hr) (by rwa [h.shutDown]) hst
    rcases hst' with hst' | hp
    · exact (h.starved hc hr hs hst').imp_right h'.pending
    · exact .inr hp
  kinds := by
    obtain ⟨new, heq, hnew⟩ := h.kinds
    obtain ⟨new', heq', hnew'⟩ := h'.kinds
    refine ⟨new ++ new', by rw [heq', heq, List.append_assoc], fun hn => ?_⟩
    rw [List.mem_append, not_or]
    exact ⟨hnew hn, hnew' (by rwa [h.setup])⟩

/-- No host fares worse, and no task is new, or none of the new ones is a
resubscribe. -/
theorem eases (h : b'.setup = b.setup ∧ b'.table = b.table ∧ b'.lifecycle = b.lifecycle ∧
      b'.monitor = b.monitor) (hh : Eased b.hosts b'.hosts)
    (hk : ∃ new, b'.tasks.map Task.kind = b.tasks.map Task.kind ++ new ∧ .resubscribe ∉ new) :
    Watched b b' where
  setup := h.1
  running := fun hr => h.2.2.1.trans hr
  shutDown := by rw [h.2.2.2]
  pending := by
    rw [h.2.2.2]
    exact id
  starved := fun _ _ _ hs => .inl (hh.isStarved h.2.1 hs)
  kinds := by
    obtain ⟨new, heq, hnew⟩ := hk
    exact ⟨new, heq, fun _ => hnew⟩

/-- Neither hosts nor tasks change. -/
theorem note (h : b'.setup = b.setup ∧ b'.table = b.table ∧ b'.lifecycle = b.lifecycle ∧
      b'.monitor = b.monitor) (hh : b'.hosts = b.hosts) (ht : b'.tasks = b.tasks) :
    Watched b b' :=
  eases h (hh ▸ .refl _) ⟨[], by simp [ht], by simp⟩

theorem refl (b : Balancer α σ) : Watched b b := note ⟨rfl, rfl, rfl, rfl⟩ rfl rfl

/-- One host changes for no worse. -/
theorem set {h : HostId} {host host' : Host α (Link α)} (hh : b.hosts[h]? = some host)
    (hs : host'.isStarved = true → host.isStarved = true) {tasks : List Task}
    (ho : tasks.map Task.order = b.tasks.map Task.order) :
    Watched b { b with hosts := b.hosts.set h host', tasks } :=
  eases ⟨rfl, rfl, rfl, rfl⟩ (.set hh hs) ⟨[], by simpa using kinds_of_orders ho, by simp⟩

end Watched

section

variable {b b' : Balancer α σ}

theorem Browses.watched (hb : Browses b b') : Watched b b' := by
  have htasks : b'.tasks = b.tasks := by rw [hb.rest]
  refine .eases ⟨?_, ?_, ?_, ?_⟩ (fun h host hh => ?_) ⟨[], by simp [htasks], by simp⟩
  · rw [hb.rest]
  · rw [hb.rest]
  · rw [hb.rest]
  · rw [hb.rest]
  · obtain ⟨pool, hh', -⟩ := hb.host h host hh
    exact ⟨_, hh', id⟩

/-! ### The table is looked at -/

/-- Unless the balancer is shut, a resubscribe is pending after one was asked
for. -/
theorem pending_scheduleResubscribe (hs : b.monitor.shutDown = false) :
    b.scheduleResubscribe.monitor.pending.isSome = true := by
  unfold Balancer.scheduleResubscribe
  split
  · rename_i hp
    simpa [hs] using hp
  · rfl

theorem isSome_scheduleResubscribe (hp : b.monitor.pending.isSome = true) :
    b.scheduleResubscribe.monitor.pending.isSome = true := by
  unfold Balancer.scheduleResubscribe
  split
  · exact hp
  · rfl

/-- A starved table gets its resubscribe when it is looked at. -/
theorem pending_observeTable (hc : b.setup.health.isSome = true) (hr : b.lifecycle = .running)
    (hs : b.monitor.shutDown = false) (hst : b.isStarved = true) :
    b.observeTable.monitor.pending.isSome = true := by
  have hst' : b.recordHosts.isStarved = true := hst
  have hcond : (b.recordHosts.setup.health.isSome && !b.recordHosts.isClosed &&
      b.recordHosts.isStarved) = true := by
    simp [Balancer.recordHosts, Balancer.recordGauges, Balancer.isClosed, hc, hr] at hst' ⊢
    exact hst'
  unfold Balancer.observeTable
  dsimp only
  rw [if_pos hcond]
  exact pending_scheduleResubscribe hs

theorem isStarved_observeTable (b : Balancer α σ) : b.observeTable.isStarved = b.isStarved := by
  obtain ⟨_, _, _, _, heq, -⟩ := b.observeTable_footprint
  rw [heq]
  rfl

theorem watched_scheduleResubscribe (hc : b.setup.health.isSome = true) :
    Watched b b.scheduleResubscribe := by
  unfold Balancer.scheduleResubscribe
  split
  · exact .refl b
  · exact {
      setup := rfl
      running := id
      shutDown := rfl
      pending := fun _ => rfl
      starved := fun _ _ _ hs => .inl hs
      kinds := ⟨[.resubscribe], by simp [Balancer.schedule], fun hn => by simp [hn] at hc⟩ }

theorem watched_recordHosts (b : Balancer α σ) : Watched b b.recordHosts :=
  .note ⟨rfl, rfl, rfl, rfl⟩ rfl rfl

theorem watched_observeTable (b : Balancer α σ) : Watched b b.observeTable := by
  unfold Balancer.observeTable
  dsimp only
  split
  · rename_i hcond
    simp only [Bool.and_eq_true] at hcond
    exact (watched_recordHosts b).trans (watched_scheduleResubscribe hcond.1.1)
  · exact watched_recordHosts b

/-- Whatever happens to hosts, a look at the table makes up for it. -/
theorem Watched.observed (h : b'.setup = b.setup ∧ b'.lifecycle = b.lifecycle ∧
      b'.monitor = b.monitor)
    (hk : ∃ new, b'.tasks.map Task.kind = b.tasks.map Task.kind ++ new ∧ .resubscribe ∉ new) :
    Watched b b'.observeTable := by
  obtain ⟨hsetup, hlifecycle, hmonitor⟩ := h
  have hwatched := watched_observeTable b'
  exact {
    setup := hwatched.setup.trans hsetup
    running := fun hr => hwatched.running (hlifecycle.trans hr)
    shutDown := hwatched.shutDown.trans (by rw [hmonitor])
    pending := fun hp => hwatched.pending (by rwa [hmonitor])
    starved := fun hc hr hs hst => by
      rw [isStarved_observeTable] at hst
      exact .inr (pending_observeTable (by rwa [hsetup]) (hlifecycle.trans hr) (by rwa [hmonitor])
        hst)
    kinds := by
      obtain ⟨new, heq, hnew⟩ := hk
      obtain ⟨new', heq', hnew'⟩ := hwatched.kinds
      refine ⟨new ++ new', by rw [heq', heq, List.append_assoc], fun hn => ?_⟩
      rw [List.mem_append, not_or]
      exact ⟨hnew, hnew' (by rwa [hsetup])⟩ }

/-! ### Selections -/

theorem watched_endPass (b : Balancer α σ) (s : Selection α σ) (pass : Pass) :
    Watched b (b.endPass s pass).1 := by
  unfold Balancer.endPass
  split
  · exact (watched_observeTable b).trans (.note ⟨rfl, rfl, rfl, rfl⟩ rfl rfl)
  · exact .note ⟨rfl, rfl, rfl, rfl⟩ rfl rfl

theorem Passage.watched {s : Selection α σ} {pass : Pass} {rest : List HostId}
    {r : Balancer α σ × Selection α σ} (hp : Passage b s pass rest r) : Watched b r.1 := by
  cases hp with
  | exhausted hb => exact hb.watched.trans (watched_endPass _ _ _)
  | found hb => exact hb.watched
  | dials hb => exact hb.watched.trans (.note ⟨rfl, rfl, rfl, rfl⟩ rfl rfl)

/-- Scheduling a health attempt brings one new task and changes no status. -/
theorem scheduleAttempt_eases (b : Balancer α σ) (h : HostId) :
    ∃ hosts tasks tape, b.scheduleAttempt h = { b with hosts, tasks, tape } ∧
      Eased b.hosts hosts ∧
      ∃ new, tasks.map Task.kind = b.tasks.map Task.kind ++ new ∧ .resubscribe ∉ new := by
  unfold Balancer.scheduleAttempt
  split
  · rename_i plan _
    obtain ⟨hosts, tasks, heq, heased, hkind⟩ : ∃ hosts tasks,
        (b.schedule (.health h) plan.window).1.installCheck h
          (b.schedule (.health h) plan.window).2 =
          { (b.schedule (.health h) plan.window).1 with hosts, tasks } ∧ Eased b.hosts hosts ∧
        tasks.map Task.kind = (b.schedule (.health h) plan.window).1.tasks.map Task.kind := by
      unfold Balancer.installCheck
      split
      · rename_i host hh
        split
        · rw [Balancer.cancelIfAny_eq]
          exact ⟨_, _, rfl, .set hh id, kinds_of_orders (orders_cancelIn _ _ _)⟩
        · exact ⟨_, _, rfl, .refl _, kinds_of_orders (orders_cancelIn _ _ (some _))⟩
      · exact ⟨_, _, rfl, .refl _, kinds_of_orders (orders_cancelIn _ _ (some _))⟩
    exact ⟨hosts, tasks, _, heq, heased, [.health h], by rw [hkind]; simp [Balancer.schedule],
      by simp⟩
  · exact ⟨_, _, _, rfl, .refl _, [], (List.append_nil _).symm, by simp⟩

/-- The connect to a host failed, and perhaps this made it unhealthy. -/
theorem watched_connectFailed (b : Balancer α σ) (h : HostId) : Watched b (b.connectFailed h) := by
  unfold Balancer.connectFailed
  dsimp only
  split
  · exact .note ⟨rfl, rfl, rfl, rfl⟩ rfl rfl
  · rename_i host hh
    split
    · obtain ⟨_, _, _, heq, -, hk⟩ := scheduleAttempt_eases (Balancer.setHost _ h _) h
      rw [heq]
      exact .observed ⟨rfl, rfl, rfl⟩ hk
    · rename_i hf
      refine .eases ⟨rfl, rfl, rfl, rfl⟩ (.set hh fun hs => ?_)
        ⟨[], by simp [Balancer.setHost], by simp⟩
      rw [Host.isStarved, Host.status_recordFailure] at hs
      simpa [hf, Host.isStarved] using hs

theorem watched_offer (b : Balancer α σ) (s : Selection α σ) (l : Link α) :
    Watched b (b.offer s l).1 := by
  obtain ⟨_, _, heq, -⟩ := b.offer_footprint s l
  rw [heq]
  exact .note ⟨rfl, rfl, rfl, rfl⟩ rfl rfl

/-! ### Tasks -/

theorem watched_startTask (b : Balancer α σ) (t : TaskId) : Watched b (b.startTask t) := by
  unfold Balancer.startTask
  repeat' split
  all_goals first
    | exact .refl b
    | exact .eases ⟨rfl, rfl, rfl, rfl⟩ (.refl _) (map_kind_start b.tasks t _)

theorem watched_probeDiscarded (b : Balancer α σ) (t : TaskId) :
    Watched b (b.probeDiscarded t) := by
  refine .eases ⟨rfl, rfl, rfl, rfl⟩ (.refl _) ⟨[], ?_, by simp⟩
  rw [List.append_nil]
  refine kinds_of_orders (orders_modify b.tasks t fun task => ?_)
  split
  · rfl
  · rfl

variable [DecidableEq α]

/-! ### Connections that arrive -/

/-- A host that takes a connection fares no worse. -/
theorem isStarved_add {host : Host α (Link α)} {l : Link α}
    (hs : (host.add l).1.isStarved = true) : host.isStarved = true := by
  rw [Host.isStarved, Host.status_add] at hs
  split at hs
  · simp at hs
  · exact hs

theorem isStarved_add_check {host : Host α (Link α)} (l : Link α) (check : Option TaskId)
    (hs : { (host.add l).1 with check }.isStarved = true) : host.isStarved = true :=
  isStarved_add hs

theorem watched_poolAndOffer (b : Balancer α σ) (s : Selection α σ) (h : HostId) (l : Link α) :
    Watched b (b.poolAndOffer s h l).1 := by
  cases hh : b.hosts[h]? with
  | none =>
    unfold Balancer.poolAndOffer
    rw [hh]
    exact .refl b
  | some host =>
    by_cases hc : host.status = .closed
    · rw [Balancer.poolAndOffer_of_closed hh s l hc]
      exact .note ⟨rfl, rfl, rfl, rfl⟩ rfl rfl
    by_cases hu : host.status = .unhealthy
    · rw [Balancer.poolAndOffer_of_unhealthy hh s l hu]
      refine Watched.trans ?_ ((watched_recordHosts _).trans (watched_offer _ s l))
      exact .set hh (isStarved_add_check l none) (orders_cancelIn _ _ _)
    · rw [Balancer.poolAndOffer_of_ne hh s l hc hu]
      exact (Watched.set hh isStarved_add rfl).trans (watched_offer _ s l)

theorem Turn.watched {e : Event α σ} {i : SelectionId} {s : Selection α σ}
    {r : Balancer α σ × Selection α σ} (ht : Turn b e i s r) : Watched b r.1 := by
  cases ht with
  | refused => exact .refl b
  | hostless | late => exact .note ⟨rfl, rfl, rfl, rfl⟩ rfl rfl
  | begins _ _ hp =>
    refine Watched.trans ?_ hp.watched
    exact .note ⟨rfl, rfl, rfl, rfl⟩ rfl rfl
  | @connected _ outcome _ h _ _ host b' l _ _ _ ho =>
    obtain ⟨connections, rfl⟩ := Balancer.connections_of_obtain ho
    refine Watched.trans ?_ (watched_poolAndOffer { b with connections } s h l)
    exact .note ⟨rfl, rfl, rfl, rfl⟩ rfl rfl
  | failed _ _ _ hp => exact (watched_connectFailed b _).trans hp.watched

theorem watched_probed (b : Balancer α σ) (t : TaskId) (outcome : DialOutcome) :
    Watched b (b.probed t outcome) := by
  have hp := b.probe_probed t outcome
  generalize b.probed t outcome = b' at hp ⊢
  cases hp with
  | idle => exact .refl b
  | @reached _ h host connections l hp =>
    obtain ⟨_, -, -, -, hh⟩ := hp
    by_cases hc : host.status = .closed
    · rw [Balancer.probeSucceeded_of_closed hc]
      exact .eases ⟨rfl, rfl, rfl, rfl⟩ (.refl _) (map_kind_start b.tasks t _)
    · obtain ⟨_, heq⟩ :=
        Balancer.probeSucceeded_of_ne (b := { b with connections }) (t := t) hh hc l
      rw [heq]
      exact .eases ⟨rfl, rfl, rfl, rfl⟩ (.set hh (isStarved_add_check l none))
        (map_kind_start b.tasks t _)
  | @missed h =>
    have hfinish : Watched b (b.modifyTask t (·.start .finished)) :=
      .eases ⟨rfl, rfl, rfl, rfl⟩ (.refl _) (map_kind_start b.tasks t _)
    refine hfinish.trans ?_
    obtain ⟨_, _, _, heq, heased, hk⟩ :=
      scheduleAttempt_eases (b.modifyTask t (·.start .finished)) h
    rw [heq]
    exact .eases ⟨rfl, rfl, rfl, rfl⟩ heased hk

/-! ### The table -/

/-- A batch that is applied has the table looked at in the end. -/
theorem applyBatch_observed (b : Balancer α σ) {batch : Batch α} (hn : lastEvents batch ≠ [])
    (ho : b.isClosed = false) : ∃ b₁ : Balancer α σ,
      b.applyBatch batch = b₁.observeTable ∧
      (b₁.setup = b.setup ∧ b₁.lifecycle = b.lifecycle ∧ b₁.monitor = b.monitor) ∧
      b₁.tasks.map Task.order = b.tasks.map Task.order := by
  have hempty : (lastEvents batch).isEmpty = false := by simpa using hn
  unfold Balancer.applyBatch
  simp only [hempty, ho, Bool.or_self, Bool.false_eq_true, ↓reduceIte]
  obtain ⟨_, _, _, happly⟩ := Balancer.applyEvents_footprint (lastEvents batch) (b, [])
  have horders := orders_applyEvents (lastEvents batch) (b, [])
  generalize (lastEvents batch).foldl Balancer.applyEvent (b, []) = r at happly horders ⊢
  obtain ⟨_, _, _, hclose⟩ := Balancer.closeRemoveds_footprint r.2 r.1
  refine ⟨_, rfl, ?_, by rw [orders_closeRemoveds, horders]⟩
  rw [hclose, happly]
  exact ⟨rfl, rfl, rfl⟩

theorem watched_applyBatch (b : Balancer α σ) (batch : Batch α) :
    Watched b (b.applyBatch batch) := by
  by_cases hquiet : ((lastEvents batch).isEmpty || b.isClosed) = true
  · unfold Balancer.applyBatch
    dsimp only
    rw [if_pos hquiet]
    exact .refl b
  · simp only [Bool.or_eq_true, List.isEmpty_iff, not_or, Bool.not_eq_true] at hquiet
    obtain ⟨b₁, heq, hsame, horders⟩ := applyBatch_observed b hquiet.1 hquiet.2
    rw [heq]
    exact .observed hsame ⟨[], by rw [List.append_nil, kinds_of_orders horders], by simp⟩

theorem watched_removeDrained (b : Balancer α σ) (a : α) : Watched b (b.removeDrained a) := by
  unfold Balancer.removeDrained
  dsimp only
  split
  · exact .refl b
  · split
    · exact .refl b
    · rename_i h _
      obtain ⟨_, _, _, hclose⟩ := (b.removeHost h).closeRemoved_footprint h
      refine .observed ?_ ⟨[], ?_, by simp⟩
      · rw [hclose]
        exact ⟨rfl, rfl, rfl⟩
      · rw [List.append_nil]
        exact kinds_of_orders (orders_closeRemoved (b.removeHost h) h)

/-! ### Steps -/

/-- **The table is watched** by every step that does not interrupt the
subscription. -/
theorem watched_step (b : Balancer α σ) {e : Event α σ} (he : ¬ b.Interrupts e) :
    Watched b (b.step e) := by
  by_cases hsel : e.Selects
  · obtain heq | ⟨_, _, r, ht, hstep, -⟩ := turn_step (b := b) hsel
    · rw [heq]
      exact .refl b
    · rw [hstep]
      exact ht.watched.trans (.note ⟨rfl, rfl, rfl, rfl⟩ rfl rfl)
  cases e with
  | close | drop => exact absurd trivial he
  | select | dialled | discarded => exact absurd trivial hsel
  | startReconciler =>
    simp only [Balancer.step, Balancer.startReconciler]
    split
    · exact .note ⟨rfl, rfl, rfl, rfl⟩ rfl rfl
    · exact .refl b
  | deliver | peerCloses | closeWillFail | callersChange =>
    exact .note ⟨rfl, rfl, rfl, rfl⟩ rfl rfl
  | takeNotice =>
    simp only [Balancer.step, Balancer.takeNotice]
    cases hn : b.nextNotice? with
    | none => exact .refl b
    | some n =>
      cases n with
      | batch events =>
        refine Watched.trans ?_ (watched_applyBatch _ events)
        exact .note ⟨rfl, rfl, rfl, rfl⟩ rfl rfl
      | failed reason => exact absurd ⟨.failed reason, hn, id⟩ he
      | ended => exact absurd ⟨.ended, hn, id⟩ he
  | takeCommand =>
    simp only [Balancer.step, Balancer.takeCommand]
    cases hn : b.nextCommand? with
    | none => exact .refl b
    | some c =>
      cases c with
      | resubscribe => exact absurd hn he
      | drained a =>
        refine Watched.trans ?_ (watched_removeDrained _ a)
        exact .note ⟨rfl, rfl, rfl, rfl⟩ rfl rfl
  | startTask t => exact watched_startTask b t
  | probed t outcome => exact watched_probed b t outcome
  | probeDiscarded t => exact watched_probeDiscarded b t
  | runClosing k =>
    obtain ⟨_, _, heq⟩ := b.runClosing_footprint k
    simp only [Balancer.step, heq]
    exact .note ⟨rfl, rfl, rfl, rfl⟩ rfl rfl
  | closeSettled =>
    simp only [Balancer.step, Balancer.closeSettled]
    split
    · rename_i hl
      have hne : b.lifecycle ≠ .running := by simp [hl]
      exact {
        setup := rfl
        running := fun hr => absurd hr hne
        shutDown := rfl
        pending := id
        starved := fun _ hr => absurd hr hne
        kinds := ⟨[], (List.append_nil _).symm, by simp⟩ }
    · exact .refl b

/-- Only a resubscribe that goes through counts as one. -/
theorem resubscribes_step (b : Balancer α σ) {e : Event α σ}
    (he : ¬ (e = .takeCommand ∧ b.nextCommand? = some .resubscribe)) :
    (b.step e).metrics.resubscribes = b.metrics.resubscribes := by
  by_cases hquiet : e.Selects ∨ e.Aside
  · exact (reconciler_step hquiet).2.2
  by_cases hends : e.Ends
  · obtain ⟨-, heq⟩ | ⟨_, _, _, _, _, heq, -⟩ := b.ends_footprint hends
    · rw [heq]
    · rw [heq]
  cases e with
  | close | drop => exact absurd trivial hends
  | deliver => rfl
  | startReconciler =>
    simp only [Balancer.step, Balancer.startReconciler]
    split
    · rfl
    · rfl
  | takeNotice =>
    obtain ⟨_, _, _, _, _, _, _, _, _, heq, hm⟩ := b.takeNotice_footprint
    simp only [Balancer.step, heq]
    exact hm
  | takeCommand =>
    simp only [Balancer.step, Balancer.takeCommand]
    cases hn : b.nextCommand? with
    | none => rfl
    | some c =>
      cases c with
      | resubscribe => exact absurd ⟨rfl, hn⟩ he
      | drained a =>
        obtain ⟨_, _, _, _, _, _, _, heq, hm⟩ :=
          Balancer.removeDrained_footprint { b with commands := b.commands.tail } a
        simp only [heq]
        exact hm
  | select | dialled | discarded => exact absurd (.inl trivial) hquiet
  | _ => exact absurd (.inr trivial) hquiet

end

end HostRotation
