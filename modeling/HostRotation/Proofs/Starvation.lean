/-
# A starved table gets a resubscribe

While health checks are on, every step that starves the table leaves a
resubscribe pending (`pending_of_starving`). It stays pending until it goes
through, so a table that is still starved has one pending or has seen one go
through since (`starved_run`). From then on the next batch that leaves the
table starved arms another one, and so does the next pass that finds no active
host, because such a pass has seen every host of the table expired or
unhealthy. Without health checks only the loss of the subscription arms one.
-/
import HostRotation.Proofs.Selections
import HostRotation.Proofs.Subscriptions

namespace HostRotation

variable {α σ : Type}

section

variable {b : Balancer α σ} {s : Selection α σ} {pass : Pass} {rest : List HostId}
  {r : Balancer α σ × Selection α σ} {i : SelectionId} {target : String} {n : Nat}

theorem pending_loseSubscription (hs : b.monitor.shutDown = false) :
    b.loseSubscription.monitor.pending.isSome = true :=
  pending_scheduleResubscribe (b := { b with reconciler := .idle }) hs

/-- A pass that ends so has begun no connect, seen no active host, and had the
table looked at. -/
theorem Passage.noActiveHost (hp : Passage b s pass rest r)
    (hr : r.2.result? = some (.error (.noActiveHost target n))) :
    pass.attempted = 0 ∧
      (∀ h ∈ rest, ∀ host, b.hosts[h]? = some host → host.status ≠ .active) ∧
      ∃ b', Browses b b' ∧ ∃ metrics, r.1 = { b'.observeTable with metrics } := by
  cases hp with
  | @exhausted b' shown hb hn =>
    unfold Balancer.endPass at hr ⊢
    split
    · rename_i hzero
      exact ⟨hzero, hn, b', hb, _, rfl⟩
    · rename_i hpos
      simp [if_neg hpos, Balancer.reject, Selection.finish, Selection.result?] at hr
  | found => simp [Selection.result?_finish] at hr
  | dials => simp [Balancer.beginDial, Selection.result?] at hr

/-- When a pass begins and finds no active host, the table is starved. -/
theorem starved_of_noActiveHost {start : Nat} {b' : Balancer α σ} (htidy : Tidy b.hosts b.table [])
    (hs : b.rotation.start? b.table.length = some start)
    (hn : ∀ h ∈ cyclicFrom start b.table, ∀ host, b.hosts[h]? = some host →
      host.status ≠ .active)
    (ht : b'.table = b.table)
    (hb : ∀ (h : HostId) (host : Host α (Link α)), b'.hosts[h]? = some host →
      ∃ pool, b.hosts[h]? = some { host with pool }) : b'.isStarved = true := by
  refine isStarved_iff.mpr ⟨fun hnil => ?_, fun h hm host hh => ?_⟩
  · rw [ht] at hnil
    simp [hnil, Rotation.start?] at hs
  · rw [ht] at hm
    obtain ⟨pool, hh⟩ := hb h host hh
    have hactive := hn h (mem_cyclicFrom.mpr hm) { host with pool } hh
    have hclosed : ({ host with pool } : Host α (Link α)).status ≠ .closed :=
      htidy.not_closed hh hm
    cases hst : host.status with
    | active => exact absurd hst hactive
    | closed => exact absurd hst hclosed
    | expired | unhealthy => simp [Host.isStarved, hst]

theorem lastEvents_ne_nil [DecidableEq α] : ∀ {batch : Batch α}, batch ≠ [] → lastEvents batch ≠ []
  | [], h => absurd rfl h
  | e :: es, _ => by
    unfold lastEvents
    split
    · rename_i hlater
      obtain ⟨e', he', -⟩ := List.any_eq_true.mp hlater
      exact lastEvents_ne_nil (List.ne_nil_of_mem he')
    · exact List.cons_ne_nil _ _

variable [DecidableEq α]

theorem running_of_step {e : Event α σ} (hr : (b.step e).lifecycle = .running) :
    b.lifecycle = .running := by
  by_contra hne
  exact Balancer.ended_run hne [e] hr

/-! ### Steps that starve the table -/

theorem pending_of_starving (hh : Halted b.lifecycle b.reconciler b.monitor)
    (hc : b.setup.health.isSome = true) {e : Event α σ} (hr : (b.step e).lifecycle = .running)
    (hs : b.isStarved = false) (hs' : (b.step e).isStarved = true) :
    (b.step e).monitor.pending.isSome = true := by
  have hrunning : b.lifecycle = .running := running_of_step hr
  have hopen := hh.not_shutDown hrunning
  by_cases he : b.Interrupts e
  · cases e with
    | takeNotice =>
      obtain ⟨n, hn, hlost⟩ := he
      simp only [Balancer.step, Balancer.takeNotice, hn]
      cases n with
      | batch events => exact absurd trivial hlost
      | failed | ended => exact pending_loseSubscription hopen
    | takeCommand =>
      -- A resubscribe leaves the hosts alone.
      have hn : b.nextCommand? = some .resubscribe := he
      simp only [Balancer.step, Balancer.takeCommand, hn] at hs'
      rw [show b.isStarved = true from hs'] at hs
      simp at hs
    | close => exact absurd hr (b.lifecycle_ends trivial)
    | drop => exact absurd hr (b.lifecycle_ends trivial)
    | _ => exact he.elim
  · rcases (watched_step b he).starved hc hrunning hopen hs' with hst | hp
    · simp [hs] at hst
    · exact hp

/-- A batch that leaves the table starved arms a resubscribe. -/
theorem pending_of_batch (hh : Halted b.lifecycle b.reconciler b.monitor)
    (hc : b.setup.health.isSome = true) (hr : b.lifecycle = .running)
    (ha : b.announced .takeNotice ≠ []) (hs : (b.step .takeNotice).isStarved = true) :
    (b.step .takeNotice).monitor.pending.isSome = true := by
  have hopen := hh.not_shutDown hr
  have hn := nextNotice?_of_announced ha
  generalize b.announced .takeNotice = events at ha hn
  simp only [Balancer.step, Balancer.takeNotice, hn] at hs ⊢
  obtain ⟨b₁, heq, ⟨hsetup, hlifecycle, hmonitor⟩, -⟩ :=
    applyBatch_observed { b with subscriptions := b.advanced } (lastEvents_ne_nil ha)
      (by simp [Balancer.isClosed, hr])
  have hs₁ : b₁.observeTable.isStarved = true := heq ▸ hs
  rw [isStarved_observeTable] at hs₁
  have hp := pending_observeTable (hsetup ▸ hc) (hlifecycle.trans hr) (hmonitor ▸ hopen) hs₁
  exact heq ▸ hp

/-! ### From then on -/

/-- A resubscribe that is pending stays so until it goes through. -/
theorem pending_kept {e : Event α σ}
    (hr : (b.step e).lifecycle = .running)
    (he : ¬ (e = .takeCommand ∧ b.nextCommand? = some .resubscribe))
    (hp : b.monitor.pending.isSome = true) : (b.step e).monitor.pending.isSome = true := by
  have hrunning : b.lifecycle = .running := running_of_step hr
  by_cases hint : b.Interrupts e
  · cases e with
    | takeNotice =>
      obtain ⟨n, hn, hlost⟩ := hint
      simp only [Balancer.step, Balancer.takeNotice, hn]
      cases n with
      | batch events => exact absurd trivial hlost
      | failed | ended => exact isSome_scheduleResubscribe hp
    | takeCommand => exact absurd ⟨rfl, hint⟩ he
    | close => exact absurd hr (b.lifecycle_ends trivial)
    | drop => exact absurd hr (b.lifecycle_ends trivial)
    | _ => exact hint.elim
  · exact (watched_step b hint).pending hp

/-- A resubscribe that goes through is counted. -/
theorem resubscribes_takeCommand (hn : b.nextCommand? = some .resubscribe) :
    (b.step .takeCommand).metrics.resubscribes = b.metrics.resubscribes + 1 := by
  simp only [Balancer.step, Balancer.takeCommand, hn]
  rfl

theorem resubscribes_le_step (b : Balancer α σ) (e : Event α σ) :
    b.metrics.resubscribes ≤ (b.step e).metrics.resubscribes := by
  by_cases he : e = .takeCommand ∧ b.nextCommand? = some .resubscribe
  · obtain ⟨rfl, hn⟩ := he
    rw [resubscribes_takeCommand hn]
    exact Nat.le_succ _
  · exact Nat.le_of_eq (resubscribes_step b he).symm

theorem resubscribes_le_run : ∀ (events : List (Event α σ)) (b : Balancer α σ),
    b.metrics.resubscribes ≤ (b.run events).metrics.resubscribes
  | [], _ => Nat.le_refl _
  | e :: events, b =>
    Nat.le_trans (resubscribes_le_step b e) (resubscribes_le_run events (b.step e))

/-- A table that is starved became so at some step, and since then a
resubscribe is pending or went through. -/
theorem starved_run (setup : Setup α) (tape : Tape) (callers : σ)
    (hc : setup.health.isSome = true) (events : List (Event α σ)) :
    let b₀ := Balancer.start setup tape callers
    let b := b₀.run events
    b.lifecycle = .running → b.isStarved = true → ∃ before e after, events = before ++ e :: after ∧
      (b₀.run before).isStarved = false ∧
      (∀ more, more <+: after → (((b₀.run before).step e).run more).isStarved = true) ∧
      (b.monitor.pending.isSome = true ∨
        ((b₀.run before).step e).metrics.resubscribes < b.metrics.resubscribes) := by
  intro b₀
  induction events using List.reverseRecOn with
  | nil =>
    intro b _ hs
    simp [b, b₀, Balancer.run, Balancer.start, Balancer.isStarved] at hs
  | append_singleton events e ih =>
    rw [Balancer.run_append]
    intro b' hr hs
    have hstep : b' = (b₀.run events).step e := rfl
    have hh : Halted (b₀.run events).lifecycle (b₀.run events).reconciler
      (b₀.run events).monitor := halted_run setup tape callers events
    have hc' : (b₀.run events).setup.health.isSome = true := by
      rw [Balancer.setup_run]
      exact hc
    cases hbefore : (b₀.run events).isStarved with
    | false =>
      refine ⟨events, e, [], rfl, hbefore, fun more hmore => ?_, .inl ?_⟩
      · rw [List.prefix_nil.mp hmore]
        exact hs
      · exact pending_of_starving hh hc' hr hbefore hs
    | true =>
      obtain ⟨before, e₁, after, rfl, hfed, hall, hpending⟩ := ih (running_of_step hr) hbefore
      have hsplit : b₀.run (before ++ e₁ :: after) = ((b₀.run before).step e₁).run after :=
        Balancer.run_append b₀ before (e₁ :: after)
      refine ⟨before, e₁, after ++ [e], by simp, hfed, fun more hmore => ?_, ?_⟩
      · rcases List.prefix_concat_iff.mp hmore with rfl | hmore
        · rw [Balancer.run_append, ← hsplit]
          exact hs
        · exact hall more hmore
      · have hcount := resubscribes_le_run after ((b₀.run before).step e₁)
        rw [← hsplit] at hcount
        rcases hpending with hpending | hsince
        · by_cases hres : e = .takeCommand ∧
              (b₀.run (before ++ e₁ :: after)).nextCommand? = some .resubscribe
          · obtain ⟨rfl, hn⟩ := hres
            have hone := resubscribes_takeCommand hn
            exact .inr (Nat.lt_of_le_of_lt hcount (by rw [hstep, hone]; exact Nat.lt_succ_self _))
          · exact .inl (pending_kept hr hres hpending)
        · exact .inr (Nat.lt_of_lt_of_le hsince (resubscribes_le_step _ e))

/-! ### Passes that find no active host -/

/-- A selection that waits for a connect has begun it. -/
theorem Turn.attempted_pos {e : Event α σ} (ht : Turn b e i s r) {h : HostId}
    (hphase : r.2.phase = .connecting h pass rest) : 0 < pass.attempted := by
  have hdials {b : Balancer α σ} {pass' : Pass} {rest' : List HostId}
      (hp : Passage b s pass' rest' r) : 0 < pass.attempted := by
    cases hp with
    | exhausted =>
      unfold Balancer.endPass at hphase
      split at hphase
      · simp [Balancer.reject, Selection.finish] at hphase
      · simp [Balancer.reject, Selection.finish] at hphase
    | found => simp [Selection.finish] at hphase
    | dials =>
      simp only [Balancer.beginDial, SelectionPhase.connecting.injEq] at hphase
      rw [← hphase.2.1]
      exact Nat.succ_pos _
  cases ht with
  | refused | hostless | late => simp [Balancer.reject, Selection.finish] at hphase
  | begins _ _ hp => exact hdials hp
  | failed _ _ _ hp => exact hdials hp
  | @connected _ _ _ h' _ _ host b' l _ _ hh ho =>
    have hends := poolAndOffer_phase ((Balancer.obtain_ok ho).1 ▸ hh) s l
    split at hends
    · simp [hends] at hphase
    · simp [Selection.result?, hphase] at hends

theorem attempted_pos_run (setup : Setup α) (tape : Tape) (callers : σ)
    (events : List (Event α σ)) :
    ∀ (i : SelectionId) (s : Selection α σ) (h : HostId) (pass : Pass) (rest : List HostId),
      ((Balancer.start setup tape callers).run events).selections[i]? = some s →
      s.phase = .connecting h pass rest → 0 < pass.attempted := by
  induction events using List.reverseRecOn with
  | nil => simp [Balancer.run, Balancer.start]
  | append_singleton events e ih =>
    intro i s h pass rest hi hphase
    rw [Balancer.run_append] at hi
    obtain hsame | ⟨s₀, r, ht, -, -, hr⟩ :=
      selection_step ((Balancer.start setup tape callers).run events) e i
    · exact ih i s h pass rest (hsame ▸ hi) hphase
    · obtain rfl := Option.some.inj (hr.symm.trans hi)
      exact ht.attempted_pos hphase

/-- When a selection ends for want of an active host, the table is starved and
a resubscribe is pending. -/
theorem pending_of_noActiveHost (htidy : Tidy b.hosts b.table [])
    (hh : Halted b.lifecycle b.reconciler b.monitor)
    (hpos : ∀ (i : SelectionId) (s : Selection α σ) (h : HostId) (pass : Pass)
      (rest : List HostId), b.selections[i]? = some s → s.phase = .connecting h pass rest →
      0 < pass.attempted)
    (hc : b.setup.health.isSome = true) {e : Event α σ} (hnone : b.result? i = none)
    (hr : (b.step e).result? i = some (.error (.noActiveHost target n))) :
    (b.step e).isStarved = true ∧ (b.step e).monitor.pending.isSome = true := by
  obtain hsame | ⟨s, r, ht, hstep, -, hi⟩ := selection_step b e i
  · unfold Balancer.result? at hnone hr
    rw [hsame, hnone] at hr
    simp at hr
  have hres : r.2.result? = some (.error (.noActiveHost target n)) := by
    simpa [Balancer.result?, hi] using hr
  clear hr
  cases ht with
  | refused | hostless | late =>
    simp [Balancer.reject, Selection.finish, Selection.result?] at hres
  | @connected _ _ _ h' _ _ host b' l _ _ hhost ho =>
    have hends := poolAndOffer_phase ((Balancer.obtain_ok ho).1 ▸ hhost) s l
    split at hends
    · simp [hends, Selection.result?] at hres
    · simp [hres] at hends
  | failed hi hp _ hpass =>
    have hzero := (hpass.noActiveHost hres).1
    exact absurd (hpos _ _ _ _ _ hi hp) (by simpa using hzero)
  | @begins accepts start r ho hs hpass =>
    obtain ⟨-, hactive, b', hb, _, hend⟩ := hpass.noActiveHost hres
    have hrunning : b.lifecycle = .running := by simpa [Balancer.isClosed] using ho
    have hopen := hh.not_shutDown hrunning
    obtain ⟨htable, hsetup, hlifecycle, hmonitor⟩ : b'.table = b.table ∧ b'.setup = b.setup ∧
        b'.lifecycle = b.lifecycle ∧ b'.monitor = b.monitor := by
      rw [hb.rest]
      exact ⟨rfl, rfl, rfl, rfl⟩
    have hstarved : b'.isStarved = true :=
      starved_of_noActiveHost htidy hs hactive htable fun _ _ hhost => hb.before hhost
    rw [hstep, hend]
    refine ⟨(isStarved_observeTable b').trans hstarved, ?_⟩
    exact pending_observeTable (hsetup ▸ hc) (hlifecycle.trans hrunning) (hmonitor ▸ hopen) hstarved

/-! ### Without health checks -/

/-- Without health checks, only losing the subscription schedules a
resubscribe. -/
theorem loses_of_scheduled (hc : b.setup.health = none) {e : Event α σ} {t : TaskId} {task : Task}
    (hnew : b.tasks.length ≤ t) (ht : (b.step e).tasks[t]? = some task)
    (hk : task.kind = .resubscribe) :
    e = .takeNotice ∧ ∃ n, b.nextNotice? = some n ∧ ¬ n.GoesOn := by
  have hkind : ((b.step e).tasks.map Task.kind)[t]? = some .resubscribe := by simp [ht, hk]
  have hold (hsame : (b.step e).tasks.map Task.kind = b.tasks.map Task.kind) : False := by
    rw [hsame, List.getElem?_eq_none (by simpa using hnew)] at hkind
    simp at hkind
  by_cases he : b.Interrupts e
  · cases e with
    | takeNotice => exact ⟨rfl, he⟩
    | takeCommand =>
      have hn : b.nextCommand? = some .resubscribe := he
      refine (hold ?_).elim
      simp only [Balancer.step, Balancer.takeCommand, hn]
      rfl
    | close => exact (hold (kinds_of_orders (orders_close b))).elim
    | drop => exact (hold (kinds_of_orders (orders_drop b))).elim
    | _ => exact he.elim
  · obtain ⟨new, heq, hnot⟩ := (watched_step b he).kinds
    rw [heq, List.getElem?_append_right (by simpa using hnew)] at hkind
    exact absurd (List.mem_of_getElem? hkind) (hnot hc)

/-- **Starvation always arms a resubscribe.** Take any run. With health checks
on, a step of the running balancer that starves the table leaves a resubscribe
pending. A table that is starved was starved by some step and has been so
since; a resubscribe is pending, or one went through since that step. Whenever
a batch that says anything leaves the table starved, or a selection ends for
want of an active host, a resubscribe is pending afterwards. With health checks
off, which is what a negative threshold means, nothing but a subscription that
fails or ends ever schedules one. -/
theorem starvation_arms (setup : Setup α) (tape : Tape) (callers : σ)
    (events : List (Event α σ)) :
    let b₀ := Balancer.start setup tape callers
    let b := b₀.run events
    (setup.health.isSome = true →
      (∀ e, (b.step e).lifecycle = .running → b.isStarved = false →
        (b.step e).isStarved = true → (b.step e).monitor.pending.isSome = true) ∧
      (b.lifecycle = .running → b.isStarved = true →
        ∃ before e after, events = before ++ e :: after ∧ (b₀.run before).isStarved = false ∧
          (∀ more, more <+: after → (((b₀.run before).step e).run more).isStarved = true) ∧
          (b.monitor.pending.isSome = true ∨
            ((b₀.run before).step e).metrics.resubscribes < b.metrics.resubscribes)) ∧
      (b.lifecycle = .running → b.announced .takeNotice ≠ [] →
        (b.step .takeNotice).isStarved = true →
        (b.step .takeNotice).monitor.pending.isSome = true) ∧
      ∀ e i target n, b.result? i = none →
        (b.step e).result? i = some (.error (.noActiveHost target n)) →
        (b.step e).isStarved = true ∧ (b.step e).monitor.pending.isSome = true) ∧
    (setup.health = none → ∀ (e : Event α σ) (t : TaskId) (task : Task), b.tasks.length ≤ t →
      (b.step e).tasks[t]? = some task → task.kind = .resubscribe →
      e = .takeNotice ∧ ∃ n, b.nextNotice? = some n ∧ ¬ n.GoesOn) ∧
    ∀ builder : SettingsBuilder, builder.build = .ok setup.toSettings →
      (setup.health = none ↔ builder.threshold < 0) := by
  intro b₀ b
  have hsetup : b.setup = setup := Balancer.setup_run b₀ events
  have hh : Halted b.lifecycle b.reconciler b.monitor := halted_run setup tape callers events
  refine ⟨fun hc => ?_, fun hc e t task hnew ht hk => ?_, fun _ hb =>
    SettingsBuilder.health_build hb⟩
  · have hc' : b.setup.health.isSome = true := hsetup ▸ hc
    refine ⟨fun e hr hs hs' => pending_of_starving hh hc' hr hs hs',
      starved_run setup tape callers hc events, fun hr ha hs => pending_of_batch hh hc' hr ha hs,
      fun e i target n hnone hr => ?_⟩
    exact pending_of_noActiveHost (tidy_run setup tape callers events) hh
      (attempted_pos_run setup tape callers events) hc' hnone hr
  · exact loses_of_scheduled (hsetup ▸ hc) hnew ht hk

end

/-- The connect to the only host failed, which made it unhealthy; the
resubscribe this armed went through, and the table is starved still. -/
def starvedBalancer : Balancer Nat Unit :=
  (freshBalancer true).run [.startReconciler, .deliver (.batch [⟨1, .available⟩]), .takeNotice,
    .select (.pure fun _ => true), .dialled 0 (.refused "down"), .startTask 1, .takeCommand]

/-- A selection arms the next resubscribe. -/
theorem starvation_arms_starved :
    let b' := starvedBalancer.step (.select (.pure fun _ => true))
    starvedBalancer.isStarved = true ∧ starvedBalancer.monitor.pending = none ∧
      starvedBalancer.metrics.resubscribes = 1 ∧
      b'.result? 1 = some (.error (.noActiveHost "service" 1)) ∧
      b'.monitor.pending.isSome = true := by
  have hresult : (starvedBalancer.step (.select (.pure fun _ => true))).result? 1 =
      some (.error (.noActiveHost "service" 1)) := by rfl
  obtain ⟨-, -, -, hpending⟩ := (starvation_arms (plainSetup true) (.ofSeed 0) () _).1 rfl
  exact ⟨by decide, by decide, by decide, hresult, (hpending _ 1 "service" 1 rfl hresult).2⟩

end HostRotation
