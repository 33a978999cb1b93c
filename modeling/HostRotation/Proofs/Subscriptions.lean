/-
# Discovery is heard

While a balancer runs, the resubscribe that is pending is under way, in one
piece: a task that waits to start, or a command that the reconciler has not
taken. `Armed` says that there is one such piece at most, `Awaited` that there
is one.

The reconciler listens to its last subscription, from which it has heard
nothing but batches, or it is idle, and then a resubscribe is pending
(`Tuned`). What it applied along a run is, subscription by subscription, all
it heard of each, in order. So the balancer is never left deaf (`never_deaf`).
-/
import HostRotation.Proofs.Watch
import HostRotation.Proofs.Resubscribes
import Mathlib.Data.List.Induction

namespace HostRotation

variable {α σ : Type}

/-! ### What was heard -/

/-- The events that a notice brings. -/
def Notice.events : Notice α → Batch α
  | .batch events => events
  | .failed _ | .ended => []

namespace Subscription

/-- The notices taken from a subscription. -/
def heard (s : Subscription α) : List (Notice α) := s.notices.take s.taken

theorem heard_deliver {s : Subscription α} (hs : s.taken ≤ s.notices.length) (n : Notice α) :
    (s.deliver n).heard = s.heard :=
  List.take_append_of_le_length hs

theorem lt_of_next? {s : Subscription α} {n : Notice α} (hn : s.next? = some n) :
    s.taken < s.notices.length :=
  (List.getElem?_eq_some_iff.mp hn).1

theorem heard_take {s : Subscription α} {n : Notice α} (hn : s.next? = some n) :
    s.take.heard = s.heard ++ [n] := by
  have hn' : s.notices[s.taken]? = some n := hn
  rw [heard, heard, take, List.take_add_one, hn']
  rfl

end Subscription

namespace Balancer

/-- The resubscribes that wait to start. -/
def scheduledResubscribes (b : Balancer α σ) : Nat :=
  b.tasks.countP fun task => task.kind = .resubscribe && !task.started

/-- The resubscribes that the reconciler has not taken. -/
def queuedResubscribes [DecidableEq α] (b : Balancer α σ) : Nat :=
  b.commands.countP fun c => c = .resubscribe

/-- Every notice taken, subscription by subscription. -/
def heard (b : Balancer α σ) : List (Notice α) := b.subscriptions.flatMap Subscription.heard

end Balancer

/-! ### The pending resubscribe is under way -/

/-- What is pending is a task that waits to start, or has its command on the
way. -/
def Awaited (pending : Option TaskId) (tasks : List Task) (commands : List (Command α)) : Prop :=
  ∀ t, pending = some t →
    (∃ task, tasks[t]? = some task ∧ task.kind = .resubscribe ∧ task.phase = .waiting ∧
      task.started = false ∧ task.cancelled = false) ∨ .resubscribe ∈ commands

namespace Awaited

variable {pending : Option TaskId} {tasks tasks' : List Task}
  {commands commands' : List (Command α)}

/-- No resubscribe changes, and no command is lost. -/
theorem frame (hw : Awaited pending tasks commands) (hk : KeepsTasks .resubscribe tasks tasks')
    (hc : .resubscribe ∈ commands → .resubscribe ∈ commands') :
    Awaited pending tasks' commands' := by
  intro t ht
  rcases hw t ht with ⟨task, htask, hkind, hrest⟩ | hmem
  · exact .inl ⟨task, (hk t task hkind).mpr htask, hkind, hrest⟩
  · exact .inr (hc hmem)

theorem keep (hw : Awaited pending tasks commands) (hk : KeepsTasks .resubscribe tasks tasks') :
    Awaited pending tasks' commands :=
  hw.frame hk id

end Awaited

section

variable [DecidableEq α] {e : Event α σ} {m m' : Moment α σ}

theorem awaited_move (hmove : Move e m m')
    (ha : Attended m.setup.health m.hosts m.tasks m.monitor)
    (hw : Awaited m.monitor.pending m.tasks m.commands) :
    Awaited m'.monitor.pending m'.tasks m'.commands := by
  -- What is in the slot of a host is a health attempt.
  have hcheck {h : HostId} {host : Host α (Link α)} (hh : m.hosts[h]? = some host) :
      ∀ t, host.check = some t → ∃ task, m.tasks[t]? = some task ∧ task.kind ≠ .resubscribe :=
    (ha.checked h host hh).ne_kind (by simp)
  cases hmove with
  | note | listen | lose | settle | fail | pool | appear | reannounce | withdraw => exact hw
  | ignore | retire | closeNone | opens | reopen | closeLink | handOver => exact hw
  | beginClosing | peerCloses | closeWillFail => exact hw
  | resubscribe | shut => exact fun t ht => by simp at ht
  | heed _ _ hc => exact hw.frame (.refl _ _) fun hmem => by simpa [hc] using hmem
  | prune => exact hw.frame (.refl _ _) (List.mem_append_left _)
  | arm delay =>
    intro t ht
    obtain rfl := Option.some.inj ht
    exact .inl ⟨{ kind := .resubscribe, delay }, by simp, rfl, rfl, rfl, rfl⟩
  | fire => exact fun _ _ => .inr (by simp)
  | attempt _ ht hk => exact hw.keep (.modify ht (by simp [hk]) _ fun _ => rfl)
  | skip ht hk => exact hw.keep (.modify ht (by simp [hk]) _ fun _ => rfl)
  | reach _ _ ht hk => exact hw.keep (.modify ht (by simp [hk]) _ fun _ => rfl)
  | discard ht hk => exact hw.keep (.modify ht (by simp [hk]) _ fun _ => rfl)
  | unplanned ht hk => exact hw.keep (.modify ht (by simp [hk]) _ fun _ => rfl)
  | @discarded t task ht hp =>
    intro t' ht'
    rcases hw t' ht' with ⟨task', htask', hkind, hwaits, hrest⟩ | hmem
    · -- The task that waits is another one.
      have hne : t ≠ t' := by
        rintro rfl
        obtain rfl := Option.some.inj (ht.symm.trans htask')
        simp [hp] at hwaits
      exact .inl ⟨task', by rwa [List.getElem?_modify_ne _ _ hne], hkind, hwaits, hrest⟩
    · exact .inr hmem
  | retry _ _ ht hk _ hh =>
    exact hw.keep (.replace ht (by simp [hk]) (by simp) _ fun t' ht' =>
      kind_modify_append (·.start .finished) (fun _ => rfl) _ (hcheck hh t' ht'))
  | @giveUp t task h _ delay _ ht hk =>
    refine hw.keep (.replace (o := some m.tasks.length) ht (by simp [hk]) (by simp) _
      fun t' ht' => ?_)
    obtain rfl := Option.some.inj ht'
    exact ⟨{ kind := .health h, delay }, by simp, by simp⟩
  | @fallSick h host plan delay _ hh _ hf =>
    rw [(ha.checked h host hh).check_eq_none (by simp [Host.active_of_recordFailure hf])]
    exact hw.keep (.append _ _ (by simp))
  | welcome _ hh => exact hw.keep (.cancelIn _ (hcheck hh))
  | revive _ _ hh => exact hw.keep (.cancelIn _ (hcheck hh))
  | expire _ _ hh => exact hw.keep (.cancelIn _ (hcheck hh))
  | expireOut _ _ hh => exact hw.keep (.cancelIn _ (hcheck hh))
  | closeHost _ _ hh => exact hw.keep (.cancelIn _ (hcheck hh))

/-- Only a balancer that is not running has its reconciler stopped or its
monitor shut down. -/
structure Halted (lifecycle : Lifecycle) (reconciler : ReconcilerPhase) (monitor : Monitor) :
    Prop where
  stopped : reconciler = .stopped → lifecycle ≠ .running
  shutDown : monitor.shutDown = true → lifecycle ≠ .running

theorem Halted.not_shutDown {lifecycle : Lifecycle} {reconciler : ReconcilerPhase}
    {monitor : Monitor} (hh : Halted lifecycle reconciler monitor)
    (hr : lifecycle = .running) : monitor.shutDown = false :=
  Bool.eq_false_iff.mpr fun hd => hh.shutDown hd hr

theorem halted_move (hmove : Move e m m') (hh : Halted m.lifecycle m.reconciler m.monitor) :
    Halted m'.lifecycle m'.reconciler m'.monitor := by
  cases hmove with
  | note | heed | fire | attempt | skip | reach | discard | discarded | retry | giveUp => exact hh
  | unplanned | prune | fail | fallSick | welcome | pool | appear | reannounce => exact hh
  | revive | expire | expireOut | withdraw | ignore | retire | closeHost | closeNone => exact hh
  | opens | reopen | closeLink | handOver | beginClosing | peerCloses | closeWillFail => exact hh
  | listen | lose | resubscribe => exact ⟨by simp, hh.shutDown⟩
  | shut _ _ hl => exact ⟨fun _ => hl, fun _ => hl⟩
  | settle => exact ⟨fun _ => by simp, fun _ => by simp⟩
  | arm => exact ⟨hh.stopped, hh.shutDown⟩

theorem halted_run (setup : Setup α) (tape : Tape) (callers : σ) (events : List (Event α σ)) :
    let b := (Balancer.start setup tape callers).run events
    Halted b.lifecycle b.reconciler b.monitor := by
  obtain ⟨_, hh⟩ := Balancer.run_keeps
    (I := fun m => Halted m.lifecycle m.reconciler m.monitor) events
    (fun _ _ _ _ hmove => halted_move hmove) (Balancer.start setup tape callers) [] []
    ⟨by simp [Balancer.start], by simp [Balancer.start]⟩
  exact hh

theorem awaited_run (setup : Setup α) (tape : Tape) (callers : σ) (events : List (Event α σ)) :
    let b := (Balancer.start setup tape callers).run events
    Awaited b.monitor.pending b.tasks b.commands := by
  obtain ⟨_, -, hw⟩ := Balancer.run_keeps
    (I := fun m => Attended m.setup.health m.hosts m.tasks m.monitor ∧
      Awaited m.monitor.pending m.tasks m.commands) events
    (fun _ _ _ _ hmove h => ⟨attended_move hmove h.1, awaited_move hmove h.1 h.2⟩)
    (Balancer.start setup tape callers) [] []
    ⟨.start setup.health, fun t ht => by simp [Balancer.start] at ht⟩
  exact hw

/-! ### Counting -/

theorem countP_le_one {β : Type} {p : β → Bool} : ∀ {l : List β},
    (l.Pairwise fun x y => p x = true → p y = false) → l.countP p ≤ 1
  | [], _ => by simp
  | x :: l, h => by
    obtain ⟨hx, hl⟩ := List.pairwise_cons.mp h
    by_cases hp : p x = true
    · have hnone : l.countP p = 0 := List.countP_eq_zero.mpr fun y hy => by simp [hx y hy hp]
      simp [hnone, hp]
    · simpa [List.countP_cons, hp] using countP_le_one hl

/-- What is pending is under way once, and nothing is if nothing is pending. -/
theorem underWay_eq {b : Balancer α σ} (ha : Armed b.monitor.pending b.tasks b.commands)
    (hw : Awaited b.monitor.pending b.tasks b.commands) :
    b.scheduledResubscribes + b.queuedResubscribes =
      if b.monitor.pending.isSome = true then 1 else 0 := by
  have hqueued : b.queuedResubscribes ≤ 1 := countP_le_one <| ha.once.imp fun h hc => by
    simpa using h (by simpa using hc)
  have hscheduled : b.scheduledResubscribes ≤ 1 := by
    refine countP_le_one (List.pairwise_iff_getElem.mpr fun i j hi hj hlt hp => ?_)
    simp only [Bool.and_eq_true, decide_eq_true_eq, Bool.not_eq_true'] at hp
    by_contra hq
    simp only [Bool.not_eq_false, Bool.and_eq_true, decide_eq_true_eq, Bool.not_eq_true'] at hq
    have hip := ha.waiting i _ (List.getElem?_eq_getElem hi) hp.1 hp.2
    have hjp := ha.waiting j _ (List.getElem?_eq_getElem hj) hq.1 hq.2
    rw [hip] at hjp
    exact Nat.ne_of_lt hlt (Option.some.inj hjp)
  have hqueued_iff : 0 < b.queuedResubscribes ↔ .resubscribe ∈ b.commands := by
    simp [Balancer.queuedResubscribes, List.countP_pos_iff]
  have hscheduled_iff : 0 < b.scheduledResubscribes ↔
      ∃ task ∈ b.tasks, task.kind = .resubscribe ∧ task.started = false := by
    simp [Balancer.scheduledResubscribes, List.countP_pos_iff]
  -- Never both: while a command is on the way, every resubscribe has started.
  have hnot : ¬ (0 < b.queuedResubscribes ∧ 0 < b.scheduledResubscribes) := by
    rintro ⟨hq, hs⟩
    obtain ⟨task, hmem, hk, hst⟩ := hscheduled_iff.mp hs
    obtain ⟨t, ht⟩ := List.getElem?_of_mem hmem
    simp [ha.started (hqueued_iff.mp hq) t task ht hk] at hst
  cases hp : b.monitor.pending with
  | none =>
    have hq : ¬ 0 < b.queuedResubscribes := fun hq => ha.idle hp (hqueued_iff.mp hq)
    have hs : ¬ 0 < b.scheduledResubscribes := fun hs => by
      obtain ⟨task, hmem, hk, hst⟩ := hscheduled_iff.mp hs
      obtain ⟨t, ht⟩ := List.getElem?_of_mem hmem
      simpa [hp] using ha.waiting t task ht hk hst
    simp only [Option.isSome_none, Bool.false_eq_true, ↓reduceIte]
    omega
  | some t =>
    have hsome : 0 < b.scheduledResubscribes ∨ 0 < b.queuedResubscribes := by
      rcases hw t hp with ⟨task, ht, hk, -, hst, -⟩ | hmem
      · exact .inl (hscheduled_iff.mpr ⟨task, List.mem_of_getElem? ht, hk, hst⟩)
      · exact .inr (hqueued_iff.mpr hmem)
    simp only [Option.isSome_some, ↓reduceIte]
    omega

end

/-! ### Listening to the last subscription -/

/-- The reconciler and its subscriptions fit together, and everything applied
so far is what was heard. -/
structure Tuned (b : Balancer α σ) (history : Batch α) : Prop where
  unstarted : b.reconciler = .unstarted → b.subscriptions = [] ∧ b.metrics.resubscribes = 0
  count : b.reconciler = .listening ∨ b.reconciler = .idle →
    b.subscriptions.length = 1 + b.metrics.resubscribes
  listening : b.reconciler = .listening → ∀ s, b.subscriptions.getLast? = some s →
    ∀ n ∈ s.heard, n.GoesOn
  idle : b.reconciler = .idle → b.monitor.pending.isSome = true
  taken : ∀ s ∈ b.subscriptions, s.taken ≤ s.notices.length
  history : history = b.heard.flatMap Notice.events

namespace Tuned

variable {b b' : Balancer α σ} {history : Batch α}

/-- Nothing happens to the reconciler. -/
theorem keep (ht : Tuned b history) (hr : b'.reconciler = b.reconciler)
    (hs : b'.subscriptions = b.subscriptions)
    (hm : b'.metrics.resubscribes = b.metrics.resubscribes)
    (hp : b.reconciler = .idle → b.monitor.pending.isSome = true →
      b'.monitor.pending.isSome = true) : Tuned b' history where
  unstarted := by
    rw [hr, hs, hm]
    exact ht.unstarted
  count := by
    rw [hr, hs, hm]
    exact ht.count
  listening := by
    rw [hr, hs]
    exact ht.listening
  idle := by
    rw [hr]
    exact fun hi => hp hi (ht.idle hi)
  taken := by
    rw [hs]
    exact ht.taken
  history := by
    rw [Balancer.heard, hs]
    exact ht.history

/-- The reconciler is stopped. -/
theorem stop (ht : Tuned b history) (hr : b'.reconciler = .stopped)
    (hs : b'.subscriptions = b.subscriptions) : Tuned b' history where
  unstarted := by simp [hr]
  count := by simp [hr]
  listening := by simp [hr]
  idle := by simp [hr]
  taken := by
    rw [hs]
    exact ht.taken
  history := by
    rw [Balancer.heard, hs]
    exact ht.history

end Tuned

theorem heard_subscribe (source : DiscoverySource α) : source.subscribe.heard = [] := by
  cases source <;> rfl

theorem modify_concat {β : Type} (x : β) (f : β → β) : ∀ l : List β,
    (l ++ [x]).modify ((l ++ [x]).length - 1) f = l ++ [f x]
  | [] => rfl
  | y :: l => by
    have ih := modify_concat x f l
    simp only [List.length_append, List.length_singleton, Nat.add_sub_cancel] at ih
    simp [ih]

theorem next?_of_nextNotice? {b : Balancer α σ} {n : Notice α} (hn : b.nextNotice? = some n) :
    b.reconciler = .listening ∧ ∃ earlier s, b.subscriptions = earlier ++ [s] ∧
      s.next? = some n := by
  unfold Balancer.nextNotice? at hn
  split at hn
  · rename_i hr
    rcases List.eq_nil_or_concat b.subscriptions with hnil | ⟨earlier, s, hs⟩
    · simp [hnil] at hn
    · simp only [hs, List.concat_eq_append, List.getLast?_concat] at hn
      exact ⟨hr, earlier, s, by simpa using hs, hn⟩
  · simp at hn

/-- What the reconciler heard, after it took a notice. -/
theorem advanced_eq {b : Balancer α σ} {earlier : List (Subscription α)} {s : Subscription α}
    (hs : b.subscriptions = earlier ++ [s]) : b.advanced = earlier ++ [s.take] := by
  rw [Balancer.advanced, hs]
  exact modify_concat s Subscription.take earlier

/-- What is applied when a notice is taken. -/
theorem announced_takeNotice {b : Balancer α σ} {n : Notice α} (hn : b.nextNotice? = some n)
    (hr : b.lifecycle = .running) : b.announced .takeNotice = n.events := by
  have ho : b.isClosed = false := by simp [Balancer.isClosed, hr]
  cases n <;> simp [Balancer.announced, hn, ho, Notice.events]

/-- Only taking a batch applies one. -/
theorem nextNotice?_of_announced {b : Balancer α σ} {e : Event α σ} (ha : b.announced e ≠ []) :
    b.nextNotice? = some (.batch (b.announced e)) := by
  cases e with
  | takeNotice =>
    unfold Balancer.announced at ha ⊢
    dsimp only at ha ⊢
    cases hn : b.nextNotice? with
    | none => simp [hn] at ha
    | some n =>
      cases n with
      | batch events =>
        simp only [hn] at ha ⊢
        split at ha
        · exact absurd rfl ha
        · rename_i ho
          rw [if_neg ho]
      | failed | ended => simp [hn] at ha
  | _ => exact absurd rfl ha

section

variable {b : Balancer α σ} {history : Batch α} {n : Notice α}

namespace Tuned

theorem start (setup : Setup α) (tape : Tape) (callers : σ) :
    Tuned (Balancer.start setup tape callers) [] where
  unstarted := fun _ => ⟨rfl, rfl⟩
  count := by simp [Balancer.start]
  listening := by simp [Balancer.start]
  idle := by simp [Balancer.start]
  taken := by simp [Balancer.start]
  history := rfl

/-- The oldest notice is taken from the last subscription. -/
theorem taken_advanced (ht : Tuned b history) (hn : b.nextNotice? = some n) :
    ∀ s ∈ b.advanced, s.taken ≤ s.notices.length := by
  obtain ⟨-, earlier, s, hs, hnext⟩ := next?_of_nextNotice? hn
  intro s' hs'
  rw [advanced_eq hs] at hs'
  rcases List.mem_append.mp hs' with hs' | hs'
  · exact ht.taken s' (by rw [hs]; exact List.mem_append_left _ hs')
  · obtain rfl := List.mem_singleton.mp hs'
    exact Subscription.lt_of_next? hnext

theorem history_advanced (ht : Tuned b history) (hn : b.nextNotice? = some n) :
    history ++ n.events =
      (b.advanced.flatMap Subscription.heard).flatMap Notice.events := by
  obtain ⟨-, earlier, s, hs, hnext⟩ := next?_of_nextNotice? hn
  rw [ht.history, advanced_eq hs, Balancer.heard, hs]
  simp [Subscription.heard_take hnext]

theorem count_advanced (ht : Tuned b history) (hn : b.nextNotice? = some n) :
    b.advanced.length = 1 + b.metrics.resubscribes := by
  obtain ⟨hr, -⟩ := next?_of_nextNotice? hn
  rw [Balancer.advanced, List.length_modify]
  exact ht.count (.inl hr)

/-- A batch is taken. -/
theorem hear (ht : Tuned b history) {events : Batch α}
    (hn : b.nextNotice? = some (.batch events)) :
    Tuned { b with subscriptions := b.advanced } (history ++ events) := by
  obtain ⟨hr, earlier, s, hs, hnext⟩ := next?_of_nextNotice? hn
  refine ⟨by simp [hr], fun _ => ht.count_advanced hn, fun _ s' hs' n hn' => ?_, by simp [hr],
    ht.taken_advanced hn, ht.history_advanced hn⟩
  rw [advanced_eq hs, List.getLast?_concat] at hs'
  obtain rfl := Option.some.inj hs'
  rw [Subscription.heard_take hnext] at hn'
  rcases List.mem_append.mp hn' with hn' | hn'
  · exact ht.listening hr s (by simp [hs]) n hn'
  · rw [List.mem_singleton.mp hn']
    trivial

/-- The subscription is lost. -/
theorem lose (ht : Tuned b history) (hn : b.nextNotice? = some n) (he : n.events = [])
    (hd : b.monitor.shutDown = false) :
    Tuned (Balancer.loseSubscription { b with subscriptions := b.advanced }) history := by
  have hpending :
      (Balancer.loseSubscription { b with subscriptions := b.advanced }).monitor.pending.isSome =
        true := pending_scheduleResubscribe hd
  have hhistory := ht.history_advanced hn
  rw [he, List.append_nil] at hhistory
  obtain ⟨_, _, _, heq⟩ :=
    Balancer.loseSubscription_footprint { b with subscriptions := b.advanced }
  rw [heq] at hpending ⊢
  exact ⟨by simp, fun _ => ht.count_advanced hn, by simp, fun _ => hpending, ht.taken_advanced hn,
    hhistory⟩

/-- A fresh subscription is taken out. -/
theorem subscribe (ht : Tuned b history) {resubscribes : Nat}
    (hc : b.subscriptions.length = resubscribes)
    {b' : Balancer α σ} (hr : b'.reconciler = .listening)
    (hs : b'.subscriptions = b.subscriptions ++ [b.setup.source.subscribe])
    (hm : b'.metrics.resubscribes = resubscribes) : Tuned b' history where
  unstarted := by simp [hr]
  count := by
    intro _
    rw [hs, hm, List.length_append, hc, List.length_singleton, Nat.add_comm]
  listening := by
    intro _ s hs' n hn
    rw [hs, List.getLast?_concat] at hs'
    obtain rfl := Option.some.inj hs'
    simp [heard_subscribe] at hn
  idle := by simp [hr]
  taken := by
    intro s hmem
    rw [hs] at hmem
    rcases List.mem_append.mp hmem with hmem | hmem
    · exact ht.taken s hmem
    · obtain rfl := List.mem_singleton.mp hmem
      cases b.setup.source <;> simp [DiscoverySource.subscribe]
  history := by
    rw [ht.history, Balancer.heard, Balancer.heard, hs]
    simp [heard_subscribe]

/-- Discovery delivers a notice. -/
theorem deliver (ht : Tuned b history) (n : Notice α) : Tuned (b.deliver n) history := by
  rcases List.eq_nil_or_concat b.subscriptions with hnil | ⟨earlier, s, hs⟩
  · exact ht.keep rfl (by simp [Balancer.deliver, hnil]) rfl fun _ => id
  rw [List.concat_eq_append] at hs
  have hnew : (b.deliver n).subscriptions = earlier ++ [s.deliver n] := by
    rw [Balancer.deliver, hs]
    exact modify_concat s (Subscription.deliver · n) earlier
  have htaken := ht.taken s (by simp [hs])
  have hheard := Subscription.heard_deliver htaken n
  refine ⟨fun hr => ?_, fun hr => ?_, fun hr s' hs' => ?_, ht.idle, fun s' hs' => ?_, ?_⟩
  · simp [(ht.unstarted hr).1] at hs
  · have hcount := ht.count hr
    rw [hs] at hcount
    rw [hnew]
    simpa [Balancer.deliver] using hcount
  · rw [hnew, List.getLast?_concat] at hs'
    obtain rfl := Option.some.inj hs'
    rw [hheard]
    exact ht.listening hr s (by simp [hs])
  · rw [hnew] at hs'
    rcases List.mem_append.mp hs' with hs' | hs'
    · exact ht.taken s' (by rw [hs]; exact List.mem_append_left _ hs')
    · obtain rfl := List.mem_singleton.mp hs'
      exact Nat.le_trans htaken (by simp [Subscription.deliver])
  · rw [ht.history, Balancer.heard, Balancer.heard, hnew, hs]
    simp [hheard]

end Tuned

variable [DecidableEq α]

theorem tuned_takeNotice (ht : Tuned b history) (hh : Halted b.lifecycle b.reconciler b.monitor)
    (hr : b.reconciler ≠ .stopped → b.lifecycle = .running) :
    Tuned b.takeNotice (history ++ b.announced .takeNotice) := by
  cases hn : b.nextNotice? with
  | none =>
    simp only [Balancer.takeNotice, Balancer.announced, hn, List.append_nil]
    exact ht
  | some n =>
    have hrunning : b.lifecycle = .running := hr (by simp [(next?_of_nextNotice? hn).1])
    have hopen := hh.not_shutDown hrunning
    rw [announced_takeNotice hn hrunning]
    simp only [Balancer.takeNotice, hn]
    cases n with
    | batch events =>
      have hheard := ht.hear hn
      obtain ⟨_, _, _, _, _, _, _, heq, hm⟩ :=
        Balancer.applyBatch_footprint { b with subscriptions := b.advanced } events
      change Tuned (Balancer.applyBatch { b with subscriptions := b.advanced } events) _
      rw [heq]
      exact hheard.keep rfl rfl hm fun hi => by simp [(next?_of_nextNotice? hn).1] at hi
    | failed reason =>
      rw [Notice.events, List.append_nil]
      exact ht.lose hn rfl hopen
    | ended =>
      rw [Notice.events, List.append_nil]
      exact ht.lose hn rfl hopen

theorem tuned_takeCommand (ht : Tuned b history) : Tuned b.takeCommand history := by
  unfold Balancer.takeCommand
  cases hn : b.nextCommand? with
  | none => exact ht
  | some c =>
    have hr : b.reconciler = .listening ∨ b.reconciler = .idle := by
      unfold Balancer.nextCommand? at hn
      split at hn
      · assumption
      · simp at hn
    cases c with
    | resubscribe =>
      have hcount := ht.count hr
      rw [Nat.add_comm] at hcount
      exact ht.subscribe hcount rfl rfl rfl
    | drained a =>
      have hpending := (watched_removeDrained { b with commands := b.commands.tail } a).pending
      obtain ⟨_, _, _, _, monitor, _, _, heq, hm⟩ :=
        Balancer.removeDrained_footprint { b with commands := b.commands.tail } a
      rw [heq] at hpending
      simp only [heq]
      exact ht.keep rfl rfl hm fun _ => hpending

theorem tuned_step (ht : Tuned b history) (hh : Halted b.lifecycle b.reconciler b.monitor)
    (hr : b.reconciler ≠ .stopped → b.lifecycle = .running) (e : Event α σ) :
    Tuned (b.step e) (history ++ b.announced e) := by
  have hsilent {b' : Balancer α σ} (hann : b.announced e = []) (ht' : Tuned b' history) :
      Tuned b' (history ++ b.announced e) := by
    rw [hann, List.append_nil]
    exact ht'
  by_cases hquiet : e.Selects ∨ e.Aside
  · -- Most steps apply nothing and leave the reconciler alone.
    have hcalm : ¬ b.Interrupts e ∧ b.announced e = [] := by
      cases e <;> simp [Event.Selects, Event.Aside, Balancer.Interrupts, Balancer.announced]
        at hquiet ⊢
    obtain ⟨hrec, hsub, hm⟩ := reconciler_step (b := b) hquiet
    exact hsilent hcalm.2 (ht.keep hrec hsub hm fun _ => (watched_step b hcalm.1).pending)
  by_cases hends : e.Ends
  · have hann : b.announced e = [] := by
      cases e <;> simp [Event.Ends, Balancer.announced] at hends ⊢
    refine hsilent hann ?_
    obtain ⟨-, heq⟩ | ⟨_, _, _, _, _, heq, -⟩ := b.ends_footprint hends
    · rw [heq]
      exact ht
    · rw [heq]
      exact ht.stop rfl rfl
  cases e with
  | takeNotice => exact tuned_takeNotice ht hh hr
  | takeCommand => exact hsilent rfl (tuned_takeCommand ht)
  | deliver n => exact hsilent rfl (ht.deliver n)
  | startReconciler =>
    refine hsilent rfl ?_
    simp only [Balancer.step, Balancer.startReconciler]
    split
    · rename_i hunstarted
      obtain ⟨hnil, hzero⟩ := ht.unstarted hunstarted
      exact ht.subscribe (by rw [hnil]; rfl) rfl rfl hzero
    · exact ht
  | close | drop => exact absurd trivial hends
  | select | dialled | discarded => exact absurd (.inl trivial) hquiet
  | _ => exact absurd (.inr trivial) hquiet

/-! ### Every run -/

theorem history_append (b : Balancer α σ) : ∀ es es' : List (Event α σ),
    b.history (es ++ es') = b.history es ++ (b.run es).history es'
  | [], _ => rfl
  | e :: es, es' => by
    have ih := history_append (b.step e) es es'
    simp only [List.cons_append, Balancer.history, ih, List.append_assoc]
    rfl

theorem tuned_run (setup : Setup α) (tape : Tape) (callers : σ) (events : List (Event α σ)) :
    let b₀ := Balancer.start setup tape callers
    Tuned (b₀.run events) (b₀.history events) := by
  intro b₀
  induction events using List.reverseRecOn with
  | nil => exact .start setup tape callers
  | append_singleton events e ih =>
    have hh := halted_run setup tape callers events
    obtain ⟨-, hr⟩ := renewal_run setup tape callers events
    have hstep := tuned_step ih hh hr.running e
    rw [Balancer.run_append, history_append]
    simp only [Balancer.history, List.append_nil]
    exact hstep

/-- **The balancer is never left deaf, and resubscribes are one-shot.** Take
any run that did not close the balancer. A resubscribe is pending just while
one is under way, as a task that waits to start or a command that the
reconciler has not taken, and there is never more than one. When the current
subscription failed or ended, a resubscribe is pending. Once the reconciler has
started, it subscribed once, and once more for each resubscribe. All the run
applied is what was heard, subscription by subscription and in order; each
batch was the oldest that the last subscription had to offer at that time, and
nothing before it had been a failure or the end. -/
theorem never_deaf (setup : Setup α) (tape : Tape) (callers : σ) (events : List (Event α σ)) :
    let b₀ := Balancer.start setup tape callers
    let b := b₀.run events
    b.lifecycle = .running →
      (b.scheduledResubscribes + b.queuedResubscribes ≤ 1 ∧
        (b.monitor.pending.isSome = true ↔
          b.scheduledResubscribes + b.queuedResubscribes = 1) ∧
        ∀ t, b.monitor.pending = some t →
          (∃ task, b.tasks[t]? = some task ∧ task.kind = .resubscribe ∧ task.phase = .waiting ∧
            task.started = false ∧ task.cancelled = false) ∨ .resubscribe ∈ b.commands) ∧
      (∀ s, b.subscriptions.getLast? = some s → (∃ n ∈ s.heard, ¬ n.GoesOn) →
        b.monitor.pending.isSome = true) ∧
      (b.reconciler ≠ .unstarted → b.subscriptions.length = 1 + b.metrics.resubscribes) ∧
      b₀.history events = b.heard.flatMap Notice.events ∧
      ∀ before e after, events = before ++ e :: after →
        let b₁ := b₀.run before
        b₁.announced e ≠ [] → ∃ s, b₁.subscriptions.getLast? = some s ∧
          s.next? = some (.batch (b₁.announced e)) ∧ ∀ n ∈ s.heard, n.GoesOn := by
  intro b₀ b hrunning
  have ht : Tuned b (b₀.history events) := tuned_run setup tape callers events
  have hgoing : b.reconciler ≠ .stopped := fun hs =>
    (halted_run setup tape callers events).stopped hs hrunning
  have hawaited : Awaited b.monitor.pending b.tasks b.commands :=
    awaited_run setup tape callers events
  have hunder : b.scheduledResubscribes + b.queuedResubscribes =
      if b.monitor.pending.isSome = true then 1 else 0 :=
    underWay_eq ((renewal_run setup tape callers events).2.armed hgoing) hawaited
  refine ⟨⟨?_, ?_, hawaited⟩, fun s hs hlost => ?_, fun hstarted => ?_, ht.history, ?_⟩
  · rw [hunder]
    split
    · exact Nat.le_refl 1
    · exact Nat.zero_le 1
  · rw [hunder]
    split
    · rename_i hp
      exact ⟨fun _ => rfl, fun _ => hp⟩
    · rename_i hp
      exact ⟨fun hp' => absurd hp' hp, fun h => absurd h (by simp)⟩
  · obtain ⟨n, hn, hlost⟩ := hlost
    cases hrec : b.reconciler with
    | unstarted => simp [(ht.unstarted hrec).1] at hs
    | listening => exact absurd (ht.listening hrec s hs n hn) hlost
    | idle => exact ht.idle hrec
    | stopped => exact absurd hrec hgoing
  · refine ht.count ?_
    cases hrec : b.reconciler with
    | unstarted => exact absurd hrec hstarted
    | listening => exact .inl rfl
    | idle => exact .inr rfl
    | stopped => exact absurd hrec hgoing
  · intro before e after _ b₁ hann
    obtain ⟨hrec, earlier, s, hs, hnext⟩ :=
      next?_of_nextNotice? (nextNotice?_of_announced hann)
    have hlast : b₁.subscriptions.getLast? = some s := by rw [hs, List.getLast?_concat]
    exact ⟨s, hlast, hnext, (tuned_run setup tape callers before).listening hrec s hlast⟩

end

/-- A batch is applied, then the subscription fails. -/
def losing : List (Event Nat Unit) :=
  [.startReconciler, .deliver (.batch [⟨1, .available⟩]), .takeNotice,
    .deliver (.failed "lost"), .takeNotice]

theorem never_deaf_losing :
    let b := (freshBalancer true).run losing
    b.lifecycle = .running ∧ b.reconciler = .idle ∧ b.monitor.pending.isSome = true ∧
      b.scheduledResubscribes + b.queuedResubscribes = 1 ∧
      (freshBalancer true).history losing = [⟨1, .available⟩] := by
  intro b
  have hrunning : b.lifecycle = .running := by decide
  obtain ⟨⟨-, hpending, -⟩, hlost, -⟩ :=
    never_deaf (plainSetup true) (.ofSeed 0) () losing hrunning
  have hp : b.monitor.pending.isSome = true :=
    hlost _ rfl ⟨.failed "lost", List.mem_of_getElem? (i := 1) rfl, id⟩
  exact ⟨hrunning, by decide, hp, hpending.mp hp, by decide⟩

end HostRotation
