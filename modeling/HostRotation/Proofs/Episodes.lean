/-
# One retry loop for each bad time of a host

While a host is unhealthy, attempts to reach it follow each other, one at a
time: each is scheduled when the one before it failed, and the first when the
host became unhealthy. When the host is not unhealthy any more, whatever the
cause, the loop is over, and a later bad time of the host begins a new one.

Where cancelling aborts, the slot of the host is all there is to know of this:
the attempt in the slot is the one that is not over (`OneLoop.retries_iff`), and
the slot is empty unless the host is unhealthy. So the loop ends with the bad
time; and since what is over stays over (`over_move`), no attempt of it is heard
of again.

Key definitions: `Balancer.Retries`, `Balancer.attemptFails`, `Over`, `OneLoop`.
Key theorem: `one_retry_loop`.
-/
import HostRotation.Proofs.Attempts
import HostRotation.Proofs.Gauges

namespace HostRotation

variable {α σ : Type}

namespace Balancer

def isUnhealthy (b : Balancer α σ) (h : HostId) : Bool :=
  (b.hosts[h]?).any fun host => host.status = .unhealthy

/-- A health attempt at a host is not over: it waits to start, or is under way. -/
def Retries (b : Balancer α σ) (t : TaskId) (h : HostId) : Prop :=
  ∃ task, b.tasks[t]? = some task ∧ task.kind = .health h ∧ task.isLive = true

/-- How many attempts at a host were ever scheduled. -/
def attemptsAt (b : Balancer α σ) (h : HostId) : Nat :=
  (b.tasks.map Task.kind).count (.health h)

/-- Whether an event is that an attempt at a host fails while the host is
unhealthy. -/
def attemptFails (b : Balancer α σ) (h : HostId) : Event α σ → Bool
  | .probed t (.refused _) => b.probing? t = some h && b.isUnhealthy h
  | _ => false

end Balancer

open Balancer

/-! ### What is over stays over -/

/-- A task is as it was, but for its handle. -/
def Unchanged (task : Task) (t : TaskId) (tasks : List Task) : Prop :=
  ∃ task', tasks[t]? = some task' ∧ task'.kind = task.kind ∧ task'.started = task.started ∧
    task'.phase = task.phase

theorem Task.isLive_congr {task task' : Task} (hp : task'.phase = task.phase) :
    task'.isLive = task.isLive := by
  rw [isLive, isLive, hp]

theorem Task.isLive_eq_false {task : Task} :
    task.isLive = false ↔ task.phase = .finished ∨ task.phase = .aborted := by
  cases hp : task.phase <;> simp [isLive, hp]

theorem Task.isLive_of_phase {task : Task} (hp : task.phase = .waiting ∨ task.phase = .connecting ∨
    task.phase = .discarding) : task.isLive = true := by
  rcases hp with hp | hp | hp <;> rw [isLive, hp]

namespace Unchanged

variable {task : Task} {t : TaskId} {tasks : List Task}

theorem append (hu : Unchanged task t tasks) (new : Task) : Unchanged task t (tasks ++ [new]) := by
  obtain ⟨task', ht, hsame⟩ := hu
  have hlt := (List.getElem?_eq_some_iff.mp ht).1
  exact ⟨task', by rwa [List.getElem?_append_left hlt], hsame⟩

/-- A task starts, or goes on; this one is over. -/
theorem start (hu : Unchanged task t tasks) (ho : task.isLive = false) {i : TaskId} {other : Task}
    (hi : tasks[i]? = some other) (hl : other.isLive = true) (phase : TaskPhase) :
    Unchanged task t (tasks.modify i (·.start phase)) := by
  obtain ⟨task', ht, hk, hs, hp⟩ := hu
  have hne : i ≠ t := by
    rintro rfl
    obtain rfl := Option.some.inj (hi.symm.trans ht)
    rw [Task.isLive_congr hp, ho] at hl
    cases hl
  exact ⟨task', by rwa [List.getElem?_modify_ne _ _ hne], hk, hs, hp⟩

theorem cancelIn (hu : Unchanged task t tasks) (ho : task.isLive = false) (aborts : Bool)
    (o : Option TaskId) : Unchanged task t (cancelIn aborts tasks o) := by
  cases o with
  | none => exact hu
  | some i =>
    obtain ⟨task', ht, hk, hs, hp⟩ := hu
    by_cases hi : i = t
    · subst hi
      refine ⟨task'.cancel aborts, ?_, ?_, ?_, ?_⟩
      · rw [HostRotation.cancelIn, List.getElem?_modify_eq, ht]
        rfl
      · rw [Task.kind_cancel, hk]
      · rw [Task.started_cancel, hs]
      · unfold Task.cancel
        split
        · exact hp
        · simp [Task.isLive_congr hp, ho, hp]
    · exact ⟨task', by rwa [HostRotation.cancelIn, List.getElem?_modify_ne _ _ hi], hk, hs, hp⟩

end Unchanged

section

variable [DecidableEq α] {e : Event α σ} {m m' : Moment α σ}

theorem over_move {task : Task} {t : TaskId} (hmove : Move e m m') (ho : task.isLive = false)
    (hu : Unchanged task t m.tasks) : Unchanged task t m'.tasks := by
  cases hmove with
  | note | listen | lose | resubscribe | heed | settle | prune | fail | pool | appear => exact hu
  | reannounce | withdraw | ignore | retire | closeNone | opens | reopen => exact hu
  | closeLink | handOver | beginClosing | peerCloses | closeWillFail => exact hu
  | arm => exact hu.append _
  | shut | welcome | revive | expire | expireOut | closeHost => exact hu.cancelIn ho _ _
  | fire ht _ hp | attempt _ ht _ hp | skip ht _ hp =>
    exact hu.start ho ht (Task.isLive_of_phase (.inl hp)) _
  | reach _ _ ht _ hp | discard ht _ hp | unplanned ht _ hp =>
    exact hu.start ho ht (Task.isLive_of_phase (.inr (.inl hp))) _
  | discarded ht hp => exact hu.start ho ht (Task.isLive_of_phase (.inr (.inr hp))) _
  | retry _ _ ht _ hp =>
    exact ((hu.start ho ht (Task.isLive_of_phase (.inr (.inl hp))) _).append _).cancelIn ho _ _
  | giveUp _ _ ht _ hp =>
    exact ((hu.start ho ht (Task.isLive_of_phase (.inr (.inl hp))) _).append _).cancelIn
      ho _ (some _)
  | fallSick => exact (hu.append _).cancelIn ho _ _

/-- A step leaves what is over as it is, but for its handle. -/
theorem over_step {b : Balancer α σ} {task : Task} {t : TaskId} (e : Event α σ)
    (ho : task.isLive = false) (hu : Unchanged task t b.tasks) :
    Unchanged task t (b.step e).tasks := by
  obtain ⟨_, hmoves⟩ := moves_step b e [] []
  exact Moves.keeps (I := fun m => Unchanged task t m.tasks)
    (fun _ _ hmove => over_move hmove ho) hmoves hu

theorem over_run {b : Balancer α σ} {task : Task} {t : TaskId} (events : List (Event α σ))
    (ho : task.isLive = false) (hu : Unchanged task t b.tasks) :
    Unchanged task t (b.run events).tasks := by
  obtain ⟨_, hrun⟩ := run_keeps (I := fun m => Unchanged task t m.tasks) events
    (fun _ _ _ _ hmove => over_move hmove ho) b [] [] hu
  exact hrun

/-- A task is over: it is as it was, but for its handle, and neither the executor
nor a connect gets anything more out of it. -/
structure Over (b : Balancer α σ) (t : TaskId) (task : Task) : Prop where
  ended : task.phase = .finished ∨ task.phase = .aborted
  unchanged : Unchanged task t b.tasks
  starts : b.step (.startTask t) = b
  connects : ∀ outcome, b.step (.probed t outcome) = b
  discards : b.step (.probeDiscarded t) = b

theorem over_of_unchanged {b : Balancer α σ} {task : Task} {t : TaskId}
    (ho : task.isLive = false) (hu : Unchanged task t b.tasks) : Over b t task := by
  have ⟨task', ht, _, _, hp⟩ := hu
  have hover : task'.phase = .finished ∨ task'.phase = .aborted := by
    rw [hp]
    exact Task.isLive_eq_false.mp ho
  refine ⟨Task.isLive_eq_false.mp ho, hu, ?_, fun outcome => ?_, ?_⟩
  · simp only [step, startTask, ht]
    exact if_pos (by rcases hover with h | h <;> simp [h])
  · refine probed_of_not_probes ?_ outcome
    rintro h host ⟨task'', ht', -, hp', -⟩
    obtain rfl := Option.some.inj (ht.symm.trans ht')
    simp [hp'] at hover
  · exact probeDiscarded_of_ne ht (by rcases hover with h | h <;> simp [h])

/-! ### One loop at a time -/

/-- No attempt closes a connection because it came too late for its host. -/
def Timely (tasks : List Task) : Prop :=
  ∀ (t : TaskId) (task : Task), tasks[t]? = some task → task.phase ≠ .discarding

namespace Timely

variable {tasks : List Task}

theorem append (ht : Timely tasks) (kind : TaskKind) (delay : Duration) :
    Timely (tasks ++ [({ kind, delay } : Task)]) := by
  intro t task hi
  rcases getElem?_concat_cases hi with ⟨-, rfl⟩ | ⟨-, hi⟩
  · simp
  · exact ht t task hi

theorem start (ht : Timely tasks) (i : TaskId) {phase : TaskPhase} (hp : phase ≠ .discarding) :
    Timely (tasks.modify i (·.start phase)) := by
  intro t task hi
  rcases getElem?_modify_cases hi with ⟨_, -, -, rfl⟩ | ⟨-, hi⟩
  · exact hp
  · exact ht t task hi

theorem cancelIn (ht : Timely tasks) (aborts : Bool) (o : Option TaskId) :
    Timely (cancelIn aborts tasks o) := by
  cases o with
  | none => exact ht
  | some i =>
    intro t task hi
    rcases getElem?_modify_cases hi with ⟨task', -, htask, rfl⟩ | ⟨-, hi⟩
    · have hp := ht _ task' htask
      unfold Task.cancel
      split
      · exact hp
      · dsimp only
        split
        · simp
        · exact hp
    · exact ht t task hi

end Timely

/-- What holds where cancelling aborts: attempts that wait or connect are in the
slots of their hosts, and the slots are as they should be. -/
structure OneLoop (b : Balancer α σ) : Prop where
  aborts : b.setup.aborts = true
  sound : AllSound b.setup.aborts b.tasks
  held : Held Task.Tries b.hosts b.tasks
  attended : Attended b.setup.health b.hosts b.tasks b.monitor
  timely : Timely b.tasks

omit [DecidableEq α] in
/-- An attempt that connects is the one in the slot of its host, which is
unhealthy; so the host of an attempt that succeeds is never closed. -/
theorem OneLoop.unhealthy_of_probes {b : Balancer α σ} (hb : OneLoop b) {t : TaskId} {h : HostId}
    {host : Host α (Link α)} (hp : b.Probes t h host) :
    host.check = some t ∧ host.status = .unhealthy := by
  have hcheck := hp.check_eq hb.aborts hb.sound hb.held
  obtain ⟨_, -, -, -, hh⟩ := hp
  exact ⟨hcheck, (hb.attended.checked h host hh).occupied.mp (by simp [hcheck])⟩

theorem timely_move (hmove : Move e m m') (hm : OneLoop m.toBalancer) : Timely m'.tasks := by
  have ht := hm.timely
  cases hmove with
  | note | listen | lose | resubscribe | heed | settle | prune | fail | pool | appear => exact ht
  | reannounce | withdraw | ignore | retire | closeNone | opens | reopen => exact ht
  | closeLink | handOver | beginClosing | peerCloses | closeWillFail => exact ht
  | arm delay => exact ht.append _ delay
  | shut | welcome | revive | expire | expireOut | closeHost => exact ht.cancelIn _ _
  | fire | attempt | skip | reach | discarded | unplanned => exact ht.start _ (by simp)
  | @discard t task h host hi hk hp hh hc =>
    have hu := (hm.unhealthy_of_probes ⟨task, hi, hk, hp, hh⟩).2
    simp [hc] at hu
  | retry delay => exact ((ht.start _ (by simp)).append _ delay).cancelIn _ _
  | giveUp delay => exact ((ht.start _ (by simp)).append _ delay).cancelIn _ (some _)
  | fallSick delay => exact (ht.append _ delay).cancelIn _ _

theorem oneLoop_move (hmove : Move e m m') (hm : OneLoop m.toBalancer) : OneLoop m'.toBalancer where
  aborts := setup_move hmove ▸ hm.aborts
  sound := allSound_move hmove hm.sound
  held := tries_move hmove hm.aborts hm.sound hm.held
  attended := attended_move hmove hm.attended
  timely := timely_move hmove hm

theorem oneLoop_run (setup : Setup α) (tape : Tape) (callers : σ)
    (haborts : setup.aborts = true) (events : List (Event α σ)) :
    OneLoop ((Balancer.start setup tape callers).run events) := by
  obtain ⟨_, hrun⟩ := run_keeps (I := fun m => OneLoop m.toBalancer) events
    (fun _ _ _ _ hmove => oneLoop_move hmove) (Balancer.start setup tape callers) [] []
    { aborts := haborts
      sound := by simp [AllSound, Balancer.start]
      held := .start _
      attended := .start _
      timely := by simp [Timely, Balancer.start] }
  exact hrun

variable {b : Balancer α σ} {h : HostId} {t : TaskId}

omit [DecidableEq α] in
theorem isUnhealthy_eq_true : b.isUnhealthy h = true ↔
    ∃ host, b.hosts[h]? = some host ∧ host.status = .unhealthy := by
  simp [isUnhealthy, Option.any_eq_true]

omit [DecidableEq α] in
/-- Whether a host is unhealthy depends on its status alone. -/
theorem isUnhealthy_congr {b' : Balancer α σ}
    (hs : (b'.hosts[h]?).map Host.status = (b.hosts[h]?).map Host.status) :
    b'.isUnhealthy h = b.isUnhealthy h := by
  have hmap (b : Balancer α σ) : b.isUnhealthy h =
      ((b.hosts[h]?).map Host.status).any fun status => status = .unhealthy := by
    simp [isUnhealthy, Option.any_map]
  rw [hmap, hmap, hs]

omit [DecidableEq α] in
/-- The attempt in the slot of a host is the one that is not over. -/
theorem OneLoop.retries_iff (hb : OneLoop b) :
    b.Retries t h ↔ ∃ host, b.hosts[h]? = some host ∧ host.check = some t := by
  constructor
  · rintro ⟨task, ht, hk, hl⟩
    have hphase : task.phase = .waiting ∨ task.phase = .connecting := by
      have hdiscarding := hb.timely t task ht
      cases hp : task.phase <;> simp [Task.isLive, hp] at hl hdiscarding ⊢
    have hcancelled : task.cancelled = false := by
      refine Bool.eq_false_iff.mpr fun hc => ?_
      obtain ⟨hwaiting, hconnecting⟩ := (hb.sound t task ht).cancelled hb.aborts hc
      exact hphase.elim hwaiting hconnecting
    exact hb.held t task h ht hk ⟨hcancelled, hphase⟩
  · rintro ⟨host, hh, hc⟩
    obtain ⟨task, ht, hk, -, hp⟩ := (hb.attended.checked h host hh).attempt t hc
    exact ⟨task, ht, hk, Task.isLive_of_phase (hp.imp_right .inl)⟩

omit [DecidableEq α] in
/-- There is no more than one. -/
theorem OneLoop.once (hb : OneLoop b) {t' : TaskId} (ht : b.Retries t h) (ht' : b.Retries t' h) :
    t = t' := by
  obtain ⟨host, hh, hc⟩ := hb.retries_iff.mp ht
  obtain ⟨host', hh', hc'⟩ := hb.retries_iff.mp ht'
  obtain rfl := Option.some.inj (hh.symm.trans hh')
  exact Option.some.inj (hc.symm.trans hc')

omit [DecidableEq α] in
/-- There is one just while the host is unhealthy. -/
theorem OneLoop.unhealthy_iff (hb : OneLoop b) :
    b.isUnhealthy h = true ↔ ∃ t, b.Retries t h := by
  rw [isUnhealthy_eq_true]
  constructor
  · rintro ⟨host, hh, hu⟩
    obtain ⟨t, hc⟩ := Option.isSome_iff_exists.mp ((hb.attended.checked h host hh).occupied.mpr hu)
    exact ⟨t, hb.retries_iff.mpr ⟨host, hh, hc⟩⟩
  · rintro ⟨t, ht⟩
    obtain ⟨host, hh, hc⟩ := hb.retries_iff.mp ht
    exact ⟨host, hh, (hb.attended.checked h host hh).occupied.mp (by simp [hc])⟩

/-! ### What a step adds to a loop -/

/-- A health attempt was there before, or is one that the event calls for. -/
theorem scheduled_of_task {e : Event α σ} {task' : Task}
    (ht' : (b.step e).tasks[t]? = some task') (hk : task'.kind = .health h) :
    (∃ task, b.tasks[t]? = some task ∧ task.kind = .health h) ∨ h ∈ b.scheduled e := by
  obtain ⟨new, heq, -, hhosts⟩ := (schedules_step b e).orders
  have horder : (b.tasks.map Task.order ++ new)[t]? = some task'.order := by
    rw [← heq, List.getElem?_map, ht', Option.map_some]
  rw [List.getElem?_append] at horder
  split at horder
  · rw [List.getElem?_map] at horder
    obtain ⟨task, ht, hsame⟩ := Option.map_eq_some_iff.mp horder
    exact .inl ⟨task, ht, (congrArg Prod.fst hsame).trans hk⟩
  · refine .inr (hhosts ▸ List.mem_filterMap.mpr ⟨_, List.mem_of_getElem? horder, ?_⟩)
    exact TaskKind.host?_eq_some.mpr hk

/-- When a host becomes unhealthy, an attempt is scheduled for it: there was none
that was not over, and now there is one. -/
theorem OneLoop.scheduled_of_becomes (hb : OneLoop b) {e : Event α σ} (hb' : OneLoop (b.step e))
    (hwell : b.isUnhealthy h = false) (hu : (b.step e).isUnhealthy h = true) :
    h ∈ b.scheduled e := by
  obtain ⟨t, task', ht', hk', hl'⟩ := hb'.unhealthy_iff.mp hu
  refine (scheduled_of_task ht' hk').resolve_left ?_
  rintro ⟨task, ht, hk⟩
  cases hl : task.isLive with
  | true => simp [hb.unhealthy_iff.mpr ⟨t, task, ht, hk, hl⟩] at hwell
  | false =>
    obtain ⟨_, ht'', -, -, hp⟩ := over_step e hl ⟨task, ht, rfl, rfl, rfl⟩
    obtain rfl := Option.some.inj (ht'.symm.trans ht'')
    rw [Task.isLive_congr hp, hl] at hl'
    cases hl'

theorem attemptsAt_step_count (b : Balancer α σ) (e : Event α σ) (h : HostId) :
    (b.step e).attemptsAt h = b.attemptsAt h + (b.scheduled e).count h := by
  obtain ⟨new, heq, -, hhosts⟩ := (schedules_step b e).orders
  have hkinds : (b.step e).tasks.map Task.kind = b.tasks.map Task.kind ++ new.map Prod.fst := by
    have hfst := congrArg (List.map Prod.fst) heq
    rw [List.map_append, List.map_map, List.map_map] at hfst
    exact hfst
  have hnew : (new.map Prod.fst).count (.health h) = (b.scheduled e).count h := by
    rw [← hhosts, List.count_filterMap, List.count_eq_countP, List.countP_map]
    refine List.countP_congr fun o _ => ?_
    simp [TaskKind.host?_eq_some]
  rw [attemptsAt, hkinds, List.count_append, hnew]
  rfl

omit [DecidableEq α] in
/-- A step schedules one health attempt at most. -/
theorem length_scheduled_le (b : Balancer α σ) (e : Event α σ) : (b.scheduled e).length ≤ 1 := by
  have hone (o : Option HostId) : o.toList.length ≤ 1 := by cases o <;> simp
  unfold scheduled
  split
  · exact Nat.le_trans (List.length_filter_le _ _) (hone _)
  · split
    · exact hone _
    · simp
  · simp

omit [DecidableEq α] in
/-- The failure that is one too many makes the host unhealthy. -/
theorem becomes_of_crosses (hc : b.crosses h = true) :
    b.isUnhealthy h = false ∧ (b.connectFailed h).isUnhealthy h = true := by
  obtain ⟨host, hh, hcrossed⟩ := (Option.any_eq_true _ _).mp hc
  constructor
  · refine Bool.eq_false_iff.mpr fun hu => ?_
    obtain ⟨host', hh', hu⟩ := isUnhealthy_eq_true.mp hu
    obtain rfl := Option.some.inj (hh.symm.trans hh')
    rw [Host.active_of_recordFailure hcrossed] at hu
    cases hu
  · simp only [connectFailed, hh, hcrossed, ↓reduceIte]
    obtain ⟨_, _, _, _, heq, -⟩ := observeTable_footprint (scheduleAttempt (setHost _ h _) h)
    rw [heq]
    refine (isUnhealthy_congr (statuses_scheduleAttempt (setHost _ h _) h h)).trans ?_
    refine isUnhealthy_eq_true.mpr ⟨_, getElem?_setHost hh _, ?_⟩
    rw [Host.status_recordFailure, if_pos hcrossed]

/-- A connect of a selection has an attempt scheduled only if it is the failure
that makes the host unhealthy. -/
theorem becomes_of_dialled {i : SelectionId} {reason : String}
    (hm : h ∈ b.scheduled (.dialled i (.refused reason))) :
    b.isUnhealthy h = false ∧ (b.step (.dialled i (.refused reason))).isUnhealthy h = true := by
  have hs : (Event.dialled i (.refused reason) : Event α σ).Selects := trivial
  obtain ⟨_, hd⟩ := due_of_scheduled hs (List.ne_nil_of_mem hm)
  obtain ⟨s, r, ht, hstep, -⟩ := hd.turn
  cases ht with
  | connected _ _ _ ho => simp [obtain] at ho
  | @failed _ _ _ h' _ _ _ _ hi hphase _ hp _ =>
    simp only [scheduled, dialling?_of_connecting hi hphase, Option.toList_some, List.mem_filter,
      List.mem_singleton] at hm
    obtain ⟨rfl, hcrosses⟩ := hm
    obtain ⟨hwell, hu⟩ := becomes_of_crosses hcrosses
    refine ⟨hwell, ?_⟩
    rw [hstep]
    exact (isUnhealthy_congr (hp.statuses h)).trans hu

omit [DecidableEq α] in
/-- An attempt whose connect fails is at an unhealthy host, so that health checks
are made. -/
theorem OneLoop.attemptFails_of_probing (hb : OneLoop b) (reason : String)
    (hp : b.probing? t = some h) :
    b.attemptFails h (.probed t (.refused reason)) = true ∧ b.setup.health.isSome = true := by
  obtain ⟨host, hprobes⟩ := probing?_eq_some.mp hp
  obtain ⟨-, hu⟩ := hb.unhealthy_of_probes hprobes
  obtain ⟨_, -, -, -, hh⟩ := hprobes
  exact ⟨by simp [attemptFails, hp, isUnhealthy_eq_true, hh, hu],
    (hb.attended.checked h host hh).planned hu⟩

/-- **What a step adds to a loop.** The event calls for an attempt at a host just
if the host becomes unhealthy in this step, or an attempt fails and the host is
unhealthy. -/
theorem OneLoop.scheduled_iff (hb : OneLoop b) {e : Event α σ} (hb' : OneLoop (b.step e)) :
    h ∈ b.scheduled e ↔ (b.isUnhealthy h = false ∧ (b.step e).isUnhealthy h = true) ∨
      b.attemptFails h e = true := by
  constructor
  · intro hm
    unfold scheduled at hm
    split at hm
    · exact .inl (becomes_of_dialled hm)
    · split at hm
      · exact .inr (hb.attemptFails_of_probing _ (Option.mem_toList.mp hm)).1
      · cases hm
    · cases hm
  · rintro (⟨hwell, hu⟩ | hf)
    · exact hb.scheduled_of_becomes hb' hwell hu
    · unfold attemptFails at hf
      split at hf
      · simp only [Bool.and_eq_true, decide_eq_true_eq] at hf
        have hplanned := (hb.attemptFails_of_probing "" hf.1).2
        simp [scheduled, hplanned, hf.1]
      · cases hf

theorem OneLoop.attemptsAt_step (hb : OneLoop b) {e : Event α σ} (hb' : OneLoop (b.step e))
    (h : HostId) : (b.step e).attemptsAt h = b.attemptsAt h +
      if (b.isUnhealthy h = false ∧ (b.step e).isUnhealthy h = true) ∨
        b.attemptFails h e = true then 1 else 0 := by
  rw [attemptsAt_step_count, ← if_congr (hb.scheduled_iff hb') rfl rfl]
  have hle : (b.scheduled e).count h ≤ 1 :=
    Nat.le_trans List.count_le_length (length_scheduled_le b e)
  split
  · rename_i hm
    have hpos := List.count_pos_iff.mpr hm
    omega
  · rename_i hm
    rw [List.count_eq_zero.mpr hm]

/-- An attempt that fails is over, and another one is scheduled. -/
theorem probed_refused {t : TaskId} {h : HostId} {host : Host α (Link α)}
    (hb : b.Probes t h host) (reason : String) : b.probed t (.refused reason) =
      (b.modifyTask t (·.start .finished)).scheduleAttempt h := by
  obtain ⟨task, ht, hk, hp, hh⟩ := hb
  simp only [probed, ht, hk, hp, hh, obtain]

/-- An attempt that fails leaves its host as it is, but for the slot, where its
successor is now. -/
theorem OneLoop.hosts_step_refused (hb : OneLoop b) {host : Host α (Link α)}
    (hp : b.Probes t h host) (reason : String) :
    (b.step (.probed t (.refused reason))).hosts =
      b.hosts.set h { host with check := some b.tasks.length } := by
  obtain ⟨-, hu⟩ := hb.unhealthy_of_probes hp
  have hstep : b.step (.probed t (.refused reason)) = _ := probed_refused hp reason
  obtain ⟨_, -, -, -, hh⟩ := hp
  obtain ⟨plan, hs⟩ := Option.isSome_iff_exists.mp ((hb.attended.checked h host hh).planned hu)
  generalize hb₁ : b.modifyTask t (·.start .finished) = b₁ at hstep
  have hhosts : b₁.hosts = b.hosts := by rw [← hb₁]; rfl
  have hlength : b₁.tasks.length = b.tasks.length := by
    rw [← hb₁]
    exact List.length_modify _ _ _
  have hh₁ : b₁.hosts[h]? = some host := by rw [hhosts, hh]
  have hs₁ : b₁.setup.health = some plan := by rw [← hb₁]; exact hs
  have hsched := scheduleAttempt_setHost hh₁ hs₁ host hu
  rw [setHost_self hh₁] at hsched
  rw [hstep, hsched, hhosts, hlength]

/-! ### Every run -/

/-- **One retry loop for each bad time of a host.** Let cancelling abort. After
every run, a host is unhealthy just while an attempt at it is not over, and no
two are. Whatever comes next, one attempt at a host is scheduled if the host
becomes unhealthy, or if an attempt fails and the host is unhealthy, and else
none. An attempt that fails leaves its host as it is, but for the slot: there is
its successor now, and the attempt itself is over. Every delay lies in the window
of the settings that the balancer is built from.

Once a host is not unhealthy, whatever the cause, the attempts at it are over and
stay so: none of them starts, and none of their connects ends, whatever comes
later. -/
theorem one_retry_loop (setup : Setup α) (tape : Tape) (callers : σ)
    (haborts : setup.aborts = true) (events : List (Event α σ)) :
    let b := (Balancer.start setup tape callers).run events
    (∀ h, (b.isUnhealthy h = true ↔ ∃ t, b.Retries t h) ∧
      ∀ t t', b.Retries t h → b.Retries t' h → t = t') ∧
    (∀ e h, (b.step e).attemptsAt h = b.attemptsAt h +
      if (b.isUnhealthy h = false ∧ (b.step e).isUnhealthy h = true) ∨
        b.attemptFails h e = true then 1 else 0) ∧
    (∀ t h host reason, b.Probes t h host →
      let b' := b.step (.probed t (.refused reason))
      b'.hosts = b.hosts.set h { host with check := some b.tasks.length } ∧
        b'.Retries b.tasks.length h ∧ ¬ b'.Retries t h) ∧
    (∀ builder : SettingsBuilder, builder.build = .ok setup.toSettings →
      ∀ task ∈ b.tasks, builder.Allows task) ∧
    ∀ h t task, b.isUnhealthy h = false → b.tasks[t]? = some task → task.kind = .health h →
      ∀ later, Over (b.run later) t task := by
  intro b
  have hb : OneLoop b := oneLoop_run setup tape callers haborts events
  have hnext (e : Event α σ) : OneLoop (b.step e) := by
    rw [← run_concat]
    exact oneLoop_run setup tape callers haborts (events ++ [e])
  refine ⟨fun h => ⟨hb.unhealthy_iff, fun t t' => hb.once⟩,
    fun e h => hb.attemptsAt_step (hnext e) h, ?_, ?_, ?_⟩
  · intro t h host reason hp b'
    have hhosts := hb.hosts_step_refused hp reason
    have hsuccessor : b'.Retries b.tasks.length h := by
      obtain ⟨_, -, -, -, hh⟩ := hp
      have hslot : b'.hosts[h]? = some { host with check := some b.tasks.length } := by
        rw [hhosts]
        exact getElem?_setHost hh _
      exact (hnext _).retries_iff.mpr ⟨_, hslot, rfl⟩
    refine ⟨hhosts, hsuccessor, fun hold => ?_⟩
    obtain ⟨_, ht, -⟩ := hp
    have hlt := (List.getElem?_eq_some_iff.mp ht).1
    exact Nat.ne_of_lt hlt ((hnext _).once hold hsuccessor)
  · intro builder hbuild task hm
    exact builder.allows_of_setup hbuild (allows_run setup tape callers events task hm)
  · intro h t task hwell ht hk later
    have ho : task.isLive = false := by
      refine Bool.eq_false_iff.mpr fun hl => ?_
      rw [hb.unhealthy_iff.mpr ⟨t, task, ht, hk, hl⟩] at hwell
      cases hwell
    exact over_of_unchanged ho (over_run later ho ⟨task, ht, rfl, rfl, rfl⟩)

end

/-- The settings of `plainSetup`, as they are asked for. -/
def plainBuilder : SettingsBuilder where
  healthInterval := oneSecond
  healthJitter := .ofMillis 0
  threshold := 1
  resubscribeInterval := oneSecond
  resubscribeJitter := .ofMillis 0

/-- The attempt of the first bad time is over when the second begins, with an
attempt of its own. -/
theorem one_retry_loop_twoBadTimes :
    let b := (freshBalancer true).run twoBadTimes
    (plainSetup true).aborts = true ∧
      ((freshBalancer true).run (twoBadTimes.take 8)).isUnhealthy 0 = false ∧
      b.isUnhealthy 0 = true ∧ (∃ t, b.Retries t 0) ∧
      (∃ task, Over b 0 task ∧ task.kind = .health 0 ∧ task.started = true) ∧
      plainBuilder.build = .ok (plainSetup true).toSettings ∧
      ∀ task ∈ b.tasks, plainBuilder.Allows task := by
  have hfirst := one_retry_loop (plainSetup true) (.ofSeed 0) () rfl (twoBadTimes.take 8)
  have hsecond := one_retry_loop (plainSetup true) (.ofSeed 0) () rfl twoBadTimes
  have hwell : ((freshBalancer true).run (twoBadTimes.take 8)).isUnhealthy 0 = false := by decide
  have hu : ((freshBalancer true).run twoBadTimes).isUnhealthy 0 = true := by decide
  have ht : ((freshBalancer true).run (twoBadTimes.take 8)).tasks[0]? =
      some { kind := .health 0, delay := oneSecond, started := true, cancelled := true,
             phase := .aborted } := by decide
  have hbuild : plainBuilder.build = .ok (plainSetup true).toSettings := by decide +kernel
  obtain ⟨-, -, -, -, hover⟩ := hfirst
  obtain ⟨hloop, -, -, hdelays, -⟩ := hsecond
  have hend := hover 0 0 _ hwell ht rfl (twoBadTimes.drop 8)
  exact ⟨rfl, hwell, hu, (hloop 0).1.mp hu, ⟨_, hend, rfl, rfl⟩, hbuild, hdelays _ hbuild⟩

end HostRotation
