/-
# The slots for health checks

The slot of a host holds a health check just while the host is unhealthy, and
what it holds is an attempt at this very host that is not cancelled and waits
to start or hangs in its connect (`slot_iff_unhealthy`). So an unhealthy host
always has a way back, whatever attempts of earlier times still do.

Every move keeps this (`attended_move`). A move touches the tasks of one host
at most, so the slots of all other hosts keep what they hold (`KeepsTasks`);
at its own host it either leaves status and slot alone, or fills the slot of a
host that is unhealthy, or empties the slot of one that is not.
-/
import HostRotation.Proofs.Table

namespace HostRotation

variable {α σ : Type}

/-! ### Tasks that are left alone -/

/-- The tasks of a kind stay as they are, and there are no new ones. -/
def KeepsTasks (kind : TaskKind) (tasks tasks' : List Task) : Prop :=
  ∀ (t : TaskId) (task : Task), task.kind = kind →
    (tasks'[t]? = some task ↔ tasks[t]? = some task)

namespace KeepsTasks

variable {kind : TaskKind} {tasks tasks' tasks'' : List Task}

theorem refl (kind : TaskKind) (tasks : List Task) : KeepsTasks kind tasks tasks :=
  fun _ _ _ => .rfl

theorem trans (h : KeepsTasks kind tasks tasks') (h' : KeepsTasks kind tasks' tasks'') :
    KeepsTasks kind tasks tasks'' :=
  fun t task hk => (h' t task hk).trans (h t task hk)

/-- New tasks are of another kind. -/
theorem append (tasks new : List Task) (hnew : ∀ task ∈ new, task.kind ≠ kind) :
    KeepsTasks kind tasks (tasks ++ new) := by
  intro t task hk
  by_cases hlt : t < tasks.length
  · rw [List.getElem?_append_left hlt]
  · have hge := Nat.not_lt.mp hlt
    rw [List.getElem?_append_right hge, List.getElem?_eq_none hge]
    refine ⟨fun ht => ?_, fun ht => by simp at ht⟩
    exact absurd hk (hnew task (List.mem_of_getElem? ht))

/-- A task of another kind changes. -/
theorem modify {i : TaskId} {task : Task} (hi : tasks[i]? = some task) (hk : task.kind ≠ kind)
    (f : Task → Task) (hf : ∀ task, (f task).kind = task.kind) :
    KeepsTasks kind tasks (tasks.modify i f) := by
  intro t task' hk'
  by_cases hit : i = t
  · subst hit
    rw [List.getElem?_modify_eq, hi]
    constructor
    · intro ht
      obtain rfl := Option.some.inj ht
      exact absurd hk' (by rwa [hf])
    · intro ht
      obtain rfl := Option.some.inj ht
      exact absurd hk' hk
  · rw [List.getElem?_modify_ne f tasks hit]

/-- A task of another kind, if any, is cancelled. -/
theorem cancelIn {o : Option TaskId} (aborts : Bool)
    (ho : ∀ t, o = some t → ∃ task, tasks[t]? = some task ∧ task.kind ≠ kind) :
    KeepsTasks kind tasks (cancelIn aborts tasks o) := by
  cases o with
  | none => exact .refl _ _
  | some t =>
    obtain ⟨task, ht, hk⟩ := ho t rfl
    exact modify ht hk _ (Task.kind_cancel aborts)

/-- A task of another kind is finished, a new one of another kind comes, and
then one of another kind is cancelled. -/
theorem replace {i : TaskId} {task new : Task} (hi : tasks[i]? = some task)
    (hk : task.kind ≠ kind) (hnew : new.kind ≠ kind) {o : Option TaskId} (aborts : Bool)
    (ho : ∀ t, o = some t → ∃ task,
      (tasks.modify i (·.start .finished) ++ [new])[t]? = some task ∧ task.kind ≠ kind) :
    KeepsTasks kind tasks
      (HostRotation.cancelIn aborts (tasks.modify i (·.start .finished) ++ [new]) o) := by
  have hmodify := modify hi hk (·.start .finished) fun _ => rfl
  have happend : KeepsTasks kind (tasks.modify i (·.start .finished)) _ :=
    append _ [new] (by simpa using hnew)
  exact (hmodify.trans happend).trans (cancelIn aborts ho)

end KeepsTasks

/-! ### Slots -/

/-- The slot of a host is as it should be. -/
structure Checked (health : Option HealthPlan) (tasks : List Task) (h : HostId)
    (host : Host α (Link α)) : Prop where
  occupied : host.check.isSome = true ↔ host.status = .unhealthy
  attempt : ∀ t, host.check = some t → ∃ task, tasks[t]? = some task ∧
    task.kind = .health h ∧ task.cancelled = false ∧
    (task.phase = .waiting ∨ task.phase = .connecting)
  planned : host.status = .unhealthy → health.isSome = true

namespace Checked

variable {health : Option HealthPlan} {tasks tasks' : List Task} {h : HostId}
  {host host' : Host α (Link α)}

theorem check_eq_none (hc : Checked health tasks h host) (hu : host.status ≠ .unhealthy) :
    host.check = none := by
  rw [← Option.not_isSome_iff_eq_none, hc.occupied]
  exact hu

/-- What the slot of a host holds is a task of this host. -/
theorem ne_kind (hc : Checked health tasks h host) {kind : TaskKind} (hne : .health h ≠ kind) :
    ∀ t, host.check = some t → ∃ task, tasks[t]? = some task ∧ task.kind ≠ kind := by
  intro t ht
  obtain ⟨task, htask, hk, -⟩ := hc.attempt t ht
  exact ⟨task, htask, hk ▸ hne⟩

/-- Nothing happens to the tasks of the host. -/
theorem frame (hc : Checked health tasks h host) (hk : KeepsTasks (.health h) tasks tasks') :
    Checked health tasks' h host where
  occupied := hc.occupied
  attempt := by
    intro t ht
    obtain ⟨task, htask, hkind, hrest⟩ := hc.attempt t ht
    exact ⟨task, (hk t task hkind).mpr htask, hkind, hrest⟩
  planned := hc.planned

/-- The host keeps its status and its slot. -/
theorem same (hc : Checked health tasks h host) (hs : host'.status = host.status)
    (hslot : host'.check = host.check) : Checked health tasks h host' where
  occupied := by
    rw [hs, hslot]
    exact hc.occupied
  attempt := fun t ht => hc.attempt t (hslot ▸ ht)
  planned := fun hu => hc.planned (hs ▸ hu)

/-- A host that is not unhealthy has an empty slot. -/
theorem vacant (hslot : host.check = none) (hs : host.status ≠ .unhealthy) :
    Checked health tasks h host where
  occupied := by simp [hslot, hs]
  attempt := by simp [hslot]
  planned := fun hu => absurd hu hs

/-- An attempt that has just been scheduled is in the slot. -/
theorem fill {t : TaskId} (delay : Duration) (hslot : host.check = some t)
    (hu : host.status = .unhealthy) (hp : health.isSome = true)
    (ht : tasks[t]? = some { kind := .health h, delay }) : Checked health tasks h host where
  occupied := by simp [hslot, hu]
  attempt := by
    intro t' ht'
    obtain rfl := Option.some.inj (hslot.symm.trans ht')
    exact ⟨_, ht, rfl, rfl, .inl rfl⟩
  planned := fun _ => hp

theorem lt (hc : Checked health tasks h host) {t : TaskId} (ht : host.check = some t) :
    t < tasks.length := by
  obtain ⟨task, htask, -⟩ := hc.attempt t ht
  exact (List.getElem?_eq_some_iff.mp htask).1

/-- An attempt begins its connect. -/
theorem advance (hc : Checked health tasks h host) (i : TaskId) :
    Checked health (tasks.modify i (·.start .connecting)) h host where
  occupied := hc.occupied
  attempt := by
    intro t ht
    obtain ⟨task, htask, hk, hn, hp⟩ := hc.attempt t ht
    by_cases hit : i = t
    · subst hit
      exact ⟨task.start .connecting, by simp [htask], hk, hn, .inr rfl⟩
    · exact ⟨task, by rwa [List.getElem?_modify_ne _ tasks hit], hk, hn, hp⟩
  planned := hc.planned

/-- A task that is in no slot changes. -/
theorem modify (hc : Checked health tasks h host) {i : TaskId} (hi : host.check ≠ some i)
    (f : Task → Task) : Checked health (tasks.modify i f) h host where
  occupied := hc.occupied
  attempt := by
    intro t ht
    obtain ⟨task, htask, hrest⟩ := hc.attempt t ht
    have hne : i ≠ t := fun heq => hi (heq ▸ ht)
    exact ⟨task, by rwa [List.getElem?_modify_ne f tasks hne], hrest⟩
  planned := hc.planned

end Checked

/-- Every slot is as it should be, and the resubscribe that is pending is one. -/
structure Attended (health : Option HealthPlan) (hosts : List (Host α (Link α)))
    (tasks : List Task) (monitor : Monitor) : Prop where
  checked : ∀ (h : HostId) (host : Host α (Link α)), hosts[h]? = some host →
    Checked health tasks h host
  pending : ∀ t, monitor.pending = some t →
    ∃ task, tasks[t]? = some task ∧ task.kind = .resubscribe

namespace Attended

variable {health : Option HealthPlan} {hosts : List (Host α (Link α))} {tasks tasks' : List Task}
  {monitor monitor' : Monitor} {h : HostId} {host host' : Host α (Link α)}

theorem start (health : Option HealthPlan) :
    Attended health ([] : List (Host α (Link α))) [] {} where
  checked := by simp
  pending := by simp

/-- A host changes, and no tasks but its own. -/
theorem update (ha : Attended health hosts tasks monitor) (hh : hosts[h]? = some host)
    (hk : ∀ kind, TaskKind.health h ≠ kind → KeepsTasks kind tasks tasks')
    (hc : Checked health tasks' h host') : Attended health (hosts.set h host') tasks' monitor where
  checked := by
    intro j k hj
    rcases getElem?_set_cases hj with ⟨rfl, rfl⟩ | ⟨hne, hj⟩
    · exact hc
    · exact (ha.checked j k hj).frame (hk _ fun heq => hne (TaskKind.health.inj heq).symm)
  pending := by
    intro t ht
    obtain ⟨task, htask, hkind⟩ := ha.pending t ht
    exact ⟨task, (hk .resubscribe (by simp) t task hkind).mpr htask, hkind⟩

/-- A host changes, and no tasks. -/
theorem set (ha : Attended health hosts tasks monitor) (hh : hosts[h]? = some host)
    (hc : Checked health tasks h host') : Attended health (hosts.set h host') tasks monitor :=
  ha.update hh (fun kind _ => .refl kind tasks) hc

/-- The tasks of one host change. -/
theorem own (ha : Attended health hosts tasks monitor) (h : HostId)
    (hk : ∀ kind, TaskKind.health h ≠ kind → KeepsTasks kind tasks tasks')
    (hc : ∀ host, hosts[h]? = some host → Checked health tasks' h host) :
    Attended health hosts tasks' monitor where
  checked := by
    intro j k hj
    by_cases hjh : j = h
    · subst hjh
      exact hc k hj
    · exact (ha.checked j k hj).frame (hk _ fun heq => hjh (TaskKind.health.inj heq).symm)
  pending := by
    intro t ht
    obtain ⟨task, htask, hkind⟩ := ha.pending t ht
    exact ⟨task, (hk .resubscribe (by simp) t task hkind).mpr htask, hkind⟩

/-- No health check changes. -/
theorem others (ha : Attended health hosts tasks monitor)
    (hk : ∀ h, KeepsTasks (.health h) tasks tasks')
    (hp : ∀ t, monitor'.pending = some t →
      ∃ task, tasks'[t]? = some task ∧ task.kind = .resubscribe) :
    Attended health hosts tasks' monitor' :=
  ⟨fun h host hh => (ha.checked h host hh).frame (hk h), hp⟩

theorem append (ha : Attended health hosts tasks monitor) (a : α) :
    Attended health (hosts ++ [{ address := a }]) tasks monitor where
  checked := by
    intro j k hj
    rcases getElem?_concat_cases hj with ⟨rfl, rfl⟩ | ⟨-, hj⟩
    · exact .vacant rfl (by simp)
    · exact ha.checked j k hj
  pending := ha.pending

theorem pending_modify (ha : Attended health hosts tasks monitor) {i : TaskId} {f : Task → Task}
    (hf : ∀ task, (f task).kind = task.kind) (t : TaskId) (ht : monitor.pending = some t) :
    ∃ task, (tasks.modify i f)[t]? = some task ∧ task.kind = .resubscribe := by
  obtain ⟨task, htask, hk⟩ := ha.pending t ht
  rw [List.getElem?_modify, htask]
  refine ⟨_, rfl, ?_⟩
  split
  · rwa [hf]
  · exact hk

/-- A host whose slot was emptied, and the check in it cancelled. -/
theorem cancel (ha : Attended health hosts tasks monitor) (hh : hosts[h]? = some host)
    (aborts : Bool) (hslot : host'.check = none) (hs : host'.status ≠ .unhealthy) :
    Attended health (hosts.set h host') (cancelIn aborts tasks host.check) monitor :=
  ha.update hh (fun _ hne => .cancelIn aborts ((ha.checked h host hh).ne_kind hne))
    (.vacant hslot hs)

end Attended

/-! ### Every move keeps it -/

theorem getElem?_cancelIn (aborts : Bool) (tasks : List Task) {o : Option TaskId} {i : TaskId}
    (ho : ∀ t, o = some t → t ≠ i) : (cancelIn aborts tasks o)[i]? = tasks[i]? := by
  cases o with
  | none => rfl
  | some t => exact List.getElem?_modify_ne _ _ (ho t rfl)

/-- A task that goes on and a new one leave the kinds of all others alone. -/
theorem kind_modify_append {kind : TaskKind} {tasks : List Task} {t i : TaskId}
    (f : Task → Task) (hf : ∀ task, (f task).kind = task.kind) (new : List Task)
    (ht : ∃ task, tasks[t]? = some task ∧ task.kind ≠ kind) :
    ∃ task, (tasks.modify i f ++ new)[t]? = some task ∧ task.kind ≠ kind := by
  obtain ⟨task, htask, hk⟩ := ht
  obtain ⟨hlt, -⟩ := List.getElem?_eq_some_iff.mp htask
  rw [List.getElem?_append_left (by simpa using hlt), List.getElem?_modify, htask]
  refine ⟨_, rfl, ?_⟩
  split
  · rwa [hf]
  · exact hk

section

variable [DecidableEq α] {e : Event α σ} {m m' : Moment α σ}

theorem attended_move (hmove : Move e m m')
    (ha : Attended m.setup.health m.hosts m.tasks m.monitor) :
    Attended m'.setup.health m'.hosts m'.tasks m'.monitor := by
  cases hmove with
  | note | listen | lose | heed | settle | withdraw | ignore | retire | closeNone => exact ha
  | opens | reopen | closeLink | handOver | beginClosing | peerCloses | closeWillFail => exact ha
  | resubscribe => exact ⟨ha.checked, by simp⟩
  | shut =>
    refine ha.others (fun h => .cancelIn _ fun t ht => ?_) (by simp)
    obtain ⟨task, htask, hk⟩ := ha.pending t ht
    exact ⟨task, htask, by simp [hk]⟩
  | arm delay _ _ _ =>
    refine ha.others (fun h => .append _ _ (by simp)) fun t ht => ?_
    obtain rfl := Option.some.inj ht
    exact ⟨{ kind := .resubscribe, delay }, by simp, rfl⟩
  | fire ht hk _ =>
    exact ha.others (fun h => .modify ht (by simp [hk]) _ fun _ => rfl)
      (ha.pending_modify fun _ => rfl)
  | @attempt t task h host _ ht hk hp hh hu =>
    refine ha.own h (fun _ hne => .modify ht (hk ▸ hne) _ fun _ => rfl) fun host' hh' => ?_
    exact (ha.checked h host' hh').advance t
  | @skip t task h ht hk hp hu =>
    refine ha.own h (fun _ hne => .modify ht (hk ▸ hne) _ fun _ => rfl) fun host hh => ?_
    exact .vacant ((ha.checked h host hh).check_eq_none (hu host hh)) (hu host hh)
  | @reach t _ task h host l ls _ _ ht hk _ hh hc _ =>
    exact ha.update hh (fun _ hne => .modify ht (hk ▸ hne) _ fun _ => rfl)
      (.vacant rfl (Host.status_add_ne_unhealthy _ _))
  | @discard t task h host ht hk hp hh hc =>
    refine ha.own h (fun _ hne => .modify ht (hk ▸ hne) _ fun _ => rfl) fun host' hh' => ?_
    obtain rfl := Option.some.inj (hh.symm.trans hh')
    have hu : host.status ≠ .unhealthy := by simp [hc]
    exact .vacant ((ha.checked h host hh).check_eq_none hu) hu
  | @discarded t task ht hp =>
    refine ⟨fun h host hh => (ha.checked h host hh).modify (fun hslot => ?_) _,
      ha.pending_modify fun _ => rfl⟩
    -- What is in a slot waits or connects, and this attempt does neither.
    obtain ⟨task', ht', -, -, hp'⟩ := (ha.checked h host hh).attempt t hslot
    obtain rfl := Option.some.inj (ht.symm.trans ht')
    simp [hp] at hp'
  | @retry t task h host delay _ ht hk hp hh hu =>
    have hch := ha.checked h host hh
    refine ha.update hh (fun kind hne => ?_) (.fill delay rfl hu (hch.planned hu) ?_)
    · exact .replace ht (hk ▸ hne) hne _ fun t' ht' =>
        kind_modify_append (·.start .finished) (fun _ => rfl) _ (hch.ne_kind hne t' ht')
    · rw [getElem?_cancelIn _ _ fun t' ht' => Nat.ne_of_lt (by simpa using hch.lt ht')]
      simp
  | @giveUp t task h host delay _ ht hk hp hh hu =>
    refine ha.own h (fun kind hne => ?_) fun host' hh' => ?_
    · refine .replace (o := some m.tasks.length) ht (hk ▸ hne) hne _ fun t' ht' => ?_
      obtain rfl := Option.some.inj ht'
      exact ⟨{ kind := .health h, delay }, by simp, hne⟩
    · obtain rfl := Option.some.inj (hh.symm.trans hh')
      exact .vacant ((ha.checked h host hh).check_eq_none hu) hu
  | @unplanned t task h ht hk hp hs =>
    refine ha.own h (fun _ hne => .modify ht (hk ▸ hne) _ fun _ => rfl) fun host hh => ?_
    have hch := ha.checked h host hh
    have hu : host.status ≠ .unhealthy := fun hu => by simpa [hs] using hch.planned hu
    exact .vacant (hch.check_eq_none hu) hu
  | @prune h host l hh _ _ =>
    exact ha.set hh ((ha.checked h host hh).same (Host.status_remove _ _) (Host.check_remove _ _))
  | @fail h host hh hf =>
    refine ha.set hh ((ha.checked h host hh).same ?_ (Host.check_recordFailure _ _))
    simp [Host.status_recordFailure, hf]
  | @fallSick h host plan delay _ hh hs hf =>
    have hnone := (ha.checked h host hh).check_eq_none (by simp [Host.active_of_recordFailure hf])
    rw [hnone]
    refine ha.update hh (fun kind hne => .append _ _ (by simpa using hne))
      (.fill delay rfl ?_ ?_ ?_)
    · simp [Host.status_recordFailure, hf]
    · simp [hs]
    · simp [cancelIn]
  | @welcome _ _ h host l ls _ hh hu _ =>
    exact ha.cancel hh _ rfl (Host.status_add_ne_unhealthy _ _)
  | @pool _ _ h host l ls _ hh hc hu _ =>
    refine ha.set hh (.vacant ?_ (Host.status_add_ne_unhealthy _ _))
    rw [Host.check_add]
    exact (ha.checked h host hh).check_eq_none hu
  | appear a _ _ => exact ha.append a
  | @reannounce h host a _ hh hu =>
    refine ha.set hh (.vacant ?_ (Host.status_activate_ne_unhealthy _))
    rw [Host.check_activate]
    exact (ha.checked h host hh).check_eq_none hu
  | revive _ _ hh _ => exact ha.cancel hh _ rfl (Host.status_activate_ne_unhealthy _)
  | expire _ _ hh _ => exact ha.cancel hh _ rfl (Host.status_expire_ne_unhealthy _)
  | expireOut _ _ hh _ => exact ha.cancel hh _ rfl (Host.status_expire_ne_unhealthy _)
  | closeHost _ _ hh => exact ha.cancel hh _ rfl (by simp)

theorem attended_run (setup : Setup α) (tape : Tape) (callers : σ) (events : List (Event α σ)) :
    let b := (Balancer.start setup tape callers).run events
    Attended b.setup.health b.hosts b.tasks b.monitor := by
  obtain ⟨_, ha⟩ := Balancer.run_keeps
    (I := fun m => Attended m.setup.health m.hosts m.tasks m.monitor) events
    (fun _ _ _ _ hmove => attended_move hmove) (Balancer.start setup tape callers) [] []
    (.start setup.health)
  exact ha

/-- **An unhealthy host always has a way back.** In every state of every run,
whether cancelling a task aborts it or not, the slot of a host is occupied
just while the host is unhealthy, and what is in it is an attempt at this very
host that is not cancelled and not over: it waits to start or is under way. -/
theorem slot_iff_unhealthy (setup : Setup α) (tape : Tape) (callers : σ)
    (events : List (Event α σ)) :
    let b := (Balancer.start setup tape callers).run events
    ∀ (h : HostId) (host : Host α (Link α)), b.hosts[h]? = some host →
      (host.check.isSome = true ↔ host.status = .unhealthy) ∧
      ∀ t, host.check = some t → ∃ task : Task, b.tasks[t]? = some task ∧
        task.kind = .health h ∧ task.cancelled = false ∧
        (task.phase = .waiting ∨ task.phase = .connecting) := by
  intro b h host hh
  have hc := (attended_run setup tape callers events).checked h host hh
  exact ⟨hc.occupied, hc.attempt⟩

end

/-- An attempt of an earlier bad time of a host fails late, when the host is
unhealthy again. -/
def lateFailure : List (Event Nat Unit) := twoBadTimes ++ [.probed 0 (.refused "down")]

theorem slot_iff_unhealthy_lateFailure :
    let b := (freshBalancer false).run lateFailure
    ∃ host, b.hosts[0]? = some host ∧ host.status = .unhealthy ∧ host.check.isSome = true ∧
      ∀ t, host.check = some t → ∃ task : Task, b.tasks[t]? = some task ∧
        task.kind = .health 0 ∧ task.cancelled = false ∧
        (task.phase = .waiting ∨ task.phase = .connecting) := by
  intro b
  have hh : b.hosts[0]? =
      some { address := 1, status := .unhealthy, failures := 1, check := some 3 } := by decide
  obtain ⟨hslot, hattempt⟩ :=
    slot_iff_unhealthy (plainSetup false) (.ofSeed 0) () lateFailure 0 _ hh
  exact ⟨_, hh, rfl, hslot.mpr rfl, hattempt⟩

end HostRotation
