/-
# Orphaned retries

A health attempt that has not started and is not cancelled should be the one
in the slot of its host. Then there is one at most for a host, whatever ends
the bad time of the host cancels it, and closing the balancer leaves none
(`NoOrphans`).

Where cancelling aborts, this always holds. Where it does not, an attempt of
an earlier time may still hang in its connect while the host, unhealthy again,
waits for the next attempt. If the connect of the old one succeeds now, it
empties the slot without cancelling what the slot held (`Forgets`). This, and
nothing else, orphans a retry (`noOrphans_iff`).
-/
import HostRotation.Proofs.Resubscribes

namespace HostRotation

variable {α σ : Type}

/-! ### What the slots hold -/

/-- A mark that a task can lose but not gain: none has it once it is
cancelled or over, and one that starts had it before. -/
structure Mark (aborts : Bool) (P : Task → Prop) : Prop where
  cancelled : ∀ task : Task, ¬ P (task.cancel aborts)
  finished : ∀ task : Task, ¬ P (task.start .finished)
  discarding : ∀ task : Task, ¬ P (task.start .discarding)
  connecting : ∀ task : Task, task.phase = .waiting → P (task.start .connecting) → P task

/-- Every health attempt that has a mark is in the slot of its host. -/
def Held (P : Task → Prop) (hosts : List (Host α (Link α))) (tasks : List Task) : Prop :=
  ∀ (t : TaskId) (task : Task) (h : HostId), tasks[t]? = some task → task.kind = .health h →
    P task → ∃ host, hosts[h]? = some host ∧ host.check = some t

namespace Held

variable {aborts : Bool} {P : Task → Prop} {hosts : List (Host α (Link α))}
  {tasks tasks' : List Task} {h : HostId} {host host' : Host α (Link α)}

theorem start (P : Task → Prop) : Held P ([] : List (Host α (Link α))) [] := by
  intro t task h ht
  simp at ht

/-- A task changes, and does not gain the mark. -/
theorem modify (held : Held P hosts tasks) (i : TaskId) {f : Task → Task}
    (hk : ∀ task, (f task).kind = task.kind)
    (hf : ∀ task, tasks[i]? = some task → P (f task) → P task) :
    Held P hosts (tasks.modify i f) := by
  intro t task' h ht hkind hP
  rcases getElem?_modify_cases ht with ⟨task, rfl, htask, rfl⟩ | ⟨-, ht⟩
  · exact held t task h htask (hk task ▸ hkind) (hf task htask hP)
  · exact held t task' h ht hkind hP

/-- A task loses the mark. -/
theorem lose (held : Held P hosts tasks) (i : TaskId) {phase : TaskPhase}
    (hP : ∀ task : Task, ¬ P (task.start phase)) :
    Held P hosts (tasks.modify i (·.start phase)) :=
  held.modify i (fun _ => rfl) fun task _ hmark => absurd hmark (hP task)

/-- What has the mark is not what was cancelled. -/
theorem of_cancelIn (hm : Mark aborts P) {o : Option TaskId} {t : TaskId} {task : Task}
    (ht : (cancelIn aborts tasks o)[t]? = some task) (hP : P task) :
    o ≠ some t ∧ tasks[t]? = some task := by
  cases o with
  | none => exact ⟨by simp, ht⟩
  | some i =>
    rcases getElem?_modify_cases ht with ⟨task', -, -, rfl⟩ | ⟨hne, ht⟩
    · exact absurd hP (hm.cancelled task')
    · exact ⟨fun heq => hne (Option.some.inj heq).symm, ht⟩

theorem cancelAny (hm : Mark aborts P) (held : Held P hosts tasks) (o : Option TaskId) :
    Held P hosts (cancelIn aborts tasks o) :=
  fun t task h ht hk hP => held t task h (of_cancelIn hm ht hP).2 hk hP

/-- A task that is not a health attempt is new. -/
theorem append (held : Held P hosts tasks) {new : Task} (hn : ∀ h, new.kind ≠ .health h) :
    Held P hosts (tasks ++ [new]) := by
  intro t task h ht hk hP
  rcases getElem?_concat_cases ht with ⟨-, rfl⟩ | ⟨-, ht⟩
  · exact absurd hk (hn h)
  · exact held t task h ht hk hP

/-- A task is new, and cancelled at once. -/
theorem appendCancelled (hm : Mark aborts P) (held : Held P hosts tasks) (new : Task) :
    Held P hosts (cancelIn aborts (tasks ++ [new]) (some tasks.length)) := by
  intro t task h ht hk hP
  obtain ⟨hne, ht⟩ := of_cancelIn hm ht hP
  rcases getElem?_concat_cases ht with ⟨rfl, -⟩ | ⟨-, ht⟩
  · exact absurd rfl hne
  · exact held t task h ht hk hP

/-- A host changes and keeps its slot. -/
theorem set (held : Held P hosts tasks) (hh : hosts[h]? = some host)
    (hslot : host'.check = host.check) : Held P (hosts.set h host') tasks := by
  intro t task j ht hk hP
  obtain ⟨k, hj, hcheck⟩ := held t task j ht hk hP
  by_cases hjh : h = j
  · subst hjh
    obtain rfl := Option.some.inj (hh.symm.trans hj)
    obtain ⟨hlt, -⟩ := List.getElem?_eq_some_iff.mp hh
    exact ⟨host', by simp [hlt], hslot.trans hcheck⟩
  · exact ⟨k, by rwa [List.getElem?_set_ne hjh], hcheck⟩

/-- A host is new. -/
theorem appear (held : Held P hosts tasks) (host : Host α (Link α)) :
    Held P (hosts ++ [host]) tasks := by
  intro t task h ht hk hP
  obtain ⟨k, hh, hcheck⟩ := held t task h ht hk hP
  obtain ⟨hlt, -⟩ := List.getElem?_eq_some_iff.mp hh
  exact ⟨k, by rwa [List.getElem?_append_left hlt], hcheck⟩

/-- The slot of a host is filled anew, or emptied. What has the mark is not
what the slot held: it was there before, or is what the slot holds now. -/
theorem replace (held : Held P hosts tasks) (hh : hosts[h]? = some host)
    (hnew : ∀ (t : TaskId) (task : Task), tasks'[t]? = some task → P task →
      host.check ≠ some t ∧
        (tasks[t]? = some task ∨ task.kind = .health h ∧ host'.check = some t)) :
    Held P (hosts.set h host') tasks' := by
  intro t task j ht hk hP
  obtain ⟨hlt, -⟩ := List.getElem?_eq_some_iff.mp hh
  obtain ⟨hne, hold | ⟨hkind, hslot⟩⟩ := hnew t task ht hP
  · obtain ⟨k, hj, hcheck⟩ := held t task j hold hk hP
    by_cases hjh : h = j
    · subst hjh
      obtain rfl := Option.some.inj (hh.symm.trans hj)
      exact absurd hcheck hne
    · exact ⟨k, by rwa [List.getElem?_set_ne hjh], hcheck⟩
  · obtain rfl := TaskKind.health.inj (hk.symm.trans hkind)
    exact ⟨host', by simp [hlt], hslot⟩

/-- The slot is emptied, and what it held is cancelled. -/
theorem cancel (hm : Mark aborts P) (held : Held P hosts tasks) (hh : hosts[h]? = some host) :
    Held P (hosts.set h host') (cancelIn aborts tasks host.check) :=
  held.replace hh fun _ _ ht hP => (of_cancelIn hm ht hP).imp_right .inl

/-- The slot is filled anew, and what it held is cancelled. -/
theorem refill (hm : Mark aborts P) (held : Held P hosts tasks) (hh : hosts[h]? = some host)
    (delay : Duration) (hslot : host'.check = some tasks.length) :
    Held P (hosts.set h host') (cancelIn aborts
      (tasks ++ [{ kind := .health h, delay }]) host.check) := by
  refine held.replace hh fun t task ht hP => ?_
  obtain ⟨hne, ht⟩ := of_cancelIn hm ht hP
  refine ⟨hne, ?_⟩
  rcases getElem?_concat_cases ht with ⟨rfl, rfl⟩ | ⟨-, ht⟩
  · exact .inr ⟨rfl, hslot⟩
  · exact .inl ht

/-- The slot is emptied, and what it held has no mark. -/
theorem empty (held : Held P hosts tasks) (hh : hosts[h]? = some host)
    (hslot : ∀ (t : TaskId) (task : Task), host.check = some t → tasks[t]? = some task → ¬ P task) :
    Held P (hosts.set h host') tasks :=
  held.replace hh fun t task ht hP => ⟨fun hc => hslot t task hc ht hP, .inl ht⟩

end Held

/-! ### Every move keeps it -/

section

variable [DecidableEq α] {e : Event α σ} {m m' : Moment α σ} {P : Task → Prop}

/-- A move leaves every attempt with a mark in the slot of its host, unless an
attempt reaches its host and finds another one with the mark in the slot. -/
theorem held_move (hmove : Move e m m') (hm : Mark m.setup.aborts P)
    (hr : ∀ t outcome, e = .probed t outcome → (∀ reason, outcome ≠ .refused reason) →
      ∀ (h : HostId) (host : Host α (Link α)) (t' : TaskId) (other : Task), m.Probes t h host →
        host.check = some t' → t' ≠ t → m.tasks[t']? = some other → ¬ P other)
    (held : Held P m.hosts m.tasks) : Held P m'.hosts m'.tasks := by
  cases hmove with
  | note | listen | lose | resubscribe | heed | settle | withdraw | ignore | retire => exact held
  | closeNone | opens | reopen | closeLink | handOver => exact held
  | beginClosing | peerCloses | closeWillFail => exact held
  | shut => exact held.cancelAny hm _
  | arm => exact held.append (by simp)
  | fire | skip | discarded | unplanned => exact held.lose _ hm.finished
  | discard => exact held.lose _ hm.discarding
  | @attempt t task h host _ ht hk hp hh hu =>
    refine held.modify t (fun _ => rfl) fun task' ht' => ?_
    obtain rfl := Option.some.inj (ht.symm.trans ht')
    exact hm.connecting task hp
  | @reach t outcome task h host l ls he ho ht hk hp hh _ _ =>
    refine (held.lose t hm.finished).empty hh fun t' other hc ht' => ?_
    rcases getElem?_modify_cases ht' with ⟨task', -, -, rfl⟩ | ⟨hne, ht'⟩
    · exact hm.finished task'
    · exact hr t outcome he ho h host t' other ⟨task, ht, hk, hp, hh⟩ hc hne ht'
  | @retry t task h host delay _ _ _ _ hh _ =>
    exact (held.lose t hm.finished).refill hm hh delay (by simp)
  | @giveUp t task h host delay =>
    have hnew := (held.lose t hm.finished).appendCancelled hm { kind := .health h, delay }
    rwa [List.length_modify] at hnew
  | prune hh _ _ => exact held.set hh (Host.check_remove _ _)
  | fail hh _ => exact held.set hh (Host.check_recordFailure _ _)
  | fallSick delay _ hh _ _ => exact held.refill hm hh delay rfl
  | welcome _ hh _ _ => exact held.cancel hm hh
  | pool _ hh _ _ _ => exact held.set hh (Host.check_add _ _)
  | appear => exact held.appear _
  | reannounce _ _ hh _ => exact held.set hh (Host.check_activate _)
  | revive _ _ hh _ => exact held.cancel hm hh
  | expire _ _ hh _ => exact held.cancel hm hh
  | expireOut _ _ hh _ => exact held.cancel hm hh
  | closeHost _ _ hh => exact held.cancel hm hh

end

/-! ### The marks -/

/-- A task has not started, and nothing keeps it from it. -/
def Task.Awaits (task : Task) : Prop := task.started = false ∧ task.cancelled = false

/-- A task is not cancelled, and waits or connects. -/
def Task.Tries (task : Task) : Prop :=
  task.cancelled = false ∧ (task.phase = .waiting ∨ task.phase = .connecting)

theorem mark_awaits (aborts : Bool) : Mark aborts Task.Awaits where
  cancelled := fun task h => by simp [Task.Awaits] at h
  finished := fun task h => by simp [Task.Awaits, Task.start] at h
  discarding := fun task h => by simp [Task.Awaits, Task.start] at h
  connecting := fun task _ h => by simp [Task.Awaits, Task.start] at h

theorem mark_tries (aborts : Bool) : Mark aborts Task.Tries where
  cancelled := fun task h => by simp [Task.Tries] at h
  finished := fun task h => by simp [Task.Tries, Task.start] at h
  discarding := fun task h => by simp [Task.Tries, Task.start] at h
  connecting := fun task hw h => ⟨h.1, .inl hw⟩

namespace Balancer

/-- A health attempt has not started, and nothing keeps it from it. -/
def Pending (b : Balancer α σ) (t : TaskId) (h : HostId) : Prop :=
  ∃ task, b.tasks[t]? = some task ∧ task.kind = .health h ∧ task.Awaits

/-- No retry is orphaned. -/
structure NoOrphans (b : Balancer α σ) : Prop where
  held : ∀ t h, b.Pending t h → ∃ host, b.hosts[h]? = some host ∧ host.check = some t
  once : ∀ t t' h, b.Pending t h → b.Pending t' h → t = t'
  unhealthy : ∀ t h, b.Pending t h → ∃ host, b.hosts[h]? = some host ∧ host.status = .unhealthy
  present : ∀ t h, b.Pending t h → h ∈ b.table
  closed : b.lifecycle ≠ .running → ∀ (t : TaskId) (task : Task), b.tasks[t]? = some task →
    task.started = false → task.cancelled = true

/-- The connect of a health attempt succeeds, and the slot of its host holds
another attempt, which has not started. -/
def Forgets (b : Balancer α σ) : Event α σ → Prop
  | .probed t outcome => (∀ reason, outcome ≠ .refused reason) ∧
    ∃ (h : HostId) (host : Host α (Link α)) (t' : TaskId) (other : Task), b.Probes t h host ∧
      host.check = some t' ∧ t' ≠ t ∧ b.tasks[t']? = some other ∧ other.started = false
  | _ => False

variable {b : Balancer α σ}

/-- Where cancelling aborts, an attempt that connects is in the slot of its host. -/
theorem Probes.check_eq {t : TaskId} {h : HostId} {host : Host α (Link α)}
    (hb : b.Probes t h host) (ha : b.setup.aborts = true) (hs : AllSound b.setup.aborts b.tasks)
    (held : Held Task.Tries b.hosts b.tasks) : host.check = some t := by
  obtain ⟨task, ht, hk, hp, hh⟩ := hb
  have hcancelled : task.cancelled = false := by
    cases hc : task.cancelled
    · rfl
    · exact absurd hp ((hs t task ht).cancelled ha hc).2
  obtain ⟨host', hh', hcheck⟩ := held t task h ht hk ⟨hcancelled, .inr hp⟩
  obtain rfl := Option.some.inj (hh.symm.trans hh')
  exact hcheck

/-- Of the retries that are in slots, none is an orphan. -/
theorem noOrphans_of_held {health : Option HealthPlan} (held : Held Task.Awaits b.hosts b.tasks)
    (ha : Attended health b.hosts b.tasks b.monitor) (ht : Tidy b.hosts b.table [])
    (hempty : b.lifecycle ≠ .running → b.table = [])
    (hr : Renewal b.lifecycle b.reconciler b.monitor b.tasks b.commands) : b.NoOrphans := by
  have hheld (t h) (hp : b.Pending t h) :
      ∃ host, b.hosts[h]? = some host ∧ host.check = some t := by
    obtain ⟨task, htask, hk, hawaits⟩ := hp
    exact held t task h htask hk hawaits
  have hunhealthy (t h) (hp : b.Pending t h) :
      ∃ host, b.hosts[h]? = some host ∧ host.status = .unhealthy := by
    obtain ⟨host, hh, hc⟩ := hheld t h hp
    exact ⟨host, hh, (ha.checked h host hh).occupied.mp (by simp [hc])⟩
  have hpresent (t h) (hp : b.Pending t h) : h ∈ b.table := by
    obtain ⟨host, hh, hu⟩ := hunhealthy t h hp
    by_cases hm : h ∈ b.table
    · exact hm
    · have hclosed := (ht.closed_iff h host hh).mpr ⟨hm, List.not_mem_nil⟩
      simp [hu] at hclosed
  refine ⟨hheld, fun t t' h hp hp' => ?_, hunhealthy, hpresent, fun hne t task htask hs => ?_⟩
  · obtain ⟨host, hh, hc⟩ := hheld t h hp
    obtain ⟨host', hh', hc'⟩ := hheld t' h hp'
    obtain rfl := Option.some.inj (hh.symm.trans hh')
    exact Option.some.inj (hc.symm.trans hc')
  · by_cases hc : task.cancelled = true
    · exact hc
    cases hk : task.kind with
    | health h =>
      have hm := hpresent t h ⟨task, htask, hk, hs, by simpa using hc⟩
      rw [hempty hne] at hm
      exact absurd hm List.not_mem_nil
    | resubscribe => exact hr.cancelled hne htask hk hs

section

variable [DecidableEq α]

theorem probed_of_not_probes {t : TaskId} (hn : ∀ h host, ¬ b.Probes t h host)
    (outcome : DialOutcome) : b.probed t outcome = b := by
  have hp := b.probe_probed t outcome
  generalize b.probed t outcome = b' at hp ⊢
  cases hp with
  | idle => rfl
  | reached hp | missed _ hp => exact absurd hp (hn _ _)

/-- A connect that succeeds ends the attempt and empties the slot, unless the
host is closed. -/
theorem probed_of_probes {t : TaskId} {h : HostId} {host : Host α (Link α)}
    (hb : b.Probes t h host) {outcome : DialOutcome} (ho : ∀ reason, outcome ≠ .refused reason) :
    if host.status = .closed then
      (b.probed t outcome).hosts = b.hosts ∧
        (b.probed t outcome).tasks = b.tasks.modify t (·.start .discarding)
    else
      (∃ l, (b.probed t outcome).hosts = b.hosts.set h { (host.add l).1 with check := none }) ∧
        (b.probed t outcome).tasks = b.tasks.modify t (·.start .finished) := by
  obtain ⟨task, ht, hk, hp, hh⟩ := hb
  obtain ⟨b', l, hobtain⟩ : ∃ b' l, b.obtain host.address outcome = (b', .ok l) := by
    rcases hres : b.obtain host.address outcome with ⟨b', reason | l⟩
    · exact absurd (obtain_error hres).2 (ho reason)
    · exact ⟨b', l, rfl⟩
  have hprobed : b.probed t outcome = b'.probeSucceeded t h host l := by
    simp only [probed, ht, hk, hp, hh, hobtain]
  obtain ⟨hhosts, htasks⟩ := obtain_ok hobtain
  rw [hprobed, ← hhosts, ← htasks]
  split
  · rename_i hc
    rw [probeSucceeded_of_closed hc]
    exact ⟨rfl, rfl⟩
  · rename_i hc
    obtain ⟨metrics, heq⟩ := probeSucceeded_of_ne (t := t) (hhosts ▸ hh) hc l
    rw [heq]
    exact ⟨⟨l, rfl⟩, rfl⟩

/-- Unless it forgets another attempt, a step leaves every attempt that awaits
its start in the slot of its host. -/
theorem held_step (e : Event α σ) (hf : ¬ b.Forgets e) (held : Held Task.Awaits b.hosts b.tasks) :
    Held Task.Awaits (b.step e).hosts (b.step e).tasks := by
  by_cases hd : ∃ t outcome, e = .probed t outcome ∧ ∀ reason, outcome ≠ .refused reason
  · obtain ⟨t, outcome, rfl, ho⟩ := hd
    rw [step]
    by_cases hb : ∃ h host, b.Probes t h host
    · obtain ⟨h, host, hb⟩ := hb
      have hm := mark_awaits b.setup.aborts
      have hend := probed_of_probes hb ho
      split at hend
      · rw [hend.1, hend.2]
        exact held.lose t hm.discarding
      · obtain ⟨⟨l, hhosts⟩, htasks⟩ := hend
        have hh : b.hosts[h]? = some host := by
          obtain ⟨_, -, -, -, hh⟩ := hb
          exact hh
        rw [hhosts, htasks]
        refine (held.lose t hm.finished).empty hh fun t' other hc ht' hawaits => ?_
        rcases getElem?_modify_cases ht' with ⟨task', -, -, rfl⟩ | ⟨hne, ht'⟩
        · exact hm.finished task' hawaits
        · exact hf ⟨ho, h, host, t', other, hb, hc, hne, ht', hawaits.1⟩
    · have hn : ∀ h host, ¬ b.Probes t h host := fun h host hb' => hb ⟨h, host, hb'⟩
      rwa [probed_of_not_probes hn]
  · obtain ⟨_, hmoves⟩ := moves_step b e [] []
    refine Moves.keeps (I := fun m => Held Task.Awaits m.hosts m.tasks) (fun m m' hmove hheld => ?_)
      hmoves held
    exact held_move hmove (mark_awaits _) (fun t outcome he ho => absurd ⟨t, outcome, he, ho⟩ hd)
      hheld

/-- A step that forgets an attempt orphans it. -/
theorem not_noOrphans_step {e : Event α σ} (ha : Attended b.setup.health b.hosts b.tasks b.monitor)
    (hf : b.Forgets e) : ¬ (b.step e).NoOrphans := by
  cases e with
  | probed t outcome =>
    obtain ⟨ho, h, host, t', other, hb, hc, hne, ht', hs⟩ := hf
    have hend := probed_of_probes hb ho
    obtain ⟨task, ht, hk, hp, hh⟩ := hb
    have hch := ha.checked h host hh
    -- The slot holds an attempt at this very host that is not cancelled.
    obtain ⟨_, htask, hkind, hcancelled, -⟩ := hch.attempt t' hc
    obtain rfl := Option.some.inj (ht'.symm.trans htask)
    have hu : host.status = .unhealthy := hch.occupied.mp (by simp [hc])
    rw [if_neg (by simp [hu])] at hend
    obtain ⟨⟨l, hhosts⟩, htasks⟩ := hend
    intro hno
    rw [step] at hno
    have hpending : (b.probed t outcome).Pending t' h := by
      refine ⟨other, ?_, hkind, hs, hcancelled⟩
      rwa [htasks, List.getElem?_modify_ne _ _ (Ne.symm hne)]
    obtain ⟨host', hh', hc'⟩ := hno.held t' h hpending
    rw [hhosts] at hh'
    rcases getElem?_set_cases hh' with ⟨-, rfl⟩ | ⟨hne', -⟩
    · simp at hc'
    · exact hne' rfl
  | _ => exact hf.elim

end

end Balancer

/-! ### Whole runs -/

section

variable [DecidableEq α]

/-- Where cancelling aborts, every move leaves what waits or connects in the slot
of its host. -/
theorem tries_move {e : Event α σ} {m m' : Moment α σ} (hmove : Move e m m')
    (ha : m.setup.aborts = true) (hs : AllSound m.setup.aborts m.tasks)
    (held : Held Task.Tries m.hosts m.tasks) : Held Task.Tries m'.hosts m'.tasks := by
  refine held_move hmove (mark_tries _) (fun t _ _ _ h host t' _ hb hc hne _ _ => ?_) held
  exact hne (Option.some.inj (hc.symm.trans (hb.check_eq ha hs held)))

/-- Where cancelling aborts, no attempt of a run is forgotten. -/
theorem not_forgets_run (setup : Setup α) (tape : Tape) (callers : σ)
    (haborts : setup.aborts = true) (events : List (Event α σ)) (e : Event α σ) :
    ¬ ((Balancer.start setup tape callers).run events).Forgets e := by
  obtain ⟨_, ha, hs, held⟩ := Balancer.run_keeps
    (I := fun m => m.setup.aborts = true ∧ AllSound m.setup.aborts m.tasks ∧
      Held Task.Tries m.hosts m.tasks) events
    (fun e _ m m' hmove ⟨ha, hs, held⟩ =>
      ⟨setup_move hmove ▸ ha, allSound_move hmove hs, tries_move hmove ha hs held⟩)
    (Balancer.start setup tape callers) [] []
    ⟨haborts, fun t task ht => by simp [Balancer.start] at ht, .start _⟩
  intro hf
  cases e with
  | probed t outcome =>
    obtain ⟨-, h, host, t', other, hb, hc, hne, -, -⟩ := hf
    exact hne (Option.some.inj (hc.symm.trans (hb.check_eq ha hs held)))
  | _ => exact hf.elim

theorem noOrphans_run (setup : Setup α) (tape : Tape) (callers : σ) (events : List (Event α σ)) :
    let b := (Balancer.start setup tape callers).run events
    Held Task.Awaits b.hosts b.tasks → b.NoOrphans := by
  intro b held
  exact Balancer.noOrphans_of_held held (attended_run setup tape callers events)
    (tidy_run setup tape callers events) (emptied_run setup tape callers events)
    (renewal_run setup tape callers events).2

/-- **Only a late success orphans a retry.** In every state of a run every
health attempt that has not started and is not cancelled is the one in the
slot of its host, so it is the only one of the host, the host is unhealthy and
in the table, and a balancer that was closed or dropped has no task left to
start that is not cancelled: if and only if at no step of the run the connect
of an attempt succeeds while the slot of its host holds another attempt that
has not started. Where cancelling aborts, there never is such a step. Of the
resubscribes, closing never leaves one to start. -/
theorem noOrphans_iff (setup : Setup α) (tape : Tape) (callers : σ) (events : List (Event α σ)) :
    let state n := (Balancer.start setup tape callers).run (events.take n)
    ((∀ n, (state n).NoOrphans) ↔ ∀ n e, events[n]? = some e → ¬ (state n).Forgets e) ∧
      (setup.aborts = true → ∀ n, (state n).NoOrphans) ∧
      ∀ n, (state n).lifecycle ≠ .running → ∀ (t : TaskId) (task : Task),
        (state n).tasks[t]? = some task → task.kind = .resubscribe → task.started = false →
        task.cancelled = true := by
  intro state
  have hnone (hf : ∀ n e, events[n]? = some e → ¬ (state n).Forgets e) (n : Nat) :
      (state n).NoOrphans := by
    refine noOrphans_run setup tape callers (events.take n) ?_
    induction n with
    | zero => exact .start _
    | succ n ih =>
      cases he : events[n]? with
      | none =>
        have hlen := List.getElem?_eq_none_iff.mp he
        rwa [List.take_of_length_le (Nat.le_succ_of_le hlen), ← List.take_of_length_le hlen]
      | some e =>
        rw [Balancer.run_take_succ _ he]
        exact Balancer.held_step e (hf n e he) ih
  refine ⟨⟨fun hno n e he hf => ?_, hnone⟩, fun haborts => hnone fun n e _ => ?_,
    fun n hne t task ht hk hs => ?_⟩
  · have hstep := hno (n + 1)
    rw [show state (n + 1) = (state n).step e from Balancer.run_take_succ _ he] at hstep
    exact Balancer.not_noOrphans_step (attended_run setup tape callers (events.take n)) hf hstep
  · exact not_forgets_run setup tape callers haborts (events.take n) e
  · exact (renewal_run setup tape callers (events.take n)).2.cancelled hne ht hk hs

end

/-- An attempt of an earlier bad time of a host succeeds late, and then the
balancer is closed. -/
def lateSuccess : List (Event Nat Unit) := twoBadTimes ++ [.probed 0 .opened, .close]

/-- The retry that the late success forgot is in no slot any more, and closing
the balancer does not cancel it. -/
theorem orphan_lateSuccess :
    let b := (freshBalancer false).run lateSuccess
    b.lifecycle ≠ .running ∧ b.hosts.map Host.check = [none] ∧
      b.tasks[2]? = some { kind := .health 0, delay := oneSecond, started := false
                           cancelled := false, phase := .waiting } ∧ ¬ b.NoOrphans := by
  intro b
  have hlifecycle : b.lifecycle ≠ .running := by decide
  have htask : b.tasks[2]? = some { kind := .health 0, delay := oneSecond } := by decide
  refine ⟨hlifecycle, by decide, htask, fun hno => ?_⟩
  have hcancelled := hno.closed hlifecycle 2 _ htask rfl
  simp at hcancelled

end HostRotation
