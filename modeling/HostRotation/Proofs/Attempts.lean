/-
# What a step has scheduled

A health attempt is scheduled where a connect fails: the one that a selection
waited for, if it was the last that the host was allowed, and the one of an
attempt, whose successor this is. `Balancer.scheduled` reads off a state and an
event which hosts are concerned, and `schedules_step` says that the step of the
event schedules just these attempts, with delays from the window of health
checks; whatever else it has scheduled is a resubscribe, with a delay from its
own window. So every delay ever handed to the executor lies in the window for
its kind of task (`allows_run`).

Key definitions: `Setup.Allows`, `Schedules`, `Balancer.scheduled`.
-/
import HostRotation.Proofs.Connects
import HostRotation.Proofs.Orphans
import HostRotation.Proofs.Watch
import HostRotation.Proofs.Windows

namespace HostRotation

variable {α σ : Type}

/-- The host that a task is to reach. -/
def TaskKind.host? : TaskKind → Option HostId
  | .health h => some h
  | .resubscribe => none

theorem TaskKind.host?_eq_some {kind : TaskKind} {h : HostId} :
    kind.host? = some h ↔ kind = .health h := by
  cases kind <;> simp [host?]

/-- The delay of an order lies in the window for tasks of its kind. -/
def Setup.Allows (setup : Setup α) : TaskKind × Duration → Prop
  | (.health _, delay) => ∃ plan, setup.health = some plan ∧ plan.window.contains delay = true
  | (.resubscribe, delay) => setup.resubscribe.contains delay = true

/-- From one balancer to another, health attempts at these hosts were scheduled,
one after the other, and perhaps resubscribes, all with delays that the setup
allows. -/
structure Schedules (b b' : Balancer α σ) (hosts : List HostId) : Prop where
  setup : b'.setup = b.setup
  orders : ∃ new, b'.tasks.map Task.order = b.tasks.map Task.order ++ new ∧
    (∀ o ∈ new, b.setup.Allows o) ∧ new.filterMap (fun o => o.1.host?) = hosts

namespace Balancer

/-- Whether one more connect that fails makes a host unhealthy. -/
def crosses (b : Balancer α σ) (h : HostId) : Bool :=
  (b.hosts[h]?).any fun host =>
    (host.recordFailure (b.setup.health.map HealthPlan.threshold)).2

/-- The host to which an attempt waits for its connect. -/
def probing? (b : Balancer α σ) (t : TaskId) : Option HostId :=
  (b.tasks[t]?).bind fun task =>
    if task.phase = .connecting then
      task.kind.host?.filter fun h => (b.hosts[h]?).isSome
    else none

/-- The hosts for which the step of an event schedules a health attempt. -/
def scheduled (b : Balancer α σ) : Event α σ → List HostId
  | .dialled i (.refused _) => (b.dialling? i).toList.filter b.crosses
  | .probed t (.refused _) => if b.setup.health.isSome then (b.probing? t).toList else []
  | _ => []

end Balancer

open Balancer

namespace Schedules

variable {b b' b'' : Balancer α σ} {hosts hosts' : List HostId}

/-- Nothing is scheduled. -/
theorem nothing (hs : b'.setup = b.setup)
    (ho : b'.tasks.map Task.order = b.tasks.map Task.order) : Schedules b b' [] :=
  ⟨hs, [], by rw [ho, List.append_nil], by simp, rfl⟩

theorem refl (b : Balancer α σ) : Schedules b b [] := nothing rfl rfl

theorem trans (h : Schedules b b' hosts) (h' : Schedules b' b'' hosts') :
    Schedules b b'' (hosts ++ hosts') := by
  obtain ⟨new, heq, hallows, hhosts⟩ := h.orders
  obtain ⟨new', heq', hallows', hhosts'⟩ := h'.orders
  refine ⟨h'.setup.trans h.setup, new ++ new', by rw [heq', heq, List.append_assoc], ?_, ?_⟩
  · intro o ho
    rcases List.mem_append.mp ho with ho | ho
    · exact hallows o ho
    · exact h.setup ▸ hallows' o ho
  · rw [List.filterMap_append, hhosts, hhosts']

/-- Nothing is scheduled before. -/
theorem after (h' : Schedules b' b'' hosts) (h : Schedules b b' []) : Schedules b b'' hosts :=
  h.trans h'

/-- Nothing is scheduled afterwards. -/
theorem before (h : Schedules b b' hosts) (h' : Schedules b' b'' []) : Schedules b b'' hosts := by
  simpa using h.trans h'

/-- One task is scheduled. -/
theorem one {o : TaskKind × Duration} (hs : b'.setup = b.setup)
    (ho : b'.tasks.map Task.order = b.tasks.map Task.order ++ [o]) (ha : b.setup.Allows o) :
    Schedules b b' o.1.host?.toList :=
  ⟨hs, [o], ho, by simpa using ha, by cases h : o.1.host? <;> simp [h]⟩

end Schedules

/-! ### Operations -/

section

variable (b : Balancer α σ)

theorem schedules_scheduleResubscribe : Schedules b b.scheduleResubscribe [] := by
  unfold scheduleResubscribe
  split
  · exact .refl b
  · exact .one (o := (.resubscribe, (b.setup.resubscribe.draw b.tape).1)) rfl
      (by simp [schedule, Task.order]) (JitterWindow.contains_draw _ _)

theorem schedules_observeTable : Schedules b b.observeTable [] := by
  unfold observeTable
  dsimp only
  split
  · exact (schedules_scheduleResubscribe b.recordHosts).after (.nothing rfl rfl)
  · exact .nothing rfl rfl

theorem orders_installCheck (h : HostId) (t : TaskId) :
    (b.installCheck h t).tasks.map Task.order = b.tasks.map Task.order := by
  unfold installCheck
  split
  · split
    · rw [cancelIfAny_eq]
      exact orders_cancelIn _ _ _
    · exact orders_cancelIn _ _ (some t)
  · exact orders_cancelIn _ _ (some t)

theorem schedules_scheduleAttempt (h : HostId) :
    Schedules b (b.scheduleAttempt h) (if b.setup.health.isSome then [h] else []) := by
  cases hs : b.setup.health with
  | none =>
    rw [scheduleAttempt_of_none hs]
    exact .refl b
  | some plan =>
    obtain ⟨_, _, _, heq⟩ := b.scheduleAttempt_footprint h
    have hsetup : (b.scheduleAttempt h).setup = b.setup := by rw [heq]
    refine .one (o := (.health h, (plan.window.draw b.tape).1)) hsetup ?_
      ⟨plan, hs, JitterWindow.contains_draw _ _⟩
    simp only [scheduleAttempt, hs, orders_installCheck]
    simp [schedule, Task.order]

/-- Only the failure that makes a host unhealthy has an attempt scheduled. -/
theorem schedules_connectFailed (h : HostId) :
    Schedules b (b.connectFailed h) (if b.crosses h then [h] else []) := by
  unfold connectFailed crosses
  dsimp only
  split
  · rename_i hh
    rw [hh]
    exact .nothing rfl rfl
  · rename_i host hh
    rw [hh, Option.any_some]
    split
    · rename_i hcrossed
      have hplan : b.setup.health.isSome = true :=
        Option.isSome_iff_exists.mpr (exists_plan hcrossed)
      generalize hb₁ : setHost _ h _ = b₁
      have hsetup : b₁.setup = b.setup := by rw [← hb₁]; rfl
      have htasks : b₁.tasks = b.tasks := by rw [← hb₁]; rfl
      have hattempt := schedules_scheduleAttempt b₁ h
      rw [hsetup, if_pos hplan] at hattempt
      exact (hattempt.before (schedules_observeTable _)).after (.nothing hsetup (by rw [htasks]))
    · exact .nothing rfl rfl

theorem schedules_offer (s : Selection α σ) (l : Link α) : Schedules b (b.offer s l).1 [] := by
  obtain ⟨_, _, heq, -⟩ := b.offer_footprint s l
  exact .nothing (by rw [heq]) (by rw [heq])

theorem schedules_endPass (s : Selection α σ) (pass : Pass) :
    Schedules b (b.endPass s pass).1 [] := by
  unfold endPass
  split
  · exact (schedules_observeTable b).before (.nothing rfl rfl)
  · exact .nothing rfl rfl

theorem schedules_startTask (t : TaskId) : Schedules b (b.startTask t) [] := by
  have hstart (phase : TaskPhase) :
      (b.tasks.modify t (·.start phase)).map Task.order = b.tasks.map Task.order :=
    orders_modify b.tasks t fun _ => rfl
  unfold startTask
  repeat' split
  all_goals first
    | exact .refl b
    | exact .nothing rfl (hstart _)

theorem schedules_probeDiscarded (t : TaskId) : Schedules b (b.probeDiscarded t) [] := by
  refine .nothing rfl (orders_modify b.tasks t fun task => ?_)
  split
  · rfl
  · rfl

end

section

variable {b b' : Balancer α σ} {s : Selection α σ} {r : Balancer α σ × Selection α σ}

theorem Browses.schedules (hb : Browses b b') : Schedules b b' [] :=
  .nothing (by rw [hb.rest]) (by rw [hb.rest])

theorem Passage.schedules {pass : Pass} {rest : List HostId} (hp : Passage b s pass rest r) :
    Schedules b r.1 [] := by
  cases hp with
  | exhausted hb => exact (schedules_endPass _ _ _).after hb.schedules
  | found hb => exact hb.schedules
  | dials hb => exact hb.schedules.before (.nothing rfl rfl)

variable [DecidableEq α]

theorem schedules_poolAndOffer {h : HostId} {host : Host α (Link α)} (hh : b.hosts[h]? = some host)
    (s : Selection α σ) (l : Link α) : Schedules b (b.poolAndOffer s h l).1 [] := by
  by_cases hc : host.status = .closed
  · rw [poolAndOffer_of_closed hh s l hc]
    exact .nothing rfl rfl
  by_cases hu : host.status = .unhealthy
  · rw [poolAndOffer_of_unhealthy hh s l hu]
    exact (schedules_offer _ s l).after (.nothing rfl (orders_cancelIn _ _ _))
  · rw [poolAndOffer_of_ne hh s l hc hu]
    exact (schedules_offer _ s l).after (.nothing rfl rfl)

theorem Turn.schedules {e : Event α σ} {i : SelectionId} (ht : Turn b e i s r) :
    Schedules b r.1 (b.scheduled e) := by
  cases ht with
  | refused => exact .refl b
  | hostless | late => exact .nothing rfl rfl
  | begins _ _ hp => exact hp.schedules.after (.nothing rfl rfl)
  | @connected _ outcome _ h _ _ host b' l _ _ hh ho =>
    obtain ⟨connections, rfl⟩ := connections_of_obtain ho
    have hnone : b.scheduled (.dialled i outcome) = [] := by
      cases outcome with
      | refused => simp [obtain] at ho
      | opened | reopened => rfl
    rw [hnone]
    exact (schedules_poolAndOffer (b := { b with connections }) hh s l).after (.nothing rfl rfl)
  | @failed _ reason _ h _ _ _ _ hi hphase _ hp _ =>
    have hone : b.scheduled (.dialled i (.refused reason)) = if b.crosses h then [h] else [] := by
      simp only [scheduled, dialling?_of_connecting hi hphase, Option.toList_some, List.filter_cons,
        List.filter_nil]
    rw [hone]
    exact (schedules_connectFailed b h).before hp.schedules

omit [DecidableEq α] in
theorem probing?_eq_some {t : TaskId} {h : HostId} :
    b.probing? t = some h ↔ ∃ host, b.Probes t h host := by
  simp only [probing?, Probes, Option.bind_eq_some_iff]
  constructor
  · rintro ⟨task, ht, hif⟩
    split at hif
    · rename_i hp
      obtain ⟨hk, hh⟩ := Option.filter_eq_some_iff.mp hif
      obtain ⟨host, hh⟩ := Option.isSome_iff_exists.mp hh
      exact ⟨host, task, ht, TaskKind.host?_eq_some.mp hk, hp, hh⟩
    · cases hif
  · rintro ⟨host, task, ht, hk, hp, hh⟩
    refine ⟨task, ht, ?_⟩
    rw [if_pos hp, TaskKind.host?_eq_some.mpr hk, Option.filter_some, hh]
    rfl

theorem schedules_probed (t : TaskId) (outcome : DialOutcome) :
    Schedules b (b.probed t outcome) (b.scheduled (.probed t outcome)) := by
  have hp := b.probe_probed t outcome
  generalize b.probed t outcome = b' at hp ⊢
  cases hp with
  | idle hn =>
    have hidle : b.probing? t = none := by
      refine Option.eq_none_iff_forall_ne_some.mpr fun h hp => ?_
      obtain ⟨host, hp⟩ := probing?_eq_some.mp hp
      exact hn h host hp
    have hnone : b.scheduled (.probed t outcome) = [] := by
      cases outcome <;> simp [scheduled, hidle]
    rw [hnone]
    exact .refl b
  | @reached _ h host connections l hp ho =>
    have hnone : b.scheduled (.probed t outcome) = [] := by
      cases outcome with
      | refused => simp [obtain] at ho
      | opened | reopened => rfl
    obtain ⟨_, -, -, -, hh⟩ := hp
    rw [hnone]
    by_cases hc : host.status = .closed
    · rw [probeSucceeded_of_closed hc]
      exact .nothing rfl (orders_modify b.tasks t fun _ => rfl)
    · obtain ⟨_, heq⟩ := probeSucceeded_of_ne (b := { b with connections }) (t := t) hh hc l
      rw [heq]
      exact .nothing rfl (orders_modify b.tasks t fun _ => rfl)
  | @missed h host reason hp =>
    simp only [scheduled, probing?_eq_some.mpr ⟨host, hp⟩, Option.toList_some]
    refine (schedules_scheduleAttempt (b.modifyTask t (·.start .finished)) h).after ?_
    exact .nothing rfl (orders_modify b.tasks t fun _ => rfl)

/-! ### Steps -/

theorem schedules_applyBatch (b : Balancer α σ) (batch : Batch α) :
    Schedules b (b.applyBatch batch) [] := by
  by_cases hquiet : ((lastEvents batch).isEmpty || b.isClosed) = true
  · unfold applyBatch
    dsimp only
    rw [if_pos hquiet]
    exact .refl b
  · simp only [Bool.or_eq_true, List.isEmpty_iff, not_or, Bool.not_eq_true] at hquiet
    obtain ⟨b₁, heq, ⟨hsetup, -⟩, horders⟩ := applyBatch_observed b hquiet.1 hquiet.2
    rw [heq]
    exact (schedules_observeTable b₁).after (.nothing hsetup horders)

theorem schedules_removeDrained (b : Balancer α σ) (a : α) :
    Schedules b (b.removeDrained a) [] := by
  unfold removeDrained
  dsimp only
  split
  · exact .refl b
  · split
    · exact .refl b
    · rename_i h _
      obtain ⟨_, _, _, heq⟩ := (b.removeHost h).closeRemoved_footprint h
      have hsetup : ((b.removeHost h).closeRemoved h).setup = b.setup := by
        rw [heq]
        rfl
      exact (schedules_observeTable _).after (.nothing hsetup (orders_closeRemoved _ h))

theorem schedules_takeNotice : Schedules b b.takeNotice [] := by
  unfold takeNotice
  split
  · exact .refl b
  · dsimp only
    split
    · exact (schedules_applyBatch _ _).after (.nothing rfl rfl)
    all_goals exact (schedules_scheduleResubscribe _).after (.nothing rfl rfl)

theorem schedules_takeCommand : Schedules b b.takeCommand [] := by
  unfold takeCommand
  split
  · exact .refl b
  · dsimp only
    split
    · exact .nothing rfl rfl
    · exact (schedules_removeDrained _ _).after (.nothing rfl rfl)

omit [DecidableEq α] in
/-- A selection whose connect has an attempt scheduled goes on. -/
theorem due_of_scheduled {e : Event α σ} (hs : e.Selects) (hne : b.scheduled e ≠ []) :
    ∃ i, Due b i e := by
  cases e with
  | dialled i outcome =>
    cases outcome with
    | opened | reopened => exact absurd rfl hne
    | refused reason =>
      obtain ⟨h, hm⟩ := List.exists_mem_of_ne_nil _ hne
      simp only [scheduled, List.mem_filter, Option.mem_toList] at hm
      obtain ⟨s, pass, rest, hi, hp⟩ := dialling?_eq_some hm.1
      obtain ⟨host, hh, -⟩ := (Option.any_eq_true _ _).mp hm.2
      exact ⟨i, .dialled hi hp hh⟩
  | select | discarded => exact absurd rfl hne
  | _ => exact hs.elim

/-- **What a step has scheduled**: the health attempts that its event calls for,
and besides these only resubscribes. -/
theorem schedules_step (b : Balancer α σ) (e : Event α σ) :
    Schedules b (b.step e) (b.scheduled e) := by
  by_cases hs : e.Selects
  · have hturn {i : SelectionId} {s : Selection α σ} {r : Balancer α σ × Selection α σ}
        (ht : Turn b e i s r)
        (hstep : b.step e = { r.1 with selections := (b.step e).selections }) :
        Schedules b (b.step e) (b.scheduled e) := by
      rw [hstep]
      exact ht.schedules.before (.nothing rfl rfl)
    by_cases hnone : b.scheduled e = []
    · obtain heq | ⟨_, _, _, ht, hstep, -⟩ := turn_step (b := b) hs
      · rw [heq, hnone]
        exact .refl b
      · exact hturn ht hstep
    · obtain ⟨_, hd⟩ := due_of_scheduled hs hnone
      obtain ⟨_, _, ht, hstep, -⟩ := hd.turn
      exact hturn ht hstep
  have hends (he : e.Ends) (ho : (b.step e).tasks.map Task.order = b.tasks.map Task.order) :
      Schedules b (b.step e) [] := by
    obtain ⟨-, heq⟩ | ⟨_, _, _, _, _, heq, -⟩ := b.ends_footprint he
    · exact .nothing (by rw [heq]) ho
    · exact .nothing (by rw [heq]) ho
  cases e with
  | select | dialled | discarded => exact absurd trivial hs
  | takeNotice => exact schedules_takeNotice
  | takeCommand => exact schedules_takeCommand
  | probed t outcome => exact schedules_probed t outcome
  | startTask t => exact schedules_startTask b t
  | probeDiscarded t => exact schedules_probeDiscarded b t
  | close => exact hends trivial (orders_close b)
  | drop => exact hends trivial (orders_drop b)
  | closeSettled =>
    simp only [step, closeSettled]
    split
    · exact .nothing rfl rfl
    · exact .refl b
  | startReconciler =>
    simp only [step, startReconciler]
    split
    · exact .nothing rfl rfl
    · exact .refl b
  | runClosing k =>
    obtain ⟨_, _, heq⟩ := b.runClosing_footprint k
    rw [show b.step (.runClosing k) = _ from heq]
    exact .nothing rfl rfl
  | deliver | peerCloses | closeWillFail | callersChange => exact .nothing rfl rfl

/-! ### Runs -/

/-- **Every delay lies in its window.** -/
theorem allows_run (setup : Setup α) (tape : Tape) (callers : σ) (events : List (Event α σ)) :
    let b := (Balancer.start setup tape callers).run events
    ∀ task ∈ b.tasks, setup.Allows task.order := by
  induction events using List.reverseRecOn with
  | nil => simp [run, start]
  | append_singleton events e ih =>
    rw [run_concat]
    generalize hb : (start setup tape callers).run events = b at ih ⊢
    have hsetup : b.setup = setup := hb ▸ setup_run _ events
    obtain ⟨new, heq, hallows, -⟩ := (schedules_step b e).orders
    intro b' task hm
    have horder : task.order ∈ b.tasks.map Task.order ++ new := heq ▸ List.mem_map_of_mem hm
    rcases List.mem_append.mp horder with hold | hnew
    · obtain ⟨task', hm', horder'⟩ := List.mem_map.mp hold
      exact horder' ▸ ih task' hm'
    · exact hsetup ▸ hallows _ hnew

omit [DecidableEq α] in
/-- What the setup of a balancer allows is what its settings were built for. -/
theorem SettingsBuilder.allows_of_setup {builder : SettingsBuilder} {setup : Setup α} {task : Task}
    (hb : builder.build = .ok setup.toSettings) (ha : setup.Allows task.order) :
    builder.Allows task := by
  obtain ⟨hhealth, hresubscribe⟩ := builder.windows_build hb
  unfold SettingsBuilder.Allows
  split
  · rename_i h hk
    rw [Task.order, hk] at ha
    obtain ⟨plan, hplan, hcontains⟩ := ha
    exact (JitterWindow.contains_iff_of_around (hhealth plan hplan)).mp hcontains
  · rename_i hk
    rw [Task.order, hk] at ha
    exact (JitterWindow.contains_iff_of_around hresubscribe).mp ha

end

end HostRotation
