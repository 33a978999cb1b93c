/-
# The pending resubscribe

There is at most one resubscribe at a time: its task waits to start and is the
pending one, or it has started and its command is on the way to the
reconciler, and while the command is on the way nothing else is armed
(`Armed`). So shutting the balancer, which cancels the pending one, leaves no
resubscribe that may still start (`Renewal`, `renewal_move`).
-/
import HostRotation.Proofs.CheckSlots

namespace HostRotation

variable {α σ : Type}

/-! ### Tasks that go on -/

/-- Resubscribes only go on: none is new, and a start or a cancellation is
there to stay. -/
def GoesOn (tasks tasks' : List Task) : Prop :=
  ∀ (t : TaskId) (task' : Task), tasks'[t]? = some task' → task'.kind = .resubscribe →
    ∃ task, tasks[t]? = some task ∧ task.kind = .resubscribe ∧
      (task.started = true → task'.started = true) ∧
      (task.cancelled = true → task'.cancelled = true)

namespace GoesOn

variable {tasks tasks' tasks'' : List Task}

theorem refl (tasks : List Task) : GoesOn tasks tasks :=
  fun _ task ht hk => ⟨task, ht, hk, id, id⟩

theorem trans (h : GoesOn tasks tasks') (h' : GoesOn tasks' tasks'') : GoesOn tasks tasks'' := by
  intro t task'' ht'' hk''
  obtain ⟨task', ht', hk', hs', hc'⟩ := h' t task'' ht'' hk''
  obtain ⟨task, ht, hk, hs, hc⟩ := h t task' ht' hk'
  exact ⟨task, ht, hk, hs' ∘ hs, hc' ∘ hc⟩

theorem append (tasks : List Task) (new : Task) (hn : new.kind ≠ .resubscribe) :
    GoesOn tasks (tasks ++ [new]) := by
  intro t task ht hk
  rcases getElem?_concat_cases ht with ⟨-, rfl⟩ | ⟨-, ht⟩
  · exact absurd hk hn
  · exact ⟨task, ht, hk, id, id⟩

theorem modify (tasks : List Task) (i : TaskId) {f : Task → Task}
    (hf : ∀ task, (f task).kind = task.kind ∧ (task.started = true → (f task).started = true) ∧
      (task.cancelled = true → (f task).cancelled = true)) :
    GoesOn tasks (tasks.modify i f) := by
  intro t task' ht hk
  rcases getElem?_modify_cases ht with ⟨task, rfl, htask, rfl⟩ | ⟨-, ht⟩
  · exact ⟨task, htask, (hf task).1 ▸ hk, (hf task).2⟩
  · exact ⟨task', ht, hk, id, id⟩

theorem start (tasks : List Task) (i : TaskId) (phase : TaskPhase) :
    GoesOn tasks (tasks.modify i (·.start phase)) :=
  modify tasks i fun _ => ⟨rfl, fun _ => rfl, id⟩

theorem cancelIn (aborts : Bool) (tasks : List Task) (o : Option TaskId) :
    GoesOn tasks (cancelIn aborts tasks o) := by
  cases o with
  | none => exact .refl tasks
  | some t =>
    refine modify tasks t fun task => ⟨Task.kind_cancel aborts task, fun hs => ?_, fun _ => ?_⟩
    · rwa [Task.started_cancel]
    · exact Task.cancelled_cancel aborts task

/-- A health attempt is over, another one comes, and then one is cancelled. -/
theorem replace (aborts : Bool) (tasks : List Task) (i : TaskId) (h : HostId) (delay : Duration)
    (o : Option TaskId) :
    GoesOn tasks (HostRotation.cancelIn aborts
      (tasks.modify i (·.start .finished) ++ [{ kind := .health h, delay }]) o) := by
  have hstart := start tasks i .finished
  have happend : GoesOn (tasks.modify i (·.start .finished)) _ :=
    append _ { kind := .health h, delay } (by simp)
  exact (hstart.trans happend).trans (cancelIn aborts _ o)

end GoesOn

/-! ### One at a time -/

/-- One resubscribe at most is under way. -/
structure Armed (pending : Option TaskId) (tasks : List Task) (commands : List (Command α)) :
    Prop where
  waiting : ∀ (t : TaskId) (task : Task), tasks[t]? = some task → task.kind = .resubscribe →
    task.started = false → pending = some t
  started : .resubscribe ∈ commands → ∀ (t : TaskId) (task : Task), tasks[t]? = some task →
    task.kind = .resubscribe → task.started = true
  idle : pending = none → .resubscribe ∉ commands
  once : commands.Pairwise fun c c' => c = .resubscribe → c' ≠ .resubscribe

namespace Armed

variable {pending : Option TaskId} {tasks tasks' : List Task} {commands : List (Command α)}

theorem start : Armed none [] ([] : List (Command α)) where
  waiting := by simp
  started := by simp
  idle := by simp
  once := .nil

theorem goOn (ha : Armed pending tasks commands) (hg : GoesOn tasks tasks') :
    Armed pending tasks' commands where
  waiting := by
    intro t task' ht' hk' hs'
    obtain ⟨task, ht, hk, hs, -⟩ := hg t task' ht' hk'
    refine ha.waiting t task ht hk (Bool.eq_false_iff.mpr fun h => ?_)
    simp [hs h] at hs'
  started := by
    intro hc t task' ht' hk'
    obtain ⟨task, ht, hk, hs, -⟩ := hg t task' ht' hk'
    exact hs (ha.started hc t task ht hk)
  idle := ha.idle
  once := ha.once

/-- A host drained. -/
theorem drain (ha : Armed pending tasks commands) (a : α) :
    Armed pending tasks (commands ++ [.drained a]) where
  waiting := ha.waiting
  started := fun hc => ha.started (by simpa using hc)
  idle := fun hn => by simpa using ha.idle hn
  once := List.pairwise_append.mpr ⟨ha.once, List.pairwise_singleton _ _, by simp⟩

/-- The reconciler heeds a command. -/
theorem tail {c : Command α} (ha : Armed pending tasks (c :: commands)) :
    Armed pending tasks commands where
  waiting := ha.waiting
  started := fun hc => ha.started (List.mem_cons_of_mem _ hc)
  idle := fun hn hc => ha.idle hn (List.mem_cons_of_mem _ hc)
  once := (List.pairwise_cons.mp ha.once).2

/-- The resubscribe goes through. -/
theorem clear (ha : Armed pending tasks (.resubscribe :: commands)) :
    Armed none tasks commands where
  waiting := by
    intro t task ht hk hs
    simp [ha.started List.mem_cons_self t task ht hk] at hs
  started := fun hc => ha.started (List.mem_cons_of_mem _ hc)
  idle := fun _ hc => (List.pairwise_cons.mp ha.once).1 _ hc rfl rfl
  once := (List.pairwise_cons.mp ha.once).2

/-- A resubscribe is armed. -/
theorem arm (ha : Armed none tasks commands) (delay : Duration) :
    Armed (some tasks.length) (tasks ++ [{ kind := .resubscribe, delay }]) commands where
  waiting := by
    intro t task ht hk hs
    rcases getElem?_concat_cases ht with ⟨rfl, -⟩ | ⟨-, ht⟩
    · rfl
    · exact absurd (ha.waiting t task ht hk hs) (by simp)
  started := fun hc => absurd hc (ha.idle rfl)
  idle := by simp
  once := ha.once

/-- The pending resubscribe starts. -/
theorem fire {t : TaskId} {task : Task} (ha : Armed pending tasks commands)
    (ht : tasks[t]? = some task) (hk : task.kind = .resubscribe) (hs : task.started = false) :
    Armed pending (tasks.modify t (·.start .finished)) (commands ++ [.resubscribe]) := by
  have hpending := ha.waiting t task ht hk hs
  have hnone : .resubscribe ∉ commands := fun hc => by simp [ha.started hc t task ht hk] at hs
  have hg := ha.goOn (.start tasks t .finished)
  refine ⟨hg.waiting, fun _ i task' hi hk' => ?_, by simp [hpending], ?_⟩
  · by_cases hs' : task'.started = true
    · exact hs'
    · -- Another one that has not started would be the pending one too.
      obtain rfl : t = i := by
        simpa [hpending] using hg.waiting i task' hi hk' (Bool.eq_false_iff.mpr hs')
      rw [List.getElem?_modify_eq, ht] at hi
      obtain rfl := Option.some.inj hi
      rfl
  · refine List.pairwise_append.mpr ⟨ha.once, List.pairwise_singleton _ _, fun c hc _ _ heq => ?_⟩
    exact absurd (heq ▸ hc) hnone

end Armed

/-- How the resubscribe fares while the reconciler runs, and after. -/
structure Renewal (lifecycle : Lifecycle) (reconciler : ReconcilerPhase) (monitor : Monitor)
    (tasks : List Task) (commands : List (Command α)) : Prop where
  running : reconciler ≠ .stopped → lifecycle = .running
  armed : reconciler ≠ .stopped → Armed monitor.pending tasks commands
  shut : reconciler = .stopped → monitor.shutDown = true
  spent : reconciler = .stopped → ∀ (t : TaskId) (task : Task), tasks[t]? = some task →
    task.kind = .resubscribe → task.started = true ∨ task.cancelled = true

namespace Renewal

theorem start : Renewal .running .unstarted {} [] ([] : List (Command α)) where
  running := fun _ => rfl
  armed := fun _ => .start
  shut := by simp
  spent := by simp

variable {lifecycle : Lifecycle} {reconciler : ReconcilerPhase} {monitor : Monitor}
  {tasks tasks' : List Task} {commands : List (Command α)}

theorem goOn (hr : Renewal lifecycle reconciler monitor tasks commands) (hg : GoesOn tasks tasks') :
    Renewal lifecycle reconciler monitor tasks' commands where
  running := hr.running
  armed := fun hne => (hr.armed hne).goOn hg
  shut := hr.shut
  spent := by
    intro hs t task' ht' hk'
    obtain ⟨task, ht, hk, hstarted, hcancelled⟩ := hg t task' ht' hk'
    exact (hr.spent hs t task ht hk).imp hstarted hcancelled

/-- The reconciler goes on, and the commands change with the pending resubscribe. -/
theorem listen (hr : Renewal lifecycle reconciler monitor tasks commands)
    {reconciler' : ReconcilerPhase} {monitor' : Monitor} {commands' : List (Command α)}
    (hne : reconciler ≠ .stopped) (hne' : reconciler' ≠ .stopped)
    (ha : Armed monitor.pending tasks commands → Armed monitor'.pending tasks commands') :
    Renewal lifecycle reconciler' monitor' tasks commands' where
  running := fun _ => hr.running hne
  armed := fun _ => ha (hr.armed hne)
  shut := fun hs => absurd hs hne'
  spent := fun hs => absurd hs hne'

theorem drain (hr : Renewal lifecycle reconciler monitor tasks commands) (a : α) :
    Renewal lifecycle reconciler monitor tasks (commands ++ [.drained a]) :=
  ⟨hr.running, fun hne => (hr.armed hne).drain a, hr.shut, hr.spent⟩

/-- Once the balancer was closed, no resubscribe is left to start. -/
theorem cancelled (hr : Renewal lifecycle reconciler monitor tasks commands)
    (hne : lifecycle ≠ .running) {t : TaskId} {task : Task} (ht : tasks[t]? = some task)
    (hk : task.kind = .resubscribe) (hs : task.started = false) : task.cancelled = true := by
  have hstopped : reconciler = .stopped := by
    by_cases hst : reconciler = .stopped
    · exact hst
    · exact absurd (hr.running hst) hne
  rcases hr.spent hstopped t task ht hk with hst | hcancelled
  · simp [hs] at hst
  · exact hcancelled

/-- Shutting cancels the pending resubscribe, and no other one is left. -/
theorem shutDown (hr : Renewal lifecycle reconciler monitor tasks commands) (aborts : Bool)
    (lifecycle' : Lifecycle) :
    Renewal lifecycle' .stopped { pending := none, shutDown := true }
      (cancelIn aborts tasks monitor.pending) commands where
  running := fun hne => absurd rfl hne
  armed := fun hne => absurd rfl hne
  shut := fun _ => rfl
  spent := by
    intro _ t task' ht' hk'
    obtain ⟨task, ht, hk, hstarted, hcancelled⟩ := GoesOn.cancelIn aborts tasks _ t task' ht' hk'
    by_cases hs : reconciler = .stopped
    · exact (hr.spent hs t task ht hk).imp hstarted hcancelled
    · by_cases hst : task.started = true
      · exact .inl (hstarted hst)
      · have hp := (hr.armed hs).waiting t task ht hk (Bool.eq_false_iff.mpr hst)
        rw [hp, HostRotation.cancelIn, List.getElem?_modify_eq, ht] at ht'
        obtain rfl := Option.some.inj ht'
        exact .inr (Task.cancelled_cancel _ _)

end Renewal

/-! ### Every move keeps it -/

/-- A task that waits has not started, and with `aborts` one that is cancelled
neither waits nor connects. -/
structure Task.Sound (aborts : Bool) (task : Task) : Prop where
  waiting : task.phase = .waiting → task.started = false
  cancelled : aborts = true → task.cancelled = true →
    task.phase ≠ .waiting ∧ task.phase ≠ .connecting

/-- Every task is sound. -/
def AllSound (aborts : Bool) (tasks : List Task) : Prop :=
  ∀ (t : TaskId) (task : Task), tasks[t]? = some task → task.Sound aborts

namespace AllSound

variable {aborts : Bool} {tasks : List Task}

theorem append (hs : AllSound aborts tasks) (kind : TaskKind) (delay : Duration) :
    AllSound aborts (tasks ++ [({ kind, delay } : Task)]) := by
  intro t task ht
  rcases getElem?_concat_cases ht with ⟨-, rfl⟩ | ⟨-, ht⟩
  · exact ⟨fun _ => rfl, by simp⟩
  · exact hs t task ht

theorem modify (hs : AllSound aborts tasks) (i : TaskId) {f : Task → Task}
    (hf : ∀ task, tasks[i]? = some task → (f task).Sound aborts) :
    AllSound aborts (tasks.modify i f) := by
  intro t task' ht
  rcases getElem?_modify_cases ht with ⟨task, rfl, htask, rfl⟩ | ⟨-, ht⟩
  · exact hf task htask
  · exact hs t task' ht

theorem finish (hs : AllSound aborts tasks) (i : TaskId) {phase : TaskPhase}
    (hw : phase ≠ .waiting) (hc : phase ≠ .connecting) :
    AllSound aborts (tasks.modify i (·.start phase)) :=
  hs.modify i fun _ _ => ⟨fun h => absurd h hw, fun _ _ => ⟨hw, hc⟩⟩

theorem cancelIn (hs : AllSound aborts tasks) (o : Option TaskId) :
    AllSound aborts (cancelIn aborts tasks o) := by
  cases o with
  | none => exact hs
  | some t =>
    refine hs.modify t fun task ht => ?_
    by_cases hc : task.cancelled = true
    · rw [Task.cancel, if_pos hc]
      exact hs t task ht
    · rw [Task.cancel, if_neg hc]
      refine ⟨fun hw => ?_, fun ha _ => ?_⟩
      · refine (hs t task ht).waiting ?_
        dsimp only at hw
        split at hw
        · simp at hw
        · exact hw
      · subst ha
        cases hp : task.phase <;> simp [Task.isLive, hp]

theorem replace (hs : AllSound aborts tasks) (i : TaskId) (h : HostId) (delay : Duration)
    (o : Option TaskId) :
    AllSound aborts (HostRotation.cancelIn aborts
      (tasks.modify i (·.start .finished) ++ [{ kind := .health h, delay }]) o) :=
  ((hs.finish i (by simp) (by simp)).append (.health h) delay).cancelIn o

end AllSound

section

variable [DecidableEq α] {e : Event α σ} {m m' : Moment α σ}

theorem allSound_move (hmove : Move e m m') (hs : AllSound m.setup.aborts m.tasks) :
    AllSound m'.setup.aborts m'.tasks := by
  cases hmove with
  | note | listen | lose | resubscribe | heed | settle | prune | fail | pool | appear => exact hs
  | reannounce | withdraw | ignore | retire | closeNone | opens | reopen => exact hs
  | closeLink | handOver | beginClosing | peerCloses | closeWillFail => exact hs
  | shut => exact hs.cancelIn _
  | arm delay => exact hs.append _ delay
  | fire => exact hs.finish _ (by simp) (by simp)
  | @attempt t task h host attempts ht hk hp hh hu =>
    refine hs.modify t fun task' ht' => ⟨fun hw => by simp [Task.start] at hw, fun ha hc => ?_⟩
    obtain rfl := Option.some.inj (ht.symm.trans ht')
    exact absurd hp ((hs t task ht).cancelled ha hc).1
  | skip => exact hs.finish _ (by simp) (by simp)
  | reach => exact hs.finish _ (by simp) (by simp)
  | discard => exact hs.finish _ (by simp) (by simp)
  | discarded => exact hs.finish _ (by simp) (by simp)
  | unplanned => exact hs.finish _ (by simp) (by simp)
  | retry delay => exact hs.replace _ _ delay _
  | @giveUp t _ h _ delay _ _ _ _ _ _ => exact hs.replace t h delay (some m.tasks.length)
  | fallSick delay => exact (hs.append _ delay).cancelIn _
  | welcome | revive | expire | expireOut | closeHost => exact hs.cancelIn _

theorem renewal_move (hmove : Move e m m') (hs : AllSound m.setup.aborts m.tasks)
    (hr : Renewal m.lifecycle m.reconciler m.monitor m.tasks m.commands) :
    Renewal m'.lifecycle m'.reconciler m'.monitor m'.tasks m'.commands := by
  cases hmove with
  | note | fail | pool | appear | reannounce | withdraw | ignore | retire => exact hr
  | closeNone | opens | reopen | closeLink | handOver => exact hr
  | beginClosing | peerCloses | closeWillFail => exact hr
  | listen _ hne => exact hr.listen hne (by simp) id
  | lose hne => exact hr.listen hne (by simp) id
  | resubscribe _ _ _ hne hc => exact hr.listen hne (by simp) fun ha => (hc ▸ ha).clear
  | heed _ hne hc => exact hr.listen hne hne fun ha => (hc ▸ ha).tail
  | settle _ hl =>
    refine ⟨fun hne => ?_, hr.armed, hr.shut, hr.spent⟩
    simp [hr.running hne] at hl
  | shut => exact hr.shutDown _ _
  | arm delay _ hshut hp =>
    have hne : m.reconciler ≠ .stopped := fun hs' => by simp [hr.shut hs'] at hshut
    refine ⟨hr.running, fun _ => ?_, fun hs' => absurd hs' hne, fun hs' => absurd hs' hne⟩
    have ha := hr.armed hne
    rw [hp] at ha
    exact ha.arm delay
  | @fire t task ht hk hp =>
    have hstarted := (hs t task ht).waiting hp
    refine ⟨hr.running, fun hne => (hr.armed hne).fire ht hk hstarted, hr.shut, ?_⟩
    exact (hr.goOn (.start m.tasks t .finished)).spent
  | prune hh _ _ =>
    dsimp only
    split
    · exact hr.drain _
    · simpa using hr
  | attempt | skip | reach | discard | discarded | unplanned => exact hr.goOn (.start _ _ _)
  | retry => exact hr.goOn (.replace _ _ _ _ _ _)
  | @giveUp t _ h _ delay _ _ _ _ _ _ =>
    exact hr.goOn (.replace m.setup.aborts m.tasks t h delay (some m.tasks.length))
  | fallSick => exact hr.goOn ((GoesOn.append _ _ (by simp)).trans (.cancelIn _ _ _))
  | welcome | revive | expire | expireOut | closeHost => exact hr.goOn (.cancelIn _ _ _)

theorem renewal_run (setup : Setup α) (tape : Tape) (callers : σ) (events : List (Event α σ)) :
    let b := (Balancer.start setup tape callers).run events
    AllSound b.setup.aborts b.tasks ∧
      Renewal b.lifecycle b.reconciler b.monitor b.tasks b.commands := by
  obtain ⟨_, hboth⟩ := Balancer.run_keeps
    (I := fun m => AllSound m.setup.aborts m.tasks ∧
      Renewal m.lifecycle m.reconciler m.monitor m.tasks m.commands) events
    (fun _ _ _ _ hmove h => ⟨allSound_move hmove h.1, renewal_move hmove h.1 h.2⟩)
    (Balancer.start setup tape callers) [] []
    ⟨fun t task ht => by simp [Balancer.start] at ht, .start⟩
  exact hboth

end
end HostRotation
