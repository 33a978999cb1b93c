/-
# After the end

A balancer that was closed or dropped is shut: its reconciler is stopped, its
table is empty, and every host it ever knew is closed and has nothing pooled
(`shut_run`). What was in flight goes on. Connects end, attempts that nobody
aborted start, callers come, and the connections of hosts that left earlier
are closed.

`Epilogue` lists what a step can then still do, and every step of a balancer
that is shut is one of these (`epilogue_step`). No host changes, no connect
begins and no subscription; a connection that arrives is closed; a task that
is scheduled is cancelled at once; no selection returns a connection.
-/
import HostRotation.Proofs.Custody
import HostRotation.Proofs.Resubscribes
import HostRotation.Proofs.Selections

namespace HostRotation

variable {α σ : Type}

/-- A balancer that was closed or dropped. -/
structure Shut (b : Balancer α σ) : Prop where
  ended : b.lifecycle ≠ .running
  stopped : b.reconciler = .stopped
  table : b.table = []
  closed : ∀ (h : HostId) (host : Host α (Link α)), b.hosts[h]? = some host →
    host.status = .closed
  empty : ∀ (h : HostId) (host : Host α (Link α)), b.hosts[h]? = some host → host.pool = []

theorem Shut.isClosed {b : Balancer α σ} (hs : Shut b) : b.isClosed = true := by
  simp [Balancer.isClosed, hs.ended]

section

variable {b b' : Balancer α σ} {h : HostId} {host : Host α (Link α)} {s : Selection α σ}
  {l : Link α}

/-! ### Connections that are obtained and closed -/

/-- A connect that succeeds ends with a connection that exists. It opens one at
most, and closes none. -/
theorem obtain_calls {address : α} {outcome : DialOutcome}
    (ho : b.obtain address outcome = (b', .ok l)) :
    l.id < b'.connections.length ∧ b'.connections.length ≤ b.connections.length + 1 ∧
      ∀ c, closeCalls c b'.connections = closeCalls c b.connections := by
  have hopen (hl : b.openLink address = (b', l)) :
      l.id < b'.connections.length ∧ b'.connections.length ≤ b.connections.length + 1 ∧
        ∀ c, closeCalls c b'.connections = closeCalls c b.connections := by
    obtain ⟨rfl, rfl⟩ := Prod.mk.inj hl
    exact ⟨by simp, Nat.le_of_eq List.length_append, closeCalls_append _ address⟩
  unfold Balancer.obtain at ho
  split at ho
  · simp at ho
  · simp only [Prod.mk.injEq, Except.ok.injEq] at ho
    exact hopen (Prod.ext ho.1 ho.2)
  · split at ho
    · rename_i hc
      simp only [Prod.mk.injEq, Except.ok.injEq] at ho
      obtain ⟨rfl, rfl⟩ := ho
      exact ⟨(List.getElem?_eq_some_iff.mp hc).1, Nat.le_succ _, fun _ => rfl⟩
    · simp only [Prod.mk.injEq, Except.ok.injEq] at ho
      exact hopen (Prod.ext ho.1 ho.2)

theorem closeCalls_closeLink_of_ne {c : ConnId} (b : Balancer α σ) (hl : l.id ≠ c) :
    closeCalls c (b.closeLink l).1.connections = closeCalls c b.connections := by
  simp only [closeCalls, Balancer.closeLink, Balancer.modifyConnection]
  rw [List.getElem?_modify_ne _ _ hl]

theorem closeCalls_closeLinks_of_ne {c : ConnId} : ∀ (ls : List (Link α)) (b : Balancer α σ),
    (∀ l ∈ ls, l.id ≠ c) →
    closeCalls c (b.closeLinks ls).1.connections = closeCalls c b.connections
  | [], _, _ => rfl
  | l :: ls, b, hn => by
    have hrest := closeCalls_closeLinks_of_ne ls (b.closeLink l).1 fun l' hl' =>
      hn l' (List.mem_cons_of_mem _ hl')
    exact hrest.trans (closeCalls_closeLink_of_ne b (hn l List.mem_cons_self))

namespace Balancer.Arrives

variable {e : Event α σ} {h' : HostId} {l' : Link α}

/-- A connect ends with one connection. -/
theorem unique (ha : b.Arrives h l e) (ha' : b.Arrives h' l' e) : l = l' := by
  cases e with
  | dialled i outcome =>
    obtain ⟨s, _, _, host, hi, hp, hh, ho⟩ := ha
    obtain ⟨s', _, _, host', hi', hp', hh', ho'⟩ := ha'
    obtain rfl := Option.some.inj (hi.symm.trans hi')
    obtain ⟨rfl, -, -⟩ := SelectionPhase.connecting.inj (hp.symm.trans hp')
    obtain rfl := Option.some.inj (hh.symm.trans hh')
    exact Except.ok.inj (ho.symm.trans ho')
  | probed t outcome =>
    obtain ⟨task, host, ht, hk, hp, hh, ho⟩ := ha
    obtain ⟨task', host', ht', hk', hp', hh', ho'⟩ := ha'
    obtain rfl := Option.some.inj (ht.symm.trans ht')
    obtain rfl := TaskKind.health.inj (hk.symm.trans hk')
    obtain rfl := Option.some.inj (hh.symm.trans hh')
    exact Except.ok.inj (ho.symm.trans ho')
  | _ => exact ha.elim

/-- A connection that was never handed out before is a new one. -/
theorem fresh (ha : b.Arrives h l e) (hn : ¬ e.Reopens) : l.id = b.connections.length := by
  have hfresh {address : α} {outcome : DialOutcome} (hout : ∀ c, outcome ≠ .reopened c)
      (ho : (b.obtain address outcome).2 = .ok l) : l.id = b.connections.length := by
    cases outcome with
    | refused => simp [Balancer.obtain] at ho
    | opened =>
      obtain rfl : _ = l := Except.ok.inj ho
      rfl
    | reopened c => exact absurd rfl (hout c)
  cases e with
  | dialled i outcome =>
    obtain ⟨_, _, _, _, _, _, _, ho⟩ := ha
    exact hfresh (by rintro c rfl; exact hn trivial) ho
  | probed t outcome =>
    obtain ⟨_, _, _, _, _, _, ho⟩ := ha
    exact hfresh (by rintro c rfl; exact hn trivial) ho
  | _ => exact ha.elim

end Balancer.Arrives

theorem length_closeLinks : ∀ (ls : List (Link α)) (b : Balancer α σ),
    (b.closeLinks ls).1.connections.length = b.connections.length
  | [], _ => rfl
  | l :: ls, b => (length_closeLinks ls (b.closeLink l).1).trans (List.length_modify ..)

/-! ### Passes over closed hosts -/

theorem connectFailed_of_closed (hh : b.hosts[h]? = some host) (hc : host.status = .closed) :
    ∃ metrics, b.connectFailed h = { b with metrics } := by
  simp only [Balancer.connectFailed, hh]
  rw [Host.recordFailure_of_ne _ _ (by simp [hc])]
  exact ⟨_, Balancer.setHost_self (b := { b with metrics := _ }) hh⟩

/-- The attempt that is scheduled for a closed host is cancelled at once. -/
theorem scheduleAttempt_of_closed (hh : b.hosts[h]? = some host) (hc : host.status = .closed) :
    ∃ tasks tape, b.scheduleAttempt h = { b with tasks, tape } ∧
      ∀ (t : TaskId) (task : Task), b.tasks.length ≤ t → tasks[t]? = some task →
        task.cancelled = true := by
  cases hplan : b.setup.health with
  | none =>
    rw [Balancer.scheduleAttempt_of_none hplan]
    exact ⟨_, _, rfl, fun t task hge ht => by simp [List.getElem?_eq_none hge] at ht⟩
  | some plan =>
    rw [Balancer.scheduleAttempt_of_ne hh hplan (by simp [hc])]
    refine ⟨_, _, rfl, fun t task hge ht => ?_⟩
    rcases getElem?_modify_cases ht with ⟨task', -, -, rfl⟩ | ⟨hne, ht⟩
    · exact Task.cancelled_cancel _ _
    · -- No other task is new.
      rcases getElem?_concat_cases ht with ⟨rfl, -⟩ | ⟨hlt, -⟩
      · exact absurd rfl hne
      · exact absurd hge (Nat.not_le.mpr hlt)

/-- A pass that ends in a balancer that is shut changes no more than counts. -/
theorem endPass_of_closed (hc : b.isClosed = true) (s : Selection α σ) (pass : Pass) :
    ∃ metrics err, b.endPass s pass = ({ b with metrics }, s.finish (.error err)) := by
  unfold Balancer.endPass Balancer.observeTable
  dsimp only
  have hc' : b.recordHosts.isClosed = true := hc
  split
  · rw [hc', if_neg (by simp)]
    exact ⟨_, _, rfl⟩
  · exact ⟨_, _, rfl⟩

variable [DecidableEq α]

theorem walk_of_closed (s : Selection α σ) (pass : Pass)
    (hc : ∀ (h : HostId) (host : Host α (Link α)), b.hosts[h]? = some host →
      host.status = .closed) : ∀ rest : List HostId, b.walk s pass rest = b.endPass s pass
  | [] => rfl
  | h :: rest => by
    have hrest := walk_of_closed s pass hc rest
    unfold Balancer.walk
    split
    · exact hrest
    · rename_i host hh
      rw [if_neg (by simp [Host.isUsable, hc h host hh])]
      exact hrest

/-- A pass whose connect failed ends at once. -/
theorem Shut.connectFailed_walk (hs : Shut b) (hh : b.hosts[h]? = some host) (s : Selection α σ)
    (pass : Pass) (rest : List HostId) : ∃ metrics err,
    (b.connectFailed h).walk s pass rest = ({ b with metrics }, s.finish (.error err)) := by
  obtain ⟨metrics, hfailed⟩ := connectFailed_of_closed hh (hs.closed h host hh)
  rw [hfailed, walk_of_closed (b := { b with metrics }) s pass hs.closed]
  exact endPass_of_closed (b := { b with metrics }) hs.isClosed s pass

end

/-! ### What a step can still do -/

/-- What a step can still do when the balancer is shut. -/
inductive Epilogue [DecidableEq α] (b : Balancer α σ) : Event α σ → Balancer α σ → Prop
  /-- Nobody is there to answer, or nothing is left to do. -/
  | passes {e lifecycle subscriptions commands tasks connections metrics tape callers}
      (ha : ∀ h l, ¬ b.Arrives h l e)
      (hs : subscriptions.length = b.subscriptions.length)
      (ht : ∀ (t : TaskId) (task : Task), b.tasks.length ≤ t → tasks[t]? = some task →
        task.cancelled = true)
      (hl : connections.length = b.connections.length)
      (hc : ∀ c, closeCalls c connections = closeCalls c b.connections) :
      Epilogue b e { b with
        lifecycle, subscriptions, commands, tasks, connections, metrics, tape, callers }
  /-- The connections of a host that left earlier are closed. -/
  | closes {k c connections} (hk : b.closings[k]? = some c)
      (hl : connections.length = b.connections.length)
      (hc : ∀ i, (∀ l ∈ c.links, l.id ≠ i) →
        closeCalls i connections = closeCalls i b.connections) :
      Epilogue b (.runClosing k) { b with
        closings := b.closings.set k { c with begun := true }, connections }
  | refuses {accepts} :
      Epilogue b (.select accepts) { b with
        selections := b.selections ++
          [Selection.finish { accepts } (.error (.closed b.setup.target))] }
  /-- A selection fails. -/
  | fails {e i s metrics err} (ha : ∀ h l, ¬ b.Arrives h l e) (hi : b.selections[i]? = some s) :
      Epilogue b e { b with
        selections := b.selections.set i (s.finish (.error err)), metrics }
  /-- A connect of a selection ends with a connection, which is closed. -/
  | spurns {i outcome s h connections l} (hi : b.selections[i]? = some s)
      (ha : b.Arrives h l (.dialled i outcome)) (hl : l.id < connections.length)
      (hn : connections.length ≤ b.connections.length + 1)
      (hc : ∀ c, closeCalls c connections = closeCalls c b.connections) :
      Epilogue b (.dialled i outcome) { ({ b with connections }.closeLink l).1 with
        selections := b.selections.set i { s with phase := .discarding } }
  /-- A connect of a health attempt ends with a connection, which is closed. -/
  | discards {t outcome h connections l} (ha : b.Arrives h l (.probed t outcome))
      (hl : l.id < connections.length) (hn : connections.length ≤ b.connections.length + 1)
      (hc : ∀ c, closeCalls c connections = closeCalls c b.connections) :
      Epilogue b (.probed t outcome)
        (({ b with connections }.closeLink l).1.modifyTask t (·.start .discarding))

section

variable [DecidableEq α] {b b' : Balancer α σ} {e : Event α σ}

theorem cancelled_of_length_eq {tasks tasks' : List Task} (hl : tasks'.length = tasks.length)
    {t : TaskId} {task : Task} (hge : tasks.length ≤ t) (ht : tasks'[t]? = some task) :
    task.cancelled = true := by
  rw [List.getElem?_eq_none (hl ▸ hge)] at ht
  simp at ht

namespace Epilogue

/-- Nothing happens. -/
theorem rests (ha : ∀ h l, ¬ b.Arrives h l e) : Epilogue b e b :=
  .passes ha rfl (fun _ _ => cancelled_of_length_eq rfl) rfl fun _ => rfl

/-- A task goes on, and commands may be sent. -/
theorem starts (ha : ∀ h l, ¬ b.Arrives h l e) (t : TaskId) (f : Task → Task)
    (commands : List (Command α)) :
    Epilogue b e { b.modifyTask t f with commands } :=
  .passes ha rfl (fun _ _ => cancelled_of_length_eq (List.length_modify ..)) rfl fun _ => rfl

end Epilogue

/-- The connect of a selection is over. -/
theorem epilogue_dialled (hs : Shut b) (i : SelectionId) (outcome : DialOutcome) :
    Epilogue b (.dialled i outcome) (b.dialled i outcome) := by
  unfold Balancer.dialled
  split
  · rename_i hi
    refine .rests ?_
    rintro h l ⟨s, _, _, _, hi', _⟩
    simp [hi] at hi'
  · rename_i s hi
    split
    · rename_i h pass rest hp
      split
      · rename_i hh
        refine .rests ?_
        rintro h' l ⟨s', _, _, _, hi', hp', hh', _⟩
        obtain rfl := Option.some.inj (hi.symm.trans hi')
        obtain ⟨rfl, -, -⟩ := SelectionPhase.connecting.inj (hp.symm.trans hp')
        simp [hh] at hh'
      · rename_i host hh
        have hc := hs.closed h host hh
        dsimp only
        split
        · rename_i b' l ho
          obtain ⟨connections, rfl⟩ := Balancer.connections_of_obtain ho
          rw [Balancer.poolAndOffer_of_closed (b := { b with connections }) hh s l hc]
          obtain ⟨hlt, hle, hcalls⟩ := obtain_calls ho
          exact .spurns hi ⟨s, pass, rest, host, hi, hp, hh, by rw [ho]⟩ hlt hle hcalls
        · rename_i b' reason ho
          obtain ⟨rfl, rfl⟩ := Balancer.obtain_error ho
          obtain ⟨_, _, hend⟩ := hs.connectFailed_walk hh s { pass with lastError := _ } rest
          rw [hend]
          refine .fails ?_ hi
          rintro h' l ⟨s', _, _, host', _, _, _, ho'⟩
          simp [Balancer.obtain] at ho'
    · rename_i hne
      refine .rests ?_
      rintro h' l ⟨s', pass, rest, _, hi', hp', _⟩
      obtain rfl := Option.some.inj (hi.symm.trans hi')
      exact hne h' pass rest hp'

/-- The connect of a health attempt is over. -/
theorem epilogue_probed (hs : Shut b) (t : TaskId) (outcome : DialOutcome) :
    Epilogue b (.probed t outcome) (b.probed t outcome) := by
  have hp := b.probe_probed t outcome
  generalize b.probed t outcome = b' at hp ⊢
  cases hp with
  | idle hn =>
    refine .rests ?_
    rintro h l ⟨task, host, ht, hk, hphase, hh, -⟩
    exact hn h host ⟨task, ht, hk, hphase, hh⟩
  | @reached _ h host connections l hp ho =>
    obtain ⟨task, ht, hk, hphase, hh⟩ := hp
    rw [Balancer.probeSucceeded_of_closed (hs.closed h host hh)]
    obtain ⟨hlt, hle, hcalls⟩ := obtain_calls ho
    exact .discards ⟨task, host, ht, hk, hphase, hh, by rw [ho]⟩ hlt hle hcalls
  | @missed h host reason hp =>
    obtain ⟨_, -, -, -, hh⟩ := hp
    obtain ⟨_, _, heq, hcancelled⟩ := scheduleAttempt_of_closed
      (b := b.modifyTask t (·.start .finished)) hh (hs.closed h host hh)
    rw [heq]
    refine .passes ?_ rfl (fun t' task' hge => ?_) rfl fun _ => rfl
    · rintro h' l ⟨_, _, _, _, _, _, ho'⟩
      simp [Balancer.obtain] at ho'
    · exact hcancelled t' task' (by simpa [Balancer.modifyTask] using hge)

/-- A task starts. -/
theorem epilogue_startTask (hs : Shut b) (t : TaskId) :
    Epilogue b (.startTask t) (b.startTask t) := by
  have ha : ∀ h l, ¬ b.Arrives h l (.startTask t) := fun _ _ => id
  unfold Balancer.startTask
  split
  · exact .rests ha
  · split
    · exact .rests ha
    · split
      · exact .starts ha t _ _
      · split
        · exact .starts ha t _ b.commands
        · rename_i host hh
          rw [if_neg (by simp [hs.closed _ host hh])]
          exact .starts ha t _ b.commands

theorem epilogue_discarded (b : Balancer α σ) (i : SelectionId) :
    Epilogue b (.discarded i) (b.discarded i) := by
  have ha : ∀ h l, ¬ b.Arrives h l (.discarded i) := fun _ _ => id
  unfold Balancer.discarded
  split
  · exact .rests ha
  · rename_i s hi
    split
    · exact .fails ha hi
    · exact .rests ha

theorem epilogue_runClosing (b : Balancer α σ) (k : Nat) :
    Epilogue b (.runClosing k) (b.runClosing k) := by
  unfold Balancer.runClosing
  split
  · exact .rests fun _ _ => id
  · rename_i c hk
    split
    · exact .rests fun _ _ => id
    · obtain ⟨connections, heq⟩ := Balancer.closeLinks_footprint c.links
        { b with closings := b.closings.set k { c with begun := true } }
      have hlength := length_closeLinks c.links
        { b with closings := b.closings.set k { c with begun := true } }
      have hcalls (i : ConnId) := closeCalls_closeLinks_of_ne (c := i) c.links
        { b with closings := b.closings.set k { c with begun := true } }
      rw [heq] at hlength hcalls ⊢
      exact .closes hk hlength hcalls

/-- **What a step can still do.** -/
theorem epilogue_step (hs : Shut b) (e : Event α σ) : Epilogue b e (b.step e) := by
  have hc := hs.isClosed
  -- A change from outside schedules nothing.
  have hold : ∀ (t : TaskId) (task : Task), b.tasks.length ≤ t → b.tasks[t]? = some task →
      task.cancelled = true := fun _ _ => cancelled_of_length_eq rfl
  cases e with
  | dialled i outcome => exact epilogue_dialled hs i outcome
  | probed t outcome => exact epilogue_probed hs t outcome
  | startTask t => exact epilogue_startTask hs t
  | discarded i => exact epilogue_discarded b i
  | runClosing k => exact epilogue_runClosing b k
  | probeDiscarded t => exact .starts (fun _ _ => id) t _ b.commands
  | deliver n => exact .passes (fun _ _ => id) (List.length_modify ..) hold rfl fun _ => rfl
  | callersChange f => exact .passes (fun _ _ => id) rfl hold rfl fun _ => rfl
  | peerCloses i | closeWillFail i =>
    refine .passes (fun _ _ => id) rfl hold (List.length_modify ..) fun c => ?_
    exact closeCalls_modify_same (fun _ => by rfl) i c
  | startReconciler =>
    simp only [Balancer.step, Balancer.startReconciler, hs.stopped]
    exact .rests fun _ _ => id
  | takeNotice =>
    have hn : b.nextNotice? = none := by simp [Balancer.nextNotice?, hs.stopped]
    simp only [Balancer.step, Balancer.takeNotice, hn]
    exact .rests fun _ _ => id
  | takeCommand =>
    have hn : b.nextCommand? = none := by simp [Balancer.nextCommand?, hs.stopped]
    simp only [Balancer.step, Balancer.takeCommand, hn]
    exact .rests fun _ _ => id
  | select accepts =>
    simp only [Balancer.step, Balancer.select, hc]
    exact .refuses
  | close =>
    simp only [Balancer.step, Balancer.close, hc]
    exact .rests fun _ _ => id
  | drop =>
    simp only [Balancer.step, Balancer.drop, hc]
    exact .rests fun _ _ => id
  | closeSettled =>
    simp only [Balancer.step, Balancer.closeSettled]
    split
    · exact .passes (fun _ _ => id) rfl hold rfl fun _ => rfl
    · exact .rests fun _ _ => id

/-! ### What it comes to -/

namespace Epilogue

/-- No host changes, and neither a connect nor a subscription begins. -/
theorem frame (he : Epilogue b e b') : b'.hosts = b.hosts ∧ b'.table = b.table ∧
    b'.reconciler = b.reconciler ∧ b'.attempts = b.attempts ∧
    b'.subscriptions.length = b.subscriptions.length := by
  cases he with
  | passes _ hs => exact ⟨rfl, rfl, rfl, rfl, hs⟩
  | closes | refuses | fails | spurns | discards => exact ⟨rfl, rfl, rfl, rfl, rfl⟩

/-- No new closing is begun. -/
theorem closings (he : Epilogue b e b') : ∀ c' ∈ b'.closings, ∃ c ∈ b.closings,
    c'.links = c.links := by
  intro c' hmem
  cases he with
  | passes | refuses | fails | spurns | discards => exact ⟨c', hmem, rfl⟩
  | @closes k c _ hk =>
    rcases List.mem_or_eq_of_mem_set hmem with hmem | rfl
    · exact ⟨c', hmem, rfl⟩
    · exact ⟨c, List.mem_of_getElem? hk, rfl⟩

/-- What is scheduled is cancelled. -/
theorem cancelled (he : Epilogue b e b') {t : TaskId} {task : Task} (hge : b.tasks.length ≤ t)
    (ht : b'.tasks[t]? = some task) : task.cancelled = true := by
  cases he with
  | passes _ _ hnew => exact hnew t task hge ht
  | closes | refuses | fails | spurns => exact cancelled_of_length_eq rfl hge ht
  | discards => exact cancelled_of_length_eq (List.length_modify ..) hge ht

/-- No selection returns a connection. -/
theorem result (he : Epilogue b e b') {i : SelectionId} {l : Link α}
    (hr : b'.result? i = some (.ok l)) : b.result? i = some (.ok l) := by
  obtain ⟨s, hs, hok⟩ := Option.bind_eq_some_iff.mp hr
  have hold (hs : b.selections[i]? = some s) : b.result? i = some (.ok l) :=
    Option.bind_eq_some_iff.mpr ⟨s, hs, hok⟩
  cases he with
  | passes | closes | discards => exact hold hs
  | refuses =>
    rcases getElem?_concat_cases hs with ⟨-, rfl⟩ | ⟨-, hs⟩
    · simp [Selection.result?_finish] at hok
    · exact hold hs
  | fails =>
    rcases getElem?_set_cases hs with ⟨-, rfl⟩ | ⟨-, hs⟩
    · simp [Selection.result?_finish] at hok
    · exact hold hs
  | spurns =>
    rcases getElem?_set_cases hs with ⟨-, rfl⟩ | ⟨-, hs⟩
    · simp [Selection.result?] at hok
    · exact hold hs

/-- A connection that arrives is closed, and no other one is. -/
theorem arrival (he : Epilogue b e b') {h : HostId} {l : Link α} (ha : b.Arrives h l e)
    (c : ConnId) : closeCalls c b'.connections =
      closeCalls c b.connections + if l.id = c then 1 else 0 := by
  cases he with
  | passes hn | fails hn => exact absurd ha (hn h l)
  | closes | refuses => exact ha.elim
  | spurns _ ha' hlt _ hcalls | discards ha' hlt _ hcalls =>
    obtain rfl := ha'.unique ha
    rw [← hcalls c]
    exact closeCalls_close hlt c

/-- A connection that does not arrive and is in no closing is left alone. -/
theorem others (he : Epilogue b e b') {c : ConnId}
    (ha : ∀ h l, b.Arrives h l e → l.id ≠ c) (hc : ∀ k ∈ b.closings, ∀ l ∈ k.links, l.id ≠ c) :
    closeCalls c b'.connections = closeCalls c b.connections := by
  have hstep := he
  cases he with
  | passes _ _ _ _ hcalls => exact hcalls c
  | refuses | fails => rfl
  | closes hk _ hcalls => exact hcalls c (hc _ (List.mem_of_getElem? hk))
  | spurns _ ha' | discards ha' => rw [hstep.arrival ha' c, if_neg (ha _ _ ha'), Nat.add_zero]

/-- A connection that is new is the one that arrives. -/
theorem new (he : Epilogue b e b') (hn : ¬ e.Reopens) {c : ConnId}
    (hc : b.connections.length ≤ c) (hc' : c < b'.connections.length) :
    ∃ h l, b.Arrives h l e ∧ l.id = c := by
  cases he with
  | passes _ _ _ hl | closes _ hl => exact absurd hc (Nat.not_le.mpr (hl ▸ hc'))
  | refuses | fails => exact absurd hc (Nat.not_le.mpr hc')
  | @spurns _ _ _ h connections l _ ha _ hle | @discards _ _ h connections l ha _ hle =>
    have hlt : c < connections.length := Nat.lt_of_lt_of_eq hc' (List.length_modify ..)
    exact ⟨h, l, ha, (ha.fresh hn).trans
      (Nat.le_antisymm hc (Nat.le_of_lt_succ (Nat.lt_of_lt_of_le hlt hle)))⟩

end Epilogue

/-! ### Steps and runs -/

theorem shut_step (hs : Shut b) (e : Event α σ) : Shut (b.step e) := by
  obtain ⟨hhosts, htable, hreconciler, -⟩ := (epilogue_step hs e).frame
  refine ⟨Balancer.ended_run hs.ended [e], hreconciler.trans hs.stopped, htable.trans hs.table,
    fun h host hh => ?_, fun h host hh => ?_⟩
  · exact hs.closed h host (hhosts ▸ hh)
  · exact hs.empty h host (hhosts ▸ hh)

/-- What every step keeps that a balancer can still do, a run keeps. -/
theorem epilogue_run {P : Balancer α σ → Prop} : ∀ (events : List (Event α σ)),
    (∀ e ∈ events, ∀ b b', Shut b → Epilogue b e b' → P b → P b') → ∀ b, Shut b → P b →
      Shut (b.run events) ∧ P (b.run events)
  | [], _, _, hs, hb => ⟨hs, hb⟩
  | e :: events, hP, b, hs, hb =>
    epilogue_run events (fun e' he' => hP e' (List.mem_cons_of_mem _ he')) (b.step e)
      (shut_step hs e) (hP e List.mem_cons_self b _ hs (epilogue_step hs e) hb)

theorem shut_run (setup : Setup α) (tape : Tape) (callers : σ) (events : List (Event α σ))
    (hl : ((Balancer.start setup tape callers).run events).lifecycle ≠ .running) :
    Shut ((Balancer.start setup tape callers).run events) := by
  have htidy := tidy_run setup tape callers events
  have htable := emptied_run setup tape callers events hl
  obtain ⟨-, hr⟩ := renewal_run setup tape callers events
  have hout (h : HostId) :
      h ∉ ((Balancer.start setup tape callers).run events).table := by simp [htable]
  exact {
    ended := hl
    stopped := Decidable.byContradiction fun hne => hl (hr.running hne)
    table := htable
    closed := fun h host hh => (htidy.closed_iff h host hh).mpr ⟨hout h, List.not_mem_nil⟩
    empty := fun h host hh => htidy.empty_of_not_mem hh (hout h) }

end
end HostRotation
