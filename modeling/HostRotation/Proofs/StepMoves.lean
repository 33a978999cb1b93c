/-
# Every step is a chain of moves

For each operation of a balancer: the moves it makes. Operations that leave
the hands of the step as they find them are put as `Leads b b'`, which
composes; the others, which take a connection in hand or let a host go, are
chains between moments written out.

`moves_step` is the result: the step of an event is a chain of moves that
begins and ends with empty hands and applies the events of the batch the step
takes (`Balancer.announced`), the last one of each address.
-/
import HostRotation.Proofs.Moment

namespace HostRotation
namespace Balancer

variable {α σ : Type}

/-! ### Hosts and their checks -/

section

variable {b : Balancer α σ} {h : HostId} {host : Host α (Link α)}

theorem setHost_self (hh : b.hosts[h]? = some host) : b.setHost h host = b := by
  obtain ⟨hlt, rfl⟩ := List.getElem?_eq_some_iff.mp hh
  simp [setHost]

theorem getElem?_setHost (hh : b.hosts[h]? = some host) (host' : Host α (Link α)) :
    (b.setHost h host').hosts[h]? = some host' := by
  obtain ⟨hlt, -⟩ := List.getElem?_eq_some_iff.mp hh
  simp [setHost, hlt]

theorem cancelIfAny_eq (b : Balancer α σ) (t : Option TaskId) :
    b.cancelIfAny t = { b with tasks := cancelIn b.setup.aborts b.tasks t } := by
  cases t <;> rfl

theorem cancelCheck_setHost (hh : b.hosts[h]? = some host) (host' : Host α (Link α)) :
    (b.setHost h host').cancelCheck h = { b with
      hosts := b.hosts.set h { host' with check := none }
      tasks := cancelIn b.setup.aborts b.tasks host'.check } := by
  simp only [cancelCheck, getElem?_setHost hh, cancelIfAny_eq]
  simp only [setHost, List.set_set]

theorem clearCheck_setHost (hh : b.hosts[h]? = some host) (host' : Host α (Link α)) :
    (b.setHost h host').clearCheck h =
      { b with hosts := b.hosts.set h { host' with check := none } } := by
  simp only [clearCheck, getElem?_setHost hh]
  simp only [setHost, List.set_set]

theorem scheduleAttempt_setHost {plan : HealthPlan} (hh : b.hosts[h]? = some host)
    (hs : b.setup.health = some plan) (host' : Host α (Link α)) (hu : host'.status = .unhealthy) :
    (b.setHost h host').scheduleAttempt h = { b with
      tape := (plan.window.draw b.tape).2
      hosts := b.hosts.set h { host' with check := some b.tasks.length }
      tasks := cancelIn b.setup.aborts
        (b.tasks ++ [{ kind := .health h, delay := (plan.window.draw b.tape).1 }])
        host'.check } := by
  have hs' : (b.setHost h host').setup.health = some plan := hs
  simp only [scheduleAttempt, hs', schedule, installCheck]
  rw [show (b.setHost h host').hosts[h]? = some host' from getElem?_setHost hh host']
  simp only [hu, ↓reduceIte, cancelIfAny_eq]
  simp only [setHost, List.set_set]

theorem scheduleAttempt_of_ne {plan : HealthPlan} (hh : b.hosts[h]? = some host)
    (hs : b.setup.health = some plan) (hu : host.status ≠ .unhealthy) :
    b.scheduleAttempt h = { b with
      tape := (plan.window.draw b.tape).2
      tasks := cancelIn b.setup.aborts
        (b.tasks ++ [{ kind := .health h, delay := (plan.window.draw b.tape).1 }])
        (some b.tasks.length) } := by
  simp only [scheduleAttempt, hs, schedule, installCheck, hh, if_neg hu]
  rfl

theorem scheduleAttempt_of_none (hs : b.setup.health = none) : b.scheduleAttempt h = b := by
  simp only [scheduleAttempt, hs]

/-- When the balancer closes does not matter to its hosts. -/
theorem closeHosts_lifecycle (lifecycle : Lifecycle) : ∀ (hs : List HostId) (b : Balancer α σ),
    closeHosts { b with lifecycle } hs =
      ({ (b.closeHosts hs).1 with lifecycle }, (b.closeHosts hs).2)
  | [], _ => rfl
  | h :: hs, b => by
    have hone : closeHost { b with lifecycle } h =
        ({ (b.closeHost h).1 with lifecycle }, (b.closeHost h).2) := by
      unfold closeHost
      cases hh : b.hosts[h]? with
      | none => rfl
      | some host =>
        simp only [cancelCheck_setHost hh]
        rw [cancelCheck_setHost (b := { b with lifecycle }) hh]
    simp only [closeHosts, hone, closeHosts_lifecycle lifecycle hs]

/-- When the balancer closes does not matter to its connections. -/
theorem closeLinks_lifecycle (lifecycle : Lifecycle) : ∀ (ls : List (Link α)) (b : Balancer α σ),
    closeLinks { b with lifecycle } ls =
      ({ (b.closeLinks ls).1 with lifecycle }, (b.closeLinks ls).2)
  | [], _ => rfl
  | l :: ls, b => by
    have hone : closeLink { b with lifecycle } l =
        ({ (b.closeLink l).1 with lifecycle }, (b.closeLink l).2) := rfl
    simp only [closeLinks, hone, closeLinks_lifecycle lifecycle ls]

/-- A connect that fails changes nothing. -/
theorem obtain_error {b' : Balancer α σ} {address : α} {reason : String} {outcome : DialOutcome}
    (ho : b.obtain address outcome = (b', .error reason)) :
    b' = b ∧ outcome = .refused reason := by
  unfold obtain at ho
  split at ho
  · simp_all
  · simp at ho
  · split at ho <;> simp at ho

/-- A connect that succeeds opens a connection or reopens one, and that is all. -/
theorem connections_of_obtain {b' : Balancer α σ} {address : α} {l : Link α}
    {outcome : DialOutcome} (ho : b.obtain address outcome = (b', .ok l)) :
    ∃ connections, b' = { b with connections } := by
  unfold obtain at ho
  split at ho
  · simp at ho
  · exact ⟨_, (Prod.mk.inj ho).1.symm⟩
  · split at ho
    · exact ⟨_, (Prod.mk.inj ho).1.symm⟩
    · exact ⟨_, (Prod.mk.inj ho).1.symm⟩

theorem obtain_ok {b' : Balancer α σ} {address : α} {l : Link α} {outcome : DialOutcome}
    (ho : b.obtain address outcome = (b', .ok l)) : b'.hosts = b.hosts ∧ b'.tasks = b.tasks := by
  obtain ⟨_, rfl⟩ := connections_of_obtain ho
  exact ⟨rfl, rfl⟩

end

section

variable [DecidableEq α] {e : Event α σ} {b b' b'' : Balancer α σ}

/-! ### Operations that leave the hands as they are -/

/-- Moves lead from one balancer to another, whatever the step has in its
hands, and leave that as it is. -/
def Leads (e : Event α σ) (b b' : Balancer α σ) : Prop :=
  ∀ leaving inHand pruned applied, ∃ pruned',
    Moves e ⟨b, leaving, inHand, pruned, applied⟩ ⟨b', leaving, inHand, pruned', applied⟩

theorem Leads.refl (b : Balancer α σ) : Leads e b b := fun _ _ p _ => ⟨p, .refl⟩

theorem Leads.trans (h : Leads e b b') (h' : Leads e b' b'') : Leads e b b'' := by
  intro leaving inHand pruned applied
  obtain ⟨p, hp⟩ := h leaving inHand pruned applied
  obtain ⟨q, hq⟩ := h' leaving inHand p applied
  exact ⟨q, Relation.ReflTransGen.trans hp hq⟩

theorem Leads.after {m : Moment α σ} {leaving : List HostId} {inHand pruned : List (Link α)}
    {applied : Batch α} (hm : Moves e m ⟨b, leaving, inHand, pruned, applied⟩)
    (h : Leads e b b') : ∃ pruned', Moves e m ⟨b', leaving, inHand, pruned', applied⟩ := by
  obtain ⟨p, hp⟩ := h leaving inHand pruned applied
  exact ⟨p, hm.trans hp⟩

theorem Leads.of_move (h : ∀ leaving inHand pruned applied,
    Move e ⟨b, leaving, inHand, pruned, applied⟩ ⟨b', leaving, inHand, pruned, applied⟩) :
    Leads e b b' := fun l k p a => ⟨p, .single (h l k p a)⟩

/-- Bookkeeping is one move. -/
theorem Leads.note (h : b' = { b with
    rotation := b'.rotation, subscriptions := b'.subscriptions, selections := b'.selections
    attempts := b'.attempts, metrics := b'.metrics, tape := b'.tape, callers := b'.callers }) :
    Leads e b b' := by
  rw [h]
  exact .of_move fun _ _ _ _ => Move.note (m := ⟨b, _, _, _, _⟩) _ _ _ _ _ _ _

theorem leads_metrics (b : Balancer α σ) (metrics : Metrics) : Leads e b { b with metrics } :=
  .note rfl

theorem leads_scheduleResubscribe (b : Balancer α σ) : Leads e b b.scheduleResubscribe := by
  unfold scheduleResubscribe
  split
  · exact .refl b
  · rename_i hp
    simp only [Bool.or_eq_true, not_or, Bool.not_eq_true, Option.isSome_eq_false_iff,
      Option.isNone_iff_eq_none] at hp
    exact .of_move fun _ _ _ _ => Move.arm (m := ⟨b, _, _, _, _⟩) _ _ hp.1 hp.2

theorem leads_recordHosts (b : Balancer α σ) : Leads e b b.recordHosts := .note rfl

theorem leads_observeTable (b : Balancer α σ) : Leads e b b.observeTable := by
  unfold observeTable
  dsimp only
  split
  · exact (leads_recordHosts b).trans (leads_scheduleResubscribe _)
  · exact leads_recordHosts b

theorem leads_prune {h : HostId} {l : Link α} (hc : b.linkClosed l = true) :
    Leads e b (b.prune h l) := by
  unfold prune
  cases hh : b.hosts[h]? with
  | none => exact .refl b
  | some host =>
    by_cases hl : l ∈ host.pool
    · intro leaving inHand pruned applied
      refine ⟨pruned ++ [l], .single ?_⟩
      have hmove := Move.prune (e := e) (m := ⟨b, leaving, inHand, pruned, applied⟩) hh hl hc
      cases hd : (host.remove l).2 with
      | true => simpa [hd, setHost] using hmove
      | false => simpa [hd, setHost] using hmove
    · have hrem : host.remove l = (host, false) := by
        simp [Host.remove, hl]
      simp only [hrem, Bool.false_eq_true, ↓reduceIte, setHost_self hh]
      exact .refl b

@[simp] theorem connections_prune (b : Balancer α σ) (h : HostId) (l : Link α) :
    (b.prune h l).connections = b.connections := by
  unfold prune
  split
  · dsimp only
    split <;> rfl
  · rfl

theorem leads_prunes (h : HostId) : ∀ (closed : List (Link α)) (b : Balancer α σ),
    (∀ l ∈ closed, b.linkClosed l = true) → Leads e b (closed.foldl (fun b l => b.prune h l) b)
  | [], b, _ => .refl b
  | l :: closed, b, hc => by
    rw [List.foldl_cons]
    refine (leads_prune (hc l List.mem_cons_self)).trans (leads_prunes h closed _ fun l' hl' => ?_)
    simpa [linkClosed] using hc l' (List.mem_cons_of_mem _ hl')

theorem leads_searchHost (b : Balancer α σ) (accepts : Selector (Link α) σ) (h : HostId)
    (pool : List (Link α)) : Leads e b (b.searchHost accepts h pool).1 := by
  unfold searchHost
  dsimp only
  refine Leads.trans (.note rfl) (leads_prunes h _ _ fun l hl => ?_)
  exact Pool.isClosed_of_mem_search hl

theorem leads_reject (b : Balancer α σ) (s : Selection α σ) (err : BalancerError) :
    Leads e b (b.reject s err).1 := .note rfl

theorem leads_endPass (b : Balancer α σ) (s : Selection α σ) (pass : Pass) :
    Leads e b (b.endPass s pass).1 := by
  unfold endPass
  split
  · exact (leads_observeTable b).trans (leads_reject _ _ _)
  · exact leads_reject _ _ _

theorem leads_walk : ∀ (rest : List HostId) (b : Balancer α σ) (s : Selection α σ) (pass : Pass),
    Leads e b (b.walk s pass rest).1
  | [], b, s, pass => leads_endPass b s pass
  | h :: rest, b, s, pass => by
    unfold walk
    split
    · exact leads_walk rest b s pass
    · rename_i host _
      split
      · have hsearch := leads_searchHost (e := e) b s.accepts h host.pool
        dsimp only
        split
        · exact hsearch
        · split
          · exact hsearch.trans (.note rfl)
          · exact hsearch.trans (leads_walk rest _ _ pass)
      · exact leads_walk rest b s pass

theorem leads_beginPass (b : Balancer α σ) (s : Selection α σ) :
    Leads e b (b.beginPass s).1 := by
  unfold beginPass
  split
  · exact leads_reject _ _ _
  · refine Leads.trans ?_ (leads_walk _ _ _ _)
    exact .note rfl

theorem leads_select (b : Balancer α σ) (accepts : Selector (Link α) σ) :
    Leads e b (b.select accepts) := by
  unfold select
  dsimp only
  split
  · exact .note rfl
  · refine Leads.trans ?_ ((leads_beginPass _ _).trans (.note rfl))
    exact .note rfl

omit [DecidableEq α] in
/-- A host becomes unhealthy only if there are health checks. -/
theorem exists_plan {b : Balancer α σ} {host : Host α (Link α)}
    (hf : (host.recordFailure (b.setup.health.map HealthPlan.threshold)).2 = true) :
    ∃ plan, b.setup.health = some plan := by
  have hsome := Host.isSome_of_recordFailure hf
  rw [Option.isSome_map] at hsome
  exact Option.isSome_iff_exists.mp hsome

/-- A failed connect is recorded, and starts the health check of a host that
it made unhealthy. -/
theorem leads_recordFailure {h : HostId} {host : Host α (Link α)} (hh : b.hosts[h]? = some host) :
    let r := host.recordFailure (b.setup.health.map HealthPlan.threshold)
    Leads e b (if r.2 then ((b.setHost h r.1).scheduleAttempt h).observeTable
      else b.setHost h r.1) := by
  intro r
  cases hf : r.2 with
  | false =>
    simp only [Bool.false_eq_true, ↓reduceIte]
    exact .of_move fun _ _ _ _ => Move.fail (m := ⟨b, _, _, _, _⟩) hh hf
  | true =>
    obtain ⟨plan, hs⟩ := exists_plan hf
    simp only [r, hs, Option.map_some] at hf ⊢
    have hu : (host.recordFailure (some plan.threshold)).1.status = .unhealthy := by
      rw [Host.status_recordFailure, if_pos hf]
    simp only [↓reduceIte]
    refine Leads.trans ?_ (leads_observeTable _)
    rw [scheduleAttempt_setHost hh hs _ hu, Host.check_recordFailure]
    exact .of_move fun _ _ _ _ => Move.fallSick (m := ⟨b, _, _, _, _⟩) _ _ hh hs hf

theorem leads_connectFailed (b : Balancer α σ) (h : HostId) : Leads e b (b.connectFailed h) := by
  unfold connectFailed
  dsimp only
  split
  · exact .note rfl
  · rename_i host hh
    refine (leads_metrics b { b.metrics with
      connectFailures := b.metrics.connectFailures + 1 }).trans ?_
    exact leads_recordFailure hh

/-! ### Connections in hand -/

section

variable (leaving : List HostId) (inHand : List (Link α)) (pruned : List (Link α))
  (applied : Batch α)

/-- A connect that succeeds leaves the step with a connection in hand. -/
theorem moves_obtain {address : α} {outcome : DialOutcome} {l : Link α} (hd : e.Dials)
    (hr : ∀ c, outcome = .reopened c → e.Reopens) (ho : b.obtain address outcome = (b', .ok l)) :
    Moves e ⟨b, leaving, inHand, pruned, applied⟩ ⟨b', leaving, l :: inHand, pruned, applied⟩ := by
  have hopen : b.openLink address = (b', l) →
      Moves e ⟨b, leaving, inHand, pruned, applied⟩
        ⟨b', leaving, l :: inHand, pruned, applied⟩ := by
    rintro ⟨rfl, rfl⟩
    exact .single (Move.opens (m := ⟨b, _, _, _, _⟩) address hd)
  unfold obtain at ho
  split at ho
  · simp at ho
  · simp only [Prod.mk.injEq, Except.ok.injEq] at ho
    exact hopen (Prod.ext ho.1 ho.2)
  · rename_i c
    split at ho
    · rename_i hc
      have hlt : c < b.connections.length := (List.getElem?_eq_some_iff.mp hc).1
      simp only [Prod.mk.injEq, Except.ok.injEq] at ho
      obtain ⟨rfl, rfl⟩ := ho
      exact .single (Move.reopen (m := ⟨b, _, _, _, _⟩) _ (hr c rfl) hlt)
    · simp only [Prod.mk.injEq, Except.ok.injEq] at ho
      exact hopen (Prod.ext ho.1 ho.2)

theorem leads_offer (b : Balancer α σ) (s : Selection α σ) (l : Link α) :
    Leads e b (b.offer s l).1 := by
  unfold offer
  dsimp only
  split
  · exact .note rfl
  · exact .note rfl

section

variable {h : HostId} {host : Host α (Link α)} (hh : b.hosts[h]? = some host) (s : Selection α σ)
  (l : Link α)

include hh

theorem poolAndOffer_of_closed (hc : host.status = .closed) :
    b.poolAndOffer s h l = ((b.closeLink l).1, { s with phase := .discarding }) := by
  have hadd : host.add l = ((host.add l).1, .hostClosed) := Prod.ext rfl (by rw [Host.snd_add, hc])
  simp only [poolAndOffer, hh]
  rw [hadd]

theorem poolAndOffer_of_unhealthy (hu : host.status = .unhealthy) :
    b.poolAndOffer s h l = ({ b with
      hosts := b.hosts.set h { (host.add l).1 with check := none }
      tasks := cancelIn b.setup.aborts b.tasks host.check }.recordHosts).offer s l := by
  have hadd : host.add l = ((host.add l).1, .restored) := Prod.ext rfl (by rw [Host.snd_add, hu])
  simp only [poolAndOffer, hh]
  rw [hadd]
  dsimp only
  rw [cancelCheck_setHost hh, Host.check_add]

theorem poolAndOffer_of_ne (hc : host.status ≠ .closed) (hu : host.status ≠ .unhealthy) :
    b.poolAndOffer s h l = (b.setHost h (host.add l).1).offer s l := by
  have hadd : host.add l = ((host.add l).1, .added) := by
    refine Prod.ext rfl ?_
    rw [Host.snd_add]
    cases hs : host.status <;> simp [hs] at hc hu ⊢
  simp only [poolAndOffer, hh]
  rw [hadd]

end

/-- A connection just opened is pooled or, if its host was closed, closed. -/
theorem moves_poolAndOffer {i : SelectionId} {outcome : DialOutcome} {h : HostId}
    {host : Host α (Link α)} (he : e = .dialled i outcome) (hh : b.hosts[h]? = some host)
    (s : Selection α σ) (l : Link α) : ∃ pruned',
    Moves e ⟨b, leaving, l :: inHand, pruned, applied⟩
      ⟨(b.poolAndOffer s h l).1, leaving, inHand, pruned', applied⟩ := by
  by_cases hc : host.status = .closed
  · rw [poolAndOffer_of_closed hh s l hc]
    refine ⟨pruned, .single ?_⟩
    exact Move.closeLink (m := ⟨b, leaving, l :: inHand, pruned, applied⟩) rfl
  by_cases hu : host.status = .unhealthy
  · rw [poolAndOffer_of_unhealthy hh s l hu]
    have hmove := Move.welcome (m := ⟨b, leaving, l :: inHand, pruned, applied⟩) he hh hu rfl
    obtain ⟨p, hrecord⟩ := Leads.after (.single hmove) (leads_recordHosts _)
    exact Leads.after hrecord (leads_offer _ s l)
  · rw [poolAndOffer_of_ne hh s l hc hu]
    have hmove := Move.pool (m := ⟨b, leaving, l :: inHand, pruned, applied⟩) he hh hc hu rfl
    exact Leads.after (.single hmove) (leads_offer (b.setHost h (host.add l).1) s l)

end

/-! ### Connects that end and tasks that run -/

theorem leads_dialled (i : SelectionId) (outcome : DialOutcome) (he : e = .dialled i outcome)
    (hr : ∀ c, outcome = .reopened c → e.Reopens) : Leads e b (b.dialled i outcome) := by
  unfold dialled
  split
  · exact .refl b
  · split
    · split
      · exact .refl b
      · rename_i h pass rest _ _ host hh
        dsimp only
        split
        · rename_i b' l ho
          intro leaving inHand pruned applied
          have hobtain := moves_obtain leaving inHand pruned applied (he ▸ trivial) hr ho
          have hhosts := (obtain_ok ho).1
          obtain ⟨p, hpool⟩ := moves_poolAndOffer leaving inHand pruned applied he
            (hhosts ▸ hh) _ l
          exact Leads.after (hobtain.trans hpool) (.note rfl)
        · rename_i b' reason ho
          obtain ⟨rfl, -⟩ := obtain_error ho
          refine (leads_connectFailed b' h).trans ?_
          exact (leads_walk rest _ _ _).trans (.note rfl)
    · exact .refl b

theorem leads_discarded (b : Balancer α σ) (i : SelectionId) : Leads e b (b.discarded i) := by
  unfold discarded
  split
  · exact .refl b
  · split
    · exact .note rfl
    · exact .refl b

theorem leads_startTask (b : Balancer α σ) (t : TaskId) : Leads e b (b.startTask t) := by
  unfold startTask
  split
  · exact .refl b
  · rename_i task ht
    split
    · exact .refl b
    · rename_i hp
      have hp : task.phase = .waiting := Decidable.not_not.mp hp
      split
      · rename_i hk
        exact .of_move fun _ _ _ _ => Move.fire (m := ⟨b, _, _, _, _⟩) ht hk hp
      · rename_i h hk
        have hskip (hu : ∀ host, b.hosts[h]? = some host → host.status ≠ .unhealthy) :
            Leads e b (b.modifyTask t (·.start .finished)) :=
          .of_move fun _ _ _ _ => Move.skip (m := ⟨b, _, _, _, _⟩) ht hk hp hu
        split
        · rename_i hh
          exact hskip fun host hh' => by simp [hh] at hh'
        · rename_i host hh
          split
          · rename_i hu
            exact .of_move fun _ _ _ _ => Move.attempt (m := ⟨b, _, _, _, _⟩) _ ht hk hp hh hu
          · rename_i hu
            exact hskip fun host' hh' => by
              obtain rfl := Option.some.inj (hh.symm.trans hh')
              exact hu

theorem probeSucceeded_of_closed {t : TaskId} {h : HostId} {host : Host α (Link α)}
    (hc : host.status = .closed) (l : Link α) :
    b.probeSucceeded t h host l = (b.closeLink l).1.modifyTask t (·.start .discarding) := by
  have hsnd := host.snd_add l
  rw [hc] at hsnd
  unfold probeSucceeded
  split
  · rename_i hadd
    simp [hadd] at hsnd
  · rename_i hadd
    simp [hadd] at hsnd
  · rfl

theorem probeSucceeded_of_ne {t : TaskId} {h : HostId} {host : Host α (Link α)}
    (hh : b.hosts[h]? = some host) (hc : host.status ≠ .closed) (l : Link α) :
    ∃ metrics, b.probeSucceeded t h host l = { b with
      hosts := b.hosts.set h { (host.add l).1 with check := none }
      tasks := b.tasks.modify t (·.start .finished), metrics } := by
  have hsnd := host.snd_add l
  unfold probeSucceeded
  split
  · rename_i hadd
    rw [clearCheck_setHost hh, hadd]
    exact ⟨_, rfl⟩
  · rename_i hadd
    rw [clearCheck_setHost hh, hadd]
    exact ⟨_, rfl⟩
  · rename_i hadd
    rw [hadd] at hsnd
    cases hs : host.status <;> simp [hs] at hsnd hc

/-- A health attempt that reached its host pools the connection or, if the
host was closed, closes it. -/
theorem moves_probeSucceeded {t : TaskId} {outcome : DialOutcome} {task : Task} {h : HostId}
    {host : Host α (Link α)} (he : e = .probed t outcome)
    (ho : ∀ reason, outcome ≠ .refused reason) (ht : b.tasks[t]? = some task)
    (hk : task.kind = .health h) (hp : task.phase = .connecting) (hh : b.hosts[h]? = some host)
    (l : Link α) (leaving : List HostId) (inHand pruned : List (Link α)) (applied : Batch α) :
    ∃ pruned', Moves e ⟨b, leaving, l :: inHand, pruned, applied⟩
      ⟨b.probeSucceeded t h host l, leaving, inHand, pruned', applied⟩ := by
  by_cases hc : host.status = .closed
  · rw [probeSucceeded_of_closed hc]
    have hmove := Move.discard (e := e) (m := ⟨b, leaving, l :: inHand, pruned, applied⟩)
      ht hk hp hh hc
    exact ⟨pruned, .head hmove (.single (Move.closeLink (m := ⟨_, _, l :: inHand, _, _⟩) rfl))⟩
  · obtain ⟨metrics, heq⟩ := probeSucceeded_of_ne (t := t) hh hc l
    rw [heq]
    have hmove := Move.reach (m := ⟨b, leaving, l :: inHand, pruned, applied⟩) he ho ht hk hp hh hc
      rfl
    exact Leads.after (.single hmove) (.note rfl)

omit [DecidableEq α] in
/-- A health attempt at a host hangs in its connect. -/
def Probes (b : Balancer α σ) (t : TaskId) (h : HostId) (host : Host α (Link α)) : Prop :=
  ∃ task, b.tasks[t]? = some task ∧ task.kind = .health h ∧ task.phase = .connecting ∧
    b.hosts[h]? = some host

/-- What becomes of a balancer when the connect of a health attempt is over. -/
inductive Probe (b : Balancer α σ) (t : TaskId) : DialOutcome → Balancer α σ → Prop
  /-- No attempt hangs in that connect. -/
  | idle {outcome} (hn : ∀ h host, ¬ b.Probes t h host) : Probe b t outcome b
  | reached {outcome h host connections l} (hp : b.Probes t h host)
      (ho : b.obtain host.address outcome = ({ b with connections }, .ok l)) :
      Probe b t outcome (probeSucceeded { b with connections } t h host l)
  | missed {h host} (reason : String) (hp : b.Probes t h host) :
      Probe b t (.refused reason) ((b.modifyTask t (·.start .finished)).scheduleAttempt h)

theorem probe_probed (b : Balancer α σ) (t : TaskId) (outcome : DialOutcome) :
    Probe b t outcome (b.probed t outcome) := by
  unfold probed
  split
  · rename_i ht
    refine .idle ?_
    rintro h host ⟨task, ht', -⟩
    simp [ht] at ht'
  · rename_i task ht
    split
    · rename_i h hk hp
      split
      · rename_i hh
        refine .idle ?_
        rintro h' host ⟨task', ht', hk', -, hh'⟩
        obtain rfl := Option.some.inj (ht.symm.trans ht')
        obtain rfl := TaskKind.health.inj (hk.symm.trans hk')
        simp [hh] at hh'
      · rename_i host hh
        split
        · rename_i b' l ho
          obtain ⟨connections, rfl⟩ := connections_of_obtain ho
          exact .reached ⟨task, ht, hk, hp, hh⟩ ho
        · rename_i b' reason ho
          obtain ⟨rfl, rfl⟩ := obtain_error ho
          exact .missed reason ⟨task, ht, hk, hp, hh⟩
    · rename_i hne
      refine .idle ?_
      rintro h host ⟨task', ht', hk', hp', -⟩
      obtain rfl := Option.some.inj (ht.symm.trans ht')
      exact hne h hk' hp'

theorem Probe.leads {t : TaskId} {outcome : DialOutcome} (hp : Probe b t outcome b')
    (he : e = .probed t outcome) (hr : ∀ c, outcome = .reopened c → e.Reopens) : Leads e b b' := by
  cases hp with
  | idle => exact .refl b
  | @reached _ h host connections l hp ho =>
    obtain ⟨task, ht, hk, hphase, hh⟩ := hp
    intro leaving inHand pruned applied
    have hobtain := moves_obtain leaving inHand pruned applied (he ▸ trivial) hr ho
    have hopen : ∀ reason, outcome ≠ .refused reason := by
      rintro reason rfl
      simp [obtain] at ho
    obtain ⟨p, hreached⟩ := moves_probeSucceeded (b := { b with connections }) he hopen ht hk hphase
      hh l leaving inHand pruned applied
    exact ⟨p, hobtain.trans hreached⟩
  | @missed h host reason hp =>
    obtain ⟨task, ht, hk, hphase, hh⟩ := hp
    have hh' : (b.modifyTask t (·.start .finished)).hosts[h]? = some host := hh
    cases hs : b.setup.health with
    | none =>
      rw [scheduleAttempt_of_none (b := b.modifyTask t (·.start .finished)) hs]
      exact .of_move fun _ _ _ _ => Move.unplanned (m := ⟨b, _, _, _, _⟩) ht hk hphase hs
    | some plan =>
      by_cases hu : host.status = .unhealthy
      · rw [← setHost_self hh', scheduleAttempt_setHost hh' hs host hu]
        simp only [modifyTask, List.length_modify]
        exact .of_move fun _ _ _ _ => Move.retry (m := ⟨b, _, _, _, _⟩) _ _ ht hk hphase hh hu
      · rw [scheduleAttempt_of_ne hh' hs hu]
        simp only [modifyTask, List.length_modify]
        exact .of_move fun _ _ _ _ => Move.giveUp (m := ⟨b, _, _, _, _⟩) _ _ ht hk hphase hh hu

omit [DecidableEq α] in
/-- An attempt that closes no connection has none closed. -/
theorem probeDiscarded_of_ne {t : TaskId} {task : Task} (ht : b.tasks[t]? = some task)
    (hp : task.phase ≠ .discarding) : b.probeDiscarded t = b := by
  have hmod : b.tasks.modify t (fun task =>
      if task.phase = .discarding then task.start .finished else task) = b.tasks := by
    refine List.ext_getElem? fun i => ?_
    rw [List.getElem?_modify]
    by_cases hi : t = i
    · subst hi; simp [ht, hp]
    · simp [hi]
  unfold probeDiscarded modifyTask
  rw [hmod]

theorem leads_probeDiscarded (b : Balancer α σ) (t : TaskId) : Leads e b (b.probeDiscarded t) := by
  cases ht : b.tasks[t]? with
  | none =>
    unfold probeDiscarded modifyTask
    rw [List.modify_eq_self (List.getElem?_eq_none_iff.mp ht)]
    exact .refl b
  | some task =>
    by_cases hp : task.phase = .discarding
    · have hmod : b.tasks.modify t (fun task =>
          if task.phase = .discarding then task.start .finished else task) =
          b.tasks.modify t (·.start .finished) := by
        refine List.ext_getElem? fun i => ?_
        rw [List.getElem?_modify, List.getElem?_modify]
        by_cases hi : t = i
        · subst hi; simp [ht, hp]
        · simp [hi]
      unfold probeDiscarded modifyTask
      rw [hmod]
      exact .of_move fun _ _ _ _ => Move.discarded (m := ⟨b, _, _, _, _⟩) ht hp
    · rw [probeDiscarded_of_ne ht hp]
      exact .refl b

/-! ### Hosts that leave -/

section

variable (leaving : List HostId) (pruned : List (Link α)) (applied : Batch α)

/-- A connection in hand is closed. -/
theorem moves_closeLinks (inHand : List (Link α)) : ∀ (ls : List (Link α)) (b : Balancer α σ),
    Moves e ⟨b, leaving, ls ++ inHand, pruned, applied⟩
      ⟨(b.closeLinks ls).1, leaving, inHand, pruned, applied⟩
  | [], _ => .refl
  | l :: ls, b => .head (Move.closeLink (m := ⟨b, _, l :: (ls ++ inHand), _, _⟩) rfl)
      (moves_closeLinks inHand ls _)

theorem moves_closeLater (links : List (Link α)) (b : Balancer α σ) :
    Moves e ⟨b, leaving, links, pruned, applied⟩
      ⟨b.closeLater links, leaving, [], pruned, applied⟩ := by
  unfold closeLater
  cases links with
  | nil => exact .refl
  | cons l ls => exact .single (Move.handOver (m := ⟨b, _, _, _, _⟩))

variable (he : ¬ e.Dials)

include he

/-- Closing hosts that left leaves the step with what they had pooled. -/
theorem moves_closeHosts : ∀ (hs : List HostId) (b : Balancer α σ) (inHand : List (Link α)),
    Moves e ⟨b, hs ++ leaving, inHand, pruned, applied⟩
      ⟨(b.closeHosts hs).1, leaving, inHand ++ (b.closeHosts hs).2, pruned, applied⟩
  | [], b, inHand => by
    simp only [closeHosts, List.append_nil]
    exact .refl
  | h :: hs, b, inHand => by
    have ih := moves_closeHosts hs (b.closeHost h).1 (inHand ++ (b.closeHost h).2)
    simp only [closeHosts, ← List.append_assoc]
    refine .head ?_ ih
    unfold closeHost
    cases hh : b.hosts[h]? with
    | none =>
      simp only [List.append_nil]
      exact Move.closeNone (m := ⟨b, h :: (hs ++ leaving), _, _, _⟩) rfl hh
    | some host =>
      simp only [cancelCheck_setHost hh, Host.check_close]
      exact Move.closeHost (m := ⟨b, h :: (hs ++ leaving), _, _, _⟩) he rfl hh

theorem moves_closeRemoved (h : HostId) (b : Balancer α σ) :
    Moves e ⟨b, h :: leaving, [], pruned, applied⟩
      ⟨b.closeRemoved h, leaving, [], pruned, applied⟩ := by
  have hclose := moves_closeHosts leaving pruned applied he [h] b []
  simp only [closeHosts, List.append_nil, List.nil_append] at hclose
  exact hclose.trans (moves_closeLater _ _ _ _ _)

theorem moves_closeRemoveds : ∀ (hs : List HostId) (b : Balancer α σ),
    Moves e ⟨b, hs ++ leaving, [], pruned, applied⟩
      ⟨hs.foldl closeRemoved b, leaving, [], pruned, applied⟩
  | [], _ => .refl
  | h :: hs, b => (moves_closeRemoved _ _ _ he h b).trans (moves_closeRemoveds hs _)

end

/-! ### Batches -/

theorem lookup_eq_some {a : α} {h : HostId} (hf : b.lookup a = some h) :
    h ∈ b.table ∧ ∃ host, b.hosts[h]? = some host ∧ host.address = a := by
  unfold lookup at hf
  refine ⟨List.mem_of_find?_eq_some hf, ?_⟩
  have hany := List.find?_some hf
  cases hh : b.hosts[h]? with
  | none => simp [hh] at hany
  | some host => exact ⟨host, rfl, by simpa [hh] using hany⟩

theorem lifecycle_applyEvent (s : Balancer α σ × List HostId) (event : HostEvent α) :
    (applyEvent s event).1.lifecycle = s.1.lifecycle := by
  obtain ⟨b, removed⟩ := s
  obtain ⟨a, status⟩ := event
  unfold applyEvent
  dsimp only
  cases hf : b.lookup a with
  | none => cases status <;> rfl
  | some h =>
    obtain ⟨-, host, hh, -⟩ := lookup_eq_some hf
    cases status with
    | available =>
      simp only [activateHost, hh, cancelCheck_setHost hh]
      split <;> rfl
    | expired =>
      simp only [expireHost, hh, cancelCheck_setHost hh]
      split <;> rfl
    | unavailable => rfl

theorem moves_applyEvent (leaving : List HostId) (inHand pruned : List (Link α))
    (applied : Batch α) (b : Balancer α σ) (event : HostEvent α) (ho : b.lifecycle = .running) :
    Moves e ⟨b, leaving, inHand, pruned, applied⟩
      ⟨(applyEvent (b, leaving) event).1, (applyEvent (b, leaving) event).2, inHand, pruned,
        applied ++ [event]⟩ := by
  obtain ⟨a, status⟩ := event
  unfold applyEvent
  dsimp only
  cases hf : b.lookup a with
  | none =>
    cases status with
    | available => exact .single (Move.appear (m := ⟨b, _, _, _, _⟩) a ho hf)
    | expired => exact .single (Move.ignore (m := ⟨b, _, _, _, _⟩) ⟨a, .expired⟩ hf (by simp))
    | unavailable =>
      exact .single (Move.ignore (m := ⟨b, _, _, _, _⟩) ⟨a, .unavailable⟩ hf (by simp))
  | some h =>
    obtain ⟨-, host, hh, -⟩ := lookup_eq_some hf
    cases status with
    | available =>
      simp only [activateHost, hh]
      split
      · rename_i hu
        rw [cancelCheck_setHost hh, Host.check_activate]
        exact .single (Move.revive (m := ⟨b, _, _, _, _⟩) a hf hh hu)
      · rename_i hu
        exact .single (Move.reannounce (m := ⟨b, _, _, _, _⟩) a hf hh hu)
    | expired =>
      simp only [expireHost, hh]
      rw [cancelCheck_setHost hh, Host.check_expire]
      split
      · rename_i hd
        exact .single (Move.expireOut (m := ⟨b, _, _, _, _⟩) a hf hh hd)
      · rename_i hd
        exact .single (Move.expire (m := ⟨b, _, _, _, _⟩) a hf hh (by simpa using hd))
    | unavailable => exact .single (Move.withdraw (m := ⟨b, _, _, _, _⟩) a hf)

theorem moves_applyEvents (inHand pruned : List (Link α)) : ∀ (events : Batch α)
    (s : Balancer α σ × List HostId) (applied : Batch α), s.1.lifecycle = .running →
    Moves e ⟨s.1, s.2, inHand, pruned, applied⟩
      ⟨(events.foldl applyEvent s).1, (events.foldl applyEvent s).2, inHand, pruned,
        applied ++ events⟩
  | [], s, applied, _ => by
    rw [List.append_nil]
    exact .refl
  | event :: events, s, applied, ho => by
    have ih := moves_applyEvents inHand pruned events (applyEvent s event) (applied ++ [event])
      ((lifecycle_applyEvent s event).trans ho)
    rw [List.append_assoc, List.singleton_append] at ih
    exact (moves_applyEvent s.2 inHand pruned applied s.1 event ho).trans ih

section

variable (pruned : List (Link α)) (applied : Batch α) (he : ¬ e.Dials)

include he

theorem moves_applyBatch (b : Balancer α σ) (batch : Batch α) : ∃ pruned',
    Moves e ⟨b, [], [], pruned, applied⟩
      ⟨b.applyBatch batch, [], [], pruned',
        applied ++ lastEvents (if b.isClosed then [] else batch)⟩ := by
  unfold applyBatch
  dsimp only
  split
  · rename_i hc
    have hnil : lastEvents (if b.isClosed then [] else batch) = [] := by
      split
      · rfl
      · simp_all
    rw [hnil, List.append_nil]
    exact ⟨pruned, .refl⟩
  · rename_i hc
    have hopen : b.isClosed = false := by
      cases ho : b.isClosed <;> simp [ho] at hc ⊢
    simp only [hopen, Bool.false_eq_true, ↓reduceIte]
    have happly := moves_applyEvents (e := e) [] pruned (lastEvents batch) (b, []) applied
      (by simpa [isClosed] using hopen)
    have hremove := moves_closeRemoveds [] pruned (applied ++ lastEvents batch) he
      ((lastEvents batch).foldl applyEvent (b, [])).2
      ((lastEvents batch).foldl applyEvent (b, [])).1
    rw [List.append_nil] at hremove
    exact Leads.after (happly.trans hremove) (leads_observeTable _)

theorem moves_removeDrained (b : Balancer α σ) (a : α) : ∃ pruned',
    Moves e ⟨b, [], [], pruned, applied⟩ ⟨b.removeDrained a, [], [], pruned', applied⟩ := by
  unfold removeDrained
  dsimp only
  split
  · exact ⟨pruned, .refl⟩
  · split
    · exact ⟨pruned, .refl⟩
    · rename_i h hf
      have hany := List.find?_some hf
      have ht := List.mem_of_find?_eq_some hf
      cases hh : b.hosts[h]? with
      | none => simp [hh] at hany
      | some host =>
        have hd : host.isDrained = true := by simp [hh] at hany; exact hany.2
        have hmove := Move.retire (e := e) (m := ⟨b, [], [], pruned, applied⟩) ht hh hd
        exact Leads.after (.head hmove (moves_closeRemoved [] pruned applied he h _))
          (leads_observeTable _)

end

/-! ### The reconciler, closing and dropping -/

omit [DecidableEq α] in
/-- A command is taken from the front of the queue, by a reconciler that is not
stopped. -/
theorem nextCommand?_eq_some {b : Balancer α σ} {c : Command α} (hc : b.nextCommand? = some c) :
    b.reconciler ≠ .stopped ∧ b.commands = c :: b.commands.tail := by
  unfold nextCommand? at hc
  split at hc
  · rename_i hl
    refine ⟨fun hs => by simp [hs] at hl, ?_⟩
    obtain ⟨cs, hcs⟩ := List.head?_eq_some_iff.mp hc
    rw [hcs]
    rfl
  · simp at hc

theorem leads_loseSubscription (hr : b.reconciler ≠ .stopped) : Leads e b b.loseSubscription := by
  unfold loseSubscription
  refine Leads.trans ?_ (leads_scheduleResubscribe _)
  exact .of_move fun _ _ _ _ => Move.lose (m := ⟨b, _, _, _, _⟩) hr

section

variable (pruned : List (Link α)) (applied : Batch α)

theorem moves_runClosing (b : Balancer α σ) (k : Nat) (he : e = .runClosing k) :
    Moves e ⟨b, [], [], pruned, applied⟩ ⟨b.runClosing k, [], [], pruned, applied⟩ := by
  unfold runClosing
  cases hk : b.closings[k]? with
  | none => exact .refl
  | some c =>
    cases hb : c.begun with
    | true =>
      simp only [hb, ↓reduceIte]
      exact .refl
    | false =>
      simp only [hb, Bool.false_eq_true, ↓reduceIte]
      exact .head (Move.beginClosing (m := ⟨b, [], [], pruned, applied⟩) he hk hb)
        (moves_closeLinks [] pruned applied [] c.links _)

variable (he : ¬ e.Dials)

include he

theorem moves_takeNotice (b : Balancer α σ) : ∃ pruned',
    Moves e ⟨b, [], [], pruned, applied⟩
      ⟨b.takeNotice, [], [], pruned', applied ++ lastEvents (b.announced .takeNotice)⟩ := by
  unfold takeNotice announced
  cases hn : b.nextNotice? with
  | none =>
    simp only [lastEvents, List.append_nil]
    exact ⟨pruned, .refl⟩
  | some notice =>
    have hr : b.reconciler ≠ .stopped := by
      unfold nextNotice? at hn
      split at hn
      · simp_all
      · simp at hn
    have htake : Leads e b { b with
        subscriptions := b.subscriptions.modify (b.subscriptions.length - 1) Subscription.take } :=
      .note rfl
    have hlose := (htake.trans (leads_loseSubscription hr)) [] [] pruned applied
    cases notice with
    | batch events =>
      obtain ⟨p, hp⟩ := htake [] [] pruned applied
      obtain ⟨q, hq⟩ := moves_applyBatch p applied he _ events
      exact ⟨q, hp.trans hq⟩
    | failed reason => simpa [lastEvents] using hlose
    | ended => simpa [lastEvents] using hlose

theorem moves_takeCommand (b : Balancer α σ) (ht : e = .takeCommand) : ∃ pruned',
    Moves e ⟨b, [], [], pruned, applied⟩ ⟨b.takeCommand, [], [], pruned', applied⟩ := by
  unfold takeCommand
  cases hn : b.nextCommand? with
  | none => exact ⟨pruned, .refl⟩
  | some command =>
    obtain ⟨hr, hc⟩ := nextCommand?_eq_some hn
    cases command with
    | resubscribe =>
      exact ⟨pruned, .single (Move.resubscribe (m := ⟨b, [], [], pruned, applied⟩) _ _ ht hr hc)⟩
    | drained a =>
      obtain ⟨p, hp⟩ := moves_removeDrained pruned applied he
        { b with commands := b.commands.tail } a
      exact ⟨p, .head (Move.heed (m := ⟨b, [], [], pruned, applied⟩) ht hr hc) hp⟩

/-- Stopping shuts the balancer for good and lets every host go. The moves
set the lifecycle at once, which nothing in between reads. -/
theorem moves_clearTable (b : Balancer α σ) (lifecycle : Lifecycle)
    (ho : b.isClosed = false) (hl : lifecycle ≠ .running) :
    Moves e ⟨b, [], [], pruned, applied⟩
      ⟨{ b.stopBackground.clearTable.1 with lifecycle }, [], b.stopBackground.clearTable.2, pruned,
        applied⟩ := by
  have hrunning : b.lifecycle = .running := by simpa [isClosed] using ho
  have hstop : b.stopBackground = { b with
      reconciler := .stopped, monitor := { pending := none, shutDown := true }
      tasks := cancelIn b.setup.aborts b.tasks b.monitor.pending } := by
    unfold stopBackground
    rw [cancelIfAny_eq]
  have hshut := Move.shut (e := e) (m := ⟨b, [], [], pruned, applied⟩) lifecycle hrunning hl
  have hclose := moves_closeHosts [] pruned applied he b.table
    { b.stopBackground with lifecycle, table := [] } []
  rw [closeHosts_lifecycle lifecycle b.table { b.stopBackground with table := [] }] at hclose
  unfold clearTable
  rw [hstop] at hclose ⊢
  exact .head hshut hclose

theorem moves_close (b : Balancer α σ) :
    Moves e ⟨b, [], [], pruned, applied⟩ ⟨b.close, [], [], pruned, applied⟩ := by
  unfold close
  cases ho : b.isClosed with
  | true => exact .refl
  | false =>
    simp only [Bool.false_eq_true, ↓reduceIte]
    generalize hl : Lifecycle.closing (b.stopBackground.clearTable.1.closeLinks
      b.stopBackground.clearTable.2).2 b.stopBackground.clearTable.2.length = lifecycle
    have hclear := moves_clearTable pruned applied he b lifecycle ho (by simp [← hl])
    have hclose := moves_closeLinks (e := e) [] pruned applied [] b.stopBackground.clearTable.2
      { b.stopBackground.clearTable.1 with lifecycle }
    rw [List.append_nil, closeLinks_lifecycle] at hclose
    exact hclear.trans hclose

theorem moves_drop (b : Balancer α σ) :
    Moves e ⟨b, [], [], pruned, applied⟩ ⟨b.drop, [], [], pruned, applied⟩ := by
  unfold drop
  cases ho : b.isClosed with
  | true => exact .refl
  | false =>
    simp only [Bool.false_eq_true, ↓reduceIte]
    exact (moves_clearTable pruned applied he b .dropped ho (by simp)).trans
      (moves_closeLater [] pruned applied _ _)

end

theorem leads_closeSettled (b : Balancer α σ) : Leads e b b.closeSettled := by
  unfold closeSettled
  split
  · rename_i hl
    exact .of_move fun _ _ _ _ => Move.settle (m := ⟨b, _, _, _, _⟩) _ hl
  · exact .refl b

/-- **Every step is a chain of moves.** It begins and ends with empty hands,
and it applies the last event of each address of the batch it takes. -/
theorem moves_step (b : Balancer α σ) (e : Event α σ) (pruned : List (Link α))
    (applied : Batch α) : ∃ pruned', Moves e ⟨b, [], [], pruned, applied⟩
      ⟨b.step e, [], [], pruned', applied ++ lastEvents (b.announced e)⟩ := by
  have hquiet {b' : Balancer α σ} (h : Leads e b b') (hann : b.announced e = []) : ∃ pruned',
      Moves e ⟨b, [], [], pruned, applied⟩
        ⟨b', [], [], pruned', applied ++ lastEvents (b.announced e)⟩ := by
    rw [hann, lastEvents, List.append_nil]
    exact h [] [] pruned applied
  have hchain {b' : Balancer α σ} {pruned' : List (Link α)}
      (h : Moves e ⟨b, [], [], pruned, applied⟩ ⟨b', [], [], pruned', applied⟩)
      (hann : b.announced e = []) : ∃ pruned', Moves e ⟨b, [], [], pruned, applied⟩
        ⟨b', [], [], pruned', applied ++ lastEvents (b.announced e)⟩ := by
    rw [hann, lastEvents, List.append_nil]
    exact ⟨pruned', h⟩
  cases e with
  | startReconciler =>
    refine hquiet ?_ rfl
    simp only [step, startReconciler]
    split
    · rename_i hr
      exact .of_move fun _ _ _ _ => Move.listen (m := ⟨b, _, _, _, _⟩) _ (by simp [hr])
    · exact .refl b
  | deliver n => exact hquiet (.note rfl) rfl
  | takeNotice => exact moves_takeNotice pruned applied id b
  | takeCommand =>
    obtain ⟨p, hp⟩ := moves_takeCommand (e := .takeCommand) pruned applied id b rfl
    exact hchain hp rfl
  | select accepts => exact hquiet (leads_select b accepts) rfl
  | dialled i outcome =>
    exact hquiet (leads_dialled i outcome rfl fun c hc => by subst hc; trivial) rfl
  | discarded i => exact hquiet (leads_discarded b i) rfl
  | startTask t => exact hquiet (leads_startTask b t) rfl
  | probed t outcome =>
    exact hquiet ((b.probe_probed t outcome).leads rfl fun c hc => by subst hc; trivial) rfl
  | probeDiscarded t => exact hquiet (leads_probeDiscarded b t) rfl
  | runClosing k => exact hchain (moves_runClosing pruned applied b k rfl) rfl
  | close => exact hchain (moves_close pruned applied id b) rfl
  | closeSettled => exact hquiet (leads_closeSettled b) rfl
  | drop => exact hchain (moves_drop pruned applied id b) rfl
  | peerCloses c =>
    exact hquiet (.of_move fun _ _ _ _ => Move.peerCloses (m := ⟨b, _, _, _, _⟩) c rfl) rfl
  | closeWillFail c =>
    exact hquiet (.of_move fun _ _ _ _ => Move.closeWillFail (m := ⟨b, _, _, _, _⟩) c rfl) rfl
  | callersChange f => exact hquiet (.note rfl) rfl

end

end Balancer
end HostRotation
