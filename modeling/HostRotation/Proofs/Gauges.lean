/-
# The gauges are kept up by hand

Two gauges are to show how many hosts the table has and how many of them are
unhealthy (`Balancer.Gauged`). Nothing computes them when they are read: an
operation that changes the table or whether a host is unhealthy records them
again. So the question for each operation is whether it leaves what the gauges
show alone (`Balancer.census`) or records them at its end; and every step does
one or the other, but for those that end the balancer (`gauged_step`).

Closing empties the table and records the gauges when the last connection is
closed. Dropping empties the table too, and records nothing: from then on the
gauges show hosts that are not there (`gauges_iff`).
-/
import HostRotation.Proofs.Selections
import Mathlib.Data.List.Induction

namespace HostRotation

variable {α σ : Type}

/-- What is read off the gauges. -/
def Metrics.gauges (m : Metrics) : Nat × Nat := (m.hosts, m.unhealthy)

namespace Balancer

/-- How many hosts the table has, and how many of them are unhealthy. -/
def census (b : Balancer α σ) : Nat × Nat :=
  (b.tableHosts.length, b.tableHosts.countP fun host => host.status = .unhealthy)

/-- The gauges show what is the case. -/
def Gauged (b : Balancer α σ) : Prop := b.metrics.gauges = b.census

/-- What the gauges show and what they are to show is as before. -/
def Unmoved (b b' : Balancer α σ) : Prop :=
  b'.metrics.gauges = b.metrics.gauges ∧ b'.census = b.census

/-- No call that closes the balancer waits for connections. -/
def IsSettled (b : Balancer α σ) : Prop := ∀ failed total, b.lifecycle ≠ .closing failed total

variable {b b' b'' : Balancer α σ}

theorem Gauged.of_unmoved (hb : Gauged b) (h : Unmoved b b') : Gauged b' :=
  h.1.trans (hb.trans h.2.symm)

theorem Unmoved.trans (h : Unmoved b b') (h' : Unmoved b' b'') : Unmoved b b'' :=
  ⟨h'.1.trans h.1, h'.2.trans h.2⟩

/-! ### What the census depends on -/

theorem census_congr (ht : b'.table = b.table)
    (hs : ∀ h : HostId, (b'.hosts[h]?).map Host.status = (b.hosts[h]?).map Host.status) :
    b'.census = b.census := by
  have hstatuses (b : Balancer α σ) : b.tableHosts.map Host.status =
      b.table.filterMap fun h => (b.hosts[h]?).map Host.status := by
    rw [tableHosts, List.map_filterMap]
  have hsame : b'.tableHosts.map Host.status = b.tableHosts.map Host.status := by
    rw [hstatuses, hstatuses, ht]
    exact congrArg (fun f => List.filterMap f b.table) (funext hs)
  have hcount (b : Balancer α σ) : b.census = ((b.tableHosts.map Host.status).length,
      (b.tableHosts.map Host.status).countP fun status => status = .unhealthy) := by
    rw [List.length_map, List.countP_map]
    rfl
  rw [hcount, hcount, hsame]

theorem census_of_empty (ht : b.table = []) : b.census = (0, 0) := by
  unfold census tableHosts
  rw [ht]
  rfl

/-- A host changes and its status does not. -/
theorem statuses_set {hosts : List (Host α (Link α))} {h : HostId} {host host' : Host α (Link α)}
    (hh : hosts[h]? = some host) (hs : host'.status = host.status) (j : HostId) :
    ((hosts.set h host')[j]?).map Host.status = (hosts[j]?).map Host.status := by
  rw [getElem?_set_eq hh]
  split
  · rename_i hj
    rw [hj, hh, Option.map_some, Option.map_some, hs]
  · rfl

/-! ### Operations -/

section

variable (b : Balancer α σ)

theorem gauged_recordHosts : Gauged b.recordHosts := by
  unfold Gauged census
  rw [List.countP_eq_length_filter]
  rfl

theorem gauged_observeTable : Gauged b.observeTable := by
  unfold observeTable
  dsimp only
  split
  · obtain ⟨_, _, _, heq⟩ := b.recordHosts.scheduleResubscribe_footprint
    rw [heq]
    exact b.gauged_recordHosts
  · exact b.gauged_recordHosts

theorem unmoved_offer (s : Selection α σ) (l : Link α) : Unmoved b (b.offer s l).1 := by
  unfold offer
  dsimp only
  split
  · exact ⟨rfl, rfl⟩
  · exact ⟨rfl, rfl⟩

/-- Scheduling an attempt changes no status. -/
theorem statuses_scheduleAttempt (h j : HostId) :
    ((b.scheduleAttempt h).hosts[j]?).map Host.status = (b.hosts[j]?).map Host.status := by
  cases hs : b.setup.health with
  | none => rw [scheduleAttempt_of_none hs]
  | some plan =>
    cases hh : b.hosts[h]? with
    | none =>
      simp only [scheduleAttempt, hs, schedule, installCheck, hh]
      rfl
    | some host =>
      by_cases hu : host.status = .unhealthy
      · have hkept := scheduleAttempt_setHost hh hs host hu
        rw [setHost_self hh] at hkept
        rw [hkept]
        refine statuses_set hh ?_ j
        rfl
      · rw [scheduleAttempt_of_ne hh hs hu]

theorem unmoved_scheduleAttempt (h : HostId) : Unmoved b (b.scheduleAttempt h) := by
  obtain ⟨_, _, _, heq⟩ := b.scheduleAttempt_footprint h
  exact ⟨by rw [heq], census_congr (by rw [heq]) (b.statuses_scheduleAttempt h)⟩

/-- A failed connect that makes its host unhealthy records the gauges; any
other leaves all statuses as they are. -/
theorem gauged_connectFailed (h : HostId) (hb : Gauged b) : Gauged (b.connectFailed h) := by
  unfold connectFailed
  dsimp only
  split
  · exact hb
  · rename_i host hh
    split
    · exact gauged_observeTable _
    · rename_i hcrossed
      refine hb.of_unmoved ⟨rfl, census_congr rfl (statuses_set hh ?_)⟩
      rw [Host.status_recordFailure, if_neg hcrossed]

end

end Balancer

open Balancer

/-! ### Turns of selections -/

section

variable {b b' : Balancer α σ} {s : Selection α σ} {r : Balancer α σ × Selection α σ}

/-- Looking around changes no status. -/
theorem Browses.statuses (hb : Browses b b') (h : HostId) :
    (b'.hosts[h]?).map Host.status = (b.hosts[h]?).map Host.status := by
  cases hh : b.hosts[h]? with
  | none => rw [hb.absent h hh]
  | some host =>
    obtain ⟨pool, hh', -⟩ := hb.host h host hh
    rw [hh']
    rfl

/-- Nor does a pass. -/
theorem Passage.statuses {pass : Pass} {rest : List HostId} (hp : Passage b s pass rest r)
    (h : HostId) : (r.1.hosts[h]?).map Host.status = (b.hosts[h]?).map Host.status := by
  cases hp with
  | @exhausted b' shown hb _ =>
    obtain ⟨_, _, _, _, heq, -⟩ := b'.endPass_footprint (s.noteShown shown) pass
    rw [heq]
    exact hb.statuses h
  | found hb => exact hb.statuses h
  | dials hb => exact hb.statuses h

theorem Browses.unmoved (hb : Browses b b') : Unmoved b b' :=
  ⟨by rw [hb.rest], census_congr (by rw [hb.rest]) hb.statuses⟩

theorem Passage.gauged {pass : Pass} {rest : List HostId} (hp : Passage b s pass rest r)
    (hb : Gauged b) : Gauged r.1 := by
  cases hp with
  | @exhausted b' shown hbrowses _ =>
    unfold Balancer.endPass
    split
    · exact b'.gauged_observeTable
    · exact hb.of_unmoved hbrowses.unmoved
  | found hbrowses => exact hb.of_unmoved hbrowses.unmoved
  | dials hbrowses => exact hb.of_unmoved hbrowses.unmoved

variable [DecidableEq α]

/-- A host that is unhealthy is restored, and the gauges are recorded; any other
keeps its status. -/
theorem gauged_poolAndOffer {h : HostId} {host : Host α (Link α)} (hh : b.hosts[h]? = some host)
    (s : Selection α σ) (l : Link α) (hb : Gauged b) : Gauged (b.poolAndOffer s h l).1 := by
  by_cases hc : host.status = .closed
  · rw [poolAndOffer_of_closed hh s l hc]
    exact hb
  by_cases hu : host.status = .unhealthy
  · rw [poolAndOffer_of_unhealthy hh s l hu]
    exact (gauged_recordHosts _).of_unmoved (unmoved_offer _ s l)
  · rw [poolAndOffer_of_ne hh s l hc hu]
    have hstatus : (host.add l).1.status = host.status := by rw [Host.status_add, if_neg hu]
    have hset : Unmoved b (b.setHost h (host.add l).1) :=
      ⟨rfl, census_congr rfl (statuses_set hh hstatus)⟩
    exact hb.of_unmoved (hset.trans (unmoved_offer _ s l))

theorem gauged_probeSucceeded {h : HostId} {host : Host α (Link α)} (hh : b.hosts[h]? = some host)
    (t : TaskId) (l : Link α) (hb : Gauged b) : Gauged (b.probeSucceeded t h host l) := by
  have hsnd := host.snd_add l
  have hstatus := Host.status_add host l
  unfold probeSucceeded
  dsimp only
  split
  · exact gauged_recordHosts _
  · rename_i host' hadd
    rw [clearCheck_setHost hh]
    refine hb.of_unmoved ⟨rfl, census_congr rfl (statuses_set hh ?_)⟩
    rw [hadd] at hsnd hstatus
    -- The host was not unhealthy, or it would have been restored.
    rw [if_neg fun hu => by simp [hu] at hsnd] at hstatus
    exact hstatus
  · exact hb

theorem gauged_probed (t : TaskId) (outcome : DialOutcome) (hb : Gauged b) :
    Gauged (b.probed t outcome) := by
  have hp := b.probe_probed t outcome
  generalize b.probed t outcome = b' at hp ⊢
  cases hp with
  | idle => exact hb
  | @reached _ _ _ connections l hp =>
    obtain ⟨_, -, -, -, hh⟩ := hp
    exact gauged_probeSucceeded (b := { b with connections }) hh t l hb
  | @missed h =>
    have hfinished : Gauged (b.modifyTask t (·.start .finished)) := hb
    exact hfinished.of_unmoved (unmoved_scheduleAttempt _ h)

theorem Turn.gauged {e : Event α σ} {i : SelectionId} (ht : Turn b e i s r) (hb : Gauged b) :
    Gauged r.1 := by
  cases ht with
  | refused | hostless | late => exact hb
  | begins _ _ hp => exact hp.gauged hb
  | @connected _ outcome _ h _ _ host b' l _ _ hh ho =>
    obtain ⟨connections, rfl⟩ := connections_of_obtain ho
    exact gauged_poolAndOffer (b := { b with connections }) hh s l hb
  | @failed _ _ _ h _ _ _ _ _ _ _ hp _ => exact hp.gauged (b.gauged_connectFailed h hb)

/-! ### Steps -/

theorem gauged_takeNotice (hb : Gauged b) : Gauged b.takeNotice := by
  unfold takeNotice
  split
  · exact hb
  · dsimp only
    split
    · unfold applyBatch
      dsimp only
      split
      · exact hb
      · exact gauged_observeTable _
    all_goals
      obtain ⟨_, _, _, hlose⟩ := loseSubscription_footprint { b with subscriptions := b.advanced }
      exact congrArg Gauged hlose ▸ hb

theorem gauged_takeCommand (hb : Gauged b) : Gauged b.takeCommand := by
  unfold takeCommand
  split
  · exact hb
  · dsimp only
    split
    · exact hb
    · unfold removeDrained
      dsimp only
      split
      · exact hb
      · split
        · exact hb
        · exact gauged_observeTable _

/-- **The gauges are kept up** by every step, but for those that change the life
of the balancer. -/
theorem gauged_step {e : Event α σ} (he : ¬ e.Ends) (hc : e ≠ .closeSettled) (hb : Gauged b) :
    Gauged (b.step e) := by
  by_cases hs : e.Selects
  · obtain heq | ⟨i, s, r, ht, hstep, -, -⟩ := turn_step (b := b) hs
    · rwa [heq]
    · rw [hstep]
      exact ht.gauged hb
  cases e with
  | select | dialled | discarded => exact absurd trivial hs
  | close | drop => exact absurd trivial he
  | closeSettled => exact absurd rfl hc
  | takeNotice => exact gauged_takeNotice hb
  | takeCommand => exact gauged_takeCommand hb
  | probed t outcome => exact gauged_probed t outcome hb
  | startReconciler =>
    simp only [step, startReconciler]
    split
    · exact hb
    · exact hb
  | startTask t =>
    obtain ⟨_, _, _, heq⟩ := b.startTask_footprint t
    exact (show b.step (.startTask t) = _ from heq) ▸ hb
  | runClosing k =>
    obtain ⟨_, _, heq⟩ := b.runClosing_footprint k
    exact (show b.step (.runClosing k) = _ from heq) ▸ hb
  | deliver | probeDiscarded | peerCloses | closeWillFail | callersChange => exact hb

/-! ### The life of the balancer -/

/-- Nothing but closing, settling and dropping changes the life of a balancer. -/
theorem lifecycle_step {e : Event α σ} (he : ¬ e.Ends) (hs : e ≠ .closeSettled) :
    (b.step e).lifecycle = b.lifecycle := by
  by_cases hsel : e.Selects
  · obtain heq | ⟨_, _, r, ht, hstep, -, -⟩ := turn_step (b := b) hsel
    · rw [heq]
    · obtain ⟨_, _, _, _, _, _, _, _, _, _, heq, -⟩ := ht.footprint
      rw [hstep, heq]
  cases e with
  | select | dialled | discarded => exact absurd trivial hsel
  | close | drop => exact absurd trivial he
  | closeSettled => exact absurd rfl hs
  | takeNotice =>
    obtain ⟨_, _, _, _, _, _, _, _, _, heq, -⟩ := b.takeNotice_footprint
    rw [show b.step .takeNotice = _ from heq]
  | takeCommand =>
    obtain ⟨_, _, _, _, _, _, _, _, _, _, heq⟩ := b.takeCommand_footprint
    rw [show b.step .takeCommand = _ from heq]
  | probed t outcome =>
    obtain ⟨_, _, _, _, _, heq, -⟩ := b.probed_footprint t outcome
    rw [show b.step (.probed t outcome) = _ from heq]
  | startTask t =>
    obtain ⟨_, _, _, heq⟩ := b.startTask_footprint t
    rw [show b.step (.startTask t) = _ from heq]
  | runClosing k =>
    obtain ⟨_, _, heq⟩ := b.runClosing_footprint k
    rw [show b.step (.runClosing k) = _ from heq]
  | startReconciler =>
    simp only [step, startReconciler]
    split
    · rfl
    · rfl
  | deliver | probeDiscarded | peerCloses | closeWillFail | callersChange => rfl

theorem step_of_ended {e : Event α σ} (he : e.Ends) (hl : b.lifecycle ≠ .running) :
    b.step e = b := by
  have hclosed : b.isClosed = true := by simpa [isClosed] using hl
  cases e with
  | close | drop => exact if_pos hclosed
  | _ => exact he.elim

omit [DecidableEq α] in
theorem closeSettled_of_settled (hs : b.IsSettled) : b.closeSettled = b := by
  unfold closeSettled
  split
  · rename_i failed total hl
    exact absurd hl (hs failed total)
  · rfl

/-- A balancer that was closed, with all connections closed, or dropped stays
so. -/
theorem lifecycle_over : ∀ (events : List (Event α σ)) (b : Balancer α σ),
    b.lifecycle ≠ .running → b.IsSettled → (b.run events).lifecycle = b.lifecycle
  | [], _, _, _ => rfl
  | e :: events, b, hl, hs => by
    have hone : (b.step e).lifecycle = b.lifecycle := by
      by_cases he : e.Ends
      · rw [step_of_ended he hl]
      by_cases hc : e = .closeSettled
      · rw [hc, show b.step .closeSettled = b from closeSettled_of_settled hs]
      · exact lifecycle_step he hc
    have hrest := lifecycle_over events (b.step e) (hone ▸ hl) (by rwa [IsSettled, hone])
    exact hrest.trans hone

/-- A step keeps the gauges right whenever no call that closes the balancer
waits, if it does not drop a table with hosts. -/
theorem settled_step {e : Event α σ} (hempty : b.lifecycle ≠ .running → b.table = [])
    (hd : e = .drop → b.lifecycle = .running → b.table = []) (hb : b.IsSettled → Gauged b) :
    (b.step e).IsSettled → Gauged (b.step e) := by
  intro hs
  by_cases he : e.Ends
  · by_cases hr : b.lifecycle = .running
    · have ho : b.isClosed = false := by simp [isClosed, hr]
      cases e with
      | close =>
        have hclosing : ∃ failed total, (b.step .close).lifecycle = .closing failed total := by
          simp only [step, Balancer.close, ho, Bool.false_eq_true, ↓reduceIte]
          exact ⟨_, _, rfl⟩
        obtain ⟨failed, total, hl⟩ := hclosing
        exact absurd hl (hs failed total)
      | drop =>
        obtain ⟨_, _, _, heq⟩ := b.drop_footprint ho
        have hgauged := hb fun failed total => by simp [hr]
        rw [Gauged, census_of_empty (hd rfl hr)] at hgauged
        rw [Gauged, show b.step .drop = _ from heq, census_of_empty rfl]
        exact hgauged
      | _ => exact he.elim
    · rw [step_of_ended he hr] at hs ⊢
      exact hb hs
  by_cases hc : e = .closeSettled
  · subst hc
    by_cases hb' : b.IsSettled
    · rw [show b.step .closeSettled = b from closeSettled_of_settled hb']
      exact hb hb'
    · obtain ⟨failed, total, hl⟩ : ∃ failed total, b.lifecycle = .closing failed total := by
        simpa [IsSettled] using hb'
      have ht : b.table = [] := hempty (by simp [hl])
      have hclosed : b.step .closeSettled =
          { b with lifecycle := .closed failed total }.recordGauges [] := by
        simp only [step, closeSettled, hl]
      have hcensus := census_of_empty
        (b := { b with lifecycle := .closed failed total }.recordGauges []) ht
      rw [hclosed]
      exact hcensus.symm
  · refine gauged_step he hc (hb ?_)
    rwa [IsSettled, ← lifecycle_step he hc]

/-! ### Every run -/

/-- As long as no table with hosts is dropped, the gauges are right whenever no
call that closes the balancer waits. -/
theorem settled_run (setup : Setup α) (tape : Tape) (callers : σ) (events : List (Event α σ)) :
    let b₀ := Balancer.start setup tape callers
    (∀ before after, events = before ++ .drop :: after →
      (b₀.run before).lifecycle = .running → (b₀.run before).table = []) →
    (b₀.run events).IsSettled → Gauged (b₀.run events) := by
  intro b₀
  induction events using List.reverseRecOn with
  | nil => exact fun _ _ => rfl
  | append_singleton events e ih =>
    intro hd
    rw [run_append]
    refine settled_step (emptied_run setup tape callers events) (fun he => ?_) (ih ?_)
    · subst he
      exact hd events [] rfl
    · rintro before after rfl
      exact hd before (after ++ [e]) (List.append_assoc ..)

omit [DecidableEq α] in
theorem table_eq_nil_of_census (ht : Tidy b.hosts b.table []) (hb : b.census = (0, 0)) :
    b.table = [] := by
  have hnone : b.tableHosts = [] := List.length_eq_zero_iff.mp (congrArg Prod.fst hb)
  refine List.eq_nil_iff_forall_not_mem.mpr fun h hm => ?_
  have hlt : h < b.hosts.length := ht.known h (List.mem_append_left _ hm)
  have habsent := List.filterMap_eq_nil_iff.mp hnone h hm
  rw [List.getElem?_eq_getElem hlt] at habsent
  simp at habsent

/-- A balancer that is running was not dropped, nor was one that a call has
closed: their gauges are right. -/
theorem gauged_run (setup : Setup α) (tape : Tape) (callers : σ) (events : List (Event α σ))
    (hl : ((Balancer.start setup tape callers).run events).lifecycle = .running ∨
      ∃ failed total, ((Balancer.start setup tape callers).run events).lifecycle =
        .closed failed total) :
    Gauged ((Balancer.start setup tape callers).run events) := by
  refine settled_run setup tape callers events ?_ ?_
  · rintro before after rfl hr
    rw [run_append] at hl
    generalize (Balancer.start setup tape callers).run before = b at hr hl
    obtain ⟨_, _, _, heq⟩ := b.drop_footprint (by simp [isClosed, hr])
    have hdropped : (b.step .drop).lifecycle = .dropped := by rw [show b.step .drop = _ from heq]
    have hend := lifecycle_over after (b.step .drop) (by simp [hdropped])
      (by simp [IsSettled, hdropped])
    rw [hdropped] at hend
    rcases hl with hl | ⟨failed, total, hl⟩
    · exact absurd (hend.symm.trans hl) (by simp)
    · exact absurd (hend.symm.trans hl) (by simp)
  · intro failed' total' hc
    rcases hl with hl | ⟨failed, total, hl⟩
    · exact absurd (hl.symm.trans hc) (by simp)
    · exact absurd (hl.symm.trans hc) (by simp)

/-- **When the gauges are right.** Take any run. They are right in all of its
states in which no call that closes the balancer waits for connections, if and
only if the run does not drop a balancer whose table has hosts. They are right
in particular as long as the balancer is neither closed nor dropped; and once a
call has closed it and returned, the table is empty and both gauges stay at
zero, whatever selections and health attempts still do. -/
theorem gauges_iff (setup : Setup α) (tape : Tape) (callers : σ) (events : List (Event α σ)) :
    let b₀ := Balancer.start setup tape callers
    let b := b₀.run events
    ((∀ n, (b₀.run (events.take n)).IsSettled → Gauged (b₀.run (events.take n))) ↔
      ∀ before after, events = before ++ .drop :: after →
        (b₀.run before).lifecycle = .running → (b₀.run before).table = []) ∧
    (b.lifecycle = .running ∨ (∃ failed total, b.lifecycle = .closed failed total) → Gauged b) ∧
    ∀ failed total, b.lifecycle = .closed failed total → ∀ later,
      (b.run later).table = [] ∧ (b.run later).metrics.gauges = (0, 0) := by
  intro b₀ b
  have hkept := gauged_run setup tape callers
  refine ⟨⟨fun hall before after heq hr => ?_, fun hd n => ?_⟩, hkept events,
    fun failed total hl later => ?_⟩
  · -- Dropping leaves the gauges as they are, and these have to be zero.
    obtain ⟨_, _, _, hdrop⟩ := (b₀.run before).drop_footprint (by simp [isClosed, hr])
    have hafter := hall (before.length + 1)
    rw [heq, List.take_length_add_append, List.take_one, List.head?_cons, Option.toList_some,
      run_append, show (b₀.run before).run [.drop] = _ from hdrop] at hafter
    have hzero : (b₀.run before).metrics.gauges = (0, 0) :=
      (hafter (by simp [IsSettled])).trans (census_of_empty rfl)
    have hbefore := hkept before (.inl hr)
    exact table_eq_nil_of_census (tidy_run setup tape callers before) (hbefore.symm.trans hzero)
  · refine settled_run setup tape callers (events.take n) fun before after heq hr => ?_
    refine hd before (after ++ events.drop n) ?_ hr
    rw [← List.cons_append, ← List.append_assoc, ← heq, List.take_append_drop]
  · have hrun : b.run later = b₀.run (events ++ later) := (run_append b₀ events later).symm
    have hclosed : (b₀.run (events ++ later)).lifecycle = .closed failed total := by
      rw [← hrun, lifecycle_over later b (by simp [hl]) (by simp [IsSettled, hl]), hl]
    have htable := emptied_run setup tape callers (events ++ later)
      fun hr => absurd (hclosed.symm.trans hr) (by simp)
    have hgauged := hkept (events ++ later) (.inr ⟨failed, total, hclosed⟩)
    rw [hrun]
    exact ⟨htable, hgauged.trans (census_of_empty htable)⟩

end

/-- A balancer with a host is dropped. -/
def droppedInUse : List (Event Nat Unit) :=
  [.startReconciler, .deliver (.batch [⟨1, .available⟩]), .takeNotice, .drop]

/-- Its table is empty, and the gauge says that there is a host. -/
theorem gauges_droppedInUse :
    ((freshBalancer true).run droppedInUse).IsSettled ∧
      ((freshBalancer true).run droppedInUse).table = [] ∧
      ((freshBalancer true).run droppedInUse).metrics.gauges = (1, 0) ∧
      ¬ Gauged ((freshBalancer true).run droppedInUse) := by
  have hdropped : ((freshBalancer true).run droppedInUse).lifecycle = .dropped := by decide
  have hgauges : ((freshBalancer true).run droppedInUse).metrics.gauges = (1, 0) := by decide
  have htable : ((freshBalancer true).run droppedInUse).table = [] := by decide
  refine ⟨by simp [IsSettled, hdropped], htable, hgauges, ?_⟩
  rw [Gauged, hgauges, census_of_empty htable]
  simp

end HostRotation
