/-
# Closed is final

Whatever was in flight when a balancer is closed, nothing comes of it
(`closed_is_final`): no connect and no subscription begins, no selection
returns a connection, and each connection that still arrives is closed in the
same step. Since everything pooled was handed over before, and only known
connections were (`known_run`), the balancer closes such a connection at no
other time.

A selection whose connection arrives too late closes it and then fails
(`Selection.Spurned`).
-/
import HostRotation.Proofs.Epilogue
import HostRotation.Proofs.Watch
import Mathlib.Data.List.Induction

namespace HostRotation

variable {α σ : Type}

/-! ### Connections that are known -/

/-- Every connection that is pooled, in the hands of a step, or handed over
for closing exists. -/
structure Known (hosts : List (Host α (Link α))) (inHand : List (Link α))
    (closings : List (Closing α)) (connections : List (Connection α)) : Prop where
  pooled : ∀ h, ∀ l ∈ poolAt hosts h, l.id < connections.length
  inHand : ∀ l ∈ inHand, l.id < connections.length
  closing : ∀ k ∈ closings, ∀ l ∈ k.links, l.id < connections.length

section

variable [DecidableEq α] {e : Event α σ} {m m' : Moment α σ}

theorem known_move (hmove : Move e m m')
    (hk : Known m.hosts m.inHand m.closings m.connections) :
    Known m'.hosts m'.inHand m'.closings m'.connections := by
  have hgrow := (linkChange_move hmove).length
  have hpool : ∀ h, ∀ l ∈ poolAt m'.hosts h, l.id < m'.connections.length := by
    intro h l hl
    refine Nat.lt_of_lt_of_le ?_ hgrow
    rcases (poolChange_move hmove).enters h l hl with hl | ⟨-, hl⟩
    · exact hk.pooled h l hl
    · exact hk.inHand l hl
  have hhand : ∀ l ∈ m.inHand, l.id < m'.connections.length := fun l hl =>
    Nat.lt_of_lt_of_le (hk.inHand l hl) hgrow
  have hclosing : ∀ k ∈ m.closings, ∀ l ∈ k.links, l.id < m'.connections.length :=
    fun k hmem l hl => Nat.lt_of_lt_of_le (hk.closing k hmem l hl) hgrow
  cases hmove with
  | note | listen | lose | resubscribe | heed | shut | settle | arm | fire | attempt =>
    exact ⟨hpool, hhand, hclosing⟩
  | skip | discard | discarded | retry | giveUp | unplanned | prune | fail | fallSick =>
    exact ⟨hpool, hhand, hclosing⟩
  | appear | reannounce | revive | expire | expireOut | withdraw | ignore | retire | closeNone =>
    exact ⟨hpool, hhand, hclosing⟩
  | peerCloses | closeWillFail => exact ⟨hpool, hhand, hclosing⟩
  | reach _ _ _ _ _ _ _ hl =>
    exact ⟨hpool, fun l hmem => hhand l (hl ▸ List.mem_cons_of_mem _ hmem), hclosing⟩
  | welcome _ _ _ hl =>
    exact ⟨hpool, fun l hmem => hhand l (hl ▸ List.mem_cons_of_mem _ hmem), hclosing⟩
  | pool _ _ _ _ hl =>
    exact ⟨hpool, fun l hmem => hhand l (hl ▸ List.mem_cons_of_mem _ hmem), hclosing⟩
  | closeLink hl =>
    exact ⟨hpool, fun l hmem => hhand l (hl ▸ List.mem_cons_of_mem _ hmem), hclosing⟩
  | closeHost _ _ hh =>
    refine ⟨hpool, fun l hmem => ?_, hclosing⟩
    rcases List.mem_append.mp hmem with hmem | hmem
    · exact hhand l hmem
    · exact hk.pooled _ l (by rw [poolAt_of_getElem? hh]; exact Host.mem_of_mem_close hmem)
  | opens a =>
    refine ⟨hpool, fun l hmem => ?_, hclosing⟩
    rcases List.mem_cons.mp hmem with rfl | hmem
    · simp
    · exact hhand l hmem
  | reopen l _ hl =>
    refine ⟨hpool, fun l' hmem => ?_, hclosing⟩
    rcases List.mem_cons.mp hmem with rfl | hmem
    · exact hl
    · exact hhand l' hmem
  | handOver =>
    refine ⟨hpool, by simp, fun k hmem => ?_⟩
    rcases List.mem_append.mp hmem with hmem | hmem
    · exact hclosing k hmem
    · obtain rfl := List.mem_singleton.mp hmem
      exact hhand
  | @beginClosing k c _ hk' =>
    have hlinks := hclosing c (List.mem_of_getElem? hk')
    refine ⟨hpool, fun l hmem => ?_, fun c' hmem => ?_⟩
    · rcases List.mem_append.mp hmem with hmem | hmem
      · exact hlinks l hmem
      · exact hhand l hmem
    · rcases List.mem_or_eq_of_mem_set hmem with hmem | rfl
      · exact hclosing c' hmem
      · exact hlinks

theorem known_run (setup : Setup α) (tape : Tape) (callers : σ) (events : List (Event α σ)) :
    let b := (Balancer.start setup tape callers).run events
    Known b.hosts [] b.closings b.connections := by
  obtain ⟨_, hk⟩ := Balancer.run_keeps
    (I := fun m => Known m.hosts m.inHand m.closings m.connections) events
    (fun _ _ _ _ hmove => known_move hmove) (Balancer.start setup tape callers) [] []
    ⟨by simp [Balancer.start, poolAt], by simp, by simp [Balancer.start]⟩
  exact hk

/-! ### Selections whose connection comes too late -/

/-- How a selection ends whose connection came too late. -/
def tooLate (target : String) : BalancerError := .connectionRejected target .hostRemoved none

/-- The connection of a selection came too late: it is being closed, or the
selection failed. -/
def Selection.Spurned (target : String) (s : Selection α σ) : Prop :=
  s.phase = .discarding ∨ s.phase = .done (.error (tooLate target))

variable {b : Balancer α σ} {i : SelectionId} {s : Selection α σ}

/-- It goes on like this. -/
theorem spurned_step (hi : b.selections[i]? = some s) (hs : s.Spurned b.setup.target)
    (e : Event α σ) :
    ∃ s', (b.step e).selections[i]? = some s' ∧ s'.Spurned b.setup.target := by
  obtain hsame | ⟨s₀, r, ht, -, heq, hr⟩ := selection_step b e i
  · exact ⟨s, hsame.trans hi, hs⟩
  · obtain rfl := heq s hi
    refine ⟨r.2, hr, ?_⟩
    cases ht with
    | refused | hostless | begins => simp [Selection.Spurned] at hs
    | connected _ hp | failed _ hp => simp [Selection.Spurned, hp] at hs
    | late => exact .inr rfl

theorem spurned_run : ∀ (events : List (Event α σ)) {b : Balancer α σ} {s : Selection α σ},
    b.selections[i]? = some s → s.Spurned b.setup.target →
    ∃ s', (b.run events).selections[i]? = some s' ∧ s'.Spurned b.setup.target
  | [], _, s, hi, hs => ⟨s, hi, hs⟩
  | e :: events, b, s, hi, hs => by
    obtain ⟨s₁, hi₁, hs₁⟩ := spurned_step hi hs e
    have hsetup : (b.step e).setup = b.setup := Balancer.setup_run b [e]
    rw [← hsetup] at hs₁ ⊢
    exact spurned_run events hi₁ hs₁

/-- When the connection is closed, the selection has failed. -/
theorem result?_discarded (hi : b.selections[i]? = some s) (hs : s.Spurned b.setup.target) :
    (b.step (.discarded i)).result? i = some (.error (tooLate b.setup.target)) := by
  have hlt := (List.getElem?_eq_some_iff.mp hi).1
  simp only [Balancer.step, Balancer.discarded, hi]
  rcases hs with hp | hp
  · simp [hp, Balancer.reject, Balancer.result?, hlt, Selection.result?_finish, tooLate]
  · simp [hp, Balancer.result?, hi, Selection.result?]

/-- Such a selection returns nothing or fails, whatever happens in between. -/
theorem spurned_fails (hi : b.selections[i]? = some s) (hs : s.Spurned b.setup.target)
    (more : List (Event α σ)) :
    let failed : Except BalancerError (Link α) := .error (tooLate b.setup.target)
    ((b.run more).result? i = none ∨ (b.run more).result? i = some failed) ∧
      ((b.run more).step (.discarded i)).result? i = some failed := by
  intro failed
  obtain ⟨s', hi', hs'⟩ := spurned_run more hi hs
  rw [← Balancer.setup_run b more] at hs'
  have hdiscarded := result?_discarded hi' hs'
  rw [Balancer.setup_run b more] at hs' hdiscarded
  refine ⟨?_, hdiscarded⟩
  rcases hs' with hp | hp
  · exact .inl (by simp [Balancer.result?, hi', Selection.result?, hp])
  · exact .inr (by simp [Balancer.result?, hi', Selection.result?, hp, failed])

/-- The connection that arrives for a selection comes too late. -/
theorem Epilogue.spurned {b' : Balancer α σ} {outcome : DialOutcome} {h : HostId} {l : Link α}
    (he : Epilogue b (.dialled i outcome) b') (ha : b.Arrives h l (.dialled i outcome)) :
    ∃ s, b'.selections[i]? = some s ∧ s.Spurned b.setup.target := by
  cases he with
  | passes hn | fails hn => exact absurd ha (hn h l)
  | spurns hi =>
    exact ⟨_, List.getElem?_set_self (List.getElem?_eq_some_iff.mp hi).1, .inl rfl⟩

/-! ### The call that closes -/

/-- The call that closes the balancer begins nothing itself. -/
theorem close_begins_nothing (b : Balancer α σ) :
    (b.step .close).attempts = b.attempts ∧ (b.step .close).subscriptions = b.subscriptions ∧
      (b.step .close).tasks.length = b.tasks.length := by
  have horders : (b.step .close).tasks.map Task.order = b.tasks.map Task.order := orders_close b
  have htasks : (b.step .close).tasks.length = b.tasks.length := by
    simpa using congrArg List.length horders
  obtain ⟨-, heq⟩ | ⟨_, _, _, _, _, heq, -⟩ := b.ends_footprint (e := .close) trivial
  · exact ⟨by rw [heq], by rw [heq], htasks⟩
  · exact ⟨by rw [heq], by rw [heq], htasks⟩

/-! ### Every run -/

/-- What stays as it was when the balancer was shut at `b₁`. -/
structure Still (b₁ b : Balancer α σ) : Prop where
  hosts : b.hosts = b₁.hosts
  attempts : b.attempts = b₁.attempts
  subscriptions : b.subscriptions.length = b₁.subscriptions.length
  results : ∀ i l, b.result? i = some (.ok l) → b₁.result? i = some (.ok l)
  closings : ∀ k ∈ b.closings, ∀ l ∈ k.links, l.id < b₁.connections.length

theorem Still.step {b₁ b' : Balancer α σ} (hs : Still b₁ b) {e : Event α σ}
    (he : Epilogue b e b') : Still b₁ b' := by
  obtain ⟨hhosts, -, -, hattempts, hsubscriptions⟩ := he.frame
  refine ⟨hhosts.trans hs.hosts, hattempts.trans hs.attempts,
    hsubscriptions.trans hs.subscriptions, fun i l hr => hs.results i l (he.result hr),
    fun k' hmem l hl => ?_⟩
  obtain ⟨k, hk, hlinks⟩ := he.closings k' hmem
  exact hs.closings k hk l (hlinks ▸ hl)

/-- A connection that arrives since is closed once, if no connect returns it
again. -/
theorem Still.once {b₁ b' : Balancer α σ} (hs : Still b₁ b) {e : Event α σ}
    (he : Epilogue b e b') (hn : ¬ e.Reopens) {c : ConnId} (hc : b₁.connections.length ≤ c)
    (honce : c < b.connections.length → closeCalls c b.connections = 1)
    (hc' : c < b'.connections.length) : closeCalls c b'.connections = 1 := by
  by_cases harrives : ∃ h l, b.Arrives h l e ∧ l.id = c
  · obtain ⟨h, l, ha, rfl⟩ := harrives
    have hnone : closeCalls l.id b.connections = 0 := by
      simp [closeCalls, ha.fresh hn]
    rw [he.arrival ha, if_pos rfl, hnone]
  · have hlt : c < b.connections.length := Nat.lt_of_not_le fun hge =>
      harrives (he.new hn hge hc')
    rw [he.others (fun h l ha hid => harrives ⟨h, l, ha, hid⟩) fun k hk l hl =>
      Nat.ne_of_lt (Nat.lt_of_lt_of_le (hs.closings k hk l hl) hc)]
    exact honce hlt

/-- **Closed is final, whatever was in flight.** Take any run, a call that
closes the balancer, any run after it, and one step more. The table is empty
and stays so, and each of its hosts is there still, closed and with nothing
pooled. No connect and no subscription has begun since the call. A connection
that arrives in the step is closed by the step, once, and the balancer closes
no connection that is new since the call at any other time; so a connection
that no connect returned before or again is closed once. The selection that
opened it never returns anything but an error, and does when the connection is
closed. No selection returned a connection since the call; one that begins is
refused and changes nothing else. A task scheduled since is cancelled in the
step that schedules it. Closing once more changes nothing and succeeds. -/
theorem closed_is_final (setup : Setup α) (tape : Tape) (callers : σ)
    (before after : List (Event α σ)) (e : Event α σ) :
    let b₀ := (Balancer.start setup tape callers).run before
    let b₁ := b₀.step .close
    let b := b₁.run after
    let b' := b.step e
    let failed : Except BalancerError (Link α) := .error (tooLate setup.target)
    (b.table = [] ∧ b.hosts = b₁.hosts ∧ (∀ h ∈ b₀.table, h < b.hosts.length) ∧
      ∀ host ∈ b.hosts, host.status = .closed ∧ host.pool = []) ∧
    (b.attempts = b₀.attempts ∧ b.subscriptions.length = b₀.subscriptions.length) ∧
    (∀ h l, b.Arrives h l e →
      (∀ c, closeCalls c b'.connections =
        closeCalls c b.connections + if l.id = c then 1 else 0) ∧
      ∀ i outcome, e = .dialled i outcome → ∀ more,
        ((b'.run more).result? i = none ∨ (b'.run more).result? i = some failed) ∧
        ((b'.run more).step (.discarded i)).result? i = some failed) ∧
    (∀ c, b₁.connections.length ≤ c →
      ((∀ h l, b.Arrives h l e → l.id ≠ c) →
        closeCalls c b'.connections = closeCalls c b.connections) ∧
      (c < b.connections.length → (∀ e' ∈ after, ¬ e'.Reopens) →
        closeCalls c b.connections = 1)) ∧
    (∀ i l, b.result? i = some (.ok l) → b₀.result? i = some (.ok l)) ∧
    (∀ accepts, b.step (.select accepts) = { b with
      selections := b.selections ++
        [{ accepts, phase := .done (.error (.closed setup.target)) }] }) ∧
    (b₁.tasks.length = b₀.tasks.length ∧
      ∀ (t : TaskId) (task : Task), b.tasks.length ≤ t → b'.tasks[t]? = some task →
        task.cancelled = true) ∧
    b.step .close = b ∧ b.closeAtOnce? = some (.ok ()) := by
  intro b₀ b₁ b b' failed
  have hb₁ : b₁ = (Balancer.start setup tape callers).run (before ++ [.close]) :=
    (Balancer.run_append (Balancer.start setup tape callers) before [.close]).symm
  have hshut₁ : Shut b₁ := by
    rw [hb₁]
    exact shut_run setup tape callers _ (hb₁ ▸ b₀.lifecycle_ends trivial)
  have hknown : Known b₁.hosts [] b₁.closings b₁.connections :=
    hb₁ ▸ known_run setup tape callers (before ++ [.close])
  have hstart : Still b₁ b₁ := ⟨rfl, rfl, rfl, fun _ _ => id, hknown.closing⟩
  obtain ⟨hshut, hstill⟩ : Shut b ∧ Still b₁ b :=
    epilogue_run after (fun _ _ _ _ _ he hs => hs.step he) b₁ hshut₁ hstart
  have hstep : Epilogue b e b' := epilogue_step hshut e
  have hsetup : b.setup = setup := by
    rw [Balancer.setup_run b₁ after, hb₁, Balancer.setup_run]
    rfl
  obtain ⟨hattempts, hsubscriptions, htasks⟩ := close_begins_nothing b₀
  refine ⟨⟨hshut.table, hstill.hosts, fun h hm => ?_, fun host hmem => ?_⟩,
    ⟨hstill.attempts.trans hattempts, by rw [hstill.subscriptions, hsubscriptions]⟩,
    fun h l ha => ⟨hstep.arrival ha, ?_⟩, fun c hc => ⟨fun hn => ?_, fun hlt hn => ?_⟩,
    fun i l hr => ?_, fun accepts => ?_, ⟨htasks, fun t task => hstep.cancelled⟩, ?_, ?_⟩
  · have hlt : h < b₀.hosts.length :=
      (tidy_run setup tape callers before).known h (List.mem_append_left _ hm)
    rw [hstill.hosts]
    exact Nat.lt_of_lt_of_le hlt (extends_run b₀ [.close]).length_le
  · obtain ⟨h, hh⟩ := List.getElem?_of_mem hmem
    exact ⟨hshut.closed h host hh, hshut.empty h host hh⟩
  · rintro i outcome rfl more
    obtain ⟨s, hi, hs⟩ := hstep.spurned ha
    have hsetup' : b'.setup = b.setup := Balancer.setup_run b [.dialled i outcome]
    rw [← hsetup'] at hs
    simpa only [hsetup', hsetup] using spurned_fails hi hs more
  · exact hstep.others hn fun k hk l hl =>
      Nat.ne_of_lt (Nat.lt_of_lt_of_le (hstill.closings k hk l hl) hc)
  · obtain ⟨-, -, honce⟩ := epilogue_run
      (P := fun b => Still b₁ b ∧ (c < b.connections.length → closeCalls c b.connections = 1)) after
      (fun e' he' _ _ _ he hs => ⟨hs.1.step he, hs.1.once he (hn e' he') hc hs.2⟩) b₁ hshut₁
      ⟨hstart, fun hlt' => absurd hc (Nat.not_le.mpr hlt')⟩
    exact honce hlt
  · have hselections : b₁.selections = b₀.selections := Balancer.selections_step b₀ (e := .close) id
    have hr₁ := hstill.results i l hr
    rwa [Balancer.result?, hselections] at hr₁
  · simp only [Balancer.step, Balancer.select, hshut.isClosed, hsetup]
    rfl
  · exact if_pos hshut.isClosed
  · exact if_pos hshut.isClosed

end

/-- A connect fails and makes its host unhealthy; the selection goes on to the
other host, and the attempt at the first one hangs in its connect. -/
def inFlight : List (Event Nat Unit) :=
  [.startReconciler, .deliver (.batch [⟨1, .available⟩, ⟨2, .available⟩]), .takeNotice,
    .select (.pure fun _ => true), .dialled 0 (.refused "down"), .startTask 0]

/-- After the call, first the attempt obtains a connection and then the
selection. -/
theorem closed_is_final_inFlight :
    let b := (((freshBalancer false).run inFlight).step .close).run [.probed 0 .opened]
    let b' := b.step (.dialled 0 .opened)
    b.Arrives 1 ⟨1, 2⟩ (.dialled 0 .opened) ∧ closeCalls 0 b'.connections = 1 ∧
      closeCalls 1 b'.connections = 1 ∧
      (b'.step (.discarded 0)).result? 0 = some (.error (tooLate "service")) := by
  intro b b'
  have harrives : b.Arrives 1 ⟨1, 2⟩ (.dialled 0 .opened) := ⟨_, _, _, _, rfl, rfl, rfl, rfl⟩
  obtain ⟨-, -, harrival, hnew, -⟩ := closed_is_final (plainSetup false) (.ofSeed 0) () inFlight
    [.probed 0 .opened] (.dialled 0 .opened)
  obtain ⟨hcalls, hfails⟩ := harrival 1 ⟨1, 2⟩ harrives
  have hone : closeCalls 0 b.connections = 1 :=
    (hnew 0 (Nat.zero_le _)).2 (by decide) (by simp [Event.Reopens])
  refine ⟨harrives, (hcalls 0).trans hone, hcalls 1, ?_⟩
  exact (hfails 0 .opened rfl []).2

end HostRotation
