/-
# How hosts share the selections

Over a table of active hosts, a selection has nowhere to go but to the first
host of its pass: it finds a connection there, or begins a connect there and
gets the connection that this ends with. The first host is the one the rotation
has come to, and only a selection that begins advances the rotation. So the
`i`-th selection to begin is served by the host `i` places on in cyclic order,
whatever the pools hold and in whatever order the connects end, and every host
serves its share of them (`balanced_service`).

Key definitions: `Balancer.AllActive`, `Balancer.Calm`, `Balancer.server?`,
`Assigned`.
-/
import HostRotation.Proofs.Custody
import HostRotation.Proofs.Gauges
import HostRotation.Proofs.PassStarts

namespace HostRotation

variable {α σ : Type}

/-- Whether a selection begins. -/
def Event.begins : Event α σ → Bool
  | .select _ => true
  | _ => false

namespace Balancer

/-- The balancer is open, and these hosts are in its table, all of them active. -/
structure AllActive (b : Balancer α σ) (hosts : List HostId) : Prop where
  isOpen : b.isClosed = false
  table : b.table = hosts
  active : ∀ h ∈ hosts, ∃ host, b.hosts[h]? = some host ∧ host.status = .active

/-- The connects of a selection succeed, and it accepts what they end with; and
no batch changes the table of these hosts or their being active. -/
structure Calm [DecidableEq α] (b : Balancer α σ) (hosts : List HostId) (first : SelectionId)
    (e : Event α σ) : Prop where
  goesOn : ¬ e.Ends
  batch : b.announced e ≠ [] → (b.step e).AllActive hosts
  connects : ∀ i reason, e ≠ .dialled i (.refused reason)
  /-- The selections from the first on accept each connection opened for them. -/
  accepts : ∀ i outcome s h l, first ≤ i → e = .dialled i outcome → b.selections[i]? = some s →
    b.Arrives h l e → (s.accepts l b.callers).1 = true

variable [DecidableEq α]

/-- The host that a selection got its connection from along a run: the one that
it visited last. -/
def server? (b : Balancer α σ) (i : SelectionId) (events : List (Event α σ)) : Option HostId :=
  match (b.run events).result? i with
  | some (.ok _) => (b.visited i events).getLast?.map Visit.host
  | _ => none

/-- In the step a selection returns a connection that is pooled at a host. -/
def Returns (b : Balancer α σ) (e : Event α σ) (i : SelectionId) (h : HostId) (l : Link α) :
    Prop :=
  b.result? i = none ∧ (b.step e).result? i = some (.ok l) ∧ l ∈ poolAt (b.step e).hosts h

end Balancer

open Balancer

/-! ### Active hosts stay active -/

/-- What was active still is. -/
def KeepsActive (b b' : Balancer α σ) : Prop :=
  ∀ h : HostId, (b.hosts[h]?).map Host.status = some .active →
    (b'.hosts[h]?).map Host.status = some .active

section

variable {b b' : Balancer α σ} {hosts : List HostId} {h : HostId} {host host' : Host α (Link α)}

theorem KeepsActive.set (hh : b.hosts[h]? = some host)
    (ha : host.status = .active → host'.status = .active)
    (hb : b'.hosts = b.hosts.set h host') : KeepsActive b b' := by
  intro j hj
  rw [hb, getElem?_set_eq hh]
  split
  · rename_i heq
    rw [heq, hh, Option.map_some, Option.some.injEq] at hj
    rw [Option.map_some, ha hj]
  · exact hj

theorem Balancer.AllActive.kept (hb : b.AllActive hosts) (hl : b'.lifecycle = b.lifecycle)
    (ht : b'.table = b.table) (hk : KeepsActive b b') : b'.AllActive hosts where
  isOpen := by
    rw [isClosed, hl]
    exact hb.isOpen
  table := ht.trans hb.table
  active := fun j hj =>
    Option.map_eq_some_iff.mp (hk j (Option.map_eq_some_iff.mpr (hb.active j hj)))

theorem Passage.keepsActive {s : Selection α σ} {pass : Pass} {rest : List HostId}
    {r : Balancer α σ × Selection α σ} (hp : Passage b s pass rest r) : KeepsActive b r.1 :=
  fun j hj => (hp.statuses j).trans hj

variable [DecidableEq α]

/-- A host that is active takes a connection and stays so. -/
theorem active_add (l : Link α) (ha : host.status = .active) : (host.add l).1.status = .active := by
  rw [Host.status_add, ha]
  rfl

theorem keepsActive_poolAndOffer (hh : b.hosts[h]? = some host) (s : Selection α σ)
    (l : Link α) : KeepsActive b (b.poolAndOffer s h l).1 := by
  by_cases hc : host.status = .closed
  · rw [poolAndOffer_of_closed hh s l hc]
    exact fun _ => id
  by_cases hu : host.status = .unhealthy
  · rw [poolAndOffer_of_unhealthy hh s l hu]
    obtain ⟨_, _, heq, -⟩ := Balancer.offer_footprint _ s l
    rw [heq]
    refine .set hh ?_ rfl
    exact active_add l
  · rw [poolAndOffer_of_ne hh s l hc hu]
    obtain ⟨_, _, heq, -⟩ := Balancer.offer_footprint _ s l
    rw [heq]
    exact .set hh (active_add l) rfl

theorem keepsActive_probed (t : TaskId) (outcome : DialOutcome) :
    KeepsActive b (b.probed t outcome) := by
  have hp := b.probe_probed t outcome
  generalize b.probed t outcome = b' at hp ⊢
  cases hp with
  | idle => exact fun _ => id
  | @reached _ h host connections l hp =>
    obtain ⟨_, -, -, -, hh⟩ := hp
    by_cases hc : host.status = .closed
    · rw [probeSucceeded_of_closed hc]
      exact fun _ => id
    · obtain ⟨_, heq⟩ := probeSucceeded_of_ne (b := { b with connections }) (t := t) hh hc l
      rw [heq]
      refine .set hh ?_ rfl
      exact active_add l
  | @missed h =>
    exact fun j hj => (statuses_scheduleAttempt (b.modifyTask t (·.start .finished)) h j).trans hj

/-- Nothing is removed because it is drained. -/
theorem Balancer.AllActive.removeDrained (hb : b.AllActive hosts) (a : α) :
    b.removeDrained a = b := by
  have hnone : (b.table.find? fun h =>
      (b.hosts[h]?).any fun host => host.address = a && host.isDrained) = none := by
    refine List.find?_eq_none.mpr fun h hm => ?_
    rw [hb.table] at hm
    obtain ⟨host, hh, ha⟩ := hb.active h hm
    simp [hh, Host.isDrained, ha]
  unfold Balancer.removeDrained
  simp only [hb.isOpen, Bool.false_eq_true, ↓reduceIte, hnone]

theorem Turn.keepsActive {e : Event α σ} {i : SelectionId} {s : Selection α σ}
    {r : Balancer α σ × Selection α σ} (ht : Turn b e i s r)
    (hc : ∀ j reason, e ≠ .dialled j (.refused reason)) : KeepsActive b r.1 := by
  cases ht with
  | refused | hostless | late => exact fun _ => id
  | begins _ _ hp => exact hp.keepsActive
  | @connected _ outcome _ h _ _ host b' l _ _ hh ho =>
    obtain ⟨connections, rfl⟩ := connections_of_obtain ho
    exact keepsActive_poolAndOffer (b := { b with connections }) hh s l
  | failed => exact absurd rfl (hc _ _)

theorem allActive_takeNotice (hb : b.AllActive hosts) (hn : b.announced .takeNotice = []) :
    b.takeNotice.AllActive hosts := by
  unfold takeNotice
  split
  · exact hb
  · rename_i n hnext
    dsimp only
    split
    · rename_i events
      have hnone : events = [] := by
        simpa [announced, hnext, hb.isOpen] using hn
      subst hnone
      exact hb.kept rfl rfl fun _ => id
    all_goals
      obtain ⟨_, _, _, heq⟩ := loseSubscription_footprint { b with subscriptions := b.advanced }
      exact (congrArg (AllActive · hosts) heq).mpr (hb.kept rfl rfl fun _ => id)

/-- **Active hosts stay active**, and the table keeps them. -/
theorem allActive_step {first : SelectionId} {e : Event α σ} (hb : b.AllActive hosts)
    (he : b.Calm hosts first e) : (b.step e).AllActive hosts := by
  by_cases hs : e.Selects
  · obtain heq | ⟨i, s, r, ht, hstep, -, -⟩ := turn_step (b := b) hs
    · rwa [heq]
    · obtain ⟨_, _, _, _, _, _, _, _, _, _, heq, -⟩ := ht.footprint
      refine hb.kept ?_ ?_ ?_
      · rw [hstep, heq]
      · rw [hstep, heq]
      · rw [hstep]
        exact ht.keepsActive he.connects
  cases e with
  | select | dialled | discarded => exact absurd trivial hs
  | close | drop => exact absurd trivial he.goesOn
  | takeNotice =>
    by_cases hn : b.announced .takeNotice = []
    · exact allActive_takeNotice hb hn
    · exact he.batch hn
  | takeCommand =>
    simp only [step, takeCommand]
    split
    · exact hb
    · split
      · exact hb.kept rfl rfl fun _ => id
      · have hb' : AllActive { b with commands := b.commands.tail } hosts :=
          hb.kept rfl rfl fun _ => id
        rwa [hb'.removeDrained]
  | probed t outcome =>
    obtain ⟨_, _, _, _, _, heq, -⟩ := b.probed_footprint t outcome
    refine hb.kept ?_ ?_ (keepsActive_probed t outcome)
    · rw [show b.step (.probed t outcome) = _ from heq]
    · rw [show b.step (.probed t outcome) = _ from heq]
  | closeSettled =>
    have hsettled : b.IsSettled := by
      have hr : b.lifecycle = .running := by simpa [isClosed] using hb.isOpen
      simp [IsSettled, hr]
    rwa [show b.step .closeSettled = b from closeSettled_of_settled hsettled]
  | startReconciler =>
    simp only [step, startReconciler]
    split
    · exact hb.kept rfl rfl fun _ => id
    · exact hb
  | startTask t =>
    obtain ⟨_, _, _, heq⟩ := b.startTask_footprint t
    rw [show b.step (.startTask t) = _ from heq]
    exact hb.kept rfl rfl fun _ => id
  | runClosing k =>
    obtain ⟨_, _, heq⟩ := b.runClosing_footprint k
    rw [show b.step (.runClosing k) = _ from heq]
    exact hb.kept rfl rfl fun _ => id
  | deliver | probeDiscarded | peerCloses | closeWillFail | callersChange =>
    exact hb.kept rfl rfl fun _ => id

/-! ### The rotation -/

/-- A selection that begins is one more. -/
theorem length_selections_step (e : Event α σ) :
    (b.step e).selections.length = b.selections.length + e.begins.toNat := by
  cases e with
  | select accepts =>
    obtain ⟨r, -, heq⟩ := turn_select (b := b) accepts
    rw [show b.step (.select accepts) = _ from heq]
    exact List.length_append
  | dialled i outcome =>
    obtain heq | ⟨s, r, -, -, heq⟩ := turn_dialled (b := b) i outcome
    · exact congrArg (fun b => b.selections.length) heq
    · rw [show b.step (.dialled i outcome) = _ from heq]
      exact List.length_set
  | discarded i =>
    obtain heq | ⟨s, r, -, -, heq⟩ := turn_discarded (b := b) i
    · exact congrArg (fun b => b.selections.length) heq
    · rw [show b.step (.discarded i) = _ from heq]
      exact List.length_set
  | _ => exact congrArg List.length (b.selections_step not_false)

/-- Over hosts, every selection that begins begins a pass, so it advances the
rotation. -/
theorem rotation_step (hb : b.AllActive hosts) (hne : hosts ≠ []) (e : Event α σ) :
    (b.step e).rotation = if e.begins then b.rotation.advance else b.rotation := by
  have hpos : ¬ hosts.length = 0 := fun hnone => hne (List.length_eq_zero_iff.mp hnone)
  rw [rotation_passStart]
  cases e with
  | select => simp [passStart?, Event.begins, hb.isOpen, hb.table, Rotation.start?, hpos]
  | _ => rfl

omit [DecidableEq α] in
/-- A pass begins at the host that the rotation has come to. -/
theorem itinerary_of_allActive (hb : b.AllActive hosts)
    (hh : hosts[b.rotation.counter.toNat % hosts.length]? = some h) :
    ∃ rest, b.itinerary = h :: rest := by
  have hpos : 0 < hosts.length := Nat.zero_lt_of_lt (List.getElem?_eq_some_iff.mp hh).1
  have hstart : b.rotation.start? hosts.length =
      some (b.rotation.counter.toNat % hosts.length) := if_neg (Nat.ne_of_gt hpos)
  have horder : b.itinerary = cyclicFrom (b.rotation.counter.toNat % hosts.length) hosts := by
    simp only [itinerary, hb.isOpen, hb.table, hstart, Bool.false_eq_true, ↓reduceIte]
  have hfirst := getElem?_cyclicFrom (Nat.mod_lt b.rotation.counter.toNat hpos) hpos
  rw [Nat.add_zero, Nat.mod_mod, hh, ← horder] at hfirst
  cases hi : b.itinerary with
  | nil => simp [hi] at hfirst
  | cons h' rest =>
    rw [hi] at hfirst
    obtain rfl : h' = h := by simpa using hfirst
    exact ⟨rest, rfl⟩

/-! ### A selection and its host -/

/-- A pass that comes to an active host first gets no further: it finds a
connection there, or begins a connect. -/
theorem Tour.of_active {pass : Pass} {s : Selection α σ} {rest : List HostId}
    {visits : List (Visit α σ)} {r : Balancer α σ × Selection α σ}
    (ht : Tour pass b s (h :: rest) visits r) (hh : b.hosts[h]? = some host)
    (ha : host.status = .active) : visits.map Visit.host = [h] ∧
      ((∃ pass', r.2.phase = .connecting h pass' rest) ∨
        ∃ l, r.2.result? = some (.ok l) ∧ l ∈ poolAt r.1.hosts h) := by
  cases ht with
  | passesBy hn _ =>
    have hunusable := hn host hh
    simp [Host.isUsable, ha] at hunusable
  | searches hh' hx =>
    obtain rfl := Option.some.inj (hh.symm.trans hh')
    simp [ha] at hx
  | @finds _ b' _ f _ host' _ l hh' _ hs hf =>
    obtain rfl := Option.some.inj (hh.symm.trans hh')
    obtain ⟨pool, hhost, -, hkeep⟩ := (browses_of_searchHost hs).host h host hh
    have hfound : (b.searchHost s.accepts h host.pool).2.found = some l := by rw [hs, hf]
    obtain ⟨hl, hopen, -⟩ := searchHost_found hfound
    refine ⟨rfl, .inr ⟨l, Selection.result?_finish _ _, ?_⟩⟩
    rw [poolAt_of_getElem? hhost]
    exact hkeep l hl hopen
  | dials => exact ⟨rfl, .inl ⟨_, rfl⟩⟩

/-- A selection that begins comes to the host that the rotation has come to. -/
theorem begins_at (hb : b.AllActive hosts)
    (hm : hosts[b.rotation.counter.toNat % hosts.length]? = some h)
    (accepts : Selector (Link α) σ) :
    (b.visitsIn b.selections.length (.select accepts)).map Visit.host = [h] ∧
      ((b.step (.select accepts)).dialling? b.selections.length = some h ∨
        ∃ l, b.Returns (.select accepts) b.selections.length h l) := by
  obtain ⟨rest, hi⟩ := itinerary_of_allActive hb hm
  obtain ⟨host, hh, ha⟩ := hb.active h (List.mem_of_getElem? hm)
  obtain ⟨r, ht, heq⟩ := turn_select (b := b) accepts
  have hstep : b.step (.select accepts) = { r.1 with selections := b.selections ++ [r.2] } := heq
  have hsel : (b.step (.select accepts)).selections[b.selections.length]? = some r.2 := by
    rw [hstep]
    exact List.getElem?_concat_length
  cases ht with
  | refused hc => simp [hb.isOpen] at hc
  | hostless ho hnone => simp [itinerary, ho, Rotation.start?, hnone] at hi
  | @begins _ start _ ho hs _ hw =>
    have horder : b.itinerary = cyclicFrom start b.table := by simp [itinerary, ho, hs]
    have htour := tour_walk { size := b.table.length } b.itinerary
      { b with
        rotation := b.rotation.advance
        metrics := { b.metrics with selections := b.metrics.selections + 1 } }
      { accepts }
    rw [← horder] at hw
    rw [← hw] at htour
    have hvisits : b.visitsIn b.selections.length (.select accepts) = Balancer.visits
        { b with
          rotation := b.rotation.advance
          metrics := { b.metrics with selections := b.metrics.selections + 1 } }
        accepts b.itinerary := if_pos rfl
    rw [← hvisits, hi] at htour
    obtain ⟨hvisited, ⟨pass', hp⟩ | ⟨l, hr, hl⟩⟩ := htour.of_active hh ha
    · exact ⟨hvisited, .inl (dialling?_of_connecting hsel hp)⟩
    · refine ⟨hvisited, .inr ⟨l, by simp [result?], ?_, ?_⟩⟩
      · simpa [result?, hsel] using hr
      · rw [hstep]
        exact hl

omit [DecidableEq α] in
/-- A selection returns the new connection that it accepts. -/
theorem result?_offer_of_accepts {s : Selection α σ} {l : Link α}
    (ha : (s.accepts l b.callers).1 = true) : (b.offer s l).2.result? = some (.ok l) := by
  unfold Balancer.offer
  simp only [ha, ↓reduceIte]
  exact Selection.result?_finish _ _

/-- The connect to an active host is over: it succeeded, and the selection takes
the connection. -/
theorem arrives_at {first : SelectionId} {outcome : DialOutcome} {i : SelectionId}
    {s : Selection α σ} {pass : Pass} {rest : List HostId} (hb : b.AllActive hosts)
    (he : b.Calm hosts first (.dialled i outcome)) (hfirst : first ≤ i) (hm : h ∈ hosts)
    (hi : b.selections[i]? = some s) (hp : s.phase = .connecting h pass rest) :
    ∃ l, b.Returns (.dialled i outcome) i h l := by
  obtain ⟨host, hh, ha⟩ := hb.active h hm
  obtain ⟨r, ht, heq⟩ := turn_of_connecting hi hp hh outcome
  have hstep : b.step (.dialled i outcome) =
      { r.1 with selections := b.selections.set i r.2 } := heq
  have hsel : (b.step (.dialled i outcome)).selections[i]? = some r.2 := by
    rw [hstep]
    exact List.getElem?_set_self (List.getElem?_eq_some_iff.mp hi).1
  have hnone : b.result? i = none := by simp [result?, hi, ht.unfinished]
  cases ht with
  | failed => exact absurd rfl (he.connects _ _)
  | @connected _ _ s' h' pass' rest' host' b' l hi' hp' hh' ho =>
    obtain ⟨rfl, -, -⟩ := SelectionPhase.connecting.inj (hp.symm.trans hp')
    obtain rfl := Option.some.inj (hh.symm.trans hh')
    obtain ⟨connections, rfl⟩ := connections_of_obtain ho
    have haccepts := he.accepts i outcome s h l hfirst rfl hi
      ⟨s, pass, rest, host, hi, hp, hh, by rw [ho]⟩
    have hpool := pooled_poolAndOffer (b := { b with connections }) hh s l
    have hopen : host.status ≠ .closed := by simp [ha]
    have hwell : host.status ≠ .unhealthy := by simp [ha]
    rw [if_neg hopen] at hpool
    refine ⟨l, hnone, ?_, by rwa [hstep]⟩
    have hoffer := poolAndOffer_of_ne (b := { b with connections }) hh s l hopen hwell
    simp only [result?, hsel, hoffer]
    exact result?_offer_of_accepts haccepts

/-- A selection was assigned to a host: along a run it came to this host and to
no other, and it waits for a connect there or returned a connection of its pool. -/
structure Assigned (b : Balancer α σ) (events : List (Event α σ)) (i : SelectionId) (h : HostId) :
    Prop where
  visited : (b.visited i events).map Visit.host = [h]
  served : (b.run events).dialling? i = some h ∨
    ∃ l, (b.run events).result? i = some (.ok l) ∧ ∃ before e after,
      events = before ++ e :: after ∧ (b.run before).Returns e i h l

/-- A selection that did not begin visited nobody. -/
theorem visited_of_unbegun (b : Balancer α σ) (events : List (Event α σ)) {i : SelectionId}
    (hi : (b.run events).selections.length ≤ i) : b.visited i events = [] := by
  induction events using List.reverseRecOn with
  | nil => rfl
  | append_singleton events e ih =>
    rw [run_concat, length_selections_step] at hi
    have hlt : (b.run events).selections.length ≤ i := by omega
    have hd : ¬ Due (b.run events) i e := by
      intro hd
      cases hd with
      | begins heq =>
        subst heq
        simp [Event.begins] at hi
      | dialled hs | discarded hs =>
        exact absurd (List.getElem?_eq_some_iff.mp hs).1 (Nat.not_lt.mpr hlt)
    rw [visited_concat, ih hlt, visitsIn_of_not_due hd]
    rfl

/-- The selection that begins is assigned to the host that the rotation has come
to. -/
theorem assigned_begins {events : List (Event α σ)} (hb : (b.run events).AllActive hosts)
    (hm : hosts[(b.run events).rotation.counter.toNat % hosts.length]? = some h)
    (accepts : Selector (Link α) σ) :
    Assigned b (events ++ [.select accepts]) (b.run events).selections.length h := by
  obtain ⟨hvisited, hserved⟩ := begins_at hb hm accepts
  refine ⟨?_, ?_⟩
  · rw [visited_concat, visited_of_unbegun b events (Nat.le_refl _)]
    exact hvisited
  · rw [run_concat]
    obtain hd | ⟨l, hr⟩ := hserved
    · exact .inl hd
    · exact .inr ⟨l, hr.2.1, events, _, [], rfl, hr⟩

/-- A selection keeps to the host it was assigned to. -/
theorem Assigned.step {first : SelectionId} {events : List (Event α σ)} {e : Event α σ}
    {i : SelectionId} (ha : Assigned b events i h) (hb : (b.run events).AllActive hosts)
    (he : (b.run events).Calm hosts first e) (hfirst : first ≤ i) (hm : h ∈ hosts) :
    Assigned b (events ++ [e]) i h := by
  have hvisits (hnone : (b.run events).visitsIn i e = []) :
      (b.visited i (events ++ [e])).map Visit.host = [h] := by
    rw [visited_concat, hnone, List.append_nil]
    exact ha.visited
  by_cases hd : Due (b.run events) i e
  · -- A selection that ended does not go on, so this one waited for its connect.
    obtain hdial | ⟨l, hr, -⟩ := ha.served
    · obtain ⟨s, pass, rest, hi, hp⟩ := dialling?_eq_some hdial
      cases hd with
      | begins hi' => simp [hi'] at hi
      | discarded hi' hp' =>
        obtain rfl := Option.some.inj (hi.symm.trans hi')
        simp [hp'] at hp
      | @dialled outcome =>
        obtain ⟨l, hr⟩ := arrives_at hb he hfirst hm hi hp
        refine ⟨hvisits ?_, .inr ⟨l, ?_, events, _, [], rfl, hr⟩⟩
        · cases outcome with
          | refused => exact absurd rfl (he.connects _ _)
          | opened | reopened => rfl
        · rw [run_concat]
          exact hr.2.1
    · obtain ⟨s, r, ht, -, hs, -⟩ := hd.turn
      obtain ⟨s', hi, hr⟩ := Option.bind_eq_some_iff.mp hr
      rw [hs s' hi, ht.unfinished] at hr
      simp at hr
  · refine ⟨hvisits (visitsIn_of_not_due hd), ?_⟩
    have hsame := selections_of_not_due hd
    rw [run_concat]
    refine ha.served.imp (fun hdial => ?_) ?_
    · rw [dialling?, hsame]
      exact hdial
    · rintro ⟨l, hr, before, e', after, hevents, hreturns⟩
      refine ⟨l, ?_, before, e', after ++ [e], ?_, hreturns⟩
      · rw [result?, hsame]
        exact hr
      · rw [hevents, List.append_assoc, List.cons_append]

/-- A selection that waits for its connect no more was served by the host it was
assigned to. -/
theorem Assigned.server? {events : List (Event α σ)} {i : SelectionId}
    (ha : Assigned b events i h) (hd : (b.run events).dialling? i = none) :
    b.server? i events = some h := by
  obtain hdial | ⟨l, hr, -⟩ := ha.served
  · simp [hd] at hdial
  · simp only [Balancer.server?, hr]
    rw [← List.getLast?_map, ha.visited]
    rfl

/-! ### Runs -/

/-- **Whose turn it is.** The selections that begin along a run are assigned to
the hosts in cyclic order, from the place of the counter on. -/
theorem assigned_run (hb : b.AllActive hosts) (hne : hosts ≠ []) (events : List (Event α σ))
    (hcalm : ∀ before e after, events = before ++ e :: after →
      (b.run before).Calm hosts b.selections.length e)
    (hk : b.rotation.counter.toNat + events.countP Event.begins ≤ UInt64.size) :
    (b.run events).AllActive hosts ∧
      (b.run events).rotation.counter.toNat =
        (b.rotation.counter.toNat + events.countP Event.begins) % UInt64.size ∧
      (b.run events).selections.length = b.selections.length + events.countP Event.begins ∧
      ∀ i < events.countP Event.begins, ∃ h,
        hosts[(b.rotation.counter.toNat + i) % hosts.length]? = some h ∧
          Assigned b events (b.selections.length + i) h := by
  induction events using List.reverseRecOn with
  | nil =>
    refine ⟨hb, ?_, rfl, by simp⟩
    exact (Nat.mod_eq_of_lt b.rotation.counter.toNat_lt_size).symm
  | append_singleton events e ih =>
    rw [List.countP_append, List.countP_singleton] at hk ⊢
    obtain ⟨hactive, hcounter, hlength, hassigned⟩ := ih
      (fun before e' after heq => hcalm before e' (after ++ [e]) (by simp [heq])) (by omega)
    have he := hcalm events e [] rfl
    have hkeeps {i : Nat} (hi : i < events.countP Event.begins) : ∃ h,
        hosts[(b.rotation.counter.toNat + i) % hosts.length]? = some h ∧
          Assigned b (events ++ [e]) (b.selections.length + i) h := by
      obtain ⟨h, hm, ha⟩ := hassigned i hi
      exact ⟨h, hm, ha.step hactive he (Nat.le_add_right _ _) (List.mem_of_getElem? hm)⟩
    rw [run_concat]
    refine ⟨allActive_step hactive he, ?_, ?_, fun i hi => ?_⟩
    · cases hbegins : e.begins with
      | false => simp [rotation_step hactive hne, hbegins, hcounter]
      | true =>
        simp only [rotation_step hactive hne, hbegins, ↓reduceIte]
        rw [Rotation.advance, UInt64.toNat_add, hcounter]
        exact Nat.mod_add_mod _ _ _
    · rw [length_selections_step, hlength]
      cases e.begins <;> rfl
    · by_cases hlt : i < events.countP Event.begins
      · exact hkeeps hlt
      cases e with
      | select accepts =>
        have hlast : i = events.countP Event.begins := by
          simp only [Event.begins, ↓reduceIte] at hi
          omega
        have hcount : (b.run events).rotation.counter.toNat =
            b.rotation.counter.toNat + events.countP Event.begins := by
          rw [hcounter]
          simp only [Event.begins, ↓reduceIte] at hk
          exact Nat.mod_eq_of_lt (by omega)
        have hpos : 0 < hosts.length := List.length_pos_iff.mpr hne
        have hm := List.getElem?_eq_getElem
          (Nat.mod_lt (b.rotation.counter.toNat + events.countP Event.begins) hpos)
        subst hlast
        refine ⟨_, hm, ?_⟩
        rw [← hcount] at hm ⊢
        rw [← hlength]
        exact assigned_begins hactive hm accepts
      | _ => exact absurd hi hlt

/-- **Balanced service.** Over a table of active hosts that no event changes, and
while every connect succeeds, the selections that begin along a run are served
by the hosts in cyclic order, from the place of the counter on: each comes to
its host and to no other, and returns a connection of that host's pool, found or
new. When all have ended, every host has served the same number, or one more. -/
theorem balanced_service (b : Balancer α σ) (hosts : List HostId) (events : List (Event α σ))
    (hb : b.AllActive hosts) (hne : hosts ≠ []) (hn : hosts.Nodup)
    (hcalm : ∀ before e after, events = before ++ e :: after →
      (b.run before).Calm hosts b.selections.length e)
    (hk : b.rotation.counter.toNat + events.countP Event.begins ≤ UInt64.size) :
    let k := b.rotation.counter.toNat
    let n := events.countP Event.begins
    let first := b.selections.length
    (b.run events).selections.length = first + n ∧
      (∀ i < n, ∃ h, hosts[(k + i) % hosts.length]? = some h ∧ Assigned b events (first + i) h ∧
        ((b.run events).dialling? (first + i) = none → b.server? (first + i) events = some h)) ∧
      ((∀ i < n, (b.run events).dialling? (first + i) = none) → ∀ h ∈ hosts,
        Nat.count (fun i => b.server? (first + i) events = some h) n = n / hosts.length ∨
          Nat.count (fun i => b.server? (first + i) events = some h) n =
            (n + hosts.length - 1) / hosts.length) := by
  intro k n first
  obtain ⟨-, -, hlength, hassigned⟩ := assigned_run hb hne events hcalm hk
  refine ⟨hlength, fun i hi => ?_, fun hended h hm => ?_⟩
  · obtain ⟨h, hm, ha⟩ := hassigned i hi
    exact ⟨h, hm, ha, ha.server?⟩
  · obtain ⟨p, hp, hget⟩ := List.getElem_of_mem hm
    have hserver {i : Nat} (hi : i < n) :
        b.server? (first + i) events = some h ↔ (k + i) % hosts.length = p := by
      obtain ⟨h', hm', ha⟩ := hassigned i hi
      obtain ⟨hlt, hget'⟩ := List.getElem?_eq_some_iff.mp hm'
      rw [ha.server? (hended i hi), Option.some.injEq, ← hget, ← hget', hn.getElem_inj_iff]
    have hcount : Nat.count (fun i => b.server? (first + i) events = some h) n =
        Nat.count (fun i => (k + i) % hosts.length = p) n :=
      le_antisymm (Nat.count_mono_left fun i hi => (hserver hi).mp)
        (Nat.count_mono_left fun i hi => (hserver hi).mpr)
    rw [hcount]
    exact count_cyclic hp k n

end

/-- Two selections begin before the connect of the first is over, the second is
served first, and a third finds the connection of the first. -/
def crossing : List (Event Nat Unit) :=
  [.select (.pure fun _ => true), .select (.pure fun _ => true), .dialled 1 .opened,
    .dialled 0 .opened, .select (.pure fun _ => true)]

theorem balanced_service_crossing :
    ((freshBalancer true).run twoHosts).AllActive [0, 1] ∧
      (∀ before e after, crossing = before ++ e :: after →
        (((freshBalancer true).run twoHosts).run before).Calm [0, 1] 0 e) ∧
      ((freshBalancer true).run twoHosts).rotation.counter.toNat + crossing.countP Event.begins ≤
        UInt64.size ∧
      (List.range 3).map (((freshBalancer true).run twoHosts).server? · crossing) =
        [some 0, some 1, some 0] ∧
      ∀ h ∈ [0, 1], Nat.count
        (fun i => ((freshBalancer true).run twoHosts).server? (0 + i) crossing = some h) 3 = 3 / 2 ∨
        Nat.count
          (fun i => ((freshBalancer true).run twoHosts).server? (0 + i) crossing = some h) 3 =
          (3 + 2 - 1) / 2 := by
  have hb : ((freshBalancer true).run twoHosts).AllActive [0, 1] :=
    ⟨by decide, by decide, by decide +kernel⟩
  have hcalm : ∀ before e after, crossing = before ++ e :: after →
      (((freshBalancer true).run twoHosts).run before).Calm [0, 1] 0 e := by
    have hselect (b : Balancer Nat Unit) (accepts : Selector (Link Nat) Unit) :
        b.Calm [0, 1] 0 (.select accepts) := ⟨not_false, fun hn => absurd rfl hn, nofun, nofun⟩
    have hdialled (b : Balancer Nat Unit) (i : SelectionId)
        (hi : (b.selections[i]?).map Selection.accepts = some (.pure fun _ => true)) :
        b.Calm [0, 1] 0 (.dialled i .opened) := by
      refine ⟨not_false, fun hn => absurd rfl hn, nofun, fun j outcome s h l _ he hs _ => ?_⟩
      obtain ⟨rfl, -⟩ := Event.dialled.inj he
      rw [hs, Option.map_some, Option.some.injEq] at hi
      rw [hi]
      rfl
    intro before e after heq
    rcases before with _ | ⟨_, _ | ⟨_, _ | ⟨_, _ | ⟨_, _ | ⟨_, before⟩⟩⟩⟩⟩
    all_goals
      simp only [crossing, List.nil_append, List.cons_append, List.cons.injEq, List.nil_eq,
        List.append_eq_nil_iff, reduceCtorEq, and_false] at heq
    · obtain ⟨rfl, -⟩ := heq
      exact hselect _ _
    · obtain ⟨rfl, rfl, -⟩ := heq
      exact hselect _ _
    · obtain ⟨rfl, rfl, rfl, -⟩ := heq
      exact hdialled _ _ rfl
    · obtain ⟨rfl, rfl, rfl, rfl, -⟩ := heq
      exact hdialled _ _ rfl
    · obtain ⟨rfl, rfl, rfl, rfl, rfl, -⟩ := heq
      exact hselect _ _
  have hk : ((freshBalancer true).run twoHosts).rotation.counter.toNat +
      crossing.countP Event.begins ≤ UInt64.size := by decide
  refine ⟨hb, hcalm, hk, by decide +kernel, ?_⟩
  exact (balanced_service _ [0, 1] crossing hb (by decide) (by decide) hcalm hk).2.2
    (by decide +kernel)

end HostRotation
