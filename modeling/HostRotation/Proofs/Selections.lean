/-
# What selections return

A selection holds on to the hosts it found in the table when it began, and
they may leave the table, expire or fall sick while it waits. Still, whatever
it returns is pooled, in the state in which it returns, at a host of the table
that is active or expired, and its selector accepted it just then
(`selection_sound`). The reason is that it never trusts what it knew: a search
looks at the status a host has now, a connection just opened is pooled only if
the host is not closed, and a host that is not closed is in the table
(`Tidy`).
-/
import HostRotation.Proofs.Passes
import HostRotation.Proofs.Table

namespace HostRotation

variable {α σ : Type}

namespace Balancer

/-- The result of a selection that ended. -/
def result? (b : Balancer α σ) (i : SelectionId) : Option (Except BalancerError (Link α)) :=
  b.selections[i]? >>= Selection.result?

/-- What a selection showed its selector so far, with the answers. -/
def shownBy (b : Balancer α σ) (i : SelectionId) : List (Link α × Bool) :=
  ((b.selections[i]?).map Selection.shown).getD []

/-- The connection with which an event ends a connect to a host. -/
def Arrives (b : Balancer α σ) (h : HostId) (l : Link α) : Event α σ → Prop
  | .dialled i outcome =>
    ∃ s pass rest host, b.selections[i]? = some s ∧ s.phase = .connecting h pass rest ∧
      b.hosts[h]? = some host ∧ (b.obtain host.address outcome).2 = .ok l
  | .probed t outcome =>
    ∃ task host, b.tasks[t]? = some task ∧ task.kind = .health h ∧ task.phase = .connecting ∧
      b.hosts[h]? = some host ∧ (b.obtain host.address outcome).2 = .ok l
  | _ => False

end Balancer

/-- A connection is handed out as it should be: it is pooled at a host that
may be used, and its selection, which had shown `before`, was accepted it last
of all. -/
structure Grants (b : Balancer α σ) (s : Selection α σ) (before : List (Link α × Bool))
    (h : HostId) (l : Link α) : Prop where
  pooled : ∃ host, b.hosts[h]? = some host ∧
    (host.status = .active ∨ host.status = .expired) ∧ l ∈ host.pool
  accepted : ∃ known, s.accepts l known = (true, b.callers)
  shown : ∃ more, s.shown = before ++ more ++ [(l, true)]

theorem Host.usable_iff {κ : Type} {host : Host α κ} :
    host.isUsable = true ↔ host.status = .active ∨ host.status = .expired := by
  simp [Host.isUsable]

/-! ### What ends a selection -/

theorem Selection.result?_finish (s : Selection α σ) (r : Except BalancerError (Link α)) :
    (s.finish r).result? = some r := rfl

theorem Selection.result?_eq_some {s : Selection α σ} {r : Except BalancerError (Link α)} :
    s.result? = some r ↔ s.phase = .done r := by
  unfold Selection.result?
  cases s.phase with
  | done r' => simp
  | walking | connecting | discarding => simp

section

variable {b : Balancer α σ} {s : Selection α σ} {pass : Pass} {rest : List HostId}
  {r : Balancer α σ × Selection α σ} {l : Link α}

/-- How the end of a pass is put. -/
theorem endPass_result (b : Balancer α σ) (s : Selection α σ) (pass : Pass) :
    ∃ err, (b.endPass s pass).2 = s.finish (.error err) := by
  unfold Balancer.endPass
  split
  · exact ⟨_, rfl⟩
  · exact ⟨_, rfl⟩

/-- A pass that returns a connection found it. -/
theorem Passage.grants (hp : Passage b s pass rest r)
    (hr : r.2.result? = some (.ok l)) :
    ∃ h ∈ rest, Grants r.1 r.2 s.shown h l ∧ r.1.linkClosed l = false := by
  cases hp with
  | @exhausted b' shown _ _ =>
    obtain ⟨err, hend⟩ := endPass_result b' (s.noteShown shown) pass
    rw [hend, Selection.result?_finish] at hr
    simp at hr
  | @found _ shown h host l' known _ hm hh hu hl ho ha =>
    obtain rfl : l' = l := by
      rw [Selection.result?_finish] at hr
      simpa using hr
    refine ⟨h, hm, ⟨⟨host, hh, Host.usable_iff.mp hu, hl⟩, ⟨known, ha⟩, shown, ?_⟩, ho⟩
    exact (List.append_assoc s.shown shown [(l', true)]).symm
  | dials => simp [Balancer.beginDial, Selection.result?] at hr

theorem Passage.accepts_eq (hp : Passage b s pass rest r) : r.2.accepts = s.accepts := by
  cases hp with
  | exhausted =>
    unfold Balancer.endPass
    split
    · rfl
    · rfl
  | found => rfl
  | dials => rfl

variable [DecidableEq α]

/-- What becomes of a selection whose connect succeeded: it has to close the
connection if the host is closed, and ends otherwise. -/
theorem poolAndOffer_phase {h : HostId} {host : Host α (Link α)} (hh : b.hosts[h]? = some host)
    (s : Selection α σ) (l : Link α) :
    if host.status = .closed then (b.poolAndOffer s h l).2 = { s with phase := .discarding }
    else (b.poolAndOffer s h l).2.result? = some (.ok l) ∨
      (b.poolAndOffer s h l).2.result? =
        some (.error (.connectionRejected b.setup.target .refusedBySelector none)) := by
  have hoffer (b' : Balancer α σ) (ht : b'.setup.target = b.setup.target) :
      (b'.offer s l).2.result? = some (.ok l) ∨ (b'.offer s l).2.result? =
        some (.error (.connectionRejected b.setup.target .refusedBySelector none)) := by
    unfold Balancer.offer
    dsimp only
    split
    · exact .inl rfl
    · rw [← ht]
      exact .inr rfl
  split
  · rename_i hc
    rw [Balancer.poolAndOffer_of_closed hh s l hc]
  · rename_i hc
    by_cases hu : host.status = .unhealthy
    · rw [Balancer.poolAndOffer_of_unhealthy hh s l hu]
      exact hoffer _ rfl
    · rw [Balancer.poolAndOffer_of_ne hh s l hc hu]
      exact hoffer _ rfl

/-- A selection whose connect succeeded has to close the connection, or is
over. -/
theorem poolAndOffer_over {h : HostId} {host : Host α (Link α)} (hh : b.hosts[h]? = some host)
    (s : Selection α σ) (l : Link α) : (b.poolAndOffer s h l).2.phase = .discarding ∨
      ∃ r, (b.poolAndOffer s h l).2.phase = .done r := by
  have hphase := poolAndOffer_phase hh s l
  split at hphase
  · rw [hphase]
    exact .inl rfl
  · rcases hphase with hok | herr
    · exact .inr ⟨_, Selection.result?_eq_some.mp hok⟩
    · exact .inr ⟨_, Selection.result?_eq_some.mp herr⟩

/-- A connection that was just opened and is returned was pooled. -/
theorem poolAndOffer_grants {h : HostId} {host : Host α (Link α)} {l' : Link α}
    (hh : b.hosts[h]? = some host)
    (hr : (b.poolAndOffer s h l').2.result? = some (.ok l)) :
    l' = l ∧ Grants (b.poolAndOffer s h l').1 (b.poolAndOffer s h l').2 s.shown h l := by
  have hlt := (List.getElem?_eq_some_iff.mp hh).1
  have hoffer {b' : Balancer α σ} {host' : Host α (Link α)} (hh' : b'.hosts[h]? = some host')
      (hu : host'.status = .active ∨ host'.status = .expired) (hl : l' ∈ host'.pool)
      (hr : (b'.offer s l').2.result? = some (.ok l)) :
      l' = l ∧ Grants (b'.offer s l').1 (b'.offer s l').2 s.shown h l := by
    unfold Balancer.offer at hr ⊢
    dsimp only at hr ⊢
    cases ha : s.accepts l' b'.callers with
    | mk accepted callers =>
      cases accepted with
      | true =>
        simp only [ha, ↓reduceIte] at hr ⊢
        obtain rfl : l' = l := by
          rw [Selection.result?_finish] at hr
          simpa using hr
        exact ⟨rfl, ⟨host', hh', hu, hl⟩, ⟨b'.callers, ha⟩, [], by
          simp [Selection.finish, Selection.noteShown]⟩
      | false =>
        simp [ha, Balancer.reject, Selection.finish, Selection.result?] at hr
  by_cases hc : host.status = .closed
  · have hphase := poolAndOffer_phase hh s l'
    rw [if_pos hc] at hphase
    simp [hphase, Selection.result?] at hr
  have hpool := Host.self_mem_pool_add hc l'
  by_cases hu : host.status = .unhealthy
  · rw [Balancer.poolAndOffer_of_unhealthy hh s l' hu] at hr ⊢
    refine hoffer (List.getElem?_set_self hlt) (.inl ?_) hpool hr
    simp [Host.status_add, hu]
  · rw [Balancer.poolAndOffer_of_ne hh s l' hc hu] at hr ⊢
    refine hoffer (Balancer.getElem?_setHost hh _) ?_ hpool hr
    rw [Host.status_add, if_neg hu]
    cases hst : host.status <;> simp [hst] at hc hu ⊢

/-! ### Turns -/

namespace Turn

variable {e : Event α σ} {i : SelectionId}

theorem accepts_eq (ht : Turn b e i s r) : r.2.accepts = s.accepts := by
  cases ht with
  | refused | hostless | late => rfl
  | begins _ _ hp => exact hp.accepts_eq
  | @connected _ _ _ h _ _ _ b' l =>
    unfold Balancer.poolAndOffer
    split
    · rfl
    · split
      · rfl
      all_goals
        unfold Balancer.offer
        dsimp only
        split
        · rfl
        · rfl
  | failed _ _ _ hr => exact hr.accepts_eq

theorem shown_eq (ht : Turn b e i s r) : s.shown = b.shownBy i := by
  cases ht with
  | refused | hostless | begins => simp [Balancer.shownBy]
  | connected hi | failed hi | late hi => simp [Balancer.shownBy, hi]

/-- A connection that a selection returns in its turn is pooled at a host that
may be used, and either was seen open or has just been opened. -/
theorem grants (ht : Turn b e i s r) (hr : r.2.result? = some (.ok l)) :
    ∃ h, Grants r.1 r.2 s.shown h l ∧
      (r.1.linkClosed l = false ∨ (∃ outcome, e = .dialled i outcome) ∧ b.Arrives h l e) := by
  cases ht with
  | refused | hostless | late =>
    simp [Balancer.reject, Selection.finish, Selection.result?] at hr
  | begins _ _ hp =>
    obtain ⟨h, -, hg, hopen⟩ := hp.grants hr
    exact ⟨h, hg, .inl hopen⟩
  | @connected _ outcome _ h pass rest host b' l' hi hp hh ho =>
    have hh' : b'.hosts[h]? = some host := (Balancer.obtain_ok ho).1 ▸ hh
    obtain ⟨rfl, hg⟩ := poolAndOffer_grants hh' hr
    refine ⟨h, hg, .inr ⟨⟨outcome, rfl⟩, s, pass, rest, host, hi, hp, hh, ?_⟩⟩
    rw [ho]
  | failed _ _ _ hp =>
    obtain ⟨h, -, hg, hopen⟩ := hp.grants hr
    exact ⟨h, hg, .inl hopen⟩

end Turn

/-- A selection in any step: it is as it was, or takes a turn. -/
theorem selection_step (b : Balancer α σ) (e : Event α σ) (i : SelectionId) :
    (b.step e).selections[i]? = b.selections[i]? ∨ ∃ s r, Turn b e i s r ∧
      b.step e = { r.1 with selections := (b.step e).selections } ∧
      (∀ s', b.selections[i]? = some s' → s' = s) ∧ (b.step e).selections[i]? = some r.2 := by
  by_cases he : e.Selects
  · obtain heq | ⟨j, s, r, ht, hstep, hs, hsel⟩ := turn_step (b := b) he
    · exact .inl (by rw [heq])
    · by_cases hij : i = j
      · subst hij
        exact .inr ⟨s, r, ht, hstep, hs, by rw [hsel, if_pos rfl]⟩
      · exact .inl (by rw [hsel, if_neg hij])
  · exact .inl (by rw [Balancer.selections_step b he])

/-- A property of selections that every turn keeps is kept by every step. -/
theorem selections_keep {e : Event α σ} {P Q : Selection α σ → Prop} (hb : ∀ s ∈ b.selections, P s)
    (hsame : ∀ s ∈ b.selections, P s → Q s)
    (hturn : ∀ i s r, Turn b e i s r →
      b.step e = { r.1 with selections := (b.step e).selections } → Q r.2) :
    ∀ s ∈ (b.step e).selections, Q s := by
  intro s hs
  obtain ⟨i, hi⟩ := List.getElem?_of_mem hs
  obtain hkept | ⟨s₀, r, ht, hstep, -, hsel⟩ := selection_step b e i
  · have hmem : s ∈ b.selections := List.mem_of_getElem? (hkept.symm.trans hi)
    exact hsame s hmem (hb s hmem)
  · obtain rfl := Option.some.inj (hi.symm.trans hsel)
    exact hturn i s₀ r ht hstep

/-- **What a selection returns is sound.** Take any run and one step more, in
which a selection returns a connection. In the state after it the connection
is pooled at a host of the table that is active or expired; the selection's
selector accepted the connection in this step, as the last thing it was asked;
and the connection is open, or the connect of this selection has just ended
with it. A selection keeps the selector it began with, and once it has a
result it never changes. -/
theorem selection_sound (setup : Setup α) (tape : Tape) (callers : σ) (events : List (Event α σ))
    (e : Event α σ) (i : SelectionId) :
    let b := (Balancer.start setup tape callers).run events
    let b' := b.step e
    (∀ l, b.result? i = none → b'.result? i = some (.ok l) →
      ∃ h ∈ b'.table, ∃ s, b'.selections[i]? = some s ∧ Grants b' s (b.shownBy i) h l ∧
        (b'.linkClosed l = false ∨ (∃ outcome, e = .dialled i outcome) ∧ b.Arrives h l e)) ∧
    (∀ s, b.selections[i]? = some s → ∃ s', b'.selections[i]? = some s' ∧
      s'.accepts = s.accepts ∧ (s.result?.isSome = true → s' = s)) ∧
    ∀ accepts, e = .select accepts → ∃ s, b'.selections[b.selections.length]? = some s ∧
      s.accepts = accepts := by
  intro b b'
  have htidy : Tidy b'.hosts b'.table [] := tidy_step e (tidy_run setup tape callers events)
  refine ⟨fun l hnone hok => ?_, fun s hs => ?_, ?_⟩
  · obtain hsame | ⟨s, r, ht, hstep, -, hr⟩ := selection_step b e i
    · -- The selection is as it was, without a result.
      unfold Balancer.result? at hnone hok
      rw [hsame, hnone] at hok
      simp at hok
    · have hok : r.2.result? = some (.ok l) := by simpa [Balancer.result?, hr, b'] using hok
      obtain ⟨h, ⟨⟨host, hh, hu, hl⟩, haccept, hshown⟩, hopen⟩ := ht.grants hok
      rw [ht.shown_eq] at hshown
      have hh' : b'.hosts[h]? = some host := by rw [show b' = _ from hstep]; exact hh
      have hmem : h ∈ b'.table := htidy.mem_of_ne_closed hh' fun hc => by simp [hc] at hu
      refine ⟨h, hmem, r.2, hr, ⟨⟨host, hh', hu, hl⟩, ?_, hshown⟩, ?_⟩
      · rw [show b' = _ from hstep]
        exact haccept
      · rw [show b' = _ from hstep]
        exact hopen
  · obtain hsame | ⟨s₀, r, ht, -, hs₀, hr⟩ := selection_step b e i
    · exact ⟨s, hsame.trans hs, rfl, fun _ => rfl⟩
    · obtain rfl := hs₀ s hs
      exact ⟨r.2, hr, ht.accepts_eq, fun hsome => by simp [ht.unfinished] at hsome⟩
  · rintro accepts rfl
    obtain ⟨r, ht, heq⟩ := turn_select (b := b) accepts
    exact ⟨r.2, by simp [b', Balancer.step, heq], ht.accepts_eq⟩

end

/-- A selection opens a connection; another one does not want it and waits for
a connection of its own, while discovery expires the host. -/
def outlasting : List (Event Nat Unit) :=
  [.startReconciler, .deliver (.batch [⟨1, .available⟩]), .takeNotice,
    .select (.pure fun _ => true), .dialled 0 .opened, .select (.pure fun l => l.id ≠ 0),
    .deliver (.batch [⟨1, .expired⟩]), .takeNotice]

theorem selection_sound_outlasting :
    let b := (freshBalancer true).run outlasting
    let b' := b.step (.dialled 1 .opened)
    b.result? 1 = none ∧ b'.result? 1 = some (.ok ⟨1, 1⟩) ∧
      b'.tableHosts.map Host.status = [.expired] ∧
      ∃ h ∈ b'.table, ∃ s, b'.selections[1]? = some s ∧ Grants b' s (b.shownBy 1) h ⟨1, 1⟩ := by
  intro b b'
  have hnone : b.result? 1 = none := rfl
  have hok : b'.result? 1 = some (.ok ⟨1, 1⟩) := rfl
  obtain ⟨h, hh, s, hs, hg, -⟩ := (selection_sound (plainSetup true) (.ofSeed 0) () outlasting
    (.dialled 1 .opened) 1).1 ⟨1, 1⟩ hnone hok
  exact ⟨hnone, hok, by decide, h, hh, s, hs, hg⟩

end HostRotation
