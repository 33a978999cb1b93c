/-
# What a pass over the hosts comes to

Between two points of waiting a pass only looks around: it takes closed
connections out of pools, tells the reconciler of hosts that this drained, and
asks the selector (`Browses`). Statuses, the table, tasks and everything else
stay. Then one of three things happens (`Passage`): a connection was found, a
connect begins to an active host, or no host is left.

A selection takes turns: it begins, its connect ends, a connection it had to
close is closed. `Turn` lists what it can do in a turn, and every step that is
about a selection is one (`turn_step`).

Key theorems: `passage_walk`, `turn_step`.
-/
import HostRotation.Proofs.Footprints

namespace HostRotation

variable {α σ : Type}

/-! ### A scan -/

namespace Pool

variable {κ : Type} {isClosed : κ → Bool} {accepts : Selector κ σ} {c : κ}

/-- What a scan finds is the last candidate it shows, open and accepted. -/
theorem scan_found : ∀ {cs : List κ} {s : σ}, (scan isClosed accepts cs s).found = some c →
    c ∈ cs ∧ isClosed c = false ∧
      (∃ known, accepts c known = (true, (scan isClosed accepts cs s).callers)) ∧
      ∃ shown, (scan isClosed accepts cs s).shown = shown ++ [(c, true)]
  | [], _, h => by simp [scan] at h
  | c' :: cs, s, h => by
    unfold scan at h ⊢
    split at h
    · rename_i hc
      obtain ⟨hm, hopen, haccept, hshown⟩ := scan_found h
      simp only [hc, ↓reduceIte]
      exact ⟨List.mem_cons_of_mem _ hm, hopen, haccept, hshown⟩
    · rename_i hc
      simp only [hc, Bool.false_eq_true, ↓reduceIte]
      cases hs : accepts c' s with
      | mk accepted known =>
        cases accepted with
        | true =>
          simp only [hs, Option.some.injEq] at h
          subst h
          exact ⟨List.mem_cons_self, by simpa using hc, ⟨s, hs⟩, [], rfl⟩
        | false =>
          simp only [hs] at h
          obtain ⟨hm, hopen, haccept, shown, hshown⟩ := scan_found h
          exact ⟨List.mem_cons_of_mem _ hm, hopen, haccept, (c', false) :: shown,
            congrArg ((c', false) :: ·) hshown⟩

theorem mem_of_mem_candidates {linear : Nat} {drawn : List Nat} {pool : List κ}
    (h : c ∈ candidates linear drawn pool) : c ∈ pool := by
  rcases List.mem_append.mp h with h | h
  · exact List.mem_of_mem_take h
  · obtain ⟨i, -, hi⟩ := List.mem_filterMap.mp h
    exact List.mem_of_mem_drop (List.mem_of_getElem? hi)

end Pool

/-! ### Looking around -/

/-- What looking for a connection may change. -/
structure Browses (b b' : Balancer α σ) : Prop where
  rest : b' = { b with
    hosts := b'.hosts, commands := b'.commands, tape := b'.tape, callers := b'.callers }
  /-- Only pools change, and only closed connections leave them. -/
  host : ∀ (h : HostId) (host : Host α (Link α)), b.hosts[h]? = some host →
    ∃ pool, b'.hosts[h]? = some { host with pool } ∧ pool.Sublist host.pool ∧
      ∀ l ∈ host.pool, b.linkClosed l = false → l ∈ pool
  absent : ∀ h : HostId, b.hosts[h]? = none → b'.hosts[h]? = none
  commands : ∃ addresses : List α, b'.commands = b.commands ++ addresses.map .drained

namespace Browses

variable {b b' b'' : Balancer α σ} {h : HostId} {host : Host α (Link α)}

theorem refl (b : Balancer α σ) : Browses b b where
  rest := rfl
  host := fun _ host hh => ⟨host.pool, hh, List.Sublist.refl _, fun _ hl _ => hl⟩
  absent := fun _ => id
  commands := ⟨[], by simp⟩

theorem linkClosed (hb : Browses b b') (l : Link α) : b'.linkClosed l = b.linkClosed l := by
  rw [hb.rest]
  rfl

theorem trans (hb : Browses b b') (hb' : Browses b' b'') : Browses b b'' where
  rest := by
    have hrest := hb'.rest
    rw [hb.rest] at hrest
    exact hrest
  host := by
    intro h host hh
    obtain ⟨pool, hh', hsub, hkeep⟩ := hb.host h host hh
    obtain ⟨pool', hh'', hsub', hkeep'⟩ := hb'.host h _ hh'
    refine ⟨pool', hh'', hsub'.trans hsub, fun l hl hopen => ?_⟩
    exact hkeep' l (hkeep l hl hopen) (by rwa [hb.linkClosed])
  absent := fun h hh => hb'.absent h (hb.absent h hh)
  commands := by
    obtain ⟨xs, hxs⟩ := hb.commands
    obtain ⟨ys, hys⟩ := hb'.commands
    exact ⟨xs ++ ys, by rw [hys, hxs, List.map_append, List.append_assoc]⟩

/-- A host is what it was before, but for its pool. -/
theorem before (hb : Browses b b') (hh : b'.hosts[h]? = some host) :
    ∃ pool, b.hosts[h]? = some { host with pool } := by
  cases hh₀ : b.hosts[h]? with
  | none => simp [hb.absent h hh₀] at hh
  | some host₀ =>
    obtain ⟨pool, hh', -⟩ := hb.host h host₀ hh₀
    obtain rfl := Option.some.inj (hh.symm.trans hh')
    exact ⟨host₀.pool, rfl⟩

end Browses

section

variable [DecidableEq α] {b b' : Balancer α σ}

theorem browses_prune (h : HostId) {l : Link α} (hc : b.linkClosed l = true) :
    Browses b (b.prune h l) := by
  unfold Balancer.prune
  cases hh : b.hosts[h]? with
  | none => exact .refl b
  | some host =>
    by_cases hl : l ∈ host.pool
    · -- The host loses this one connection.
      have hrem : (host.remove l).1 = { host with pool := host.pool.erase l } := by
        simp [Host.remove, hl]
      have hhost : ∀ (j : HostId) (k : Host α (Link α)), b.hosts[j]? = some k →
          ∃ pool, (b.hosts.set h (host.remove l).1)[j]? = some { k with pool } ∧
            pool.Sublist k.pool ∧ ∀ l' ∈ k.pool, b.linkClosed l' = false → l' ∈ pool := by
        intro j k hk
        by_cases hj : h = j
        · subst hj
          obtain rfl := Option.some.inj (hh.symm.trans hk)
          refine ⟨host.pool.erase l, ?_, List.erase_sublist, fun l' hl' hopen => ?_⟩
          · rw [List.getElem?_set_self (List.getElem?_eq_some_iff.mp hh).1, hrem]
          · refine (List.mem_erase_of_ne ?_).mpr hl'
            rintro rfl
            simp [hc] at hopen
        · exact ⟨k.pool, by rw [List.getElem?_set_ne hj, hk], List.Sublist.refl _,
            fun _ hl' _ => hl'⟩
      have habsent : ∀ j : HostId, b.hosts[j]? = none →
          (b.hosts.set h (host.remove l).1)[j]? = none := by
        intro j hj
        rw [List.getElem?_eq_none_iff] at hj ⊢
        rwa [List.length_set]
      dsimp only
      split
      · exact ⟨rfl, hhost, habsent, [(host.remove l).1.address], rfl⟩
      · exact ⟨rfl, hhost, habsent, [], by simp [Balancer.setHost]⟩
    · have hrem : host.remove l = (host, false) := by simp [Host.remove, hl]
      simp only [hrem, Bool.false_eq_true, ↓reduceIte, Balancer.setHost_self hh]
      exact .refl b

theorem browses_prunes (h : HostId) : ∀ (closed : List (Link α)) (b : Balancer α σ),
    (∀ l ∈ closed, b.linkClosed l = true) → Browses b (closed.foldl (fun b l => b.prune h l) b)
  | [], b, _ => .refl b
  | l :: closed, b, hc => by
    have hone := browses_prune h (hc l List.mem_cons_self)
    refine hone.trans (browses_prunes h closed _ fun l' hl' => ?_)
    rw [hone.linkClosed]
    exact hc l' (List.mem_cons_of_mem _ hl')

@[simp] theorem callers_prunes (h : HostId) : ∀ (closed : List (Link α)) (b : Balancer α σ),
    (closed.foldl (fun b l => b.prune h l) b).callers = b.callers
  | [], _ => rfl
  | l :: closed, b => by
    have hone : (b.prune h l).callers = b.callers := by
      unfold Balancer.prune
      split
      · dsimp only
        split <;> rfl
      · rfl
    rw [List.foldl_cons, callers_prunes h closed, hone]

theorem browses_searchHost (b : Balancer α σ) (accepts : Selector (Link α) σ) (h : HostId)
    (pool : List (Link α)) : Browses b (b.searchHost accepts h pool).1 := by
  unfold Balancer.searchHost
  dsimp only
  refine Browses.trans ?_ (browses_prunes h _ _ fun l hl => Pool.isClosed_of_mem_search hl)
  exact ⟨rfl, (Browses.refl b).host, fun _ => id, [], by simp⟩

/-- What the search of a host finds is pooled there and open, and the selector
accepts it, in the end. -/
theorem searchHost_found {accepts : Selector (Link α) σ} {h : HostId} {pool : List (Link α)}
    {l : Link α} (hf : (b.searchHost accepts h pool).2.found = some l) :
    l ∈ pool ∧ b.linkClosed l = false ∧
      (∃ known, accepts l known = (true, (b.searchHost accepts h pool).1.callers)) ∧
      ∃ shown, (b.searchHost accepts h pool).2.shown = shown ++ [(l, true)] := by
  unfold Balancer.searchHost at hf ⊢
  dsimp only at hf ⊢
  obtain ⟨hm, hopen, haccept, hshown⟩ := Pool.scan_found hf
  rw [callers_prunes]
  exact ⟨Pool.mem_of_mem_candidates hm, hopen, haccept, hshown⟩

end

/-! ### How a pass goes on -/

theorem noteShown_nil (s : Selection α σ) : s.noteShown [] = s := by
  simp [Selection.noteShown]

theorem noteShown_noteShown (s : Selection α σ) (xs ys : List (Link α × Bool)) :
    (s.noteShown xs).noteShown ys = s.noteShown (xs ++ ys) := by
  simp [Selection.noteShown]

/-- How a selection goes on with its pass over the hosts that are left. -/
inductive Passage (b : Balancer α σ) (s : Selection α σ) (pass : Pass) (rest : List HostId) :
    Balancer α σ × Selection α σ → Prop
  /-- Nothing was found, and no host that is left is active. -/
  | exhausted {b' shown} (hb : Browses b b')
      (hn : ∀ h ∈ rest, ∀ host, b.hosts[h]? = some host → host.status ≠ .active) :
      Passage b s pass rest (b'.endPass (s.noteShown shown) pass)
  | found {b' shown h host l known} (hb : Browses b b') (hm : h ∈ rest)
      (hh : b'.hosts[h]? = some host) (hu : host.isUsable = true) (hl : l ∈ host.pool)
      (ho : b'.linkClosed l = false) (ha : s.accepts l known = (true, b'.callers)) :
      Passage b s pass rest (b', (s.noteShown (shown ++ [(l, true)])).finish (.ok l))
  | dials {b' shown h host visited left} (hb : Browses b b') (hr : rest = visited ++ h :: left)
      (hh : b'.hosts[h]? = some host) (ha : host.status = .active) :
      Passage b s pass rest (b'.beginDial (s.noteShown shown) h host.address pass left)

namespace Passage

variable {b b' : Balancer α σ} {s : Selection α σ} {pass : Pass} {rest : List HostId}
  {r : Balancer α σ × Selection α σ} {h : HostId}

/-- The first of the hosts was passed over, after a look at it perhaps. -/
theorem cons {shown : List (Link α × Bool)} (hb : Browses b b')
    (hn : ∀ host, b.hosts[h]? = some host → host.status ≠ .active)
    (hp : Passage b' (s.noteShown shown) pass rest r) : Passage b s pass (h :: rest) r := by
  cases hp with
  | exhausted hb' hn' =>
    rw [noteShown_noteShown]
    refine .exhausted (hb.trans hb') fun j hj host hh => ?_
    rcases List.mem_cons.mp hj with rfl | hj
    · exact hn host hh
    · obtain ⟨pool, hh', -⟩ := hb.host j host hh
      exact hn' j hj { host with pool } hh'
  | found hb' hm hh hu hl ho ha =>
    rw [noteShown_noteShown, ← List.append_assoc]
    exact .found (hb.trans hb') (List.mem_cons_of_mem _ hm) hh hu hl ho ha
  | @dials b'' shown' j host visited left hb' hr hh ha =>
    rw [noteShown_noteShown]
    have hr' : h :: rest = (h :: visited) ++ j :: left := congrArg (h :: ·) hr
    exact .dials (hb.trans hb') hr' hh ha

/-- The first of the hosts was passed over without a look at it. -/
theorem skip (hn : ∀ host, b.hosts[h]? = some host → host.status ≠ .active)
    (hp : Passage b s pass rest r) : Passage b s pass (h :: rest) r := by
  rw [← noteShown_nil s] at hp
  exact .cons (.refl b) hn hp

theorem footprint (hp : Passage b s pass rest r) :
    ∃ hosts commands tasks monitor attempts metrics tape callers,
      r.1 = { b with hosts, commands, tasks, monitor, attempts, metrics, tape, callers } ∧
        metrics.resubscribes = b.metrics.resubscribes := by
  cases hp with
  | @exhausted b' shown hb _ =>
    obtain ⟨tasks, monitor, metrics, tape, heq, hm⟩ := b'.endPass_footprint (s.noteShown shown) pass
    rw [hb.rest] at hm
    exact ⟨b'.hosts, b'.commands, tasks, monitor, b.attempts, metrics, tape, b'.callers,
      heq.trans (by rw [hb.rest]), hm⟩
  | @found b' _ _ _ _ _ hb =>
    exact ⟨b'.hosts, b'.commands, b.tasks, b.monitor, b.attempts, b.metrics, b'.tape, b'.callers,
      hb.rest, rfl⟩
  | @dials b' _ _ host _ _ hb =>
    refine ⟨b'.hosts, b'.commands, b.tasks, b.monitor, host.address :: b.attempts, b.metrics,
      b'.tape, b'.callers, ?_, rfl⟩
    unfold Balancer.beginDial
    rw [hb.rest]

end Passage

/-- **How a pass goes on.** -/
theorem passage_walk [DecidableEq α] : ∀ (rest : List HostId) (b : Balancer α σ) (s : Selection α σ)
    (pass : Pass), Passage b s pass rest (b.walk s pass rest)
  | [], b, s, pass => by
    have hend : Passage b s pass [] (b.endPass (s.noteShown []) pass) :=
      .exhausted (.refl b) (by simp)
    rwa [noteShown_nil] at hend
  | h :: rest, b, s, pass => by
    unfold Balancer.walk
    cases hh : b.hosts[h]? with
    | none => exact .skip (by simp [hh]) (passage_walk rest b s pass)
    | some host =>
      dsimp only
      split
      · rename_i hu
        have hb := browses_searchHost b s.accepts h host.pool
        obtain ⟨pool, hh', -, hkeep⟩ := hb.host h host hh
        split
        · rename_i l hf
          obtain ⟨hl, hopen, ⟨known, haccept⟩, shown, hshown⟩ := searchHost_found hf
          rw [hshown]
          exact .found hb List.mem_cons_self hh' hu (hkeep l hl hopen)
            ((hb.linkClosed l).trans hopen) haccept
        · split
          · rename_i ha
            have hdial : Passage b s pass (h :: rest) (Balancer.beginDial _
                (s.noteShown (b.searchHost s.accepts h host.pool).2.shown) h
                { host with pool }.address pass rest) :=
              .dials hb (List.nil_append _).symm hh' ha
            exact hdial
          · rename_i ha
            refine .cons hb (fun host' hh' => ?_) (passage_walk rest _ _ pass)
            obtain rfl := Option.some.inj (hh.symm.trans hh')
            exact ha
      · rename_i hu
        refine .skip (fun host' hh' => ?_) (passage_walk rest b s pass)
        obtain rfl := Option.some.inj (hh.symm.trans hh')
        intro ha
        simp [Host.isUsable, ha] at hu

/-! ### Turns -/

theorem mem_cyclicFrom {β : Type} {start : Nat} {xs : List β} {x : β} :
    x ∈ cyclicFrom start xs ↔ x ∈ xs := by
  rw [cyclicFrom, List.mem_append, or_comm, ← List.mem_append, List.take_append_drop]

/-- What a selection does in its turn: which selection it is, what it was, and
what the turn leaves of it and the balancer. -/
inductive Turn [DecidableEq α] (b : Balancer α σ) :
    Event α σ → SelectionId → Selection α σ → Balancer α σ × Selection α σ → Prop
  /-- The balancer is closed. -/
  | refused {accepts} (hc : b.isClosed = true) :
      Turn b (.select accepts) b.selections.length { accepts }
        (b, Selection.finish { accepts } (.error (.closed b.setup.target)))
  /-- There are no hosts. -/
  | hostless {accepts} (ho : b.isClosed = false) (ht : b.table = []) :
      Turn b (.select accepts) b.selections.length { accepts }
        (Balancer.reject
          { b with metrics := { b.metrics with selections := b.metrics.selections + 1 } }
          { accepts } (.noAvailableHost b.setup.target))
  | begins {accepts start r} (ho : b.isClosed = false)
      (hs : b.rotation.start? b.table.length = some start)
      (hp : Passage
        { b with
          rotation := b.rotation.advance
          metrics := { b.metrics with selections := b.metrics.selections + 1 } }
        { accepts } { size := b.table.length } (cyclicFrom start b.table) r)
      (hw : r = Balancer.walk
        { b with
          rotation := b.rotation.advance
          metrics := { b.metrics with selections := b.metrics.selections + 1 } }
        { accepts } { size := b.table.length } (cyclicFrom start b.table)) :
      Turn b (.select accepts) b.selections.length { accepts } r
  | connected {i outcome s h pass rest host b' l} (hi : b.selections[i]? = some s)
      (hp : s.phase = .connecting h pass rest) (hh : b.hosts[h]? = some host)
      (ho : b.obtain host.address outcome = (b', .ok l)) :
      Turn b (.dialled i outcome) i s (b'.poolAndOffer s h l)
  | failed {i reason s h pass rest host r} (hi : b.selections[i]? = some s)
      (hp : s.phase = .connecting h pass rest) (hh : b.hosts[h]? = some host)
      (hr : Passage (b.connectFailed h) s
        { pass with
          lastError := some (.connectFailed (b.setup.describe host.address) (.foreign reason)) }
        rest r)
      (hw : r = (b.connectFailed h).walk s
        { pass with
          lastError := some (.connectFailed (b.setup.describe host.address) (.foreign reason)) }
        rest) :
      Turn b (.dialled i (.refused reason)) i s r
  | late {i s} (hi : b.selections[i]? = some s) (hp : s.phase = .discarding) :
      Turn b (.discarded i) i s
        (b.reject s (.connectionRejected b.setup.target .hostRemoved none))

namespace Turn

variable [DecidableEq α] {b : Balancer α σ} {e : Event α σ} {i : SelectionId}
  {s : Selection α σ} {r : Balancer α σ × Selection α σ}

/-- A selection that has a result takes no more turns. -/
theorem unfinished (ht : Turn b e i s r) : s.result? = none := by
  cases ht with
  | refused | hostless | begins => rfl
  | connected _ hp | failed _ hp | late _ hp => simp [Selection.result?, hp]

theorem footprint (ht : Turn b e i s r) :
    ∃ hosts rotation commands tasks monitor connections attempts metrics tape callers,
      r.1 = { b with
        hosts, rotation, commands, tasks, monitor, connections, attempts, metrics, tape, callers } ∧
      metrics.resubscribes = b.metrics.resubscribes := by
  cases ht with
  | refused | hostless | late => exact ⟨_, _, _, _, _, _, _, _, _, _, rfl, rfl⟩
  | begins _ _ hp =>
    obtain ⟨_, _, _, _, _, _, _, _, heq, hm⟩ := hp.footprint
    exact ⟨_, _, _, _, _, _, _, _, _, _, heq, hm⟩
  | @connected _ outcome s h _ _ host b' l _ _ _ ho =>
    obtain ⟨connections, rfl⟩ := Balancer.connections_of_obtain ho
    obtain ⟨_, _, _, _, _, heq, hm⟩ :=
      Balancer.poolAndOffer_footprint { b with connections } h s l
    exact ⟨_, _, _, _, _, _, _, _, _, _, heq, hm⟩
  | @failed _ _ _ h _ _ _ _ _ _ _ hr _ =>
    obtain ⟨_, _, _, _, _, hfailed, hm⟩ := b.connectFailed_footprint h
    obtain ⟨_, _, _, _, _, _, _, _, heq, hm'⟩ := hr.footprint
    rw [hfailed] at hm'
    exact ⟨_, _, _, _, _, _, _, _, _, _, heq.trans (by rw [hfailed]), hm'.trans hm⟩

end Turn

section

variable [DecidableEq α] {b : Balancer α σ}

theorem turn_select (accepts : Selector (Link α) σ) : ∃ r,
    Turn b (.select accepts) b.selections.length { accepts } r ∧
      b.select accepts = { r.1 with selections := b.selections ++ [r.2] } := by
  unfold Balancer.select
  dsimp only
  split
  · rename_i hc
    exact ⟨_, .refused hc, rfl⟩
  · rename_i ho
    have ho : b.isClosed = false := by simpa using ho
    unfold Balancer.beginPass
    dsimp only
    split
    · rename_i hs
      have ht : b.table = [] := by
        unfold Rotation.start? at hs
        split at hs
        · rename_i hlen
          exact List.length_eq_zero_iff.mp hlen
        · simp at hs
      exact ⟨_, .hostless ho ht, rfl⟩
    · rename_i start hs
      have hp := passage_walk (cyclicFrom start b.table)
        { b with
          rotation := b.rotation.advance
          metrics := { b.metrics with selections := b.metrics.selections + 1 } }
        { accepts } { size := b.table.length }
      obtain ⟨_, _, _, _, _, _, _, _, heq, -⟩ := hp.footprint
      refine ⟨_, .begins ho hs hp rfl, ?_⟩
      rw [heq]

/-- The connect of a selection is over. -/
theorem turn_of_connecting {i : SelectionId} {s : Selection α σ} {h : HostId} {pass : Pass}
    {rest : List HostId} {host : Host α (Link α)} (hi : b.selections[i]? = some s)
    (hp : s.phase = .connecting h pass rest) (hh : b.hosts[h]? = some host)
    (outcome : DialOutcome) : ∃ r, Turn b (.dialled i outcome) i s r ∧
      b.dialled i outcome = { r.1 with selections := b.selections.set i r.2 } := by
  simp only [Balancer.dialled, hi, hp, hh]
  split
  · rename_i b' l ho
    have ht : Turn b (.dialled i outcome) i s (b'.poolAndOffer s h l) := .connected hi hp hh ho
    obtain ⟨_, _, _, _, _, _, _, _, _, _, heq, -⟩ := ht.footprint
    refine ⟨_, ht, ?_⟩
    rw [heq]
  · rename_i b' reason ho
    obtain ⟨rfl, rfl⟩ := Balancer.obtain_error ho
    have ht : Turn b' (.dialled i (.refused reason)) i s _ :=
      .failed hi hp hh (passage_walk rest _ s _) rfl
    obtain ⟨_, _, _, _, _, _, _, _, _, _, heq, -⟩ := ht.footprint
    refine ⟨_, ht, ?_⟩
    rw [heq]

theorem turn_dialled (i : SelectionId) (outcome : DialOutcome) :
    b.dialled i outcome = b ∨ ∃ s r, b.selections[i]? = some s ∧ Turn b (.dialled i outcome) i s r ∧
      b.dialled i outcome = { r.1 with selections := b.selections.set i r.2 } := by
  cases hi : b.selections[i]? with
  | none => exact .inl (by simp only [Balancer.dialled, hi])
  | some s =>
    cases hp : s.phase with
    | connecting h pass rest =>
      cases hh : b.hosts[h]? with
      | none => exact .inl (by simp only [Balancer.dialled, hi, hp, hh])
      | some host =>
        obtain ⟨r, ht, heq⟩ := turn_of_connecting hi hp hh outcome
        exact .inr ⟨s, r, rfl, ht, heq⟩
    | walking | discarding | done => exact .inl (by simp only [Balancer.dialled, hi, hp])

/-- The connection that came too late is closed. -/
theorem turn_of_discarding {i : SelectionId} {s : Selection α σ} (hi : b.selections[i]? = some s)
    (hp : s.phase = .discarding) : ∃ r, Turn b (.discarded i) i s r ∧
      b.discarded i = { r.1 with selections := b.selections.set i r.2 } := by
  refine ⟨_, .late hi hp, ?_⟩
  simp only [Balancer.discarded, hi, hp]
  rfl

theorem turn_discarded (i : SelectionId) :
    b.discarded i = b ∨ ∃ s r, b.selections[i]? = some s ∧ Turn b (.discarded i) i s r ∧
      b.discarded i = { r.1 with selections := b.selections.set i r.2 } := by
  cases hi : b.selections[i]? with
  | none => exact .inl (by simp only [Balancer.discarded, hi])
  | some s =>
    cases hp : s.phase with
    | discarding =>
      obtain ⟨r, ht, heq⟩ := turn_of_discarding hi hp
      exact .inr ⟨s, r, rfl, ht, heq⟩
    | walking | connecting | done => exact .inl (by simp only [Balancer.discarded, hi, hp])

theorem getElem?_set_eq {β : Type} {l : List β} {i : Nat} {x : β} (hi : l[i]? = some x) (y : β)
    (j : Nat) : (l.set i y)[j]? = if j = i then some y else l[j]? := by
  split
  · subst j
    exact List.getElem?_set_self (List.getElem?_eq_some_iff.mp hi).1
  · rename_i hne
    exact List.getElem?_set_ne (Ne.symm hne)

theorem getElem?_concat_eq {β : Type} (l : List β) (y : β) (j : Nat) :
    (l ++ [y])[j]? = if j = l.length then some y else l[j]? := by
  rcases Nat.lt_trichotomy j l.length with hlt | rfl | hgt
  · rw [List.getElem?_append_left hlt, if_neg (Nat.ne_of_lt hlt)]
  · simp
  · rw [if_neg (Nat.ne_of_gt hgt), List.getElem?_eq_none (by simp; omega),
      List.getElem?_eq_none (Nat.le_of_lt hgt)]

/-- **Every step that is about a selection is a turn of it**, unless there is
nothing to do. -/
theorem turn_step {e : Event α σ} (he : e.Selects) :
    b.step e = b ∨ ∃ i s r, Turn b e i s r ∧
      b.step e = { r.1 with selections := (b.step e).selections } ∧
      (∀ s', b.selections[i]? = some s' → s' = s) ∧
      ∀ j, (b.step e).selections[j]? = if j = i then some r.2 else b.selections[j]? := by
  cases e with
  | select accepts =>
    obtain ⟨r, ht, heq⟩ := turn_select (b := b) accepts
    have hstep : b.step (.select accepts) = { r.1 with selections := b.selections ++ [r.2] } := heq
    refine .inr ⟨_, _, r, ht, by rw [hstep], by simp, fun j => ?_⟩
    rw [hstep]
    exact getElem?_concat_eq _ r.2 j
  | dialled i outcome =>
    obtain heq | ⟨s, r, hi, ht, heq⟩ := turn_dialled (b := b) i outcome
    · exact .inl heq
    · have hstep : b.step (.dialled i outcome) =
          { r.1 with selections := b.selections.set i r.2 } := heq
      refine .inr ⟨i, s, r, ht, by rw [hstep], fun s' hi' => ?_, fun j => ?_⟩
      · exact Option.some.inj (hi'.symm.trans hi)
      · rw [hstep]
        exact getElem?_set_eq hi r.2 j
  | discarded i =>
    obtain heq | ⟨s, r, hi, ht, heq⟩ := turn_discarded (b := b) i
    · exact .inl heq
    · have hstep : b.step (.discarded i) = { r.1 with selections := b.selections.set i r.2 } := heq
      refine .inr ⟨i, s, r, ht, by rw [hstep], fun s' hi' => ?_, fun j => ?_⟩
      · exact Option.some.inj (hi'.symm.trans hi)
      · rw [hstep]
        exact getElem?_set_eq hi r.2 j
  | _ => exact he.elim

/-- Selections, tasks and connections are no business of the reconciler. -/
theorem reconciler_step {e : Event α σ} (he : e.Selects ∨ e.Aside) :
    (b.step e).reconciler = b.reconciler ∧ (b.step e).subscriptions = b.subscriptions ∧
      (b.step e).metrics.resubscribes = b.metrics.resubscribes := by
  rcases he with hsel | haside
  · obtain heq | ⟨_, _, r, ht, hstep, -⟩ := turn_step (b := b) hsel
    · rw [heq]
      exact ⟨rfl, rfl, rfl⟩
    · obtain ⟨_, _, _, _, _, _, _, _, _, _, heq, hm⟩ := ht.footprint
      rw [hstep, heq]
      exact ⟨rfl, rfl, hm⟩
  · obtain ⟨_, _, _, _, _, _, _, _, _, _, heq, hm⟩ := b.aside_footprint haside
    rw [heq]
    exact ⟨rfl, rfl, hm⟩

end

end HostRotation
