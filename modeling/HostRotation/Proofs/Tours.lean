/-
# The hosts a selection visits

A selection makes one pass over the table, in parts, with connects in between.
`Balancer.visits` is the record of one part: the hosts that the pass comes to,
what it sees there, and what the search of each pool comes to. `Tour` ties the
record to the pass itself (`tour_walk`), and `Tour.ends` says how a part ends:
every host was visited and the selection failed; the last host visited had a
connection; or it had none and is active, and a connect begins to it.

`Balancer.visited` joins the records of one selection along a run. Only a step
that the selection goes on with adds to it (`Due`); such a step is a turn of
the selection, and `Errand` lists what a turn may be about.
-/
import HostRotation.Proofs.Accounts
import HostRotation.Proofs.Selections

namespace HostRotation

variable {α σ : Type}

/-- A host that a pass came to. -/
structure Visit (α σ : Type) where
  host : HostId
  /-- The host as it was then, if there is such a host. -/
  seen : Option (Host α (Link α))
  /-- What the search of its pool came to, if its connections may be handed
  out. -/
  finding : Option (Pool.Finding (Link α) σ) := none

namespace Visit

/-- The connections shown to the selector there and its answers, in order. -/
def shown (v : Visit α σ) : List (Link α × Bool) := (v.finding.map Pool.Finding.shown).getD []

/-- Whether the host was active and the search of its pool returned none. -/
def isTry (v : Visit α σ) : Bool :=
  v.seen.any (fun host => host.status = .active) && v.finding.any fun f => f.found.isNone

end Visit

namespace Balancer

variable [DecidableEq α]

/-- The hosts that a pass comes to until it has to wait or is over, given those
that are left to visit. -/
def visits (b : Balancer α σ) (accepts : Selector (Link α) σ) : List HostId → List (Visit α σ)
  | [] => []
  | h :: rest =>
    match b.hosts[h]? with
    | none => { host := h, seen := none } :: b.visits accepts rest
    | some host =>
      if host.isUsable then
        let (b, f) := b.searchHost accepts h host.pool
        { host := h, seen := some host, finding := some f } ::
          if f.found.isSome || host.status = .active then [] else b.visits accepts rest
      else { host := h, seen := some host } :: b.visits accepts rest

/-- The hosts that a selection which begins now is to visit, in this order. -/
def itinerary (b : Balancer α σ) : List HostId :=
  if b.isClosed then []
  else
    match b.rotation.start? b.table.length with
    | some start => cyclicFrom start b.table
    | none => []

/-- The hosts that a selection comes to in the step of an event. -/
def visitsIn (b : Balancer α σ) (i : SelectionId) : Event α σ → List (Visit α σ)
  | .select accepts =>
    if i = b.selections.length then
      { b with
        rotation := b.rotation.advance
        metrics := { b.metrics with selections := b.metrics.selections + 1 } }.visits accepts
          b.itinerary
    else []
  | .dialled j (.refused _) =>
    match b.selections[i]? with
    | some { accepts, phase := .connecting h _ rest, .. } =>
      if i = j ∧ h < b.hosts.length then (b.connectFailed h).visits accepts rest else []
    | _ => []
  | _ => []

/-- The hosts that a selection comes to along a run. -/
def visited (b : Balancer α σ) (i : SelectionId) : List (Event α σ) → List (Visit α σ)
  | [] => []
  | e :: events => b.visitsIn i e ++ (b.step e).visited i events

theorem visited_append (b : Balancer α σ) (i : SelectionId) (events events' : List (Event α σ)) :
    b.visited i (events ++ events') = b.visited i events ++ (b.run events).visited i events' := by
  induction events generalizing b with
  | nil => rfl
  | cons e events ih =>
    rw [List.cons_append, visited, visited, ih, List.append_assoc]
    rfl

theorem visited_concat (b : Balancer α σ) (i : SelectionId) (events : List (Event α σ))
    (e : Event α σ) :
    b.visited i (events ++ [e]) = b.visited i events ++ (b.run events).visitsIn i e := by
  rw [visited_append, visited, visited, List.append_nil]

end Balancer

/-! ### Tours -/

section

variable [DecidableEq α]

theorem browses_of_searchHost {b b' : Balancer α σ} {accepts : Selector (Link α) σ} {h : HostId}
    {pool : List (Link α)} {f : Pool.Finding (Link α) σ}
    (hs : b.searchHost accepts h pool = (b', f)) : Browses b b' := by
  have hbrowse := browses_searchHost b accepts h pool
  rw [hs] at hbrowse
  exact hbrowse

/-- How a selection makes its way over the hosts that are left, which hosts it
comes to, and what this leaves of it and the balancer. -/
inductive Tour (pass : Pass) : Balancer α σ → Selection α σ → List HostId → List (Visit α σ) →
    Balancer α σ × Selection α σ → Prop
  | exhausted {b s} : Tour pass b s [] [] (b.endPass s pass)
  /-- The host may not be used. -/
  | passesBy {b s h rest visits r}
      (hn : ∀ host, b.hosts[h]? = some host → host.isUsable = false)
      (ht : Tour pass b s rest visits r) :
      Tour pass b s (h :: rest) ({ host := h, seen := b.hosts[h]? } :: visits) r
  /-- The host is expired and had nothing to offer. -/
  | searches {b b' s f h host rest visits r} (hh : b.hosts[h]? = some host)
      (hx : host.status = .expired) (hs : b.searchHost s.accepts h host.pool = (b', f))
      (hf : f.found = none) (ht : Tour pass b' (s.noteShown f.shown) rest visits r) :
      Tour pass b s (h :: rest) ({ host := h, seen := some host, finding := some f } :: visits) r
  | finds {b b' s f h host rest l} (hh : b.hosts[h]? = some host) (hu : host.isUsable = true)
      (hs : b.searchHost s.accepts h host.pool = (b', f)) (hf : f.found = some l) :
      Tour pass b s (h :: rest) [{ host := h, seen := some host, finding := some f }]
        (b', (s.noteShown f.shown).finish (.ok l))
  | dials {b b' s f h host rest} (hh : b.hosts[h]? = some host) (ha : host.status = .active)
      (hs : b.searchHost s.accepts h host.pool = (b', f)) (hf : f.found = none) :
      Tour pass b s (h :: rest) [{ host := h, seen := some host, finding := some f }]
        (b'.beginDial (s.noteShown f.shown) h host.address pass rest)

/-- The record of a pass is a true one. -/
theorem tour_walk (pass : Pass) (rest : List HostId) (b : Balancer α σ) (s : Selection α σ) :
    Tour pass b s rest (b.visits s.accepts rest) (b.walk s pass rest) := by
  induction rest generalizing b s with
  | nil => exact .exhausted
  | cons h rest ih =>
    unfold Balancer.visits Balancer.walk
    cases hh : b.hosts[h]? with
    | none =>
      have htour := Tour.passesBy (h := h) (by simp [hh]) (ih b s)
      rwa [hh] at htour
    | some host =>
      dsimp only
      by_cases hu : host.isUsable = true
      · rw [if_pos hu, if_pos hu]
        cases hs : b.searchHost s.accepts h host.pool with
        | mk b' f =>
          dsimp only
          cases hf : f.found with
          | some l => exact .finds hh hu hs hf
          | none =>
            by_cases ha : host.status = .active
            · simp only [ha, decide_true, Bool.or_true, ↓reduceIte]
              exact .dials hh ha hs hf
            · have hx : host.status = .expired := (Host.usable_iff.mp hu).resolve_left ha
              simp only [ha, Option.isSome_none, decide_false, Bool.or_self, Bool.false_eq_true,
                ↓reduceIte]
              exact .searches hh hx hs hf (ih b' (s.noteShown f.shown))
      · rw [if_neg hu, if_neg hu]
        have hn : ∀ host', b.hosts[h]? = some host' → host'.isUsable = false := by
          intro host' hh'
          obtain rfl := Option.some.inj (hh.symm.trans hh')
          simpa using hu
        have htour := Tour.passesBy (h := h) hn (ih b s)
        rwa [hh] at htour

/-- How a tour ends. -/
inductive Tour.Ending (attempts : List α) (rest : List HostId) (visits : List (Visit α σ))
    (r : Balancer α σ × Selection α σ) : Prop
  /-- Every host was visited in vain. -/
  | exhausted (err : BalancerError) (hv : visits.map Visit.host = rest)
      (ha : r.1.attempts = attempts) (hp : r.2.phase = .done (.error err))
  /-- The last host visited had a connection. -/
  | found (l : Link α) (left : List HostId) (hv : visits.map Visit.host ++ left = rest)
      (ha : r.1.attempts = attempts) (hp : r.2.phase = .done (.ok l))
  /-- The last host visited had none, and a connect begins to it. -/
  | dials (before : List (Visit α σ)) (v : Visit α σ) (host : Host α (Link α)) (pass' : Pass)
      (left : List HostId) (hv : visits.map Visit.host ++ left = rest) (hl : visits = before ++ [v])
      (hs : v.seen = some host) (ht : v.isTry = true) (hb : ∀ u ∈ before, u.isTry = false)
      (ha : r.1.attempts = host.address :: attempts)
      (hp : r.2.phase = .connecting v.host pass' left)
      (hh : ∃ pool, r.1.hosts[v.host]? = some { host with pool })

namespace Tour

variable {pass : Pass} {b b' : Balancer α σ} {s : Selection α σ} {h : HostId}
  {rest : List HostId} {visits : List (Visit α σ)} {r : Balancer α σ × Selection α σ}

omit [DecidableEq α] in
/-- One more host was passed on the way. -/
theorem Ending.cons {v : Visit α σ} {attempts : List α}
    (he : Ending attempts rest visits r) (hn : v.isTry = false) :
    Ending attempts (v.host :: rest) (v :: visits) r := by
  cases he with
  | exhausted err hv ha hp =>
    refine .exhausted err ?_ ha hp
    rw [List.map_cons, hv]
  | found l left hv ha hp =>
    refine .found l left ?_ ha hp
    rw [List.map_cons, List.cons_append, hv]
  | dials before u host pass' left hv hl hs ht hb ha hp hh =>
    refine .dials (v :: before) u host pass' left ?_ ?_ hs ht ?_ ha hp hh
    · rw [List.map_cons, List.cons_append, hv]
    · rw [hl]
      rfl
    · intro u hu
      rcases List.mem_cons.mp hu with rfl | hu
      · exact hn
      · exact hb u hu

/-- **How a tour ends.** -/
theorem ends (ht : Tour pass b s rest visits r) : Ending b.attempts rest visits r := by
  induction ht with
  | @exhausted b s =>
    obtain ⟨err, hend⟩ := endPass_result b s pass
    obtain ⟨_, _, _, _, heq, -⟩ := b.endPass_footprint s pass
    refine .exhausted err rfl ?_ ?_
    · rw [heq]
    · rw [hend]
      rfl
  | @passesBy b _ h _ _ _ _ _ ih =>
    have hn : ({ host := h, seen := b.hosts[h]? } : Visit α σ).isTry = false := by
      simp [Visit.isTry]
    exact ih.cons hn
  | @searches b b' s f h host rest visits r hh hx hs hf _ ih =>
    have hn : ({ host := h, seen := some host, finding := some f } : Visit α σ).isTry = false := by
      simp [Visit.isTry, hx]
    have hattempts : b'.attempts = b.attempts := by rw [(browses_of_searchHost hs).rest]
    rw [← hattempts]
    exact ih.cons hn
  | @finds b b' s f h host rest l _ _ hs _ =>
    refine .found l rest rfl ?_ rfl
    show b'.attempts = b.attempts
    rw [(browses_of_searchHost hs).rest]
  | @dials b b' s f h host rest hh ha hs hf =>
    have hbrowse := browses_of_searchHost hs
    obtain ⟨pool, hh', -⟩ := hbrowse.host h host hh
    refine .dials [] _ host _ rest rfl rfl rfl ?_ (by simp) ?_ rfl ⟨pool, hh'⟩
    · simp [Visit.isTry, ha, hf]
    · show host.address :: b'.attempts = host.address :: b.attempts
      rw [hbrowse.rest]

end Tour

/-! ### Turns and their errands -/

section

omit [DecidableEq α]

theorem poolAt_scheduleAttempt (b : Balancer α σ) (h j : HostId) :
    poolAt (b.scheduleAttempt h).hosts j = poolAt b.hosts j := by
  unfold Balancer.scheduleAttempt
  split
  · rename_i plan _
    unfold Balancer.installCheck
    dsimp only
    split
    · rename_i host hh
      split
      · rw [Balancer.cancelIfAny_eq]
        exact poolAt_set_same hh { host with check := some b.tasks.length } rfl j
      · rfl
    · rfl
  · rfl

/-- A failed connect leaves every pool as it is. -/
theorem poolAt_connectFailed (b : Balancer α σ) (h j : HostId) :
    poolAt (b.connectFailed h).hosts j = poolAt b.hosts j := by
  have hobserve (b' : Balancer α σ) : b'.observeTable.hosts = b'.hosts := by
    obtain ⟨_, _, _, _, heq, -⟩ := b'.observeTable_footprint
    rw [heq]
  unfold Balancer.connectFailed
  dsimp only
  split
  · rfl
  · rename_i host hh
    have hfailed : poolAt (b.hosts.set h
        (host.recordFailure (b.setup.health.map HealthPlan.threshold)).1) j = poolAt b.hosts j :=
      poolAt_set_same hh _ (host.pool_recordFailure _) j
    split
    · rw [hobserve, poolAt_scheduleAttempt]
      exact hfailed
    · exact hfailed

end

/-- What a turn of a selection is about. -/
inductive Errand (b : Balancer α σ) (e : Event α σ) (i : SelectionId) (s : Selection α σ)
    (r : Balancer α σ × Selection α σ) : Prop
  /-- The selection fails, and visits nobody before: there is nobody to visit,
  or it was waiting to close a connection. -/
  | fails (metrics : Metrics) (err : BalancerError) (hv : b.visitsIn i e = [])
      (hr : r = ({ b with metrics }, s.finish (.error err)))
      (hs : (i = b.selections.length ∧ s.shown = [] ∧ b.itinerary = []) ∨
        (b.selections[i]? = some s ∧ s.phase = .discarding))
  /-- Its connect succeeded. -/
  | arrives {outcome h pass rest host b' l} (hv : b.visitsIn i e = [])
      (he : e = .dialled i outcome) (hi : b.selections[i]? = some s)
      (hp : s.phase = .connecting h pass rest) (hh : b.hosts[h]? = some host)
      (ho : b.obtain host.address outcome = (b', .ok l)) (hr : r = b'.poolAndOffer s h l)
  /-- It begins its pass or goes on with it. -/
  | tours {b' pass rest} (ht : Tour pass b' s rest (b.visitsIn i e) r)
      (hb : ∃ hosts rotation tasks monitor metrics tape,
        b' = { b with hosts, rotation, tasks, monitor, metrics, tape })
      (hpools : ∀ j, poolAt b'.hosts j = poolAt b.hosts j)
      (hs : (i = b.selections.length ∧ s.shown = [] ∧ rest = b.itinerary) ∨
        ∃ h pass' reason, e = .dialled i (.refused reason) ∧ b.selections[i]? = some s ∧
          s.phase = .connecting h pass' rest)

section

variable {b : Balancer α σ} {e : Event α σ} {i : SelectionId} {s : Selection α σ}
  {r : Balancer α σ × Selection α σ}

theorem Turn.errand (ht : Turn b e i s r) : Errand b e i s r := by
  cases ht with
  | refused hc =>
    have hnobody : b.itinerary = [] := by simp [Balancer.itinerary, hc]
    refine .fails b.metrics _ ?_ rfl (.inl ⟨rfl, rfl, hnobody⟩)
    simp [Balancer.visitsIn, hnobody, Balancer.visits]
  | hostless ho ht =>
    have hnobody : b.itinerary = [] := by
      simp [Balancer.itinerary, Rotation.start?, ht]
    refine .fails _ _ ?_ rfl (.inl ⟨rfl, rfl, hnobody⟩)
    simp [Balancer.visitsIn, hnobody, Balancer.visits]
  | late hi hp => exact .fails _ _ rfl rfl (.inr ⟨hi, hp⟩)
  | @begins accepts start r ho hstart _ hw =>
    subst hw
    have horder : b.itinerary = cyclicFrom start b.table := by
      simp [Balancer.itinerary, ho, hstart]
    have hvisits : b.visitsIn b.selections.length (.select accepts) = Balancer.visits
        { b with
          rotation := b.rotation.advance
          metrics := { b.metrics with selections := b.metrics.selections + 1 } }
        accepts (cyclicFrom start b.table) := by
      rw [← horder]
      exact if_pos rfl
    have htour := tour_walk { size := b.table.length } (cyclicFrom start b.table)
      { b with
        rotation := b.rotation.advance
        metrics := { b.metrics with selections := b.metrics.selections + 1 } }
      { accepts }
    rw [← hvisits] at htour
    exact .tours htour ⟨_, _, _, _, _, _, rfl⟩ (fun _ => rfl) (.inl ⟨rfl, rfl, horder.symm⟩)
  | @connected i outcome s h pass rest host b' l hi hp hh ho =>
    refine .arrives ?_ rfl hi hp hh ho rfl
    cases outcome with
    | refused reason => simp [Balancer.obtain] at ho
    | opened => rfl
    | reopened c => rfl
  | @failed i reason s h pass rest host r hi hp hh _ hw =>
    subst hw
    have hlt := (List.getElem?_eq_some_iff.mp hh).1
    obtain ⟨_, _, _, _, _, heq, -⟩ := b.connectFailed_footprint h
    have hvisits : b.visitsIn i (.dialled i (.refused reason)) =
        (b.connectFailed h).visits s.accepts rest := by
      obtain ⟨accepts, shown, phase⟩ := s
      obtain rfl : phase = .connecting h pass rest := hp
      simp only [Balancer.visitsIn, hi, hlt, and_self, ↓reduceIte]
    have htour := tour_walk
      { pass with
        lastError := some (.connectFailed (b.setup.describe host.address) (.foreign reason)) }
      rest (b.connectFailed h) s
    rw [← hvisits] at htour
    exact .tours htour ⟨_, _, _, _, _, _, heq⟩ (poolAt_connectFailed b h)
      (.inr ⟨h, pass, reason, rfl, hi, hp⟩)

end

/-- An event that a selection goes on with: it begins, the connect it waits for
is over, or the connection it had to close is closed. -/
inductive Due (b : Balancer α σ) (i : SelectionId) : Event α σ → Prop
  | begins {accepts} (hi : i = b.selections.length) : Due b i (.select accepts)
  | dialled {outcome s h pass rest host} (hi : b.selections[i]? = some s)
      (hp : s.phase = .connecting h pass rest) (hh : b.hosts[h]? = some host) :
      Due b i (.dialled i outcome)
  | discarded {s} (hi : b.selections[i]? = some s) (hp : s.phase = .discarding) :
      Due b i (.discarded i)

section

variable {b : Balancer α σ} {e : Event α σ} {i : SelectionId} {s : Selection α σ}
  {r : Balancer α σ × Selection α σ}

theorem Turn.due (ht : Turn b e i s r) : Due b i e := by
  cases ht with
  | refused | hostless | begins => exact .begins rfl
  | connected hi hp hh _ => exact .dialled hi hp hh
  | failed hi hp hh => exact .dialled hi hp hh
  | late hi hp => exact .discarded hi hp

theorem Due.turn (hd : Due b i e) : ∃ s r, Turn b e i s r ∧
    b.step e = { r.1 with selections := (b.step e).selections } ∧
    (∀ s', b.selections[i]? = some s' → s' = s) ∧
    (b.step e).selections[i]? = some r.2 := by
  cases hd with
  | @begins accepts hi =>
    subst hi
    obtain ⟨r, ht, heq⟩ := turn_select (b := b) accepts
    have hstep : b.step (.select accepts) = { r.1 with selections := b.selections ++ [r.2] } := heq
    refine ⟨_, r, ht, ?_, by simp, ?_⟩
    · rw [hstep]
    · rw [hstep]
      exact List.getElem?_concat_length
  | @dialled outcome s h pass rest host hi hp hh =>
    obtain ⟨r, ht, heq⟩ := turn_of_connecting hi hp hh outcome
    have hstep : b.step (.dialled i outcome) = { r.1 with selections := b.selections.set i r.2 } :=
      heq
    refine ⟨s, r, ht, ?_, fun s' hi' => Option.some.inj (hi'.symm.trans hi), ?_⟩
    · rw [hstep]
    · rw [hstep]
      exact List.getElem?_set_self (List.getElem?_eq_some_iff.mp hi).1
  | @discarded s hi hp =>
    obtain ⟨r, ht, heq⟩ := turn_of_discarding hi hp
    have hstep : b.step (.discarded i) = { r.1 with selections := b.selections.set i r.2 } := heq
    refine ⟨s, r, ht, ?_, fun s' hi' => Option.some.inj (hi'.symm.trans hi), ?_⟩
    · rw [hstep]
    · rw [hstep]
      exact List.getElem?_set_self (List.getElem?_eq_some_iff.mp hi).1

/-- A selection that an event does not concern stays as it is. -/
theorem selections_of_not_due (hn : ¬ Due b i e) :
    (b.step e).selections[i]? = b.selections[i]? := by
  obtain hsame | ⟨s, r, ht, -⟩ := selection_step b e i
  · exact hsame
  · exact absurd ht.due hn

/-- Only a selection that goes on visits hosts. -/
theorem visitsIn_of_not_due (hn : ¬ Due b i e) : b.visitsIn i e = [] := by
  unfold Balancer.visitsIn
  split
  · exact if_neg fun hi => hn (.begins hi)
  · rename_i j reason
    split
    · rename_i accepts shown h pass rest hi
      refine if_neg fun hc => hn ?_
      obtain ⟨rfl, hlt⟩ := hc
      exact .dialled hi rfl (List.getElem?_eq_getElem hlt)
    · rfl
  · rfl

end

end
end HostRotation
