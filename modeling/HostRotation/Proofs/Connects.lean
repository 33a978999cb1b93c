/-
# Who begins connects, and to which hosts

The balancer opens connections in two places. A selection begins a connect to
a host that is active and that it has just searched in vain; a health task
begins one to a host that is unhealthy. Both look at the status the host has in
this step, and a host that is neither expired nor closed is in the table, so no
connect ever begins to a host that expired or left (`attempts_step`), however
old the pass or the task is.

A selection visits the hosts of the table as it was when the selection began,
in cyclic order from the place where its pass starts. `Course` says how far it
has come: the hosts visited and the hosts left make up this order as long as
the selection waits for a connect, and when one has succeeded, the selection is
over. Every turn keeps this (`course_step`).

Key theorem: `connect_discipline`.
-/
import HostRotation.Proofs.Tours
import Mathlib.Data.List.Induction

namespace HostRotation

variable {α σ : Type}

/-! ### Cyclic order -/

section

variable {β : Type} {start : Nat} {xs : List β}

theorem length_cyclicFrom (start : Nat) (xs : List β) :
    (cyclicFrom start xs).length = xs.length := by
  rw [cyclicFrom, List.length_append, List.length_drop, List.length_take]
  omega

theorem nodup_cyclicFrom (hn : xs.Nodup) (start : Nat) : (cyclicFrom start xs).Nodup := by
  have hperm : (cyclicFrom start xs).Perm xs := by
    rw [cyclicFrom]
    exact List.perm_append_comm.trans (List.Perm.of_eq (List.take_append_drop start xs))
  exact hperm.nodup_iff.mpr hn

/-- The entries come one after the other, and the first after the last. -/
theorem getElem?_cyclicFrom (hs : start < xs.length) {k : Nat} (hk : k < xs.length) :
    (cyclicFrom start xs)[k]? = xs[(start + k) % xs.length]? := by
  have hdrop : (xs.drop start).length = xs.length - start := List.length_drop
  rw [cyclicFrom]
  by_cases hwrap : start + k < xs.length
  · rw [Nat.mod_eq_of_lt hwrap, List.getElem?_append_left (by omega), List.getElem?_drop]
  · have hmod : (start + k) % xs.length = start + k - xs.length := by
      rw [Nat.mod_eq_sub_mod (by omega)]
      exact Nat.mod_eq_of_lt (by omega)
    have hlt : k - (xs.length - start) < start := by omega
    have heq : k - (xs.length - start) = start + k - xs.length := by omega
    rw [hmod, List.getElem?_append_right (by omega), hdrop, List.getElem?_take_of_lt hlt, heq]

end

/-! ### Connects that begin -/

section

variable [DecidableEq α]

/-- In the step a selection begins a connect to a host: the host is active, and
the last thing the selection did was to search its pool, which returned none. -/
structure SelectionDials (b : Balancer α σ) (e : Event α σ) (i : SelectionId) (h : HostId)
    (host : Host α (Link α)) : Prop where
  active : host.status = .active
  searched : ∃ before v, b.visitsIn i e = before ++ [v] ∧ v.host = h ∧ v.isTry = true
  waits : ∃ s pass rest, (b.step e).selections[i]? = some s ∧ s.phase = .connecting h pass rest

/-- In the step a task begins a connect to the host that it checks: the host
is unhealthy. -/
structure TaskDials (b : Balancer α σ) (e : Event α σ) (t : TaskId) (h : HostId)
    (host : Host α (Link α)) : Prop where
  unhealthy : host.status = .unhealthy
  starts : e = .startTask t
  checks : ∃ task, b.tasks[t]? = some task ∧ task.kind = .health h

variable {b : Balancer α σ} {e : Event α σ} {i : SelectionId} {s : Selection α σ}
  {r : Balancer α σ × Selection α σ}

/-- A turn of a selection begins one connect at most. -/
theorem attempts_turn (ht : Turn b e i s r)
    (hstep : b.step e = { r.1 with selections := (b.step e).selections })
    (hsel : (b.step e).selections[i]? = some r.2) :
    (b.step e).attempts = b.attempts ∨ ∃ h host, (b.step e).hosts[h]? = some host ∧
      (b.step e).attempts = host.address :: b.attempts ∧ SelectionDials b e i h host := by
  have hattempts : (b.step e).attempts = r.1.attempts := by rw [hstep]
  have hhosts : (b.step e).hosts = r.1.hosts := by rw [hstep]
  rw [hattempts, hhosts]
  cases ht.errand with
  | fails metrics err _ hr =>
    rw [hr]
    exact .inl rfl
  | @arrives outcome h pass rest host b' l _ _ _ _ _ ho hr =>
    obtain ⟨connections, rfl⟩ := Balancer.connections_of_obtain ho
    obtain ⟨_, _, _, _, _, hoffer, -⟩ := { b with connections }.poolAndOffer_footprint h s l
    refine .inl ?_
    rw [hr, hoffer]
  | @tours b' pass rest htour hb _ _ =>
    obtain ⟨_, _, _, _, _, _, hb⟩ := hb
    have hsame : b'.attempts = b.attempts := by rw [hb]
    cases htour.ends with
    | exhausted _ _ ha _ => exact .inl (ha.trans hsame)
    | found _ _ _ ha _ => exact .inl (ha.trans hsame)
    | dials before v host pass' left _ hl hs hv _ ha hp hh =>
      obtain ⟨pool, hh⟩ := hh
      have hactive : host.status = .active := by
        simp only [Visit.isTry, hs, Option.any_some, Bool.and_eq_true, decide_eq_true_eq] at hv
        exact hv.1
      refine .inr ⟨v.host, { host with pool }, hh, ?_, hactive, ⟨before, v, hl, rfl, hv⟩,
        ⟨r.2, pass', left, hsel, hp⟩⟩
      rw [ha, hsame]

omit [DecidableEq α] in
/-- A task that starts begins a connect to a host that is unhealthy, or none. -/
theorem attempts_startTask (b : Balancer α σ) (t : TaskId) :
    (b.startTask t).attempts = b.attempts ∨ ∃ h host, (b.startTask t).hosts[h]? = some host ∧
      (b.startTask t).attempts = host.address :: b.attempts ∧
      TaskDials b (.startTask t) t h host := by
  unfold Balancer.startTask
  split
  · exact .inl rfl
  · rename_i task ht
    split
    · exact .inl rfl
    · split
      · exact .inl rfl
      · rename_i h hk
        split
        · exact .inl rfl
        · rename_i host hh
          split
          · rename_i hu
            exact .inr ⟨h, host, hh, rfl, hu, rfl, task, ht, hk⟩
          · exact .inl rfl

/-- **Who begins connects.** In a step at most one connect begins, and its host
is in the table. -/
theorem attempts_step (ht : Tidy b.hosts b.table []) (e : Event α σ) :
    (b.step e).attempts = b.attempts ∨ ∃ h ∈ (b.step e).table, ∃ host,
      (b.step e).hosts[h]? = some host ∧ (b.step e).attempts = host.address :: b.attempts ∧
      ((∃ i, SelectionDials b e i h host) ∨ ∃ t, TaskDials b e t h host) := by
  have htidy := tidy_step e ht
  by_cases hs : e.Selects
  · obtain heq | ⟨i, s, r, hturn, hstep, -, hsel⟩ := turn_step (b := b) hs
    · rw [heq]
      exact .inl rfl
    · have hi : (b.step e).selections[i]? = some r.2 := by rw [hsel, if_pos rfl]
      refine (attempts_turn hturn hstep hi).imp_right ?_
      rintro ⟨h, host, hh, ha, hd⟩
      exact ⟨h, htidy.mem_of_ne_closed hh (by simp [hd.active]), host, hh, ha, .inl ⟨i, hd⟩⟩
  · by_cases htask : ∃ t, e = .startTask t
    · obtain ⟨t, rfl⟩ := htask
      refine (attempts_startTask b t).imp_right ?_
      rintro ⟨h, host, hh, ha, hd⟩
      exact ⟨h, htidy.mem_of_ne_closed hh (by simp [hd.unhealthy]), host, hh, ha, .inr ⟨t, hd⟩⟩
    · exact .inl (b.attempts_step_of_ne hs fun t he => htask ⟨t, he⟩)

/-! ### The course of a selection -/

namespace Balancer

/-- The host to which a selection waits for its connect. -/
def dialling? (b : Balancer α σ) (i : SelectionId) : Option HostId :=
  (b.selections[i]?).bind fun s =>
    match s.phase with
    | .connecting h _ _ => some h
    | _ => none

/-- Whether an event ends the connect of a selection with a connection. -/
def succeeds (b : Balancer α σ) (i : SelectionId) : Event α σ → Bool
  | .dialled j outcome => i = j && ((b.dialling? i).bind fun h => b.hosts[h]?).any fun host =>
      (b.obtain host.address outcome).2.isOk
  | _ => false

/-- How many connects of a selection succeed along a run. -/
def successes (b : Balancer α σ) (i : SelectionId) : List (Event α σ) → Nat
  | [] => 0
  | e :: events => (b.succeeds i e).toNat + (b.step e).successes i events

theorem successes_append (b : Balancer α σ) (i : SelectionId) (events events' : List (Event α σ)) :
    b.successes i (events ++ events') =
      b.successes i events + (b.run events).successes i events' := by
  induction events generalizing b with
  | nil => exact (Nat.zero_add _).symm
  | cons e events ih =>
    rw [List.cons_append, successes, successes, ih, Nat.add_assoc]
    rfl

end Balancer

/-- How far a selection has come that is to visit hosts in an order: which it
visited, and how many of its connects succeeded. -/
inductive Course (order : List HostId) (visits : List (Visit α σ)) (successes : Nat)
    (s : Selection α σ) : Prop
  /-- It waits for a connect to one of them, and has the others left. -/
  | connecting {h pass rest} (hp : s.phase = .connecting h pass rest) (hm : h ∈ order)
      (hv : visits.map Visit.host ++ rest = order) (hn : successes = 0)
  /-- It waits for no connect, and never will again. -/
  | settled (left : List HostId) (hp : ∀ h pass rest, s.phase ≠ .connecting h pass rest)
      (hv : visits.map Visit.host ++ left = order) (hn : successes ≤ 1)
      (hl : left = [] ∨ (∃ l, s.result? = some (.ok l)) ∨ successes = 1)

omit [DecidableEq α] in
theorem dialling?_eq_some {h : HostId} (hd : b.dialling? i = some h) :
    ∃ s pass rest, b.selections[i]? = some s ∧ s.phase = .connecting h pass rest := by
  unfold Balancer.dialling? at hd
  obtain ⟨s, hi, hs⟩ := Option.bind_eq_some_iff.mp hd
  cases hp : s.phase with
  | connecting h' pass rest =>
    simp only [hp, Option.some.injEq] at hs
    subst hs
    exact ⟨s, pass, rest, hi, hp⟩
  | walking | discarding | done => simp [hp] at hs

omit [DecidableEq α] in
theorem dialling?_of_connecting {h : HostId} {pass : Pass} {rest : List HostId}
    (hi : b.selections[i]? = some s) (hp : s.phase = .connecting h pass rest) :
    b.dialling? i = some h := by
  simp [Balancer.dialling?, hi, hp]

omit [DecidableEq α] in
/-- Only the end of its own connect is a success of a selection. -/
theorem due_of_succeeds (hs : b.succeeds i e = true) : ∃ h pass rest host outcome s,
    e = .dialled i outcome ∧ b.selections[i]? = some s ∧ s.phase = .connecting h pass rest ∧
      b.hosts[h]? = some host ∧ (b.obtain host.address outcome).2.isOk = true := by
  cases e with
  | dialled j outcome =>
    simp only [Balancer.succeeds, Bool.and_eq_true, decide_eq_true_eq, Option.any_eq_true,
      Option.bind_eq_some_iff] at hs
    obtain ⟨rfl, host, ⟨h, hd, hh⟩, hok⟩ := hs
    obtain ⟨s, pass, rest, hi, hp⟩ := dialling?_eq_some hd
    exact ⟨h, pass, rest, host, outcome, s, rfl, hi, hp, hh, hok⟩
  | _ => simp [Balancer.succeeds] at hs

omit [DecidableEq α] in
/-- The hosts of a tour come next. -/
theorem course_tour {attempts : List α} {order rest : List HostId}
    {before visits : List (Visit α σ)} {n : Nat} (he : Tour.Ending attempts rest visits r)
    (hv : before.map Visit.host ++ rest = order) (hn : n = 0) :
    Course order (before ++ visits) n r.2 := by
  subst hn
  cases he with
  | exhausted err hvisits _ hp =>
    refine .settled [] (by simp [hp]) ?_ (Nat.zero_le 1) (.inl rfl)
    rw [List.append_nil, List.map_append, hvisits, hv]
  | found l left hvisits _ hp =>
    refine .settled left (by simp [hp]) ?_ (Nat.zero_le 1) (.inr (.inl ⟨l, ?_⟩))
    · rw [List.map_append, List.append_assoc, hvisits, hv]
    · rw [Selection.result?, hp]
  | dials earlier v host pass left hvisits hl _ _ _ _ hp _ =>
    refine .connecting hp ?_ ?_ rfl
    · rw [← hv, ← hvisits, hl]
      simp
    · rw [List.map_append, List.append_assoc, hvisits, hv]

/-- A turn keeps a selection on its course. -/
theorem course_turn {order : List HostId} {visits : List (Visit α σ)} {n : Nat}
    (hc : Course order visits n s) (hi : b.selections[i]? = some s) (ht : Turn b e i s r) :
    Course order (visits ++ b.visitsIn i e) (n + (b.succeeds i e).toNat) r.2 := by
  have hbegun : i ≠ b.selections.length :=
    Nat.ne_of_lt (List.getElem?_eq_some_iff.mp hi).1
  cases ht.errand with
  | fails metrics err hv hr hwhy =>
    have hlate : s.phase = .discarding := (hwhy.resolve_left fun h => hbegun h.1).2
    have hnot : b.succeeds i e = false := by
      refine Bool.eq_false_iff.mpr fun hsucc => ?_
      obtain ⟨_, _, _, _, _, s', -, hi', hp', -⟩ := due_of_succeeds hsucc
      obtain rfl := Option.some.inj (hi'.symm.trans hi)
      simp [hlate] at hp'
    rw [hv, hnot, List.append_nil]
    cases hc with
    | connecting hp => simp [hlate] at hp
    | settled left _ hv' hn hl =>
      refine .settled left (by simp [hr, Selection.finish]) hv' hn ?_
      have hl : left = [] ∨ n = 1 := by simpa [Selection.result?, hlate] using hl
      exact hl.imp_right .inr
  | @arrives outcome h pass rest host b' l hv he _ hp hh ho hr =>
    have hsucc : b.succeeds i e = true := by
      subst he
      simp [Balancer.succeeds, dialling?_of_connecting hi hp, hh, ho, Except.isOk, Except.toBool]
    have hh' : b'.hosts[h]? = some host := (Balancer.obtain_ok ho).1 ▸ hh
    rw [hv, hsucc, List.append_nil]
    cases hc with
    | settled _ hnot => exact absurd hp (hnot _ _ _)
    | @connecting h' pass' rest' _ _ hv' hn =>
      refine .settled rest' (fun h'' pass'' rest'' hp'' => ?_) hv' (by simp [hn]) (by simp [hn])
      subst hr
      obtain hphase | ⟨_, hphase⟩ := poolAndOffer_over hh' s l
      · rw [hphase] at hp''
        simp at hp''
      · rw [hphase] at hp''
        simp at hp''
  | @tours b' pass rest htour _ _ hwhy =>
    obtain ⟨h, pass', reason, rfl, -, hp⟩ := hwhy.resolve_left fun h => hbegun h.1
    have hnot : b.succeeds i (.dialled i (.refused reason)) = false := by
      refine Bool.eq_false_iff.mpr fun hsucc => ?_
      obtain ⟨_, _, _, _, _, _, he, -, -, -, hok⟩ := due_of_succeeds hsucc
      obtain ⟨-, rfl⟩ := Event.dialled.inj he
      simp [Balancer.obtain, Except.isOk, Except.toBool] at hok
    rw [hnot]
    cases hc with
    | settled _ hnot => exact absurd hp (hnot _ _ _)
    | @connecting h' pass'' rest' hp' _ hv' hn =>
      obtain ⟨-, -, rfl⟩ := SelectionPhase.connecting.inj (hp'.symm.trans hp)
      exact course_tour htour.ends hv' hn

/-- Whatever happens, a selection keeps to its course. -/
theorem course_step {order : List HostId} {visits : List (Visit α σ)} {n : Nat}
    (hc : Course order visits n s) (hi : b.selections[i]? = some s) (e : Event α σ) :
    ∃ s', (b.step e).selections[i]? = some s' ∧
      Course order (visits ++ b.visitsIn i e) (n + (b.succeeds i e).toNat) s' := by
  by_cases hd : Due b i e
  · obtain ⟨s₀, r, ht, -, hs, hsel⟩ := hd.turn
    obtain rfl := hs s hi
    exact ⟨r.2, hsel, course_turn hc hi ht⟩
  · refine ⟨s, (selections_of_not_due hd).trans hi, ?_⟩
    have hnot : b.succeeds i e = false := by
      refine Bool.eq_false_iff.mpr fun hsucc => hd ?_
      obtain ⟨_, _, _, _, _, _, rfl, hi', hp', hh', -⟩ := due_of_succeeds hsucc
      exact .dialled hi' hp' hh'
    rw [visitsIn_of_not_due hd, hnot, List.append_nil]
    exact hc

/-- A selection that begins sets out on its course. -/
theorem course_begins (b : Balancer α σ) (accepts : Selector (Link α) σ) :
    ∃ s, (b.step (.select accepts)).selections[b.selections.length]? = some s ∧
      Course b.itinerary (b.visitsIn b.selections.length (.select accepts)) 0 s := by
  have hd : Due b b.selections.length (.select accepts) := .begins rfl
  obtain ⟨s, r, ht, -, -, hsel⟩ := hd.turn
  refine ⟨r.2, hsel, ?_⟩
  have hnew : b.selections[b.selections.length]? = none := List.getElem?_eq_none (Nat.le_refl _)
  cases ht.errand with
  | fails metrics err hv hr hwhy =>
    have hnobody : b.itinerary = [] := by
      refine (hwhy.resolve_right fun h => ?_).2.2
      rw [hnew] at h
      simp at h
    rw [hv, hnobody, hr]
    exact .settled [] (by simp [Selection.finish]) rfl (Nat.zero_le 1) (.inl rfl)
  | arrives _ he => simp at he
  | @tours b' pass rest htour _ _ hwhy =>
    obtain ⟨-, -, rfl⟩ | ⟨_, _, _, he, -⟩ := hwhy
    case inr => simp at he
    have hcourse : Course b.itinerary ([] ++ b.visitsIn b.selections.length (.select accepts)) 0
        r.2 := course_tour htour.ends rfl rfl
    rwa [List.nil_append] at hcourse

/-- **The course of a selection**, from its beginning on. -/
theorem course_run (b : Balancer α σ) (accepts : Selector (Link α) σ) (later : List (Event α σ)) :
    let i := b.selections.length
    let events := Event.select accepts :: later
    ∃ s, (b.run events).selections[i]? = some s ∧
      Course b.itinerary (b.visited i events) (b.successes i events) s := by
  induction later using List.reverseRecOn with
  | nil =>
    obtain ⟨s, hi, hc⟩ := course_begins b accepts
    refine ⟨s, hi, ?_⟩
    rw [Balancer.visited, Balancer.visited, List.append_nil]
    exact hc
  | append_singleton later e ih =>
    obtain ⟨s, hi, hc⟩ := ih
    obtain ⟨s', hi', hc'⟩ := course_step hc hi e
    refine ⟨s', ?_, ?_⟩
    · rw [← List.cons_append, Balancer.run_append]
      exact hi'
    · rw [← List.cons_append, Balancer.visited_concat, Balancer.successes_append]
      exact hc'

/-! ### The order of a pass -/

omit [DecidableEq α] in
/-- A pass goes over the table in cyclic order, and over no host twice. -/
theorem itinerary_eq_some {k : Nat} {h : HostId} (hk : b.itinerary[k]? = some h) :
    ∃ start, b.rotation.start? b.table.length = some start ∧
      b.table[(start + k) % b.table.length]? = some h := by
  unfold Balancer.itinerary at hk
  split at hk
  · simp at hk
  · split at hk
    · rename_i start hstart
      refine ⟨start, hstart, ?_⟩
      have hlt : start < b.table.length := by
        unfold Rotation.start? at hstart
        split at hstart
        · simp at hstart
        · rename_i hne
          obtain rfl := Option.some.inj hstart
          exact Nat.mod_lt _ (Nat.pos_of_ne_zero hne)
      have hlen := (List.getElem?_eq_some_iff.mp hk).1
      rw [length_cyclicFrom] at hlen
      rw [← getElem?_cyclicFrom hlt hlen]
      exact hk
    · simp at hk

omit [DecidableEq α] in
theorem nodup_itinerary (hn : b.table.Nodup) : b.itinerary.Nodup := by
  unfold Balancer.itinerary
  split
  · exact .nil
  · split
    · exact nodup_cyclicFrom hn _
    · exact .nil

omit [DecidableEq α] in
theorem length_itinerary (ho : b.isClosed = false) : b.itinerary.length = b.table.length := by
  unfold Balancer.itinerary
  simp only [ho, Bool.false_eq_true, ↓reduceIte]
  split
  · exact length_cyclicFrom _ _
  · rename_i hstart
    unfold Rotation.start? at hstart
    split at hstart
    · rename_i hlen
      rw [hlen]
      rfl
    · simp at hstart

omit [DecidableEq α] in
theorem length_itinerary_le (b : Balancer α σ) : b.itinerary.length ≤ b.table.length := by
  cases ho : b.isClosed with
  | false => exact Nat.le_of_eq (length_itinerary ho)
  | true => simp [Balancer.itinerary, ho]

omit [DecidableEq α] in
/-- What a selection visits is the first part of its itinerary. -/
theorem Course.visits_first {order : List HostId} {visits : List (Visit α σ)} {n : Nat}
    (hc : Course order visits n s) : ∃ left, visits.map Visit.host ++ left = order := by
  cases hc with
  | connecting _ _ hv _ => exact ⟨_, hv⟩
  | settled left _ hv _ _ => exact ⟨left, hv⟩

omit [DecidableEq α] in
theorem Course.successes_le {order : List HostId} {visits : List (Visit α σ)} {n : Nat}
    (hc : Course order visits n s) : n ≤ 1 := by
  cases hc with
  | connecting _ _ _ hn => omega
  | settled _ _ _ hn _ => exact hn

/-- A selection that waits for no connect visits nobody any more. -/
theorem visited_of_settled (hi : b.selections[i]? = some s)
    (hp : ∀ h pass rest, s.phase ≠ .connecting h pass rest) (more : List (Event α σ)) :
    b.dialling? i = none ∧ (b.run more).dialling? i = none ∧ b.visited i more = [] := by
  have hnone {b : Balancer α σ} {s : Selection α σ} (hi : b.selections[i]? = some s)
      (hp : ∀ h pass rest, s.phase ≠ .connecting h pass rest) : b.dialling? i = none := by
    cases hd : b.dialling? i with
    | none => rfl
    | some h =>
      obtain ⟨s', pass, rest, hi', hp'⟩ := dialling?_eq_some hd
      obtain rfl := Option.some.inj (hi'.symm.trans hi)
      exact absurd hp' (hp h pass rest)
  refine ⟨hnone hi hp, ?_⟩
  induction more generalizing b s with
  | nil => exact ⟨hnone hi hp, rfl⟩
  | cons e more ih =>
    -- A course without visits and successes that is settled stays so.
    have hc : Course [] ([] : List (Visit α σ)) 1 s :=
      .settled [] hp rfl (Nat.le_refl 1) (.inl rfl)
    obtain ⟨s', hi', hc'⟩ := course_step hc hi e
    obtain ⟨left, hleft⟩ := hc'.visits_first
    have hnobody : b.visitsIn i e = [] := by
      rw [List.nil_append] at hleft
      exact List.map_eq_nil_iff.mp (List.append_eq_nil_iff.mp hleft).1
    have hp' : ∀ h pass rest, s'.phase ≠ .connecting h pass rest := by
      cases hc' with
      | connecting _ _ _ hn => omega
      | settled _ hp' => exact hp'
    obtain ⟨hdial, hvisited⟩ := ih hi' hp'
    refine ⟨hdial, ?_⟩
    rw [Balancer.visited, hnobody, hvisited]
    rfl

/-- **Connects are begun with discipline.** In a step at most one connect
begins. A selection begins it to a host of the table that is active and whose
pool it has just searched in vain; or a health task does, to a host of the
table that is unhealthy.

The `k`-th host that a selection visits is `k` places behind the start of its
pass, in cyclic order, in the table as it was when the selection began. It
visits no host twice, so it tries none twice, and it visits all if it ends
without a connection and none of its connects succeeded. At most one connect
succeeds, and then it waits for no other and visits nobody any more. -/
theorem connect_discipline (setup : Setup α) (tape : Tape) (callers : σ)
    (events : List (Event α σ)) :
    let b := (Balancer.start setup tape callers).run events
    (∀ e, (b.step e).attempts = b.attempts ∨ ∃ h ∈ (b.step e).table, ∃ host,
      (b.step e).hosts[h]? = some host ∧ (b.step e).attempts = host.address :: b.attempts ∧
      ((∃ i, SelectionDials b e i h host) ∨ ∃ t, TaskDials b e t h host)) ∧
    ∀ accepts later,
      let i := b.selections.length
      let course := Event.select accepts :: later
      let visits := b.visited i course
      let b' := b.run course
      (∀ (k : Nat) v, visits[k]? = some v → ∃ start,
        b.rotation.start? b.table.length = some start ∧
        b.table[(start + k) % b.table.length]? = some v.host) ∧
      visits.length ≤ b.table.length ∧
      (visits.map Visit.host).Nodup ∧
      ((visits.filter Visit.isTry).map Visit.host).Nodup ∧
      (b.isClosed = false → b'.dialling? i = none → (∀ l, b'.result? i ≠ some (.ok l)) →
        b.successes i course = 0 → visits.length = b.table.length) ∧
      b.successes i course ≤ 1 ∧
      (b.successes i course = 1 → b'.dialling? i = none ∧
        ∀ more, (b'.run more).dialling? i = none ∧ b'.visited i more = []) := by
  intro b
  have ht : Tidy b.hosts b.table [] := tidy_run setup tape callers events
  refine ⟨attempts_step ht, fun accepts later => ?_⟩
  intro i course visits b'
  obtain ⟨s, hi, hc⟩ : ∃ s, b'.selections[i]? = some s ∧
    Course b.itinerary visits (b.successes i course) s := course_run b accepts later
  obtain ⟨left, hv⟩ := hc.visits_first
  have hnodup : (visits.map Visit.host).Nodup := by
    have hall : (visits.map Visit.host ++ left).Nodup := hv ▸ nodup_itinerary ht.nodup
    exact (List.nodup_append.mp hall).1
  refine ⟨fun k v hk => ?_, ?_, hnodup, ?_, fun ho hd hr hn => ?_, hc.successes_le, fun hn => ?_⟩
  · apply itinerary_eq_some
    rw [← hv]
    have hlt := (List.getElem?_eq_some_iff.mp hk).1
    rw [List.getElem?_append_left (by simpa using hlt), List.getElem?_map, hk]
    rfl
  · calc visits.length
      _ = (visits.map Visit.host).length := (List.length_map _).symm
      _ ≤ (visits.map Visit.host ++ left).length := by
        rw [List.length_append]
        exact Nat.le_add_right _ _
      _ = b.itinerary.length := by rw [hv]
      _ ≤ b.table.length := length_itinerary_le b
  · exact hnodup.sublist (List.filter_sublist.map _)
  · cases hc with
    | connecting hp => simp [Balancer.dialling?, hi, hp] at hd
    | settled left _ hv' _ hl =>
      have hok : ∀ l, s.result? ≠ some (.ok l) := by
        intro l hl
        exact hr l (by simp [Balancer.result?, hi, hl])
      have hnone : left = [] := by
        rcases hl with hl | ⟨l, hl⟩ | hl
        · exact hl
        · exact absurd hl (hok l)
        · omega
      rw [← length_itinerary ho, ← hv', hnone, List.append_nil, List.length_map]
  · cases hc with
    | connecting _ _ _ hn' => omega
    | settled _ hp =>
      exact ⟨(visited_of_settled hi hp []).1, fun more => (visited_of_settled hi hp more).2⟩

end

/-- Two hosts are announced. -/
def twoHosts : List (Event Nat Unit) :=
  [.startReconciler, .deliver (.batch [⟨1, .available⟩, ⟨2, .available⟩]), .takeNotice]

/-- The connect to the first host fails, the one to the second succeeds. -/
theorem twoHosts_discipline :
    let b := (freshBalancer true).run twoHosts
    let course := [.select (.pure fun _ => true), .dialled 0 (.refused "down"), .dialled 0 .opened]
    (b.visited 0 course).map Visit.host = [0, 1] ∧ b.successes 0 course = 1 ∧
      (b.run course).dialling? 0 = none ∧ (b.run course).attempts = [2, 1] := by
  intro b course
  have hn : b.successes 0 course = 1 := by decide
  obtain ⟨-, -, -, -, -, -, hover⟩ :=
    (connect_discipline (plainSetup true) (.ofSeed 0) () twoHosts).2 (.pure fun _ => true)
      [.dialled 0 (.refused "down"), .dialled 0 .opened]
  exact ⟨by decide, hn, (hover hn).1, by decide⟩

end HostRotation
