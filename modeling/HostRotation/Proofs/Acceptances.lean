/-
# No acceptance is dropped

What the selector of a selection said so far and how far the selection has
come always fit (`verdict_step`): either all it said was no, and the selection
has returned no connection; or the last thing it said was yes, to the
connection that the selection has returned.

A selection comes to an end: it waits for a connect or for a connection to be
closed, and each time this is over it has less to do than before
(`waits_step`). And if every connect ends with a new connection, it asks about
no connection twice: the pools of the hosts that it has yet to visit hold
nothing that it asked about (`Unseen`).

Key theorem: `acceptance_kept`.
-/
import HostRotation.Proofs.Connects
import HostRotation.Proofs.Custody
import HostRotation.Proofs.Epilogue
import HostRotation.Proofs.Reservations

namespace HostRotation

variable {α σ : Type}

/-! ### Verdicts -/

section

variable [DecidableEq α] {b : Balancer α σ} {e : Event α σ}

theorem verdict_step (hb : ∀ s ∈ b.selections, Verdict s.granted s.shown) :
    ∀ s ∈ (b.step e).selections, Verdict s.granted s.shown := by
  refine selections_keep hb (fun _ _ => id) fun i s r ht _ => ?_
  obtain ⟨new, hasks⟩ := ht.asks
  have hbefore : Verdict none s.shown := by
    obtain hmem | ⟨accepts, -, rfl⟩ := ht.origin
    · rw [← Selection.granted_of_unfinished ht.unfinished]
      exact hb s hmem
    · exact .nil
  rw [hasks.shown]
  exact hbefore.append hasks.verdict

/-! ### Progress -/

/-- Between steps a selection waits for a connect to a host that exists, waits
for a connection to be closed, or is done. -/
inductive Poised (hosts : Nat) (s : Selection α σ) : Prop
  | connecting {h pass rest} (hp : s.phase = .connecting h pass rest) (hh : h < hosts)
  | discarding (hp : s.phase = .discarding)
  | done {result} (hp : s.phase = .done result)

/-- A bound on how often a selection still has to wait. -/
def Selection.waits (s : Selection α σ) : Nat :=
  match s.phase with
  | .connecting _ _ rest => rest.length + 2
  | .discarding => 1
  | _ => 0

namespace Balancer

/-- A bound on how often a selection still has to wait. -/
def waits (b : Balancer α σ) (i : SelectionId) : Nat :=
  ((b.selections[i]?).map Selection.waits).getD 0

/-- Whether an event is what a selection waits for. -/
def resumes (b : Balancer α σ) (i : SelectionId) (e : Event α σ) : Bool :=
  match (b.selections[i]?).map Selection.phase, e with
  | some (.connecting _ _ _), .dialled j _ => i = j
  | some .discarding, .discarded j => i = j
  | _, _ => false

/-- How often what a selection waits for happens along a run. -/
def resumptions (b : Balancer α σ) (i : SelectionId) : List (Event α σ) → Nat
  | [] => 0
  | e :: events => (b.resumes i e).toNat + (b.step e).resumptions i events

end Balancer

theorem poised_step (hb : ∀ s ∈ b.selections, Poised b.hosts.length s) :
    ∀ s ∈ (b.step e).selections, Poised (b.step e).hosts.length s := by
  have hgrows : b.hosts.length ≤ (b.step e).hosts.length := (extends_run b [e]).length_le
  refine selections_keep hb (fun s _ hs => ?_) fun i s r ht hstep => ?_
  · cases hs with
    | connecting hp hh => exact .connecting hp (Nat.lt_of_lt_of_le hh hgrows)
    | discarding hp => exact .discarding hp
    | done hp => exact .done hp
  · cases ht.errand with
    | fails _ _ _ hr =>
      subst hr
      exact .done rfl
    | arrives _ _ _ _ hh ho hr =>
      subst hr
      have hh' := (Balancer.obtain_ok ho).1 ▸ hh
      obtain hp | ⟨_, hp⟩ := poolAndOffer_over hh' s _
      · exact .discarding hp
      · exact .done hp
    | tours htour =>
      cases htour.ends with
      | exhausted _ _ _ hp => exact .done hp
      | found _ _ _ _ hp => exact .done hp
      | dials _ v _ _ _ _ _ _ _ _ _ hp hh =>
        obtain ⟨_, hh⟩ := hh
        have hhosts : (b.step e).hosts = r.1.hosts := by rw [hstep]
        rw [hhosts]
        exact .connecting hp (List.getElem?_eq_some_iff.mp hh).1

omit [DecidableEq α] in
/-- A selection that has begun goes on with what it waits for. -/
theorem resumes_iff_due {i : SelectionId} (hb : ∀ s ∈ b.selections, Poised b.hosts.length s)
    (hi : i < b.selections.length) : b.resumes i e = true ↔ Due b i e := by
  constructor
  · intro hr
    unfold Balancer.resumes at hr
    split at hr
    · rename_i h pass rest j outcome hphase
      obtain ⟨s, hi, hp⟩ := Option.map_eq_some_iff.mp hphase
      obtain rfl : i = j := by simpa using hr
      cases hb s (List.mem_of_getElem? hi) with
      | connecting hp' hh => exact .dialled hi hp' (List.getElem?_eq_getElem hh)
      | discarding hp' | done hp' =>
        rw [hp'] at hp
        simp at hp
    · rename_i j hphase
      obtain ⟨s, hi, hp⟩ := Option.map_eq_some_iff.mp hphase
      obtain rfl : i = j := by simpa using hr
      exact .discarded hi hp
    · simp at hr
  · intro hd
    unfold Balancer.resumes
    cases hd with
    | begins heq => exact absurd heq (Nat.ne_of_lt hi)
    | dialled hi hp _ => simp [hi, hp]
    | discarded hi hp => simp [hi, hp]

/-- After a turn a selection has less to wait for. -/
theorem waits_turn {i : SelectionId} {s : Selection α σ} {r : Balancer α σ × Selection α σ}
    (hi : i < b.selections.length) (ht : Turn b e i s r) : r.2.waits < s.waits := by
  have hbegun : i ≠ b.selections.length := Nat.ne_of_lt hi
  cases ht.errand with
  | fails _ err _ hr hwhy =>
    have hphase := (hwhy.resolve_left fun h => hbegun h.1).2
    have hover : r.2.waits = 0 := by
      rw [hr]
      rfl
    have hone : s.waits = 1 := by
      unfold Selection.waits
      rw [hphase]
    omega
  | @arrives _ _ _ rest _ b' l _ _ _ hp hh ho hr =>
    have hh' := (Balancer.obtain_ok ho).1 ▸ hh
    have hlast : r.2.waits ≤ 1 := by
      unfold Selection.waits
      rw [hr]
      obtain hp | ⟨_, hp⟩ := poolAndOffer_over hh' s l
      · rw [hp]
      · rw [hp]
        exact Nat.zero_le 1
    have hmany : s.waits = rest.length + 2 := by
      unfold Selection.waits
      rw [hp]
    omega
  | @tours _ _ rest htour _ _ hwhy =>
    obtain ⟨_, _, _, -, -, hp⟩ := hwhy.resolve_left fun h => hbegun h.1
    have hmany : s.waits = rest.length + 2 := by
      unfold Selection.waits
      rw [hp]
    have hover {result : Except BalancerError (Link α)} (hp : r.2.phase = .done result) :
        r.2.waits = 0 := by
      unfold Selection.waits
      rw [hp]
    cases htour.ends with
    | exhausted _ _ _ hp =>
      rw [hover hp]
      omega
    | found _ _ _ _ hp =>
      rw [hover hp]
      omega
    | dials before v _ _ left hv hl _ _ _ _ hp _ =>
      have hleft : r.2.waits = left.length + 2 := by
        unfold Selection.waits
        rw [hp]
      -- It visited one host at least.
      have hlength : rest.length = before.length + 1 + left.length := by
        rw [← hv, hl, List.length_append, List.length_map, List.length_append,
          List.length_singleton]
      omega

/-- Each time what a selection waits for has happened, it has less to wait
for. -/
theorem waits_step {i : SelectionId} (hb : ∀ s ∈ b.selections, Poised b.hosts.length s)
    (hi : i < b.selections.length) :
    (b.step e).waits i + (b.resumes i e).toNat ≤ b.waits i := by
  by_cases hd : Due b i e
  · obtain ⟨s, r, ht, -, hs, hsel⟩ := hd.turn
    have hbefore : b.selections[i]? = some s := by
      rw [List.getElem?_eq_getElem hi, hs _ (List.getElem?_eq_getElem hi)]
    have hnow : b.waits i = s.waits := by
      unfold Balancer.waits
      rw [hbefore]
      rfl
    have hthen : (b.step e).waits i = r.2.waits := by
      unfold Balancer.waits
      rw [hsel]
      rfl
    rw [hnow, hthen, (resumes_iff_due hb hi).mpr hd]
    exact waits_turn hi ht
  · have hnot : b.resumes i e = false :=
      Bool.eq_false_iff.mpr fun hr => hd ((resumes_iff_due hb hi).mp hr)
    have hsame : (b.step e).waits i = b.waits i := by
      unfold Balancer.waits
      rw [selections_of_not_due hd]
    rw [hnot, hsame]
    exact Nat.le_refl _

/-- A selection that has begun stays one. -/
theorem begun_step {i : SelectionId} (hi : i < b.selections.length) :
    i < (b.step e).selections.length := by
  obtain hsame | ⟨_, _, _, -, -, hsel⟩ := selection_step b e i
  · rw [List.getElem?_eq_getElem hi] at hsame
    exact (List.getElem?_eq_some_iff.mp hsame).1
  · exact (List.getElem?_eq_some_iff.mp hsel).1

omit [DecidableEq α] in
/-- A selection without a result waits for something. -/
theorem resumes_of_unfinished {i : SelectionId}
    (hb : ∀ s ∈ b.selections, Poised b.hosts.length s) (hi : i < b.selections.length)
    (hr : b.result? i = none) : 0 < b.waits i ∧
      ((∀ outcome, b.resumes i (.dialled i outcome) = true) ∨
        b.resumes i (.discarded i) = true) := by
  have hbefore : b.selections[i]? = some b.selections[i] := List.getElem?_eq_getElem hi
  have hwaits : b.waits i = b.selections[i].waits := by
    unfold Balancer.waits
    rw [hbefore]
    rfl
  rw [hwaits]
  unfold Selection.waits Balancer.resumes
  cases hb _ (List.mem_of_getElem? hbefore) with
  | connecting hp =>
    rw [hp, hbefore]
    exact ⟨Nat.succ_pos _, .inl fun outcome => by simp [hp]⟩
  | discarding hp =>
    rw [hp, hbefore]
    exact ⟨Nat.one_pos, .inr (by simp [hp])⟩
  | @done result hp =>
    have hsome : b.result? i = some result := by
      show b.selections[i]? >>= Selection.result? = _
      rw [hbefore]
      exact Selection.result?_eq_some.mpr hp
    rw [hsome] at hr
    simp at hr

/-- **A selection ends**: what it waits for happens less than so many times
before it has a result. -/
theorem resumptions_lt {i : SelectionId} : ∀ (later : List (Event α σ)) (b : Balancer α σ),
    (∀ s ∈ b.selections, Poised b.hosts.length s) → i < b.selections.length →
    (b.run later).result? i = none → b.resumptions i later < b.waits i
  | [], _, hb, hi, hr => (resumes_of_unfinished hb hi hr).1
  | e :: later, b, hb, hi, hr => by
    have hfirst := waits_step (e := e) hb hi
    have hrest := resumptions_lt later (b.step e) (poised_step hb) (begun_step hi) hr
    rw [Balancer.resumptions]
    omega

/-! ### No connection twice -/

/-- The hosts that a selection has yet to visit have nothing pooled that it
asked about, and never will: only new connections are pooled. -/
structure Unseen (b : Balancer α σ) (shown : List (Link α × Bool)) (rest : List HostId) :
    Prop where
  nodup : rest.Nodup
  known : ∀ x ∈ shown, x.1.id < b.connections.length
  apart : ∀ x ∈ shown, ∀ j ∈ rest, ∀ l ∈ poolAt b.hosts j, l.id ≠ x.1.id

/-- A selection has asked about nothing twice, and will not. -/
structure Novel (b : Balancer α σ) (s : Selection α σ) : Prop where
  nodup : (s.shown.map fun x => x.1.id).Nodup
  unseen : ∀ h pass rest, s.phase = .connecting h pass rest → Unseen b s.shown rest

omit [DecidableEq α] in
theorem nodup_poolAt {hosts : List (Host α (Link α))} (hone : ∀ c, poolCopies c hosts ≤ 1)
    (j : HostId) : ((poolAt hosts j).map Link.id).Nodup := by
  apply List.nodup_iff_count_le_one.mpr
  intro c
  cases hj : hosts[j]? with
  | none => simp [poolAt, hj]
  | some host =>
    have hcount : (host.pool.map Link.id).count c = copies host.pool c := by
      rw [List.count_eq_countP, List.countP_map]
      rfl
    rw [poolAt_of_getElem? hj, hcount]
    exact Nat.le_trans (copies_le_poolCopies hj c) (hone c)

omit [DecidableEq α] in
/-- The hosts that a tour leaves. -/
theorem Tour.Ending.left {attempts : List α} {rest : List HostId} {visits : List (Visit α σ)}
    {r : Balancer α σ × Selection α σ} (he : Tour.Ending attempts rest visits r) :
    ∃ left, visits.map Visit.host ++ left = rest ∧
      ∀ h pass rest', r.2.phase = .connecting h pass rest' → rest' = left := by
  cases he with
  | exhausted _ hv _ hp =>
    refine ⟨[], by rw [List.append_nil, hv], fun _ _ _ hp' => ?_⟩
    rw [hp] at hp'
    simp at hp'
  | found _ left hv _ hp =>
    refine ⟨left, hv, fun _ _ _ hp' => ?_⟩
    rw [hp] at hp'
    simp at hp'
  | dials _ _ _ _ left hv _ _ _ _ _ hp _ =>
    refine ⟨left, hv, fun _ _ _ hp' => ?_⟩
    rw [hp] at hp'
    exact (SelectionPhase.connecting.inj hp').2.2.symm

section

variable {pruned : List (Link α)} {shown : List (Link α × Bool)} {rest left : List HostId}
  {visits : List (Visit α σ)}

/-- A tour over such hosts asks about nothing twice, and leaves such hosts. -/
theorem unseen_tour (ha : Accounted b.hosts [] pruned b.closings b.connections)
    (hu : Unseen b shown rest) (hn : (shown.map fun x => x.1.id).Nodup)
    (hv : visits.map Visit.host ++ left = rest)
    (hpooled : ∀ v ∈ visits, ∀ x ∈ v.shown, x.1 ∈ poolAt b.hosts v.host)
    (heach : ∀ v ∈ visits, (v.shown.map fun x => x.1.id).Nodup) :
    ((shown ++ visits.flatMap Visit.shown).map fun x => x.1.id).Nodup ∧
      Unseen b (shown ++ visits.flatMap Visit.shown) left := by
  have hall : (visits.map Visit.host ++ left).Nodup := hv ▸ hu.nodup
  obtain ⟨hvisits, hleft, hapart⟩ := List.nodup_append.mp hall
  have hmem {v : Visit α σ} (hv' : v ∈ visits) : v.host ∈ rest := by
    rw [← hv]
    exact List.mem_append_left _ (List.mem_map_of_mem hv')
  -- What is pooled at two hosts is two connections.
  have hhost {l l' : Link α} {j j' : HostId} (hl : l ∈ poolAt b.hosts j)
      (hl' : l' ∈ poolAt b.hosts j') (hid : l'.id = l.id) : j' = j := by
    have hone := ha.le_one l.id
    exact (eq_of_poolCopies_le_one (by omega) hl hl' hid).1
  have hnew : ((visits.flatMap Visit.shown).map fun x => x.1.id).Nodup := by
    rw [List.map_flatMap]
    refine List.nodup_flatMap.mpr ⟨heach, ?_⟩
    have hdistinct : visits.Pairwise fun v v' => v.host ≠ v'.host := List.pairwise_map.mp hvisits
    refine hdistinct.imp_of_mem fun {v v'} hv hv' hne => ?_
    intro c hc hc'
    obtain ⟨x, hx, rfl⟩ := List.mem_map.mp hc
    obtain ⟨y, hy, hid⟩ := List.mem_map.mp hc'
    exact hne (hhost (hpooled v' hv' y hy) (hpooled v hv x hx) hid.symm)
  refine ⟨?_, hleft, fun x hx => ?_, fun x hx j hj l hl => ?_⟩
  · rw [List.map_append]
    refine List.nodup_append.mpr ⟨hn, hnew, ?_⟩
    rintro c hc _ hc' rfl
    obtain ⟨x, hx, rfl⟩ := List.mem_map.mp hc
    obtain ⟨y, hy, hid⟩ := List.mem_map.mp hc'
    obtain ⟨v, hv', hy⟩ := List.mem_flatMap.mp hy
    exact hu.apart x hx v.host (hmem hv') y.1 (hpooled v hv' y hy) hid
  · rcases List.mem_append.mp hx with hx | hx
    · exact hu.known x hx
    · obtain ⟨v, hv', hx⟩ := List.mem_flatMap.mp hx
      exact ha.lt_of_pool (poolCopies_pos (hpooled v hv' x hx))
  · rcases List.mem_append.mp hx with hx | hx
    · refine hu.apart x hx j ?_ l hl
      rw [← hv]
      exact List.mem_append_right _ hj
    · obtain ⟨v, hv', hx⟩ := List.mem_flatMap.mp hx
      intro hid
      have heq : j = v.host := hhost (hpooled v hv' x hx) hl hid
      exact hapart v.host (List.mem_map_of_mem hv') j hj heq.symm

/-- Pools take up only new connections. -/
theorem pools_step (hn : ¬ e.Reopens) (ht : Tidy b.hosts b.table [])
    (ha : Accounted b.hosts [] pruned b.closings b.connections) :
    b.connections.length ≤ (b.step e).connections.length ∧
      ∀ h, ∀ l ∈ poolAt (b.step e).hosts h,
        l ∈ poolAt b.hosts h ∨ b.connections.length ≤ l.id := by
  by_cases hp : ∀ i, e ≠ .peerCloses i
  · obtain ⟨_, _, hs⟩ := since_step hn hp ht ha
    exact ⟨hs.length, hs.origin⟩
  · obtain ⟨i, rfl⟩ : ∃ i, e = .peerCloses i := by simpa using hp
    have hlength : (b.step (.peerCloses i)).connections.length = b.connections.length :=
      List.length_modify ..
    exact ⟨Nat.le_of_eq hlength.symm, fun h l hl => .inl hl⟩

/-- What is unseen stays so in a step. -/
theorem Unseen.step (hu : Unseen b shown rest) (hn : ¬ e.Reopens) (ht : Tidy b.hosts b.table [])
    (ha : Accounted b.hosts [] pruned b.closings b.connections) : Unseen (b.step e) shown rest := by
  obtain ⟨hgrows, horigin⟩ := pools_step hn ht ha
  refine ⟨hu.nodup, fun x hx => ?_, fun x hx j hj l hl => ?_⟩
  · exact Nat.lt_of_lt_of_le (hu.known x hx) hgrows
  · rcases horigin j l hl with hold | hnew
    · exact hu.apart x hx j hj l hold
    · exact Nat.ne_of_gt (Nat.lt_of_lt_of_le (hu.known x hx) hnew)

theorem Novel.step {s : Selection α σ} (hs : Novel b s) (hn : ¬ e.Reopens)
    (ht : Tidy b.hosts b.table []) (ha : Accounted b.hosts [] pruned b.closings b.connections) :
    Novel (b.step e) s :=
  ⟨hs.nodup, fun h pass rest hp => (hs.unseen h pass rest hp).step hn ht ha⟩

/-- A selection asks about no connection twice in its turn. -/
theorem novel_turn {i : SelectionId} {s : Selection α σ} {r : Balancer α σ × Selection α σ}
    (hturn : Turn b e i s r) (hn : ¬ e.Reopens) (ht : Tidy b.hosts b.table [])
    (ha : Accounted b.hosts [] pruned b.closings b.connections)
    (hb : ∀ s ∈ b.selections, Novel b s) : Novel b r.2 := by
  have hs : (s.shown.map fun x => x.1.id).Nodup := by
    obtain hmem | ⟨accepts, -, rfl⟩ := hturn.origin
    · exact (hb s hmem).nodup
    · exact .nil
  cases hturn.errand with
  | fails _ _ _ hr =>
    subst hr
    exact ⟨hs, by simp [Selection.finish]⟩
  | @arrives outcome h pass rest host b' l _ he hi hp hh ho hr =>
    have hu := (hb s (List.mem_of_getElem? hi)).unseen h pass rest hp
    have hh' : b'.hosts[h]? = some host := (Balancer.obtain_ok ho).1 ▸ hh
    have harrives : b.Arrives h l e := by
      rw [he]
      exact ⟨s, pass, rest, host, hi, hp, hh, by rw [ho]⟩
    have hfresh : l.id = b.connections.length := harrives.fresh hn
    obtain ⟨new, honly, hshown, -, -⟩ := poolAndOffer_asks hh' s l
    subst hr
    refine ⟨?_, fun h' pass' rest' hp' => ?_⟩
    · rw [hshown]
      rcases honly with rfl | ⟨answer, rfl⟩
      · rwa [List.append_nil]
      · rw [List.map_append]
        refine List.nodup_append.mpr ⟨hs, List.nodup_singleton _, fun c hc d hd heq => ?_⟩
        obtain ⟨x, hx, rfl⟩ := List.mem_map.mp hc
        have hlt := hu.known x hx
        rw [heq, List.mem_singleton.mp hd] at hlt
        exact absurd hfresh (Nat.ne_of_lt hlt)
    · obtain hp | ⟨_, hp⟩ := poolAndOffer_over hh' s l
      · rw [hp] at hp'
        simp at hp'
      · rw [hp] at hp'
        simp at hp'
  | @tours b' pass rest htour _ hpools hwhy =>
    have hu : Unseen b s.shown rest := by
      obtain ⟨-, hnew, rfl⟩ | ⟨h, pass', _, -, hi, hp⟩ := hwhy
      · refine ⟨nodup_itinerary ht.nodup, ?_, ?_⟩
        · simp [hnew]
        · simp [hnew]
      · exact (hb s (List.mem_of_getElem? hi)).unseen h pass' rest hp
    have hasks := htour.asks
    obtain ⟨left, hv, hleft⟩ := htour.ends.left
    have hpooled : ∀ v ∈ b.visitsIn i e, ∀ x ∈ v.shown, x.1 ∈ poolAt b.hosts v.host := by
      intro v hv x hx
      rw [← hpools]
      exact (hasks.pooled v hv x hx).1
    have heach : ∀ v ∈ b.visitsIn i e, (v.shown.map fun x => x.1.id).Nodup := by
      refine hasks.nodup fun j => ?_
      rw [hpools]
      refine nodup_poolAt (fun c => ?_) j
      have hone := ha.le_one c
      omega
    obtain ⟨hnodup, hunseen⟩ := unseen_tour ha hu hs hv hpooled heach
    rw [← hasks.shown] at hnodup hunseen
    refine ⟨hnodup, fun h pass' rest' hp => ?_⟩
    rw [hleft h pass' rest' hp]
    exact hunseen

/-- **No connection is asked about twice**, in any step. -/
theorem novel_step (hn : ¬ e.Reopens) (ht : Tidy b.hosts b.table [])
    (ha : Accounted b.hosts [] pruned b.closings b.connections)
    (hb : ∀ s ∈ b.selections, Novel b s) : ∀ s ∈ (b.step e).selections, Novel (b.step e) s :=
  selections_keep hb (fun _ _ hs => hs.step hn ht ha) fun _ _ _ hturn _ =>
    (novel_turn hturn hn ht ha hb).step hn ht ha

end

/-! ### Runs -/

/-- What a selector is asked in the step of an event: by which selection, what
it says, and what that leaves the callers knowing. No other selection changes. -/
structure Balancer.Questions (b : Balancer α σ) (e : Event α σ) (i : SelectionId)
    (s : Selection α σ) (new : List (Link α × Bool)) : Prop where
  selection : (b.step e).selections[i]? = some s
  selector : ∀ s₀, b.selections[i]? = some s₀ → s.accepts = s₀.accepts
  shown : s.shown = b.shownBy i ++ new
  asked : Asked s.accepts b.callers new (b.step e).callers
  presents : ∀ x ∈ new, b.Presents i e x.1
  others : ∀ j, j ≠ i → (b.step e).selections[j]? = b.selections[j]?

/-- A step asks the selector of one selection, or none. -/
theorem questions_step (b : Balancer α σ) (e : Event α σ) :
    (∃ i s new, b.Questions e i s new) ∨
      (b.step e).selections = b.selections ∧ ((b.step e).callers = b.callers ∨
        ∃ f, e = .callersChange f ∧ (b.step e).callers = f b.callers) := by
  by_cases hs : e.Selects
  · obtain heq | ⟨i, s, r, ht, hstep, hbefore, hsel⟩ := turn_step (b := b) hs
    · rw [heq]
      exact .inr ⟨rfl, .inl rfl⟩
    · obtain ⟨new, hasks⟩ := ht.asks
      have hcallers : (b.step e).callers = r.1.callers := by rw [hstep]
      refine .inl ⟨i, r.2, new, ?_, fun s₀ hi => ?_, ?_, ?_, hasks.presents, fun j hj => ?_⟩
      · rw [hsel, if_pos rfl]
      · rw [ht.accepts_eq, hbefore s₀ hi]
      · rw [hasks.shown, ht.shown_eq]
      · rw [ht.accepts_eq, hcallers]
        exact hasks.asked
      · rw [hsel, if_neg hj]
  · refine .inr ⟨b.selections_step hs, ?_⟩
    by_cases hf : ∃ f, e = .callersChange f
    · obtain ⟨f, rfl⟩ := hf
      exact .inr ⟨f, rfl, rfl⟩
    · exact .inl (b.callers_step_of_ne hs fun f h => hf ⟨f, h⟩)

/-- What every step keeps of all selections, every run keeps. -/
theorem selections_run {P : Balancer α σ → Selection α σ → Prop}
    (hstep : ∀ (b : Balancer α σ) (e : Event α σ), (∀ s ∈ b.selections, P b s) →
      ∀ s ∈ (b.step e).selections, P (b.step e) s) :
    ∀ (events : List (Event α σ)) (b : Balancer α σ), (∀ s ∈ b.selections, P b s) →
      ∀ s ∈ (b.run events).selections, P (b.run events) s
  | [], _, hb => hb
  | e :: events, b, hb => selections_run hstep events (b.step e) (hstep b e hb)

theorem novel_run : ∀ (events : List (Event α σ)) (b : Balancer α σ) (pruned : List (Link α)),
    (∀ e ∈ events, ¬ e.Reopens) → Tidy b.hosts b.table [] →
    Accounted b.hosts [] pruned b.closings b.connections → (∀ s ∈ b.selections, Novel b s) →
    ∀ s ∈ (b.run events).selections, Novel (b.run events) s
  | [], _, _, _, _, _, hb => hb
  | e :: events, b, _, hn, ht, ha, hb => by
    obtain ⟨hfirst, hlater⟩ := List.forall_mem_cons.mp hn
    obtain ⟨pruned', ha', -⟩ := accounted_step hfirst ht ha
    exact novel_run events (b.step e) pruned' hlater (tidy_step e ht) ha'
      (novel_step hfirst ht ha hb)

/-- **No acceptance is dropped.** Take any run.

All that the selector of a selection answered was no, and the selection waits
or has failed; or the last answer alone was yes, and the selection has returned
this connection. A selection that has no result waits for a connect or for a
connection to be closed, and there is a bound on how often this can happen
without it having one.

A step asks the selector of one selection at most. Each answer is what the
selector says when the callers know what the answers before it left, and no
other step but a change from outside changes what they know. The selector is
asked about connections that are pooled and open, and about the one with which
the connect of its selection has just ended; and if no connect ends with an old
connection, about none twice.

So, where selectors reserve what they accept and callers do nothing but release
it, a connection is handed out once more than it was released while it is
reserved, and as often while it is free; and a step reserves a connection if
and only if a selection returns it in this step. -/
theorem acceptance_kept (setup : Setup α) (tape : Tape) (callers : σ)
    (events : List (Event α σ)) :
    let b₀ := Balancer.start setup tape callers
    let b := b₀.run events
    (∀ s ∈ b.selections, ∃ refused : List (Link α),
      (s.shown = refused.map (fun l => (l, false)) ∧
        (s.result? = none ∨ ∃ err, s.result? = some (.error err))) ∨
      ∃ l, s.shown = refused.map (fun l => (l, false)) ++ [(l, true)] ∧
        s.result? = some (.ok l)) ∧
    (∀ i < b.selections.length, (b.result? i = none →
        (∀ outcome, b.resumes i (.dialled i outcome) = true) ∨
          b.resumes i (.discarded i) = true) ∧
      ∀ later, (b.run later).result? i = none → b.resumptions i later < b.waits i) ∧
    (∀ e, (∃ i s new, b.Questions e i s new) ∨
      (b.step e).selections = b.selections ∧ ((b.step e).callers = b.callers ∨
        ∃ f, e = .callersChange f ∧ (b.step e).callers = f b.callers)) ∧
    ((∀ e ∈ events, ¬ e.Reopens) → ∀ s ∈ b.selections, (s.shown.map fun x => x.1.id).Nodup) ∧
    ∀ reserved : ConnId → σ → Bool, (∀ c, reserved c callers = false) →
      (∀ e ∈ events, e.Honours reserved) →
      (∀ c, b.handouts c = b₀.releases reserved c events + (reserved c b.callers).toNat) ∧
      ∀ e, e.Honours reserved → ∀ c,
        (reserved c b.callers = false ∧ reserved c (b.step e).callers = true) ↔
          ∃ i l, l.id = c ∧ b.result? i = none ∧ (b.step e).result? i = some (.ok l) := by
  intro b₀ b
  have hpoised : ∀ s ∈ b.selections, Poised b.hosts.length s :=
    selections_run (P := fun b s => Poised b.hosts.length s) (fun _ _ => poised_step) events b₀
      (by simp [b₀, Balancer.start])
  refine ⟨fun s hs => ?_, fun i hi => ⟨fun hr => (resumes_of_unfinished hpoised hi hr).2,
    fun later => resumptions_lt later b hpoised hi⟩, questions_step b, fun hn s hs => ?_,
    fun reserved hfree hhonours => ?_⟩
  · have hverdict : Verdict s.granted s.shown :=
      selections_run (P := fun _ s => Verdict s.granted s.shown) (fun _ _ => verdict_step) events
        b₀ (by simp [b₀, Balancer.start]) s hs
    obtain ⟨refused, hshown⟩ := hverdict
    refine ⟨refused, ?_⟩
    cases hr : s.result? with
    | none =>
      rw [Selection.granted_of_unfinished hr] at hshown
      exact .inl ⟨by simpa using hshown, .inl rfl⟩
    | some result =>
      cases result with
      | ok l =>
        rw [Selection.granted_eq_some.mpr hr] at hshown
        exact .inr ⟨l, hshown, rfl⟩
      | error err =>
        have hnone : s.granted = none := by
          unfold Selection.granted
          rw [Selection.result?_eq_some.mp hr]
        rw [hnone] at hshown
        exact .inl ⟨by simpa using hshown, .inr ⟨err, rfl⟩⟩
  · exact (novel_run events b₀ [] hn .start (accounted_start setup tape callers)
      (by simp [b₀, Balancer.start]) s hs).nodup
  · obtain ⟨hreserves, hcount⟩ :=
      handouts_run events b₀ (by simp [Balancer.Reserves, b₀, Balancer.start]) hhonours
    refine ⟨fun c => ?_, fun e he => reserved_iff_handedOut hreserves he⟩
    have hcount := hcount c
    have hnone : b₀.handouts c = 0 := rfl
    have hbegin : reserved c b₀.callers = false := hfree c
    rw [hbegin, hnone, Nat.zero_add] at hcount
    exact hcount

end

/-- The setup of `plainSetup`, for hosts with names. -/
def namedSetup : Setup String where
  toSettings := (plainSetup true).toSettings
  target := "service"
  source := .live
  describe := id
  aborts := true

/-- The first selection opens a connection and reserves it; the second finds it
reserved and opens another one; then the first caller releases its connection,
the third selection reserves it again, and the fourth finds both reserved. -/
def reservations : List (Event String Rehearsal.Reservations) :=
  [.startReconciler, .deliver (.batch [⟨"a", .available⟩]), .takeNotice,
    .select Rehearsal.Predicate.reserve.selector, .dialled 0 .opened,
    .select Rehearsal.Predicate.reserve.selector, .dialled 1 .opened,
    .callersChange (·.erase 0), .select Rehearsal.Predicate.reserve.selector,
    .select Rehearsal.Predicate.reserve.selector]

/-- The first connection is handed out twice and was released once, and the
fourth selection waits for a connect. -/
theorem acceptance_kept_reservations :
    let b₀ : Balancer String Rehearsal.Reservations := .start namedSetup (.ofSeed 0) []
    let b := b₀.run reservations
    b.shownBy 1 = [(⟨0, "a"⟩, false), (⟨1, "a"⟩, true)] ∧
      b.shownBy 3 = [(⟨0, "a"⟩, false), (⟨1, "a"⟩, false)] ∧
      b.handouts 0 = 2 ∧ b₀.releases (fun c held => held.contains c) 0 reservations = 1 ∧
      b.resumptions 3 [] < b.waits 3 ∧
      ∀ s ∈ b.selections, (s.shown.map fun x => x.1.id).Nodup := by
  intro b₀ b
  have hn : ∀ e ∈ reservations, ¬ e.Reopens := by simp [reservations, Event.Reopens]
  have hh : ∀ e ∈ reservations,
      e.Honours fun c (held : Rehearsal.Reservations) => held.contains c := by
    have herase (c : ConnId) (held : Rehearsal.Reservations)
        (hc : (held.erase 0).contains c = true) : held.contains c = true := by
      rw [List.contains_iff_mem] at hc ⊢
      exact List.mem_of_mem_erase hc
    simp only [reservations, List.forall_mem_cons, Event.Honours]
    exact ⟨trivial, trivial, trivial, reserving_reserve, trivial, reserving_reserve, trivial,
      herase, reserving_reserve, reserving_reserve, by simp⟩
  obtain ⟨-, hends, -, hnovel, hreserved⟩ :=
    acceptance_kept namedSetup (.ofSeed 0) [] reservations
  have hcount : b.handouts 0 = b₀.releases (fun c held => held.contains c) 0 reservations + 1 :=
    (hreserved (fun c held => held.contains c) (fun _ => rfl) hh).1 0
  have hreleases : b₀.releases (fun c held => held.contains c) 0 reservations = 1 := by decide
  rw [hreleases] at hcount
  exact ⟨by decide, by decide, hcount, hreleases, (hends 3 (by decide)).2 [] (by rfl), hnovel hn⟩

end HostRotation
