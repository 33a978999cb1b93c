/-
# The counters are conserved

Whatever is suspended while hosts close, the counters of a balancer add up
(`counters_conserved`). The selections begun are those that returned a
connection, those that were rejected and those under way; the failed connects
counted are those of selections; and, of a factory that never returns a
connection twice, the connections created are those pooled now, those pruned
from a pool and those drained from one for closing.

For the last of these, take a step. A connection that existed before is pooled
as it was, or the step prunes or drains it (`pooled_step`); and a new one is
counted in the step that pools it (`created_step`).
-/
import HostRotation.Proofs.Counters
import Mathlib.Algebra.BigOperators.Intervals

namespace HostRotation

variable {α σ : Type}

namespace Balancer

/-- How many connections are pooled at the hosts of the table. -/
def pooledInTable (b : Balancer α σ) : Nat :=
  (b.tableHosts.map fun host => host.pool.length).sum

variable [DecidableEq α]

/-- A step takes a connection out of its pool and hands it over for closing. -/
def Drains (b : Balancer α σ) (e : Event α σ) (c : ConnId) : Prop :=
  0 < b.pooled c ∧ (b.step e).pooled c = 0 ∧ (b.step e).handedOver c = b.handedOver c + 1

instance (b : Balancer α σ) (e : Event α σ) (c : ConnId) : Decidable (b.Drains e c) := by
  unfold Drains
  infer_instance

/-- How many connections a step prunes. -/
def prunes (b : Balancer α σ) (e : Event α σ) : Nat :=
  ((Finset.range b.connections.length).filter (b.Prunes e)).card

/-- How many connections a step drains from pools for closing. -/
def drains (b : Balancer α σ) (e : Event α σ) : Nat :=
  ((Finset.range b.connections.length).filter (b.Drains e)).card

end Balancer

/-! ### Sums over pools -/

section

variable {hosts : List (Host α (Link α))} {table : List HostId} {n : Nat}

/-- Connections counted one by one. -/
theorem sum_copies : ∀ {ls : List (Link α)}, (∀ l ∈ ls, l.id < n) →
    ∑ c ∈ Finset.range n, copies ls c = ls.length
  | [], _ => by simp
  | l :: ls, hn => by
    obtain ⟨hl, hls⟩ := List.forall_mem_cons.mp hn
    simp only [copies_cons, Finset.sum_add_distrib, sum_copies hls, Finset.sum_ite_eq,
      Finset.mem_range, if_pos hl, List.length_cons]

theorem sum_poolCopies : ∀ {hosts : List (Host α (Link α))},
    (∀ host ∈ hosts, ∀ l ∈ host.pool, l.id < n) →
    ∑ c ∈ Finset.range n, poolCopies c hosts = (hosts.map fun host => host.pool.length).sum
  | [], _ => by simp [poolCopies]
  | host :: hosts, hn => by
    obtain ⟨hhost, hhosts⟩ := List.forall_mem_cons.mp hn
    have ih := sum_poolCopies hhosts
    simp only [poolCopies, List.map_cons, List.sum_cons, Finset.sum_add_distrib] at ih ⊢
    rw [sum_copies hhost, ih]

theorem sum_poolAt : ∀ hosts : List (Host α (Link α)),
    ∑ h ∈ Finset.range hosts.length, (poolAt hosts h).length =
      (hosts.map fun host => host.pool.length).sum
  | [] => rfl
  | host :: hosts => by
    rw [List.length_cons, Finset.sum_range_succ', List.map_cons, List.sum_cons, Nat.add_comm,
      ← sum_poolAt hosts]
    rfl

theorem sum_entries (hosts : List (Host α (Link α))) : ∀ table : List HostId,
    ((table.filterMap fun h => hosts[h]?).map fun host => host.pool.length).sum =
      (table.map fun h => (poolAt hosts h).length).sum
  | [] => rfl
  | h :: table => by
    rw [List.filterMap_cons, List.map_cons, List.sum_cons, ← sum_entries hosts table]
    cases hh : hosts[h]? with
    | none => simp [poolAt, hh]
    | some host => simp [poolAt, hh]

/-- Only hosts of the table have anything pooled. -/
theorem sum_pools (ht : Tidy hosts table []) :
    ((table.filterMap fun h => hosts[h]?).map fun host => host.pool.length).sum =
      (hosts.map fun host => host.pool.length).sum := by
  have hknown : table.toFinset ⊆ Finset.range hosts.length := by
    intro h hh
    rw [Finset.mem_range]
    exact ht.known h (List.mem_append_left _ (List.mem_toFinset.mp hh))
  rw [sum_entries, ← List.sum_toFinset _ ht.nodup, ← sum_poolAt]
  refine Finset.sum_subset hknown fun h hh hout => ?_
  have hin := List.getElem?_eq_getElem (Finset.mem_range.mp hh)
  rw [List.mem_toFinset] at hout
  rw [poolAt_of_getElem? hin, ht.empty_of_not_mem hin hout, List.length_nil]

end

/-! ### From step to step -/

section

variable [DecidableEq α] {b : Balancer α σ} {e : Event α σ} {pruned : List (Link α)}

/-- Only a connect that ends opens a connection. -/
theorem length_connections_step (he : ¬ e.Dials) :
    (b.step e).connections.length = b.connections.length := by
  obtain ⟨_, hmoves⟩ := Balancer.moves_step b e [] []
  refine Moves.keeps (I := fun m => m.connections.length = b.connections.length)
    (fun m m' hmove hm => ?_) hmoves rfl
  cases hmove with
  | opens _ hd => exact absurd hd he
  | closeLink | peerCloses | closeWillFail => simpa using hm
  | _ => exact hm

theorem length_poolAndOffer {h : HostId} {host : Host α (Link α)} (hh : b.hosts[h]? = some host)
    (s : Selection α σ) (l : Link α) :
    (b.poolAndOffer s h l).1.connections.length = b.connections.length := by
  by_cases hc : host.status = .closed
  · rw [Balancer.poolAndOffer_of_closed hh s l hc]
    exact List.length_modify ..
  by_cases hu : host.status = .unhealthy
  · rw [Balancer.poolAndOffer_of_unhealthy hh s l hu]
    obtain ⟨_, _, heq, -⟩ := Balancer.offer_footprint _ s l
    rw [heq]
    rfl
  · rw [Balancer.poolAndOffer_of_ne hh s l hc hu]
    obtain ⟨_, _, heq, -⟩ := Balancer.offer_footprint _ s l
    rw [heq]
    rfl

theorem length_probeSucceeded {h : HostId} {host : Host α (Link α)} (hh : b.hosts[h]? = some host)
    (t : TaskId) (l : Link α) :
    (b.probeSucceeded t h host l).connections.length = b.connections.length := by
  by_cases hc : host.status = .closed
  · rw [Balancer.probeSucceeded_of_closed hc]
    exact List.length_modify ..
  · obtain ⟨_, heq⟩ := Balancer.probeSucceeded_of_ne (t := t) hh hc l
    rw [heq]

/-- A new connection is counted as created, unless its host is closed. -/
def Creates (b b' : Balancer α σ) (host : Host α (Link α)) : Prop :=
  b'.connections.length = b.connections.length + 1 ∧
    b'.metrics.created = b.metrics.created + if host.status = .closed then 0 else 1

/-- Nothing new, and nothing counted as created. -/
def CreatesNone (b b' : Balancer α σ) : Prop :=
  b'.connections.length = b.connections.length ∧ b'.metrics.created = b.metrics.created

omit [DecidableEq α] in
theorem Passage.createsNone {s : Selection α σ} {pass : Pass} {rest : List HostId}
    {r : Balancer α σ × Selection α σ} (hp : Passage b s pass rest r) : CreatesNone b r.1 := by
  obtain ⟨_, _, _, _, _, _, _, _, heq, -⟩ := hp.footprint
  exact ⟨by rw [heq], congrArg Counters.created hp.counters.1⟩

theorem Turn.creates {i : SelectionId} {s : Selection α σ} {r : Balancer α σ × Selection α σ}
    (hn : ¬ e.Reopens) (ht : Turn b e i s r) : CreatesNone b r.1 ∨
      ∃ h host, b.Opening h e ∧ b.hosts[h]? = some host ∧ Creates b r.1 host := by
  cases ht with
  | refused | hostless | late => exact .inl ⟨rfl, rfl⟩
  | begins _ _ hp =>
    obtain ⟨hlength, hcreated⟩ := hp.createsNone
    exact .inl ⟨hlength, hcreated⟩
  | @failed _ _ _ h _ _ _ _ _ _ _ hp _ =>
    obtain ⟨hlength, hcreated⟩ := hp.createsNone
    obtain ⟨_, _, _, _, _, heq, -⟩ := b.connectFailed_footprint h
    have hsame : (b.connectFailed h).metrics.created = b.metrics.created :=
      congrArg Counters.created (b.counters_connectFailed h)
    exact .inl ⟨by rw [hlength, heq], hcreated.trans hsame⟩
  | @connected _ outcome _ h pass rest host b' l hi hphase hh ho =>
    cases outcome with
    | refused reason => simp [Balancer.obtain] at ho
    | reopened c => exact absurd trivial hn
    | opened =>
      have hopen : b' = (b.openLink host.address).1 := (Prod.mk.inj ho).1.symm
      subst hopen
      have hh' : (b.openLink host.address).1.hosts[h]? = some host := hh
      refine .inr ⟨h, host, ⟨s, pass, rest, hi, hphase⟩, hh, ?_, ?_⟩
      · rw [length_poolAndOffer hh']
        exact List.length_append
      · exact congrArg Counters.created (counters_poolAndOffer hh' s _).1

theorem creates_probed (t : TaskId) {outcome : DialOutcome}
    (hn : ∀ c, outcome ≠ .reopened c) : CreatesNone b (b.probed t outcome) ∨
      ∃ h host, b.Opening h (.probed t outcome) ∧ b.hosts[h]? = some host ∧
        Creates b (b.probed t outcome) host := by
  have hp := b.probe_probed t outcome
  generalize b.probed t outcome = b' at hp ⊢
  cases hp with
  | idle => exact .inl ⟨rfl, rfl⟩
  | @reached _ h host connections l hp ho =>
    cases outcome with
    | refused reason => simp [Balancer.obtain] at ho
    | reopened c => exact absurd rfl (hn c)
    | opened =>
      obtain ⟨task, ht, hk, hphase, hh⟩ := hp
      have hopen : { b with connections } = (b.openLink host.address).1 :=
        (Prod.mk.inj ho).1.symm
      rw [hopen]
      have hh' : (b.openLink host.address).1.hosts[h]? = some host := hh
      refine .inr ⟨h, host, ⟨task, ht, hk, hphase⟩, hh, ?_, ?_⟩
      · rw [length_probeSucceeded hh']
        exact List.length_append
      · exact congrArg Counters.created (Balancer.counters_probeSucceeded _ t _)
  | @missed h =>
    obtain ⟨_, _, _, heq⟩ := (b.modifyTask t (·.start .finished)).scheduleAttempt_footprint h
    rw [heq]
    exact .inl ⟨rfl, rfl⟩

/-- **A connection is created in the step that opens it**, if its host is not
closed, and in no other. -/
theorem creates_step (hn : ¬ e.Reopens) : CreatesNone b (b.step e) ∨
    ∃ h host, b.Opening h e ∧ b.hosts[h]? = some host ∧ Creates b (b.step e) host := by
  by_cases hs : e.Selects
  · obtain heq | ⟨i, s, r, ht, hstep, -, -⟩ := turn_step (b := b) hs
    · rw [heq]
      exact .inl ⟨rfl, rfl⟩
    · rw [hstep]
      exact ht.creates hn
  by_cases hp : ∃ t outcome, e = .probed t outcome
  · obtain ⟨t, outcome, rfl⟩ := hp
    exact creates_probed t fun c hc => hn (hc ▸ trivial)
  · have hp : ∀ t outcome, e ≠ .probed t outcome := fun t outcome heq => hp ⟨t, outcome, heq⟩
    refine .inl ⟨length_connections_step fun hd => ?_,
      congrArg Counters.created (b.counters_outside hs hp)⟩
    cases e with
    | dialled => exact hs trivial
    | probed t outcome => exact hp t outcome rfl
    | _ => exact hd

/-- A new connection is counted in the step that pools it. -/
theorem created_step (hn : ¬ e.Reopens) (ht : Tidy b.hosts b.table [])
    (ha : Accounted b.hosts [] pruned b.closings b.connections) :
    (b.step e).metrics.created = b.metrics.created +
      ∑ c ∈ Finset.Ico b.connections.length (b.step e).connections.length,
        (b.step e).pooled c := by
  obtain ⟨hlength, hcreated⟩ | ⟨h, host, ho, hh, hlength, hcreated⟩ := creates_step (b := b) hn
  · rw [hlength, Finset.Ico_self, Finset.sum_empty, hcreated, Nat.add_zero]
  · have hopened := opened_step hn ht ha ho hh
    obtain ⟨_, hafter, -⟩ := accounted_step hn ht ha
    have hone := hafter.le_one b.connections.length
    rw [hlength, Nat.Ico_succ_singleton, Finset.sum_singleton, hcreated]
    congr 1
    split
    · rename_i hc
      rw [if_pos hc] at hopened
      unfold Balancer.pooled
      unfold Balancer.handedOver at hopened
      omega
    · rename_i hc
      rw [if_neg hc] at hopened
      have hpos := poolCopies_pos hopened
      unfold Balancer.pooled
      dsimp only at hpos
      omega

/-- A connection that was pooled still is, or the step prunes or drains it. -/
theorem pooled_step (hn : ¬ e.Reopens) (ht : Tidy b.hosts b.table [])
    (ha : Accounted b.hosts [] pruned b.closings b.connections) {c : ConnId}
    (hc : c < b.connections.length) :
    b.pooled c = (b.step e).pooled c + (if b.Prunes e c then 1 else 0) +
      if b.Drains e c then 1 else 0 := by
  obtain ⟨hlength, horigin⟩ := pools_step hn ht ha
  obtain ⟨pruned', hafter, hcount⟩ := accounted_step hn ht ha
  have hsum := ha c
  have hsum' := hafter c
  rw [hcount c, if_pos (Nat.lt_of_lt_of_le hc hlength)] at hsum'
  rw [if_pos hc] at hsum
  simp only [copies_nil] at hsum hsum'
  -- It was pooled before if it is now.
  have hbefore : 0 < (b.step e).pooled c → 0 < b.pooled c := by
    intro hpos
    obtain ⟨h, l, hl, rfl⟩ := exists_of_poolCopies_pos hpos
    rcases horigin h l hl with hold | hnew
    · exact poolCopies_pos hold
    · exact absurd hc (Nat.not_lt.mpr hnew)
  by_cases hprunes : b.Prunes e c
  · obtain ⟨-, hpos, hnone, hsame⟩ := id hprunes
    have hdrains : ¬ b.Drains e c := fun hd => by
      rw [hd.2.2] at hsame
      omega
    rw [if_pos hprunes, if_neg hdrains, hnone]
    unfold Balancer.pooled at hpos ⊢
    omega
  · rw [if_neg hprunes] at hsum' ⊢
    by_cases hdrains : b.Drains e c
    · obtain ⟨hpos, hnone, -⟩ := id hdrains
      rw [if_pos hdrains, hnone]
      unfold Balancer.pooled at hpos ⊢
      omega
    · rw [if_neg hdrains]
      unfold Balancer.Drains at hdrains
      unfold Balancer.pooled Balancer.handedOver at *
      omega

/-- How many connections are pooled at all. -/
def Balancer.poolSum (b : Balancer α σ) : Nat :=
  ∑ c ∈ Finset.range b.connections.length, b.pooled c

theorem poolSum_step (hn : ¬ e.Reopens) (ht : Tidy b.hosts b.table [])
    (ha : Accounted b.hosts [] pruned b.closings b.connections) :
    (b.step e).metrics.created + b.poolSum =
      b.metrics.created + (b.step e).poolSum + b.prunes e + b.drains e := by
  obtain ⟨hlength, -⟩ := pools_step hn ht ha
  have hold : b.poolSum = ∑ c ∈ Finset.range b.connections.length, (b.step e).pooled c +
      b.prunes e + b.drains e := by
    unfold Balancer.prunes Balancer.drains
    rw [Finset.card_filter, Finset.card_filter, ← Finset.sum_add_distrib,
      ← Finset.sum_add_distrib]
    exact Finset.sum_congr rfl fun c hc => pooled_step hn ht ha (Finset.mem_range.mp hc)
  have hnew : (b.step e).poolSum = ∑ c ∈ Finset.range b.connections.length, (b.step e).pooled c +
      ∑ c ∈ Finset.Ico b.connections.length (b.step e).connections.length, (b.step e).pooled c :=
    (Finset.sum_range_add_sum_Ico _ hlength).symm
  rw [hold, hnew, created_step hn ht ha]
  omega

omit [DecidableEq α] in
theorem poolSum_eq (ht : Tidy b.hosts b.table [])
    (ha : Accounted b.hosts [] pruned b.closings b.connections) : b.poolSum = b.pooledInTable := by
  have hknown : ∀ host ∈ b.hosts, ∀ l ∈ host.pool, l.id < b.connections.length := by
    intro host hmem l hl
    obtain ⟨h, hh⟩ := List.getElem?_of_mem hmem
    rw [← poolAt_of_getElem? hh] at hl
    exact ha.lt_of_pool (poolCopies_pos hl)
  calc b.poolSum = (b.hosts.map fun host => host.pool.length).sum := sum_poolCopies hknown
    _ = b.pooledInTable := (sum_pools ht).symm

/-! ### Every run -/

theorem created_run : ∀ (events : List (Event α σ)) (b : Balancer α σ) (pruned : List (Link α)),
    (∀ e ∈ events, ¬ e.Reopens) → Tidy b.hosts b.table [] →
    Accounted b.hosts [] pruned b.closings b.connections →
    (b.run events).metrics.created + b.poolSum = b.metrics.created + (b.run events).poolSum +
      b.tally Balancer.prunes events + b.tally Balancer.drains events
  | [], b, _, _, _, _ => rfl
  | e :: events, b, _, hn, ht, ha => by
    obtain ⟨hfirst, hlater⟩ := List.forall_mem_cons.mp hn
    obtain ⟨pruned', ha', -⟩ := accounted_step hfirst ht ha
    have hone := poolSum_step hfirst ht ha
    have hrest := created_run events (b.step e) pruned' hlater (tidy_step e ht) ha'
    have hrun : b.run (e :: events) = (b.step e).run events := rfl
    rw [hrun]
    unfold Balancer.tally
    omega

theorem counted_run : ∀ (events : List (Event α σ)) (b : Balancer α σ), Counted b →
    Counted (b.run events)
  | [], _, hb => hb
  | e :: events, b, hb => counted_run events (b.step e) (counted_step hb e)

/-- Failed connects are counted if they are those of selections. -/
theorem failures_step (hb : ∀ s ∈ b.selections, Poised b.hosts.length s) :
    (b.step e).metrics.connectFailures = b.metrics.connectFailures + (b.fails e).toNat := by
  have hturn {i : SelectionId} {s : Selection α σ} {r : Balancer α σ × Selection α σ}
      (ht : Turn b e i s r) :
      r.1.metrics.connectFailures = b.metrics.connectFailures + (b.fails e).toNat := by
    obtain ⟨heq, -, hfails, -⟩ | ⟨-, created, hcounters⟩ := ht.counters
    · rw [heq, hfails]
      rfl
    · exact congrArg Counters.connectFailures hcounters
  cases hf : b.fails e with
  | true =>
    -- The host is there, so this is a turn.
    obtain ⟨i, reason, rfl⟩ : ∃ i reason, e = .dialled i (.refused reason) := by
      unfold Balancer.fails at hf
      split at hf
      · exact ⟨_, _, rfl⟩
      · simp at hf
    obtain ⟨h, hd⟩ := Option.isSome_iff_exists.mp hf
    obtain ⟨s, pass, rest, hi, hp⟩ := dialling?_eq_some hd
    cases hb s (List.mem_of_getElem? hi) with
    | @connecting h' _ _ hp' hlt =>
      obtain ⟨r, ht, heq⟩ := turn_of_connecting hi hp' (List.getElem?_eq_getElem hlt)
        (.refused reason)
      rw [← hf, ← hturn ht]
      exact congrArg (fun b => b.metrics.connectFailures) heq
    | discarding hp' | done hp' => simp [hp] at hp'
  | false =>
    by_cases hs : e.Selects
    · obtain heq | ⟨i, s, r, ht, hstep, -, -⟩ := turn_step (b := b) hs
      · rw [heq]
        rfl
      · rw [hstep, ← hf]
        exact hturn ht
    · obtain ⟨created, hcounters⟩ := b.counters_step hs
      exact congrArg Counters.connectFailures hcounters

theorem failures_run : ∀ (events : List (Event α σ)) (b : Balancer α σ),
    (∀ s ∈ b.selections, Poised b.hosts.length s) →
    (b.run events).metrics.connectFailures = b.metrics.connectFailures +
      b.tally (fun b e => (b.fails e).toNat) events
  | [], _, _ => rfl
  | e :: events, b, hb => by
    have hone := failures_step (e := e) hb
    have hrest := failures_run events (b.step e) (poised_step hb)
    have hrun : b.run (e :: events) = (b.step e).run events := rfl
    rw [hrun]
    unfold Balancer.tally
    omega

/-- What every turn keeps of a selection that has begun, every run keeps. -/
theorem selection_run {i : SelectionId} {P : Selection α σ → Prop}
    (hturn : ∀ (b : Balancer α σ) (e : Event α σ) (s : Selection α σ)
      (r : Balancer α σ × Selection α σ),
      b.selections[i]? = some s → Turn b e i s r → P s → P r.2) :
    ∀ (events : List (Event α σ)) (b : Balancer α σ) (s : Selection α σ),
      b.selections[i]? = some s → P s → ∃ s', (b.run events).selections[i]? = some s' ∧ P s'
  | [], _, s, hi, hs => ⟨s, hi, hs⟩
  | e :: events, b, s, hi, hs => by
    obtain hsame | ⟨s₀, r, ht, -, hs₀, hsel⟩ := selection_step b e i
    · exact selection_run hturn events (b.step e) s (hsame.trans hi) hs
    · obtain rfl := hs₀ s hi
      exact selection_run hturn events (b.step e) r.2 hsel (hturn b e s r hi ht hs)

omit [DecidableEq α] in
/-- What a selection that is not refused comes to. -/
theorem result?_of_standing {i : SelectionId} {s : Selection α σ} (hi : b.selections[i]? = some s)
    (hs : s.standing ≠ .refused) : b.result? i = none ∨ (∃ l, b.result? i = some (.ok l)) ∨
      ∃ err, b.result? i = some (.error err) ∧ err.isRejection = true := by
  have hresult : b.result? i = s.result? := by simp [Balancer.result?, hi]
  rw [hresult]
  unfold Selection.standing at hs
  cases hr : s.result? with
  | none => exact .inl rfl
  | some result =>
    cases result with
    | ok l => exact .inr (.inl ⟨l, rfl⟩)
    | error err =>
      refine .inr (.inr ⟨err, rfl, ?_⟩)
      simp only [hr] at hs
      by_contra hne
      exact hs (if_neg hne)

/-- A selection that begins when the balancer is closed has failed, and stays
so. -/
theorem result?_run_of_closed (hc : b.isClosed = true) (accepts : Selector (Link α) σ)
    (after : List (Event α σ)) :
    ((b.step (.select accepts)).run after).result? b.selections.length =
      some (.error (.closed b.setup.target)) := by
  obtain ⟨r, ht, heq⟩ := turn_select (b := b) accepts
  have hi : (b.step (.select accepts)).selections[b.selections.length]? = some r.2 := by
    simp [Balancer.step, heq]
  have hrefused : r.2.result? = some (.error (.closed b.setup.target)) := by
    cases ht with
    | refused => rfl
    | hostless ho | begins ho => simp [hc] at ho
  -- A selection that has a result takes no more turns.
  obtain ⟨s, hs, hr⟩ := selection_run
    (P := fun s => s.result? = some (.error (.closed b.setup.target)))
    (fun _ _ s _ _ ht hs => by simp [ht.unfinished] at hs) after _ r.2 hi hrefused
  simp [Balancer.result?, hs, hr]

/-- Any other selection is never one that was refused. -/
theorem standing_run_of_open (ho : b.isClosed = false) (accepts : Selector (Link α) σ)
    (after : List (Event α σ)) :
    ∃ s, ((b.step (.select accepts)).run after).selections[b.selections.length]? = some s ∧
      s.standing ≠ .refused := by
  obtain ⟨r, ht, heq⟩ := turn_select (b := b) accepts
  have hi : (b.step (.select accepts)).selections[b.selections.length]? = some r.2 := by
    simp [Balancer.step, heq]
  have hstanding : r.2.standing ≠ .refused := by
    obtain ⟨-, -, -, hclosed, -⟩ | ⟨hstanding, -⟩ := ht.counters
    · simp [ho] at hclosed
    · exact hstanding
  refine selection_run (P := fun s => s.standing ≠ .refused) (fun b e s r hi ht _ => ?_) after _ r.2
    hi hstanding
  obtain ⟨-, hlength, -⟩ | ⟨hstanding, -⟩ := ht.counters
  · rw [List.getElem?_eq_none (Nat.le_of_eq hlength.symm)] at hi
    cases hi
  · exact hstanding

/-- **The counters are conserved.** Take any run.

A selection that began when the balancer was closed has failed for this reason.
Any other selection has returned a connection, has failed with a rejection, or
is under way, and then what it waits for has happened less often than its bound
says: so it ends, in one of these two ways. The selections counted are those
that returned a connection, the rejections counted, and those under way; and
the rejections counted are the selections that failed with one.

The failed connects counted are those of selections, one for each step in which
such a connect fails. Of a factory that never returns a connection twice, the
connections created are those pooled at the hosts of the table, those that were
pruned, and those that were drained from a pool for closing. -/
theorem counters_conserved (setup : Setup α) (tape : Tape) (callers : σ)
    (events : List (Event α σ)) :
    let b₀ := Balancer.start setup tape callers
    let b := b₀.run events
    (∀ before accepts after, events = before ++ .select accepts :: after →
      let b₁ := b₀.run before
      let b₂ := b₁.step (.select accepts)
      let i := b₁.selections.length
      if b₁.isClosed then b.result? i = some (.error (.closed setup.target))
      else b.result? i = none ∧ b₂.resumptions i after < b₂.waits i ∨
        (∃ l, b.result? i = some (.ok l)) ∨
        ∃ err, b.result? i = some (.error err) ∧ err.isRejection = true) ∧
    b.metrics.selections = b.standings .served + b.metrics.rejections + b.standings .underWay ∧
    b.metrics.rejections = b.standings .rejected ∧
    b.metrics.connectFailures = b₀.tally (fun b e => (b.fails e).toNat) events ∧
    ((∀ e ∈ events, ¬ e.Reopens) → b.metrics.created =
      b.pooledInTable + b₀.tally Balancer.prunes events + b₀.tally Balancer.drains events) := by
  intro b₀ b
  have hcounted : Counted b := counted_run events b₀ ⟨rfl, rfl⟩
  have hpoised (es : List (Event α σ)) :
      ∀ s ∈ (b₀.run es).selections, Poised (b₀.run es).hosts.length s :=
    selections_run (P := fun b s => Poised b.hosts.length s) (fun _ _ => poised_step) es b₀
      (by simp [b₀, Balancer.start])
  refine ⟨?_, ?_, hcounted.rejections, ?_, fun hn => ?_⟩
  · rintro before accepts after rfl b₁ b₂ i
    have hrun : b = b₂.run after := Balancer.run_append b₀ before _
    rw [hrun]
    split
    · rename_i hc
      have htarget : b₁.setup.target = setup.target :=
        congrArg Setup.target (Balancer.setup_run b₀ before)
      rw [← htarget]
      exact result?_run_of_closed hc accepts after
    · rename_i ho
      obtain ⟨s, hs, hlast⟩ := standing_run_of_open (Bool.eq_false_iff.mpr ho) accepts after
      obtain hnone | hover := result?_of_standing hs hlast
      · have hlt : i < b₂.selections.length := by
          obtain ⟨r, -, heq⟩ := turn_select (b := b₁) accepts
          simp [b₂, i, Balancer.step, heq]
        exact .inl ⟨hnone, resumptions_lt after b₂ (poised_step (hpoised before)) hlt hnone⟩
      · exact .inr hover
  · rw [hcounted.rejections]
    exact hcounted.selections
  · have hfailures := failures_run events b₀ (hpoised [])
    rwa [show b₀.metrics.connectFailures = 0 from rfl, Nat.zero_add] at hfailures
  · have hcreated := created_run events b₀ [] hn .start (accounted_start setup tape callers)
    obtain ⟨pruned, ha, -⟩ :=
      accounted_run events b₀ [] hn .start (accounted_start setup tape callers)
    rw [show b₀.metrics.created = 0 from rfl, show b₀.poolSum = 0 from rfl,
      poolSum_eq (tidy_run setup tape callers events) ha, Nat.zero_add, Nat.add_zero] at hcreated
    exact hcreated

end

/-- Of two hosts one is down. The other one serves two selections, but the first
connection is closed by the peer and pruned, and the second is drained when the
host is withdrawn, while a third selection waits for its own. Then the host that
was down is back, serves a selection and lets another one wait. -/
def reckoning : List (Event Nat Unit) :=
  [.startReconciler, .deliver (.batch [⟨1, .available⟩, ⟨2, .available⟩]), .takeNotice,
    .select (.pure fun _ => true), .dialled 0 (.refused "down"), .dialled 0 .opened,
    .peerCloses 0, .select (.pure fun _ => true), .select (.pure fun _ => true),
    .dialled 1 .opened, .deliver (.batch [⟨2, .unavailable⟩, ⟨1, .available⟩]), .takeNotice,
    .dialled 2 .opened, .discarded 2, .select (.pure fun _ => true), .dialled 3 .opened,
    .select (.pure fun _ => false)]

theorem counters_conserved_reckoning :
    (∀ e ∈ reckoning, ¬ e.Reopens) ∧
      ((freshBalancer true).run reckoning).metrics.counters = ⟨5, 1, 3, 1⟩ ∧
      (freshBalancer true).tally Balancer.prunes reckoning = 1 ∧
      (freshBalancer true).tally Balancer.drains reckoning = 1 ∧
      ((freshBalancer true).run reckoning).metrics.created =
        ((freshBalancer true).run reckoning).pooledInTable +
          (freshBalancer true).tally Balancer.prunes reckoning +
          (freshBalancer true).tally Balancer.drains reckoning := by
  have hn : ∀ e ∈ reckoning, ¬ e.Reopens := by simp [reckoning, Event.Reopens]
  refine ⟨hn, by decide, by decide +kernel, by decide +kernel, ?_⟩
  exact (counters_conserved (plainSetup true) (.ofSeed 0) () reckoning).2.2.2.2 hn

end HostRotation
