/-
# Who has a connection

Every connection is in one place: pooled once at one host of the table, or
pruned from a pool because it was found closed, or handed over for closing
once (`custody`). So the balancer closes no connection twice, none that it
pruned, and an open connection leaves its pool only when its host leaves the
table; once everything handed over is closed, each connection was either
pruned or closed by the balancer, once.

The equation of `Accounts` says so in the middle of a step, where it counts
prunings by a record that nothing reads. What a step as a whole prunes can be
seen from outside (`Balancer.Prunes`), and `Since` relates the two: it says
what a step may have done to pools and connections since it began.
-/
import HostRotation.Proofs.Accounts

namespace HostRotation

variable {α σ : Type}

/-! ### As seen from outside -/

namespace Balancer

/-- How often a connection is pooled. -/
def pooled (b : Balancer α σ) (c : ConnId) : Nat := poolCopies c b.hosts

/-- How often a connection was handed over for closing, closed since or not. -/
def handedOver (b : Balancer α σ) (c : ConnId) : Nat :=
  closeCalls c b.connections + closingCopies c b.closings

/-- An event by which a connect to a host ends with a new connection. -/
def Opening (b : Balancer α σ) (h : HostId) : Event α σ → Prop
  | .dialled i .opened =>
    ∃ s pass rest, b.selections[i]? = some s ∧ s.phase = .connecting h pass rest
  | .probed t .opened =>
    ∃ task, b.tasks[t]? = some task ∧ task.kind = .health h ∧ task.phase = .connecting
  | _ => False

variable [DecidableEq α]

/-- A step takes a closed connection out of its pool and leaves it at that. -/
def Prunes (b : Balancer α σ) (e : Event α σ) (c : ConnId) : Prop :=
  isDown c b.connections = true ∧ 0 < b.pooled c ∧ (b.step e).pooled c = 0 ∧
    (b.step e).handedOver c = b.handedOver c

instance (b : Balancer α σ) (e : Event α σ) (c : ConnId) : Decidable (b.Prunes e c) := by
  unfold Prunes
  infer_instance

/-- How many steps of a run prune a connection. -/
def prunings (b : Balancer α σ) (c : ConnId) : List (Event α σ) → Nat
  | [] => 0
  | e :: es => (if b.Prunes e c then 1 else 0) + (b.step e).prunings c es

end Balancer

/-! ### Pools and connections from move to move -/

/-- What a move does to pools: what enters one was in hand after a connect,
what leaves one was pruned or belongs to a host that is closed, and what is
pruned was pooled and closed. -/
structure PoolChange (e : Event α σ) (m m' : Moment α σ) : Prop where
  enters : ∀ h, ∀ l ∈ poolAt m'.hosts h, l ∈ poolAt m.hosts h ∨ e.Dials ∧ l ∈ m.inHand
  exits : ∀ h, ∀ l ∈ poolAt m.hosts h,
    l ∈ poolAt m'.hosts h ∨ m'.pruned = m.pruned ++ [l] ∨ h ∈ m.leaving
  pruned : m'.pruned = m.pruned ∨ ∃ h, ∃ l ∈ poolAt m.hosts h,
    isDown l.id m.connections = true ∧ m'.pruned = m.pruned ++ [l]

namespace PoolChange

variable {e : Event α σ} {m m' : Moment α σ} {h : HostId} {host host' : Host α (Link α)}
  {l : Link α}

theorem quiet (hp : ∀ h, poolAt m'.hosts h = poolAt m.hosts h) (hq : m'.pruned = m.pruned) :
    PoolChange e m m' :=
  ⟨fun h _ hl => .inl (hp h ▸ hl), fun h _ hl => .inl ((hp h).symm ▸ hl), .inl hq⟩

/-- A host changes and its pool does not. -/
theorem keep (hh : m.hosts[h]? = some host) (hs : m'.hosts = m.hosts.set h host')
    (hp : host'.pool = host.pool) (hq : m'.pruned = m.pruned) : PoolChange e m m' := by
  refine quiet (fun j => ?_) hq
  rw [hs, poolAt_set hh]
  split
  · subst j
    rw [hp, poolAt_of_getElem? hh]
  · rfl

theorem close (hm : h ∈ m.leaving) (hh : m.hosts[h]? = some host)
    (hs : m'.hosts = m.hosts.set h host') (hp : host'.pool = host.close.1.pool)
    (hq : m'.pruned = m.pruned) : PoolChange e m m' where
  enters := by
    intro j x hx
    rw [hs, poolAt_set hh] at hx
    split at hx
    · subst j
      rw [hp] at hx
      rw [poolAt_of_getElem? hh]
      exact .inl (Host.mem_pool_close hx)
    · exact .inl hx
  exits := by
    intro j x hx
    rw [hs, poolAt_set hh]
    split
    · subst j
      exact .inr (.inr hm)
    · exact .inl hx
  pruned := .inl hq

variable [DecidableEq α]

/-- A connection in hand is pooled. -/
theorem fill (hd : e.Dials) (hl : l ∈ m.inHand) (hh : m.hosts[h]? = some host)
    (hs : m'.hosts = m.hosts.set h host') (hp : host'.pool = (host.add l).1.pool)
    (hq : m'.pruned = m.pruned) : PoolChange e m m' where
  enters := by
    intro j x hx
    rw [hs, poolAt_set hh] at hx
    split at hx
    · subst j
      rw [hp] at hx
      rw [poolAt_of_getElem? hh]
      rcases Host.mem_pool_add hx with hx | rfl
      · exact .inl hx
      · exact .inr ⟨hd, hl⟩
    · exact .inl hx
  exits := by
    intro j x hx
    rw [hs, poolAt_set hh]
    split
    · subst j
      rw [poolAt_of_getElem? hh] at hx
      exact .inl (hp ▸ Host.subset_pool_add hx)
    · exact .inl hx
  pruned := .inl hq

theorem prune (hh : m.hosts[h]? = some host) (hl : l ∈ host.pool)
    (hc : isDown l.id m.connections = true) (hs : m'.hosts = m.hosts.set h (host.remove l).1)
    (hq : m'.pruned = m.pruned ++ [l]) : PoolChange e m m' where
  enters := by
    intro j x hx
    rw [hs, poolAt_set hh] at hx
    split at hx
    · subst j
      rw [Host.pool_remove hl] at hx
      rw [poolAt_of_getElem? hh]
      exact .inl (List.mem_of_mem_erase hx)
    · exact .inl hx
  exits := by
    intro j x hx
    rw [hs, poolAt_set hh]
    split
    · subst j
      rw [poolAt_of_getElem? hh] at hx
      rw [Host.pool_remove hl]
      by_cases hxl : x = l
      · subst x
        exact .inr (.inl hq)
      · exact .inl ((List.mem_erase_of_ne hxl).mpr hx)
    · exact .inl hx
  pruned := .inr ⟨h, l, by rwa [poolAt_of_getElem? hh], hc, hq⟩

end PoolChange

theorem lt_of_isDown {connections : List (Connection α)} {c : ConnId}
    (h : isDown c connections = true) : c < connections.length := by
  refine Nat.lt_of_not_le fun hge => ?_
  simp [isDown, List.getElem?_eq_none hge] at h

/-- What a move does to connections: they stay, closed ones stay closed, and
closing one is the balancer's doing, unless the step is the peer's. -/
structure LinkChange (e : Event α σ) (connections connections' : List (Connection α)) :
    Prop where
  length : connections.length ≤ connections'.length
  stays : ∀ c, isDown c connections = true → isDown c connections' = true
  calls : ∀ c, closeCalls c connections ≤ closeCalls c connections'
  down : (∀ i, e ≠ .peerCloses i) → ∀ c, isDown c connections' = true →
    isDown c connections = true ∨ 0 < closeCalls c connections'

namespace LinkChange

variable {e : Event α σ} (connections : List (Connection α))

theorem refl : LinkChange e connections connections :=
  ⟨Nat.le_refl _, fun _ h => h, fun _ => Nat.le_refl _, fun _ _ h => .inl h⟩

theorem append (a : α) : LinkChange e connections (connections ++ [{ address := a }]) where
  length := by simp
  stays := by
    intro c hc
    by_cases hlt : c < connections.length
    · rwa [isDown, List.getElem?_append_left hlt]
    · simp [isDown, List.getElem?_eq_none (Nat.not_lt.mp hlt)] at hc
  calls := fun c => Nat.le_of_eq (closeCalls_append _ a c).symm
  down := by
    intro _ c hc
    unfold isDown at hc
    cases hk : (connections ++ [{ address := a }])[c]? with
    | none => simp [hk] at hc
    | some k =>
      rcases getElem?_concat_cases hk with ⟨rfl, rfl⟩ | ⟨hlt, hk'⟩
      · simp at hc
      · rw [hk] at hc
        exact .inl (by rw [isDown, hk']; exact hc)

theorem modify (i : ConnId) (f : Connection α → Connection α)
    (hs : ∀ k, k.closed = true → (f k).closed = true) (hc : ∀ k, k.closeCalls ≤ (f k).closeCalls)
    (hd : (∀ i, e ≠ .peerCloses i) →
      ∀ k, (f k).closed = true → k.closed = true ∨ 0 < (f k).closeCalls) :
    LinkChange e connections (connections.modify i f) where
  length := by simp
  stays := by
    intro c hc
    unfold isDown at hc ⊢
    rw [List.getElem?_modify]
    cases hk : connections[c]? with
    | none => simp [hk] at hc
    | some k =>
      rw [hk] at hc
      by_cases hic : i = c
      · simpa [hic] using hs k hc
      · simpa [hic] using hc
  calls := by
    intro c
    unfold closeCalls
    rw [List.getElem?_modify]
    cases hk : connections[c]? with
    | none => simp
    | some k =>
      by_cases hic : i = c
      · simpa [hic] using hc k
      · simp [hic]
  down := by
    intro he c hdown
    unfold isDown closeCalls at *
    rw [List.getElem?_modify] at hdown ⊢
    cases hk : connections[c]? with
    | none => simp [hk] at hdown
    | some k =>
      by_cases hic : i = c
      · simpa [hic] using hd he k (by simpa [hk, hic] using hdown)
      · exact .inl (by simpa [hk, hic] using hdown)

end LinkChange

/-! ### Every move -/

section

variable [DecidableEq α] {e : Event α σ} {m m' : Moment α σ}

theorem poolChange_move (hmove : Move e m m') : PoolChange e m m' := by
  cases hmove with
  | note | listen | lose | resubscribe | heed | shut | settle | arm | fire | attempt =>
    exact .quiet (fun _ => rfl) rfl
  | skip | discard | discarded | giveUp | unplanned => exact .quiet (fun _ => rfl) rfl
  | withdraw | ignore | retire | closeNone => exact .quiet (fun _ => rfl) rfl
  | opens | reopen | closeLink | handOver | beginClosing => exact .quiet (fun _ => rfl) rfl
  | peerCloses | closeWillFail => exact .quiet (fun _ => rfl) rfl
  | appear a => exact .quiet (fun h => poolAt_append _ a h) rfl
  | reach he _ _ _ _ hh _ hl =>
    exact .fill (he ▸ trivial) (hl ▸ List.mem_cons_self) hh rfl rfl rfl
  | welcome he hh _ hl => exact .fill (he ▸ trivial) (hl ▸ List.mem_cons_self) hh rfl rfl rfl
  | pool he hh _ _ hl => exact .fill (he ▸ trivial) (hl ▸ List.mem_cons_self) hh rfl rfl rfl
  | retry _ _ _ _ _ hh _ => exact .keep hh rfl rfl rfl
  | fail hh _ => exact .keep hh rfl (Host.pool_recordFailure _ _) rfl
  | fallSick _ _ hh _ _ => exact .keep hh rfl (Host.pool_recordFailure _ _) rfl
  | reannounce _ _ hh _ => exact .keep hh rfl (Host.pool_activate _) rfl
  | revive _ _ hh _ => exact .keep hh rfl (Host.pool_activate _) rfl
  | expire _ _ hh _ => exact .keep hh rfl (Host.pool_expire _) rfl
  | expireOut _ _ hh _ => exact .keep hh rfl (Host.pool_expire _) rfl
  | prune hh hl hc => exact .prune hh hl hc rfl rfl
  | closeHost _ hl hh => exact .close (hl ▸ List.mem_cons_self) hh rfl rfl rfl

theorem linkChange_move (hmove : Move e m m') : LinkChange e m.connections m'.connections := by
  cases hmove with
  | note | listen | lose | resubscribe | heed | shut | settle | arm | fire | attempt =>
    exact .refl _
  | skip | reach | discard | discarded | retry | giveUp | unplanned => exact .refl _
  | prune | fail | fallSick | welcome | pool => exact .refl _
  | appear | reannounce | revive | expire | expireOut | withdraw | ignore | retire =>
    exact .refl _
  | closeHost | closeNone | reopen | handOver | beginClosing => exact .refl _
  | opens a _ => exact .append _ a
  | closeLink _ =>
    exact .modify _ _ _ (fun _ _ => rfl) (fun k => Nat.le_succ _) fun _ k _ =>
      .inr (Nat.succ_pos _)
  | peerCloses c he =>
    exact .modify _ _ _ (fun _ _ => rfl) (fun k => Nat.le_refl _) fun hne => absurd he (hne c)
  | closeWillFail c _ =>
    exact .modify _ _ _ (fun _ h => h) (fun k => Nat.le_refl _) fun _ k h => .inl h

end

/-! ### From the beginning of a step -/

/-- What a step that is not the peer's may have done since it began at `b`,
when the connections `pruned` had been pruned. -/
structure Since (b : Balancer α σ) (pruned : List (Link α)) (e : Event α σ) (m : Moment α σ) :
    Prop where
  tidy : Tidy m.hosts m.table m.leaving
  accounted : Accounted m.hosts m.inHand m.pruned m.closings m.connections
  hosts : Extends b.hosts m.hosts b.table m.table
  length : b.connections.length ≤ m.connections.length
  down : ∀ c, isDown c m.connections = true →
    isDown c b.connections = true ∨ 0 < closeCalls c m.connections
  /-- What is pooled was pooled at the same host, or is new. -/
  origin : ∀ h, ∀ l ∈ poolAt m.hosts h,
    l ∈ poolAt b.hosts h ∨ b.connections.length ≤ l.id
  fresh : e.Dials → ∀ l ∈ m.inHand, b.connections.length ≤ l.id
  grows : ∀ c, copies pruned c ≤ copies m.pruned c
  /-- What is pruned was pooled and closed. -/
  cause : ∀ c, copies pruned c < copies m.pruned c →
    isDown c b.connections = true ∧ 0 < b.pooled c
  /-- What was pooled stays so, is pruned, or its host left. -/
  leaves : ∀ h, ∀ l ∈ poolAt b.hosts h, l ∈ poolAt m.hosts h ∨
    copies pruned l.id < copies m.pruned l.id ∨ h ∉ m.table

theorem since_start {e : Event α σ} {b : Balancer α σ} {pruned : List (Link α)} {applied : Batch α}
    (ht : Tidy b.hosts b.table []) (ha : Accounted b.hosts [] pruned b.closings b.connections) :
    Since b pruned e ⟨b, [], [], pruned, applied⟩ where
  tidy := ht
  accounted := ha
  hosts := .refl _ _
  length := Nat.le_refl _
  down := fun _ h => .inl h
  origin := fun _ _ h => .inl h
  fresh := fun _ _ h => absurd h List.not_mem_nil
  grows := fun _ => Nat.le_refl _
  cause := fun _ h => absurd h (Nat.lt_irrefl _)
  leaves := fun _ _ h => .inl h

section

variable [DecidableEq α] {e : Event α σ} {m m' : Moment α σ}

theorem fresh_move {n : Nat} (hn : ¬ e.Reopens) (hmove : Move e m m') (hd : e.Dials)
    (hlen : n ≤ m.connections.length) (hm : ∀ l ∈ m.inHand, n ≤ l.id) :
    ∀ l ∈ m'.inHand, n ≤ l.id := by
  cases hmove with
  | note | listen | lose | resubscribe | heed | shut | settle | arm | fire | attempt => exact hm
  | skip | discard | discarded | retry | giveUp | unplanned | prune | fail | fallSick => exact hm
  | appear | reannounce | revive | expire | expireOut | withdraw | ignore | retire => exact hm
  | closeNone | peerCloses | closeWillFail => exact hm
  | reach _ _ _ _ _ _ _ hl => exact fun l hmem => hm l (hl ▸ List.mem_cons_of_mem _ hmem)
  | welcome _ _ _ hl => exact fun l hmem => hm l (hl ▸ List.mem_cons_of_mem _ hmem)
  | pool _ _ _ _ hl => exact fun l hmem => hm l (hl ▸ List.mem_cons_of_mem _ hmem)
  | closeLink hl => exact fun l hmem => hm l (hl ▸ List.mem_cons_of_mem _ hmem)
  | handOver => exact fun l hmem => absurd hmem List.not_mem_nil
  | opens =>
    intro l hmem
    rcases List.mem_cons.mp hmem with rfl | hmem
    · exact hlen
    · exact hm l hmem
  | closeHost he => exact absurd hd he
  | reopen _ he _ => exact absurd he hn
  | beginClosing he =>
    subst he
    exact absurd hd id

theorem since_move {b : Balancer α σ} {pruned : List (Link α)} (hn : ¬ e.Reopens)
    (hp : ∀ i, e ≠ .peerCloses i) (hmove : Move e m m') (hs : Since b pruned e m) :
    Since b pruned e m' := by
  have hpool := poolChange_move hmove
  have hlink := linkChange_move hmove
  have hback := (extends_move (b := m.toBalancer) hmove (.refl _ _)).stays
  have hgrows (c : ConnId) : copies m.pruned c ≤ copies m'.pruned c := by
    rcases hpool.pruned with heq | ⟨_, _, _, _, heq⟩ <;> simp [heq]
  refine ⟨tidy_move hmove hs.tidy, accounted_move hn hmove hs.accounted,
    extends_move hmove hs.hosts, Nat.le_trans hs.length hlink.length, ?_, ?_,
    fun hd => fresh_move hn hmove hd hs.length (hs.fresh hd),
    fun c => Nat.le_trans (hs.grows c) (hgrows c), ?_, ?_⟩
  · intro c hc
    rcases hlink.down hp c hc with hc | hc
    · exact (hs.down c hc).imp_right fun h => Nat.lt_of_lt_of_le h (hlink.calls c)
    · exact .inr hc
  · intro h l hl
    rcases hpool.enters h l hl with hl | ⟨hd, hl⟩
    · exact hs.origin h l hl
    · exact .inr (hs.fresh hd l hl)
  · intro c hc
    rcases hpool.pruned with heq | ⟨h, l, hl, hdown, heq⟩
    · exact hs.cause c (heq ▸ hc)
    · rw [heq, copies_append, copies_cons, copies_nil] at hc
      by_cases hlc : l.id = c
      · -- The connection is pooled, so the balancer did not close it, so it was closed before.
        subst c
        have hpos := poolCopies_pos hl
        have hone := hs.accounted.le_one l.id
        have hdown : isDown l.id b.connections = true := by
          rcases hs.down l.id hdown with h | h
          · exact h
          · omega
        rcases hs.origin h l hl with hl | hge
        · exact ⟨hdown, poolCopies_pos hl⟩
        · exact absurd (lt_of_isDown hdown) (Nat.not_lt.mpr hge)
      · exact hs.cause c (by simpa [hlc] using hc)
  · intro h l hl
    rcases hs.leaves h l hl with hl' | hlt | hm
    · rcases hpool.exits h l hl' with hl' | heq | hleft
      · exact .inl hl'
      · have hle := hs.grows l.id
        refine .inr (.inl ?_)
        rw [heq, copies_append, copies_cons, copies_nil, if_pos rfl]
        omega
      · have hlt := hs.tidy.known h (List.mem_append_right _ hleft)
        exact .inr (.inr fun hm => hs.tidy.apart h hleft (hback h hm hlt))
    · exact .inr (.inl (Nat.lt_of_lt_of_le hlt (hgrows l.id)))
    · have hlt := Nat.lt_of_lt_of_le (lt_of_mem_poolAt hl) hs.hosts.length_le
      exact .inr (.inr fun hm' => hm (hback h hm' hlt))

/-! ### Every step -/

variable {b : Balancer α σ} {pruned : List (Link α)}

theorem since_step (hn : ¬ e.Reopens) (hp : ∀ i, e ≠ .peerCloses i)
    (ht : Tidy b.hosts b.table []) (ha : Accounted b.hosts [] pruned b.closings b.connections) :
    ∃ pruned' applied, Since b pruned e ⟨b.step e, [], [], pruned', applied⟩ := by
  obtain ⟨pruned', hmoves⟩ := Balancer.moves_step b e pruned []
  exact ⟨pruned', _, Moves.keeps (fun _ _ => since_move hn hp) hmoves (since_start ht ha)⟩

/-- A step prunes just what `Balancer.Prunes` says. -/
theorem Since.count {pruned' : List (Link α)} {applied : Batch α}
    (ha : Accounted b.hosts [] pruned b.closings b.connections)
    (hs : Since b pruned e ⟨b.step e, [], [], pruned', applied⟩) (c : ConnId) :
    copies pruned' c = copies pruned c + if b.Prunes e c then 1 else 0 := by
  have hbefore := ha c
  have hafter := hs.accounted c
  have hgrows := hs.grows c
  have hlength := hs.length
  simp only [copies_nil] at hbefore hafter
  dsimp only at hafter hgrows hlength
  by_cases hc : copies pruned c < copies pruned' c
  · -- It was pooled and closed, and is in no other place afterwards.
    obtain ⟨hdown, hpos⟩ := hs.cause c hc
    have hlt := lt_of_isDown hdown
    rw [if_pos hlt] at hbefore
    rw [if_pos (Nat.lt_of_lt_of_le hlt hlength)] at hafter
    unfold Balancer.pooled at hpos
    have hprunes : b.Prunes e c := by
      refine ⟨hdown, hpos, ?_, ?_⟩
      · unfold Balancer.pooled
        omega
      · unfold Balancer.handedOver
        omega
    rw [if_pos hprunes]
    omega
  · have hprunes : ¬ b.Prunes e c := by
      rintro ⟨hdown, hpos, hnone, hsame⟩
      have hlt := lt_of_isDown hdown
      unfold Balancer.pooled Balancer.handedOver at *
      rw [if_pos hlt] at hbefore
      rw [if_pos (Nat.lt_of_lt_of_le hlt hlength)] at hafter
      omega
    rw [if_neg hprunes]
    omega

/-- Accounts are kept from step to step. -/
theorem accounted_step (hn : ¬ e.Reopens) (ht : Tidy b.hosts b.table [])
    (ha : Accounted b.hosts [] pruned b.closings b.connections) : ∃ pruned',
    Accounted (b.step e).hosts [] pruned' (b.step e).closings (b.step e).connections ∧
      ∀ c, copies pruned' c = copies pruned c + if b.Prunes e c then 1 else 0 := by
  by_cases hp : ∀ i, e ≠ .peerCloses i
  · obtain ⟨pruned', _, hs⟩ := since_step hn hp ht ha
    exact ⟨pruned', hs.accounted, hs.count ha⟩
  · -- The peer closes a connection: nothing moves.
    obtain ⟨i, rfl⟩ : ∃ i, e = .peerCloses i := by simpa using hp
    refine ⟨pruned, ha.modify i _ fun _ => rfl, fun c => ?_⟩
    have hprunes : ¬ b.Prunes (.peerCloses i) c := by
      rintro ⟨-, hpos, hnone, -⟩
      exact Nat.ne_of_gt hpos hnone
    rw [if_neg hprunes, Nat.add_zero]

theorem isDown_step {c : ConnId} (h : isDown c b.connections = true) :
    isDown c (b.step e).connections = true := by
  obtain ⟨_, hmoves⟩ := Balancer.moves_step b e [] []
  exact Moves.keeps (I := fun m => isDown c m.connections = true)
    (fun m m' hmove => (linkChange_move hmove).stays c) hmoves h

/-- What leaves a pool was pruned, or handed over when its host left. -/
theorem leaves_step (hn : ¬ e.Reopens) (ht : Tidy b.hosts b.table [])
    (ha : Accounted b.hosts [] pruned b.closings b.connections) {h : HostId} {l : Link α}
    (hl : l ∈ poolAt b.hosts h) : l ∈ poolAt (b.step e).hosts h ∨ b.Prunes e l.id ∨
      h ∉ (b.step e).table ∧ (b.step e).handedOver l.id = 1 := by
  by_cases hp : ∀ i, e ≠ .peerCloses i
  · obtain ⟨pruned', applied, hs⟩ := since_step hn hp ht ha
    have hcount := hs.count ha l.id
    by_cases hstays : l ∈ poolAt (b.step e).hosts h
    · exact .inl hstays
    by_cases hprunes : b.Prunes e l.id
    · exact .inr (.inl hprunes)
    rw [if_neg hprunes] at hcount
    have hone := ha.le_one l.id
    have hpos := poolCopies_pos hl
    have hlt : l.id < b.connections.length := ha.lt_of_pool hpos
    -- It is pooled nowhere else, because pools only take up new connections.
    have hnone : poolCopies l.id (b.step e).hosts = 0 := by
      refine Nat.eq_zero_of_not_pos fun hmore => ?_
      obtain ⟨h', l', hl', hid⟩ := exists_of_poolCopies_pos hmore
      rcases hs.origin h' l' hl' with hold | hge
      · obtain ⟨rfl, rfl⟩ := eq_of_poolCopies_le_one (by omega) hl hold hid
        exact hstays hl'
      · rw [hid] at hge
        exact absurd hlt (Nat.not_lt.mpr hge)
    rcases hs.leaves h l hl with hl' | hmore | hout
    · exact absurd hl' hstays
    · dsimp only at hmore
      omega
    · have hafter := hs.accounted l.id
      rw [if_pos (Nat.lt_of_lt_of_le hlt hs.length)] at hafter
      simp only [copies_nil] at hafter
      refine .inr (.inr ⟨hout, ?_⟩)
      unfold Balancer.handedOver
      omega
  · obtain ⟨i, rfl⟩ : ∃ i, e = .peerCloses i := by simpa using hp
    exact .inl hl

end

theorem accounted_start (setup : Setup α) (tape : Tape) (callers : σ) :
    let b := Balancer.start setup tape callers
    Accounted b.hosts [] [] b.closings b.connections := by
  intro b c
  simp [b, Balancer.start, poolCopies, closingCopies, closeCalls]

/-! ### Nothing left -/

theorem pooled_eq_zero {b : Balancer α σ} (hempty : ∀ h, poolAt b.hosts h = []) (c : ConnId) :
    b.pooled c = 0 := by
  refine Nat.eq_zero_of_not_pos fun hpos => ?_
  obtain ⟨h, l, hmem, -⟩ := exists_of_poolCopies_pos hpos
  rw [hempty h] at hmem
  exact List.not_mem_nil hmem

/-- When everything handed over is being closed, it is closed. -/
theorem handedOver_of_begun {b : Balancer α σ} (hbegun : ∀ k ∈ b.closings, k.begun = true)
    (c : ConnId) : b.handedOver c = closeCalls c b.connections := by
  have hclosing : closingCopies c b.closings = 0 := by
    refine List.sum_eq_zero_iff_forall_eq_nat.mpr fun n hmem => ?_
    obtain ⟨k, hk, rfl⟩ := List.mem_map.mp hmem
    rw [if_pos (hbegun k hk)]
  rw [Balancer.handedOver, hclosing, Nat.add_zero]

/-! ### New connections -/

theorem hosts_offer (b : Balancer α σ) (s : Selection α σ) (l : Link α) :
    (b.offer s l).1.hosts = b.hosts := by
  unfold Balancer.offer
  dsimp only
  split <;> rfl

theorem closeCalls_closeLink {b : Balancer α σ} {l : Link α} (hl : l.id < b.connections.length) :
    0 < closeCalls l.id (b.closeLink l).1.connections := by
  simp [closeCalls, Balancer.closeLink, Balancer.modifyConnection, hl]

section

variable [DecidableEq α] {b : Balancer α σ} {h : HostId} {host : Host α (Link α)}

theorem mem_poolAt_add {host' : Host α (Link α)} {l : Link α} (hh : b.hosts[h]? = some host)
    (hc : host.status ≠ .closed) (hp : host'.pool = (host.add l).1.pool) :
    l ∈ poolAt (b.hosts.set h host') h := by
  rw [poolAt_set hh, if_pos rfl, hp]
  exact Host.self_mem_pool_add hc l

/-- A connection that a selection opened is pooled, unless its host is closed. -/
theorem pooled_poolAndOffer (hh : b.hosts[h]? = some host) (s : Selection α σ) (l : Link α) :
    if host.status = .closed then
      (b.poolAndOffer s h l).1.connections = (b.closeLink l).1.connections
    else l ∈ poolAt (b.poolAndOffer s h l).1.hosts h := by
  split
  · rename_i hc
    rw [Balancer.poolAndOffer_of_closed hh s l hc]
  · rename_i hc
    by_cases hu : host.status = .unhealthy
    · rw [Balancer.poolAndOffer_of_unhealthy hh s l hu, hosts_offer]
      exact mem_poolAt_add hh hc rfl
    · rw [Balancer.poolAndOffer_of_ne hh s l hc hu, hosts_offer]
      exact mem_poolAt_add hh hc rfl

/-- A connection that a health attempt opened is pooled, unless its host is
closed. -/
theorem pooled_probeSucceeded (hh : b.hosts[h]? = some host) (t : TaskId) (l : Link α) :
    if host.status = .closed then
      (b.probeSucceeded t h host l).connections = (b.closeLink l).1.connections
    else l ∈ poolAt (b.probeSucceeded t h host l).hosts h := by
  split
  · rename_i hc
    rw [Balancer.probeSucceeded_of_closed hc]
    rfl
  · rename_i hc
    obtain ⟨metrics, heq⟩ := Balancer.probeSucceeded_of_ne (t := t) hh hc l
    rw [heq]
    exact mem_poolAt_add hh hc rfl

/-- A new connection is pooled at the host it was opened to or, if this host
was closed meanwhile, closed. -/
theorem opening_step {e : Event α σ} (ho : b.Opening h e) (hh : b.hosts[h]? = some host) :
    if host.status = .closed then 0 < closeCalls b.connections.length (b.step e).connections
    else ⟨b.connections.length, host.address⟩ ∈ poolAt (b.step e).hosts h := by
  have hlt : b.connections.length < (b.openLink host.address).1.connections.length := by
    simp [Balancer.openLink]
  have hcalls := closeCalls_closeLink (b := (b.openLink host.address).1)
    (l := ⟨b.connections.length, host.address⟩) hlt
  unfold Balancer.Opening at ho
  split at ho
  · rename_i i
    obtain ⟨s, pass, rest, hs, hphase⟩ := ho
    have hpool := pooled_poolAndOffer (b := (b.openLink host.address).1) hh s
      ⟨b.connections.length, host.address⟩
    obtain ⟨selections, hstep⟩ : ∃ selections, b.step (.dialled i .opened) =
        { ((b.openLink host.address).1.poolAndOffer s h
          ⟨b.connections.length, host.address⟩).1 with selections } := by
      simp only [Balancer.step, Balancer.dialled, hs, hphase, hh, Balancer.obtain]
      exact ⟨_, rfl⟩
    rw [hstep]
    split
    · rename_i hc
      rw [if_pos hc] at hpool
      rw [hpool]
      exact hcalls
    · rename_i hc
      rwa [if_neg hc] at hpool
  · rename_i t
    obtain ⟨task, ht, hk, hp⟩ := ho
    have hpool := pooled_probeSucceeded (b := (b.openLink host.address).1) hh t
      ⟨b.connections.length, host.address⟩
    have hstep : b.step (.probed t .opened) = (b.openLink host.address).1.probeSucceeded t h host
        ⟨b.connections.length, host.address⟩ := by
      simp only [Balancer.step, Balancer.probed, ht, hk, hp, hh, Balancer.obtain]
      rfl
    rw [hstep]
    split
    · rename_i hc
      rw [if_pos hc] at hpool
      rw [hpool]
      exact hcalls
    · rename_i hc
      rwa [if_neg hc] at hpool
  · exact ho.elim

/-- A new connection is pooled at the host it was opened to or, if this host
was closed meanwhile, handed over. -/
theorem opened_step {e : Event α σ} {pruned : List (Link α)} (hn : ¬ e.Reopens)
    (ht : Tidy b.hosts b.table [])
    (ha : Accounted b.hosts [] pruned b.closings b.connections) (ho : b.Opening h e)
    (hh : b.hosts[h]? = some host) :
    if host.status = .closed then (b.step e).handedOver b.connections.length = 1
    else ⟨b.connections.length, host.address⟩ ∈ poolAt (b.step e).hosts h := by
  have hopening := opening_step ho hh
  split
  · rename_i hc
    rw [if_pos hc] at hopening
    obtain ⟨_, hafter, -⟩ := accounted_step hn ht ha
    have hone := hafter.le_one b.connections.length
    unfold Balancer.handedOver
    omega
  · rename_i hc
    rwa [if_neg hc] at hopening

/-! ### Every run -/

theorem accounted_run : ∀ (events : List (Event α σ)) (b : Balancer α σ) (pruned : List (Link α)),
    (∀ e ∈ events, ¬ e.Reopens) → Tidy b.hosts b.table [] →
    Accounted b.hosts [] pruned b.closings b.connections → ∃ pruned',
      Accounted (b.run events).hosts [] pruned' (b.run events).closings
        (b.run events).connections ∧
      ∀ c, copies pruned' c = copies pruned c + b.prunings c events
  | [], b, pruned, _, _, ha => ⟨pruned, ha, fun _ => rfl⟩
  | e :: events, b, pruned, hn, ht, ha => by
    obtain ⟨p, hp, hone⟩ := accounted_step (hn e List.mem_cons_self) ht ha
    obtain ⟨q, hq, hrest⟩ := accounted_run events (b.step e) p
      (fun e' he' => hn e' (List.mem_cons_of_mem _ he')) (tidy_step e ht) hp
    refine ⟨q, hq, fun c => ?_⟩
    rw [hrest c, hone c, Balancer.prunings, Nat.add_assoc]

theorem isDown_run {c : ConnId} : ∀ (events : List (Event α σ)) (b : Balancer α σ),
    isDown c b.connections = true → isDown c (b.run events).connections = true
  | [], _, h => h
  | _ :: events, _, h => isDown_run events _ (isDown_step h)

/-- What was pruned is closed. -/
theorem isDown_of_prunings {c : ConnId} : ∀ (events : List (Event α σ)) (b : Balancer α σ),
    0 < b.prunings c events → isDown c (b.run events).connections = true
  | [], _, h => absurd h (Nat.lt_irrefl 0)
  | e :: events, b, h => by
    by_cases hprunes : b.Prunes e c
    · exact isDown_run events _ (isDown_step hprunes.1)
    · rw [Balancer.prunings, if_neg hprunes, Nat.zero_add] at h
      exact isDown_of_prunings events _ h

/-- **Every connection is in one place.** Of a factory that never returns a
connection twice, every connection is, at every moment of every run, pooled
once, or pruned once, or handed over for closing once. Only hosts of the table
have anything pooled, and what was pruned is closed. A connection leaves its
pool only by being pruned or by being handed over when its host leaves the
table, and a new one is pooled at the host it was opened to unless this host
is closed. Once the balancer is closed and everything handed over is closed,
every connection was either pruned and never closed by the balancer, or closed
by it once. -/
theorem custody (setup : Setup α) (tape : Tape) (callers : σ) (events : List (Event α σ))
    (hn : ∀ e ∈ events, ¬ e.Reopens) :
    let b₀ := Balancer.start setup tape callers
    let b := b₀.run events
    (∀ c < b.connections.length, b.pooled c + b₀.prunings c events + b.handedOver c = 1) ∧
      (∀ h, h ∉ b.table → poolAt b.hosts h = []) ∧
      (∀ c, 0 < b₀.prunings c events → isDown c b.connections = true) ∧
      (∀ c, closeCalls c b.connections ≤ 1) ∧
      (∀ before e after, events = before ++ e :: after →
        let b₁ := b₀.run before
        (∀ h, ∀ l ∈ poolAt b₁.hosts h, l ∈ poolAt (b₁.step e).hosts h ∨ b₁.Prunes e l.id ∨
          h ∉ (b₁.step e).table ∧ (b₁.step e).handedOver l.id = 1) ∧
        ∀ h host, b₁.Opening h e → b₁.hosts[h]? = some host →
          if host.status = .closed then (b₁.step e).handedOver b₁.connections.length = 1
          else ⟨b₁.connections.length, host.address⟩ ∈ poolAt (b₁.step e).hosts h) ∧
      (b.lifecycle ≠ .running → (∀ k ∈ b.closings, k.begun = true) →
        ∀ c < b.connections.length,
          b₀.prunings c events = 1 ∧ isDown c b.connections = true ∧
            closeCalls c b.connections = 0 ∨
          b₀.prunings c events = 0 ∧ closeCalls c b.connections = 1) := by
  intro b₀ b
  have ht := tidy_run setup tape callers events
  have hempty (h : HostId) (hout : h ∉ b.table) : poolAt b.hosts h = [] := by
    cases hh : b.hosts[h]? with
    | none => simp [poolAt, hh]
    | some host => rw [poolAt_of_getElem? hh, ht.empty_of_not_mem hh hout]
  obtain ⟨pruned, ha, hcount⟩ : ∃ pruned, Accounted b.hosts [] pruned b.closings b.connections ∧
      ∀ c, copies pruned c = copies [] c + b₀.prunings c events :=
    accounted_run events b₀ [] hn .start (accounted_start setup tape callers)
  have hsum (c : ConnId) (hc : c < b.connections.length) :
      b.pooled c + b₀.prunings c events + b.handedOver c = 1 := by
    have hac := ha c
    simp only [if_pos hc, hcount c, copies_nil] at hac
    unfold Balancer.pooled Balancer.handedOver
    omega
  refine ⟨hsum, hempty, fun c => isDown_of_prunings events b₀, fun c => ?_, ?_, ?_⟩
  · have hone := ha.le_one c
    omega
  · rintro before e after rfl
    have hn₁ : ∀ e' ∈ before, ¬ e'.Reopens := fun e' he' => hn e' (List.mem_append_left _ he')
    have hne : ¬ e.Reopens := hn e (List.mem_append_right _ List.mem_cons_self)
    have ht₁ := tidy_run setup tape callers before
    obtain ⟨pruned₁, ha₁, -⟩ := accounted_run before b₀ [] hn₁ .start
      (accounted_start setup tape callers)
    exact ⟨fun h l hl => leaves_step hne ht₁ ha₁ hl,
      fun h host ho hh => opened_step hne ht₁ ha₁ ho hh⟩
  · intro hl hbegun c hc
    have htable := emptied_run setup tape callers events hl
    have hpool := pooled_eq_zero (fun h => hempty h (htable ▸ List.not_mem_nil)) c
    have hone := hsum c hc
    rw [hpool, handedOver_of_begun hbegun] at hone
    by_cases hprunes : b₀.prunings c events = 0
    · exact .inr ⟨hprunes, by omega⟩
    · exact .inl ⟨by omega, isDown_of_prunings events b₀ (Nat.pos_of_ne_zero hprunes), by omega⟩

end

/-- A connection is opened and closed by its peer, the next selection prunes it
and opens another one, and then the balancer is closed. -/
def pruning : List (Event Nat Unit) :=
  [.startReconciler, .deliver (.batch [⟨1, .available⟩]), .takeNotice,
    .select (.pure fun _ => true), .dialled 0 .opened, .peerCloses 0,
    .select (.pure fun _ => true), .dialled 1 .opened, .close, .closeSettled]

theorem custody_pruning :
    (∀ e ∈ pruning, ¬ e.Reopens) ∧ (freshBalancer true).prunings 0 pruning = 1 ∧
      closeCalls 1 ((freshBalancer true).run pruning).connections = 1 ∧
      ∀ c < ((freshBalancer true).run pruning).connections.length,
        ((freshBalancer true).run pruning).pooled c + (freshBalancer true).prunings c pruning +
          ((freshBalancer true).run pruning).handedOver c = 1 := by
  have hn : ∀ e ∈ pruning, ¬ e.Reopens := by simp [pruning, Event.Reopens]
  exact ⟨hn, by decide, by decide, (custody (plainSetup true) (.ofSeed 0) () pruning hn).1⟩

end HostRotation
