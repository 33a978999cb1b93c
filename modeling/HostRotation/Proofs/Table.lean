/-
# The table and its hosts

Which hosts are closed is read off the table: a host that is neither in it
nor on its way out is closed, and every other one is not. A closed host has
nothing pooled. The table lists hosts in the order in which they were added,
and of the hosts an address ever had it can only hold the latest.

`Tidy` says so of a moment in the middle of a step, where hosts that left the
table wait to be closed; every move keeps it (`tidy_move`).
-/
import HostRotation.Proofs.History

namespace HostRotation

variable {α σ : Type}

/-- An entry of a list after one of its places was set. -/
theorem getElem?_set_cases {β : Type} {l : List β} {i j : Nat} {x y : β}
    (h : (l.set i x)[j]? = some y) : j = i ∧ y = x ∨ j ≠ i ∧ l[j]? = some y := by
  by_cases hij : i = j
  · subst hij
    obtain ⟨hlt, heq⟩ := List.getElem?_eq_some_iff.mp h
    exact .inl ⟨rfl, by simpa using heq.symm⟩
  · rw [List.getElem?_set_ne hij] at h
    exact .inr ⟨Ne.symm hij, h⟩

theorem set_getElem?_self {β : Type} {l : List β} {i : Nat} {x : β} (h : l[i]? = some x) :
    l.set i x = l := by
  obtain ⟨hlt, rfl⟩ := List.getElem?_eq_some_iff.mp h
  exact List.set_getElem_self hlt

/-- An entry of a list after one of its places was modified. -/
theorem getElem?_modify_cases {β : Type} {l : List β} {i j : Nat} {f : β → β} {y : β}
    (h : (l.modify i f)[j]? = some y) :
    (∃ x, j = i ∧ l[i]? = some x ∧ y = f x) ∨ j ≠ i ∧ l[j]? = some y := by
  by_cases hij : i = j
  · subst hij
    rw [List.getElem?_modify_eq] at h
    obtain ⟨x, hx, rfl⟩ := Option.map_eq_some_iff.mp h
    exact .inl ⟨x, rfl, hx, rfl⟩
  · rw [List.getElem?_modify_ne _ _ hij] at h
    exact .inr ⟨Ne.symm hij, h⟩

/-- An entry of a list that grew by one. -/
theorem getElem?_concat_cases {β : Type} {l : List β} {j : Nat} {x y : β}
    (h : (l ++ [x])[j]? = some y) : j = l.length ∧ y = x ∨ j < l.length ∧ l[j]? = some y := by
  by_cases hj : j < l.length
  · rw [List.getElem?_append_left hj] at h
    exact .inr ⟨hj, h⟩
  · obtain ⟨hlt, heq⟩ := List.getElem?_eq_some_iff.mp h
    rw [List.length_append, List.length_singleton] at hlt
    obtain rfl : j = l.length := by omega
    exact .inl ⟨rfl, by simpa using heq.symm⟩

/-- Of the hosts an address ever had, the table can only hold the latest. -/
def Latest (hosts : List (Host α (Link α))) (table : List HostId) : Prop :=
  ∀ h ∈ table, ∀ (h' : HostId) (host host' : Host α (Link α)), hosts[h]? = some host →
    hosts[h']? = some host' → host'.address = host.address → h' ≤ h

theorem Latest.set {hosts : List (Host α (Link α))} {table : List HostId} {h : HostId}
    {host host' : Host α (Link α)} (hl : Latest hosts table) (hh : hosts[h]? = some host)
    (ha : host'.address = host.address) : Latest (hosts.set h host') table := by
  -- Addresses are what they were, so the entries set may be read as the old ones.
  have hold {j : HostId} {k : Host α (Link α)} (hk : (hosts.set h host')[j]? = some k) :
      ∃ k₀, hosts[j]? = some k₀ ∧ k₀.address = k.address := by
    rcases getElem?_set_cases hk with ⟨rfl, rfl⟩ | ⟨-, hk⟩
    · exact ⟨host, hh, ha.symm⟩
    · exact ⟨k, hk, rfl⟩
  intro j hj j' k k' hk hk' hkk
  obtain ⟨k₀, hk₀, hk₀a⟩ := hold hk
  obtain ⟨k₀', hk₀', hk₀a'⟩ := hold hk'
  exact hl j hj j' k₀ k₀' hk₀ hk₀' (hk₀a'.trans (hkk.trans hk₀a.symm))

/-- The hosts, the table, and the hosts that left it and are not closed yet
fit together. -/
structure Tidy (hosts : List (Host α (Link α))) (table leaving : List HostId) : Prop where
  sorted : table.Pairwise (· < ·)
  known : ∀ h ∈ table ++ leaving, h < hosts.length
  once : leaving.Nodup
  apart : ∀ h ∈ leaving, h ∉ table
  closed_iff : ∀ (h : HostId) (host : Host α (Link α)), hosts[h]? = some host →
    (host.status = .closed ↔ h ∉ table ∧ h ∉ leaving)
  empty : ∀ (h : HostId) (host : Host α (Link α)), hosts[h]? = some host → host.status = .closed →
    host.pool = []
  latest : Latest hosts table

namespace Tidy

variable {hosts : List (Host α (Link α))} {table leaving : List HostId} {h : HostId}
  {host : Host α (Link α)}

theorem empty_of_not_mem (ht : Tidy hosts table []) (hh : hosts[h]? = some host)
    (hm : h ∉ table) : host.pool = [] :=
  ht.empty h host hh ((ht.closed_iff h host hh).mpr ⟨hm, List.not_mem_nil⟩)

theorem mem_of_ne_closed (ht : Tidy hosts table []) (hh : hosts[h]? = some host)
    (hc : host.status ≠ .closed) : h ∈ table :=
  Decidable.byContradiction fun hout =>
    hc ((ht.closed_iff h host hh).mpr ⟨hout, List.not_mem_nil⟩)

theorem start : Tidy ([] : List (Host α (Link α))) [] [] where
  sorted := .nil
  known := by simp
  once := .nil
  apart := by simp
  closed_iff := by simp
  empty := by simp
  latest := by simp [Latest]

theorem nodup (ht : Tidy hosts table leaving) : table.Nodup :=
  ht.sorted.imp fun h => Nat.ne_of_lt h

theorem not_closed (ht : Tidy hosts table leaving) (hh : hosts[h]? = some host) (hm : h ∈ table) :
    host.status ≠ .closed :=
  fun hc => ((ht.closed_iff h host hh).mp hc).1 hm

theorem not_closed_of_mem_pool {l : Link α} (ht : Tidy hosts table leaving)
    (hh : hosts[h]? = some host) (hl : l ∈ host.pool) : host.status ≠ .closed := by
  intro hc
  rw [ht.empty h host hh hc] at hl
  exact List.not_mem_nil hl

/-- No two entries share an address. -/
theorem unique (ht : Tidy hosts table leaving) {h' : HostId} {host' : Host α (Link α)}
    (hm : h ∈ table) (hm' : h' ∈ table) (hh : hosts[h]? = some host)
    (hh' : hosts[h']? = some host') (ha : host.address = host'.address) : h = h' :=
  Nat.le_antisymm (ht.latest h' hm' h host' host hh' hh ha)
    (ht.latest h hm h' host host' hh hh' ha.symm)

theorem nodup_addresses {b : Balancer α σ} (ht : Tidy b.hosts b.table leaving) :
    (b.tableHosts.map Host.address).Nodup := by
  refine List.pairwise_map.mpr (List.pairwise_filterMap.mpr ?_)
  refine ht.nodup.imp_of_mem fun {h h'} hm hm' hne host hh host' hh' haddr => ?_
  exact hne (ht.unique hm hm' hh hh' haddr)

theorem not_closed_of_mem_tableHosts {b : Balancer α σ} (ht : Tidy b.hosts b.table leaving)
    (hmem : host ∈ b.tableHosts) : host.status ≠ .closed := by
  obtain ⟨h, hm, hh⟩ := List.mem_filterMap.mp hmem
  exact ht.not_closed hh hm

/-- A host changes, but neither its address nor whether it is closed. -/
theorem set (ht : Tidy hosts table leaving) (hh : hosts[h]? = some host)
    {host' : Host α (Link α)} (ha : host'.address = host.address) (hc : host.status ≠ .closed)
    (hc' : host'.status ≠ .closed) : Tidy (hosts.set h host') table leaving where
  sorted := ht.sorted
  known := by simpa using ht.known
  once := ht.once
  apart := ht.apart
  closed_iff := by
    intro j k hk
    rcases getElem?_set_cases hk with ⟨rfl, rfl⟩ | ⟨-, hk⟩
    · rw [← ht.closed_iff j host hh]
      exact ⟨fun h => absurd h hc', fun h => absurd h hc⟩
    · exact ht.closed_iff j k hk
  empty := by
    intro j k hk hs
    rcases getElem?_set_cases hk with ⟨rfl, rfl⟩ | ⟨-, hk⟩
    · exact absurd hs hc'
    · exact ht.empty j k hk hs
  latest := ht.latest.set hh ha

/-- A host of an address that the table does not have is added. -/
theorem append (ht : Tidy hosts table leaving) {a : α}
    (hn : ∀ h ∈ table, ∀ host, hosts[h]? = some host → host.address ≠ a) :
    Tidy (hosts ++ [{ address := a }]) (table ++ [hosts.length]) leaving where
  sorted := by
    refine List.pairwise_append.mpr ⟨ht.sorted, List.pairwise_singleton _ _, ?_⟩
    intro h hh k hk
    rw [List.mem_singleton.mp hk]
    exact ht.known h (List.mem_append_left _ hh)
  known := by
    intro h hh
    rw [List.length_append, List.length_singleton]
    simp only [List.mem_append, List.mem_singleton] at hh
    rcases hh with (hh | rfl) | hh
    · exact Nat.lt_succ_of_lt (ht.known h (List.mem_append_left _ hh))
    · exact Nat.lt_succ_self _
    · exact Nat.lt_succ_of_lt (ht.known h (List.mem_append_right _ hh))
  once := ht.once
  apart := by
    intro h hh hm
    rcases List.mem_append.mp hm with hm | hm
    · exact ht.apart h hh hm
    · have hlt := ht.known h (List.mem_append_right _ hh)
      rw [List.mem_singleton.mp hm] at hlt
      exact Nat.lt_irrefl _ hlt
  closed_iff := by
    intro h host hh
    rcases getElem?_concat_cases hh with ⟨rfl, rfl⟩ | ⟨hlt, hh⟩
    · simp
    · rw [ht.closed_iff h host hh]
      simp [Nat.ne_of_lt hlt]
  empty := by
    intro h host hh hs
    rcases getElem?_concat_cases hh with ⟨rfl, rfl⟩ | ⟨-, hh⟩
    · rfl
    · exact ht.empty h host hh hs
  latest := by
    intro h hm h' host host' hh hh' haddr
    rcases getElem?_concat_cases hh with ⟨rfl, rfl⟩ | ⟨hlt, hh⟩
    · rcases getElem?_concat_cases hh' with ⟨rfl, -⟩ | ⟨hlt', -⟩
      · exact Nat.le_refl _
      · exact Nat.le_of_lt hlt'
    · have hm : h ∈ table := by simpa [Nat.ne_of_lt hlt] using hm
      rcases getElem?_concat_cases hh' with ⟨rfl, rfl⟩ | ⟨-, hh'⟩
      · exact absurd haddr.symm (hn h hm host hh)
      · exact ht.latest h hm h' host host' hh hh' haddr

/-- A host leaves the table and waits to be closed. -/
theorem leave (ht : Tidy hosts table leaving) (hm : h ∈ table) :
    Tidy hosts (table.erase h) (leaving ++ [h]) where
  sorted := ht.sorted.sublist List.erase_sublist
  known := by
    intro j hj
    simp only [List.mem_append, List.mem_singleton] at hj
    rcases hj with hj | hj | rfl
    · exact ht.known j (List.mem_append_left _ (List.mem_of_mem_erase hj))
    · exact ht.known j (List.mem_append_right _ hj)
    · exact ht.known j (List.mem_append_left _ hm)
  once := by
    refine List.nodup_append.mpr ⟨ht.once, List.pairwise_singleton _ _, ?_⟩
    rintro j hj k hk rfl
    rw [List.mem_singleton.mp hk] at hj
    exact ht.apart h hj hm
  apart := by
    intro j hj
    rw [ht.nodup.mem_erase_iff]
    rcases List.mem_append.mp hj with hj | hj
    · exact fun hmem => ht.apart j hj hmem.2
    · exact fun hmem => hmem.1 (List.mem_singleton.mp hj)
  closed_iff := by
    intro j host hh
    rw [ht.closed_iff j host hh, ht.nodup.mem_erase_iff, List.mem_append, List.mem_singleton]
    by_cases hj : j = h
    · subst hj
      simp [hm]
    · simp [hj]
  empty := ht.empty
  latest := fun j hj => ht.latest j (List.mem_of_mem_erase hj)

/-- Every host leaves the table. -/
theorem leaveAll (ht : Tidy hosts table leaving) : Tidy hosts [] (table ++ leaving) where
  sorted := .nil
  known := by simpa using ht.known
  once := by
    refine List.nodup_append.mpr ⟨ht.nodup, ht.once, ?_⟩
    rintro j hj k hk rfl
    exact ht.apart j hk hj
  apart := by simp
  closed_iff := by
    intro j host hh
    rw [ht.closed_iff j host hh]
    simp
  empty := ht.empty
  latest := by simp [Latest]

/-- The first of the hosts that left is closed. -/
theorem close (ht : Tidy hosts table (h :: leaving)) (hh : hosts[h]? = some host)
    (check : Option TaskId) :
    Tidy (hosts.set h { host.close.1 with check := check }) table leaving where
  sorted := ht.sorted
  known := by
    intro j hj
    rw [List.length_set]
    refine ht.known j ?_
    rcases List.mem_append.mp hj with hj | hj
    · exact List.mem_append_left _ hj
    · exact List.mem_append_right _ (List.mem_cons_of_mem _ hj)
  once := (List.nodup_cons.mp ht.once).2
  apart := fun j hj => ht.apart j (List.mem_cons_of_mem _ hj)
  closed_iff := by
    intro j k hk
    rcases getElem?_set_cases hk with ⟨rfl, rfl⟩ | ⟨hne, hk⟩
    · simp [ht.apart j List.mem_cons_self, (List.nodup_cons.mp ht.once).1]
    · rw [ht.closed_iff j k hk]
      simp [hne]
  empty := by
    intro j k hk hs
    rcases getElem?_set_cases hk with ⟨rfl, rfl⟩ | ⟨-, hk⟩
    · exact Host.pool_close host (ht.empty j host hh)
    · exact ht.empty j k hk hs
  latest := ht.latest.set hh host.address_close

end Tidy

/-! ### Hosts are only ever added -/

theorem map_address_set {hosts : List (Host α (Link α))} {h : HostId}
    {host host' : Host α (Link α)} (hh : hosts[h]? = some host)
    (ha : host'.address = host.address) :
    (hosts.set h host').map Host.address = hosts.map Host.address := by
  rw [List.map_set, ha]
  exact set_getElem?_self (by simp [hh])

/-- From one balancer to a later one: hosts keep their addresses and their
places, and no host comes back to the table. -/
structure Extends (hosts hosts' : List (Host α (Link α))) (table table' : List HostId) : Prop where
  addresses : hosts.map Host.address <+: hosts'.map Host.address
  stays : ∀ h ∈ table', h < hosts.length → h ∈ table

namespace Extends

variable {hosts hosts' : List (Host α (Link α))} {table table' : List HostId} {h : HostId}
  {host host' : Host α (Link α)}

theorem refl (hosts : List (Host α (Link α))) (table : List HostId) :
    Extends hosts hosts table table := ⟨List.prefix_refl _, fun _ hm _ => hm⟩

theorem set (hx : Extends hosts hosts' table table') (hh : hosts'[h]? = some host)
    (ha : host'.address = host.address) : Extends hosts (hosts'.set h host') table table' :=
  ⟨by rw [map_address_set hh ha]; exact hx.addresses, hx.stays⟩

theorem shrink (hx : Extends hosts hosts' table table') {table'' : List HostId}
    (hs : ∀ h ∈ table'', h ∈ table') : Extends hosts hosts' table table'' :=
  ⟨hx.addresses, fun h hm => hx.stays h (hs h hm)⟩

theorem length_le (hx : Extends hosts hosts' table table') : hosts.length ≤ hosts'.length := by
  simpa using hx.addresses.length_le

theorem append (hx : Extends hosts hosts' table table') (host : Host α (Link α)) :
    Extends hosts (hosts' ++ [host]) table (table' ++ [hosts'.length]) := by
  have hle := hx.length_le
  refine ⟨?_, fun h hm hlt => ?_⟩
  · rw [List.map_append]
    exact hx.addresses.trans (List.prefix_append _ _)
  · have hne : h ≠ hosts'.length := Nat.ne_of_lt (Nat.lt_of_lt_of_le hlt hle)
    exact hx.stays h (by simpa [hne] using hm) hlt

end Extends

/-! ### Every move keeps both -/

section

variable [DecidableEq α] {e : Event α σ} {m m' : Moment α σ}

theorem lookup_eq_none {b : Balancer α σ} {a : α} (hn : b.lookup a = none) :
    ∀ h ∈ b.table, ∀ host, b.hosts[h]? = some host → host.address ≠ a := by
  intro h hm host hh haddr
  have hnot := List.find?_eq_none.mp hn h hm
  simp [hh, haddr] at hnot

theorem tidy_move (hmove : Move e m m') (ht : Tidy m.hosts m.table m.leaving) :
    Tidy m'.hosts m'.table m'.leaving := by
  cases hmove with
  | note | listen | lose | resubscribe | heed | settle | arm | fire | attempt | skip => exact ht
  | discard | discarded | giveUp | unplanned | ignore => exact ht
  | opens | reopen | closeLink | handOver | beginClosing | peerCloses | closeWillFail => exact ht
  | shut => exact ht.leaveAll
  | reach _ _ _ _ _ hh hc _ =>
    exact ht.set hh (Host.address_add _ _) hc (Host.status_add_ne_closed hc _)
  | retry _ _ _ _ _ hh hu => exact ht.set hh rfl (by simp [hu]) (by simp [hu])
  | @prune h host l hh hl _ =>
    have hc := ht.not_closed_of_mem_pool hh hl
    exact ht.set hh (Host.address_remove _ _) hc (by simpa using hc)
  | @fail h host hh hf =>
    by_cases hc : host.status = .closed
    · rw [Host.recordFailure_of_ne _ _ (by simp [hc])]
      simpa [set_getElem?_self hh] using ht
    · refine ht.set hh (Host.address_recordFailure _ _) hc ?_
      simpa [Host.status_recordFailure, hf] using hc
  | fallSick _ _ hh _ hf =>
    refine ht.set hh (Host.address_recordFailure _ _) ?_ ?_
    · intro hc
      rw [Host.recordFailure_of_ne _ _ (by simp [hc])] at hf
      simp at hf
    · simp [Host.status_recordFailure, hf]
  | welcome _ hh hu _ =>
    exact ht.set hh (Host.address_add _ _) (by simp [hu])
      (Host.status_add_ne_closed (by simp [hu]) _)
  | pool _ hh hc _ _ => exact ht.set hh (Host.address_add _ _) hc (Host.status_add_ne_closed hc _)
  | appear a _ hn => exact ht.append (lookup_eq_none hn)
  | reannounce a hf hh _ =>
    have hc := ht.not_closed hh (Balancer.lookup_eq_some hf).1
    exact ht.set hh (Host.address_activate _) hc (by simp [Host.status_activate _ hc])
  | revive a hf hh _ =>
    have hc := ht.not_closed hh (Balancer.lookup_eq_some hf).1
    exact ht.set hh (Host.address_activate _) hc (by simp [Host.status_activate _ hc])
  | expire a hf hh _ =>
    have hc := ht.not_closed hh (Balancer.lookup_eq_some hf).1
    exact ht.set hh (Host.address_expire _) hc (by simp [Host.status_expire _ hc])
  | @expireOut h host a hf hh _ =>
    obtain ⟨hm, -⟩ := Balancer.lookup_eq_some hf
    have hc := ht.not_closed hh hm
    have hset : Tidy (m.hosts.set h { host.expire with check := none }) m.table m.leaving :=
      ht.set hh (Host.address_expire _) hc (by simp [Host.status_expire _ hc])
    exact hset.leave hm
  | withdraw a hf => exact ht.leave (Balancer.lookup_eq_some hf).1
  | retire hm _ _ => exact ht.leave hm
  | closeHost _ hl hh => exact Tidy.close (hl ▸ ht) hh none
  | @closeNone h hs hl hh =>
    have hlt := ht.known h (List.mem_append_right _ (hl ▸ List.mem_cons_self))
    simp [hlt] at hh

theorem extends_move {b : Balancer α σ} (hmove : Move e m m')
    (hx : Extends b.hosts m.hosts b.table m.table) :
    Extends b.hosts m'.hosts b.table m'.table := by
  cases hmove with
  | note | listen | lose | resubscribe | heed | settle | arm | fire | attempt | skip => exact hx
  | discard | discarded | giveUp | unplanned | ignore | closeNone => exact hx
  | opens | reopen | closeLink | handOver | beginClosing | peerCloses | closeWillFail => exact hx
  | shut => exact hx.shrink (by simp)
  | reach _ _ _ _ _ hh _ _ => exact hx.set hh (Host.address_add _ _)
  | retry _ _ _ _ _ hh _ => exact hx.set hh rfl
  | prune hh _ _ => exact hx.set hh (Host.address_remove _ _)
  | fail hh _ => exact hx.set hh (Host.address_recordFailure _ _)
  | fallSick _ _ hh _ _ => exact hx.set hh (Host.address_recordFailure _ _)
  | welcome _ hh _ _ => exact hx.set hh (Host.address_add _ _)
  | pool _ hh _ _ _ => exact hx.set hh (Host.address_add _ _)
  | appear => exact hx.append _
  | reannounce _ _ hh _ => exact hx.set hh (Host.address_activate _)
  | revive _ _ hh _ => exact hx.set hh (Host.address_activate _)
  | expire _ _ hh _ => exact hx.set hh (Host.address_expire _)
  | @expireOut h host a hf hh _ =>
    have hset : Extends b.hosts (m.hosts.set h { host.expire with check := none }) b.table
        m.table := hx.set hh host.address_expire
    exact hset.shrink fun _ => List.mem_of_mem_erase
  | withdraw => exact hx.shrink fun _ => List.mem_of_mem_erase
  | retire => exact hx.shrink fun _ => List.mem_of_mem_erase
  | closeHost _ _ hh => exact hx.set hh (Host.address_close _)

/-- A balancer that is not running has no hosts. -/
theorem emptied_move (hmove : Move e m m') (hm : m.lifecycle ≠ .running → m.table = []) :
    m'.lifecycle ≠ .running → m'.table = [] := by
  cases hmove with
  | note | listen | lose | resubscribe | heed | arm | fire | attempt | skip | reach => exact hm
  | discard | discarded | retry | giveUp | unplanned | prune | fail | fallSick => exact hm
  | welcome | pool | reannounce | revive | expire | ignore | closeHost | closeNone => exact hm
  | opens | reopen | closeLink | handOver | beginClosing | peerCloses | closeWillFail => exact hm
  | shut => exact fun _ => rfl
  | settle _ hl => exact fun _ => hm (by simp [hl])
  | appear _ ho _ => exact fun hne => absurd ho hne
  | expireOut => exact fun hne => by simp [hm hne]
  | withdraw => exact fun hne => by simp [hm hne]
  | retire => exact fun hne => by simp [hm hne]

theorem tidy_step {b : Balancer α σ} (e : Event α σ) (ht : Tidy b.hosts b.table []) :
    Tidy (b.step e).hosts (b.step e).table [] := by
  obtain ⟨_, hmoves⟩ := Balancer.moves_step b e [] []
  exact Moves.keeps (I := fun m => Tidy m.hosts m.table m.leaving)
    (fun _ _ hmove => tidy_move hmove) hmoves ht

theorem tidy_run (setup : Setup α) (tape : Tape) (callers : σ) (events : List (Event α σ)) :
    let b := (Balancer.start setup tape callers).run events
    Tidy b.hosts b.table [] := by
  obtain ⟨_, ht⟩ := Balancer.run_keeps (I := fun m => Tidy m.hosts m.table m.leaving) events
    (fun _ _ _ _ hmove => tidy_move hmove) (Balancer.start setup tape callers) [] [] .start
  exact ht

theorem emptied_run (setup : Setup α) (tape : Tape) (callers : σ) (events : List (Event α σ)) :
    let b := (Balancer.start setup tape callers).run events
    b.lifecycle ≠ .running → b.table = [] := by
  obtain ⟨_, hm⟩ := Balancer.run_keeps
    (I := fun m => m.lifecycle ≠ .running → m.table = []) events
    (fun _ _ _ _ hmove => emptied_move hmove) (Balancer.start setup tape callers) [] []
    fun _ => rfl
  exact hm

theorem extends_run (b : Balancer α σ) (events : List (Event α σ)) :
    Extends b.hosts (b.run events).hosts b.table (b.run events).table := by
  obtain ⟨_, hx⟩ := Balancer.run_keeps
    (I := fun m => Extends b.hosts m.hosts b.table m.table) events
    (fun _ _ _ _ hmove => extends_move hmove) b [] [] (.refl _ _)
  exact hx

end
end HostRotation
