/-
# Hosts that hear from discovery

What discovery says of a host makes it active or expired, or makes it leave
(`Host.told`). The events of a batch are applied one at a time. They name distinct
addresses, so each of them meets its host as it was before the batch: `Balancer.Heard`
says what the first events come to, and one more event keeps it
(`Balancer.Heard.concat`).

All this takes of a table is that it lists hosts that are not closed, no two of
one address (`Balancer.Orderly`).
-/
import HostRotation.Proofs.Accounts
import HostRotation.Proofs.Footprints
import Mathlib.Data.List.Find
import Mathlib.Data.List.Induction
import Mathlib.Data.List.Pairwise

namespace HostRotation

variable {α κ σ : Type}

/-! ### Hosts that hear from discovery -/

/-- What becomes of a host of which discovery says something: `none` if it has
to leave the table. -/
def Host.told (host : Host α κ) : DiscoveryStatus → Option (Host α κ)
  | .available =>
    some { host.activate with check := if host.status = .unhealthy then none else host.check }
  | .expired => if host.expire.isDrained then none else some { host.expire with check := none }
  | .unavailable => none

theorem Host.told_available (host : Host α κ) : host.told .available =
    some { host.activate with
      check := if host.status = .unhealthy then none else host.check } := rfl

theorem Host.told_expired (host : Host α κ) : host.told .expired =
    if host.expire.isDrained then none else some { host.expire with check := none } := rfl

theorem Host.told_unavailable (host : Host α κ) : host.told .unavailable = none := rfl

theorem Host.isDrained_eq_true {host : Host α κ} :
    host.isDrained = true ↔ host.status = .expired ∧ host.pool = [] := by
  simp [Host.isDrained]

theorem Host.address_of_told {host host' : Host α κ} {s : DiscoveryStatus}
    (h : host.told s = some host') : host'.address = host.address := by
  cases s with
  | available =>
    obtain rfl := Option.some.inj h
    exact host.address_activate
  | expired =>
    rw [Host.told_expired] at h
    split at h
    · simp at h
    · obtain rfl := Option.some.inj h
      exact host.address_expire
  | unavailable => simp [Host.told_unavailable] at h

/-- A host that was told something and stays is not drained. -/
theorem Host.isDrained_of_told {host host' : Host α κ} {s : DiscoveryStatus}
    (hc : host.status ≠ .closed) (h : host.told s = some host') : host'.isDrained = false := by
  cases s with
  | available =>
    obtain rfl := Option.some.inj h
    simp [Host.isDrained, Host.status_activate _ hc]
  | expired =>
    rw [Host.told_expired] at h
    split at h
    · simp at h
    · rename_i hd
      obtain rfl := Option.some.inj h
      simpa [Host.isDrained] using hd
  | unavailable => simp [Host.told_unavailable] at h

/-- A host that discovery says something of, before it leaves if it has to. -/
def Host.heard (host : Host α κ) : DiscoveryStatus → Host α κ
  | .available =>
    { host.activate with check := if host.status = .unhealthy then none else host.check }
  | .expired => { host.expire with check := none }
  | .unavailable => host

theorem Host.eq_heard_of_told {host host' : Host α κ} {s : DiscoveryStatus}
    (h : host.told s = some host') : host' = host.heard s := by
  cases s with
  | available => exact (Option.some.inj h).symm
  | expired =>
    rw [Host.told_expired] at h
    split at h
    · simp at h
    · exact (Option.some.inj h).symm
  | unavailable => simp [Host.told_unavailable] at h

theorem Host.address_heard (host : Host α κ) (s : DiscoveryStatus) :
    (host.heard s).address = host.address := by
  cases s with
  | available => exact host.address_activate
  | expired => exact host.address_expire
  | unavailable => rfl

theorem Host.pool_heard (host : Host α κ) (s : DiscoveryStatus) :
    (host.heard s).pool = host.pool := by
  cases s with
  | available => exact host.pool_activate
  | expired => exact host.pool_expire
  | unavailable => rfl

theorem Host.status_heard {host : Host α κ} (hc : host.status ≠ .closed) (s : DiscoveryStatus) :
    (host.heard s).status ≠ .closed := by
  cases s with
  | available => simp [Host.heard, Host.status_activate _ hc]
  | expired => simp [Host.heard, Host.status_expire _ hc]
  | unavailable => exact hc

/-- A host that is closed, with nothing pooled and its check cancelled. -/
def Host.shut (host : Host α (Link α)) : Host α (Link α) :=
  { host with status := .closed, pool := [], check := none }

theorem Host.shut_shut (host : Host α (Link α)) : host.shut.shut = host.shut := rfl

/-- Who has to leave is shut as if it had heard nothing. -/
theorem Host.shut_heard {host : Host α (Link α)} {s : DiscoveryStatus}
    (h : host.told s = none) : (host.heard s).shut = host.shut := by
  cases s with
  | available => simp [Host.told_available] at h
  | expired =>
    simp only [Host.heard, Host.shut, Host.expire]
    split <;> rfl
  | unavailable => rfl

section

variable [DecidableEq α]

/-- What becomes of a host when a batch is applied, which need not say anything
of it. -/
def Host.toldBy (events : Batch α) (host : Host α κ) : Option (Host α κ) :=
  match lastStatus events host.address with
  | some s => host.told s
  | none => some host

/-- Whether an event announces an address that has no host. -/
def IsNews (hosts : List (Host α κ)) (event : HostEvent α) : Prop :=
  event.status = .available ∧ ∀ host ∈ hosts, host.address ≠ event.address

instance (hosts : List (Host α κ)) (event : HostEvent α) : Decidable (IsNews hosts event) :=
  inferInstanceAs (Decidable (_ ∧ _))

/-- The new hosts of a batch, in the order of its events. -/
def newcomers (events : Batch α) (hosts : List (Host α κ)) : List (Host α κ) :=
  (events.filter fun event => IsNews hosts event).map fun event => { address := event.address }

/-! ### What events say of an address -/

theorem lastStatus_eq_none {es : Batch α} {a : α} (hn : ∀ e ∈ es, e.address ≠ a) :
    lastStatus es a = none := by
  have hfind : es.reverse.find? (fun e => decide (e.address = a)) = none := by
    refine List.find?_eq_none.mpr fun e he => ?_
    simpa using hn e (List.mem_reverse.mp he)
  rw [lastStatus, hfind]
  rfl

theorem nodup_lastEvents : ∀ es : Batch α, ((lastEvents es).map HostEvent.address).Nodup
  | [] => .nil
  | e :: es => by
    have ih := nodup_lastEvents es
    unfold lastEvents
    split
    · exact ih
    · rename_i hlater
      refine List.nodup_cons.mpr ⟨fun hmem => hlater ?_, ih⟩
      obtain ⟨e', he', haddr⟩ := List.mem_map.mp hmem
      exact List.any_eq_true.mpr ⟨e', mem_of_mem_lastEvents he', by simpa using haddr⟩
where
  mem_of_mem_lastEvents {e : HostEvent α} : ∀ {es : Batch α}, e ∈ lastEvents es → e ∈ es
    | [], h => h
    | e' :: es, h => by
      unfold lastEvents at h
      split at h
      · exact List.mem_cons_of_mem _ (mem_of_mem_lastEvents h)
      · rcases List.mem_cons.mp h with rfl | h
        · exact List.mem_cons_self
        · exact List.mem_cons_of_mem _ (mem_of_mem_lastEvents h)

variable {hosts : List (Host α κ)} {host host' : Host α κ} {e : HostEvent α} {es : Batch α}
  {s : DiscoveryStatus} {a : α}

theorem mem_of_lastStatus (h : lastStatus es a = some s) : (⟨a, s⟩ : HostEvent α) ∈ es := by
  obtain ⟨e, he, rfl⟩ := Option.map_eq_some_iff.mp h
  have haddr : e.address = a := by simpa using List.find?_some he
  rw [← haddr]
  exact List.mem_reverse.mp (List.mem_of_find?_eq_some he)

/-- Of events that name distinct addresses each is the last of its own. -/
theorem lastStatus_of_mem (hnd : (es.map HostEvent.address).Nodup) {e : HostEvent α}
    (he : e ∈ es) : lastStatus es e.address = some e.status := by
  induction es with
  | nil => simp at he
  | cons e' es ih =>
    obtain ⟨hnot, hnd⟩ := List.nodup_cons.mp hnd
    rw [lastStatus_cons]
    rcases List.mem_cons.mp he with rfl | he
    · have hnone : lastStatus es e.address = none :=
        lastStatus_eq_none fun e' he' heq => hnot (heq ▸ List.mem_map_of_mem he')
      rw [hnone, if_pos rfl]
      rfl
    · rw [ih hnd he]
      rfl

/-! ### Hosts after some events -/

theorem Host.toldBy_of_ne (hn : ∀ e ∈ es, e.address ≠ host.address) :
    host.toldBy es = some host := by
  rw [Host.toldBy, lastStatus_eq_none hn]

theorem Host.toldBy_lastEvents (host : Host α κ) (batch : Batch α) :
    host.toldBy (lastEvents batch) = host.toldBy batch := by
  rw [Host.toldBy, Host.toldBy, lastStatus_lastEvents]

theorem Host.toldBy_concat (host : Host α κ) (es : Batch α) (e : HostEvent α) :
    host.toldBy (es ++ [e]) =
      if e.address = host.address then host.told e.status else host.toldBy es := by
  unfold Host.toldBy
  rw [lastStatus_concat]
  by_cases he : e.address = host.address
  · rw [if_pos he, if_pos he]
  · rw [if_neg he, if_neg he]

theorem Host.address_of_toldBy (h : host.toldBy es = some host') :
    host'.address = host.address := by
  unfold Host.toldBy at h
  split at h
  · exact Host.address_of_told h
  · rw [Option.some.inj h]

/-- A host after some events, before it leaves if it has to. -/
def Host.heardBy (events : Batch α) (host : Host α κ) : Host α κ :=
  match lastStatus events host.address with
  | some s => host.heard s
  | none => host

theorem Host.heardBy_of_ne (hn : ∀ e ∈ es, e.address ≠ host.address) :
    host.heardBy es = host := by
  rw [Host.heardBy, lastStatus_eq_none hn]

theorem Host.heardBy_concat (host : Host α κ) (es : Batch α) (e : HostEvent α) :
    host.heardBy (es ++ [e]) =
      if e.address = host.address then host.heard e.status else host.heardBy es := by
  unfold Host.heardBy
  rw [lastStatus_concat]
  by_cases he : e.address = host.address
  · rw [if_pos he, if_pos he]
  · rw [if_neg he, if_neg he]

theorem Host.address_heardBy (host : Host α κ) (es : Batch α) :
    (host.heardBy es).address = host.address := by
  unfold Host.heardBy
  split
  · exact host.address_heard _
  · rfl

theorem Host.pool_heardBy (host : Host α κ) (es : Batch α) :
    (host.heardBy es).pool = host.pool := by
  unfold Host.heardBy
  split
  · exact host.pool_heard _
  · rfl

theorem Host.status_heardBy (hc : host.status ≠ .closed) (es : Batch α) :
    (host.heardBy es).status ≠ .closed := by
  unfold Host.heardBy
  split
  · exact Host.status_heard hc _
  · exact hc

theorem Host.heardBy_of_told (h : host.toldBy es = some host') : host.heardBy es = host' := by
  unfold Host.toldBy at h
  unfold Host.heardBy
  split at h
  · exact (Host.eq_heard_of_told h).symm
  · exact Option.some.inj h

theorem Host.shut_heardBy {host : Host α (Link α)} (h : host.toldBy es = none) :
    (host.heardBy es).shut = host.shut := by
  unfold Host.toldBy at h
  unfold Host.heardBy
  split at h
  · exact Host.shut_heard h
  · simp at h

/-! ### New hosts -/

theorem mem_newcomers {k : Host α κ} (hk : k ∈ newcomers es hosts) :
    k = { address := k.address } ∧ (⟨k.address, .available⟩ : HostEvent α) ∈ es ∧
      ∀ host ∈ hosts, host.address ≠ k.address := by
  obtain ⟨⟨b, s⟩, hm, rfl⟩ := List.mem_map.mp hk
  obtain ⟨hmem, hnews⟩ := List.mem_filter.mp hm
  obtain ⟨rfl, hfree⟩ : IsNews hosts ⟨b, s⟩ := by simpa using hnews
  exact ⟨rfl, hmem, hfree⟩

theorem mem_newcomers_of_isNews (he : e ∈ es) (h : IsNews hosts e) :
    ({ address := e.address } : Host α κ) ∈ newcomers es hosts :=
  List.mem_map.mpr ⟨e, List.mem_filter.mpr ⟨he, by simpa using h⟩, rfl⟩

theorem nodup_newcomers (hnd : (es.map HostEvent.address).Nodup) (hosts : List (Host α κ)) :
    ((newcomers es hosts).map Host.address).Nodup := by
  rw [newcomers, List.map_map]
  exact hnd.sublist (List.filter_sublist.map _)

theorem newcomers_append (es es' : Batch α) (hosts : List (Host α κ)) :
    newcomers (es ++ es') hosts = newcomers es hosts ++ newcomers es' hosts := by
  rw [newcomers, List.filter_append, List.map_append]
  rfl

theorem newcomers_of_isNews (h : IsNews hosts e) :
    newcomers [e] hosts = [{ address := e.address }] := by
  rw [newcomers, List.filter_cons_of_pos (by simpa using h)]
  rfl

theorem newcomers_of_not_isNews (h : ¬ IsNews hosts e) : newcomers [e] hosts = [] := by
  rw [newcomers, List.filter_cons_of_neg (by simpa using h)]
  rfl

end

/-! ### Tables in order -/

namespace Balancer

theorem mem_tableHosts {b : Balancer α σ} {host : Host α (Link α)} :
    host ∈ b.tableHosts ↔ ∃ h ∈ b.table, b.hosts[h]? = some host := List.mem_filterMap

/-- The table lists hosts that are not closed, no two of one address. -/
structure Orderly (b : Balancer α σ) : Prop where
  known : ∀ h ∈ b.table, h < b.hosts.length
  distinct : (b.tableHosts.map Host.address).Nodup
  opened : ∀ host ∈ b.tableHosts, host.status ≠ .closed

namespace Orderly

variable {b : Balancer α σ} {h h' : HostId} {host host' : Host α (Link α)}

theorem exists_host (hb : b.Orderly) (hm : h ∈ b.table) : ∃ host, b.hosts[h]? = some host :=
  ⟨_, List.getElem?_eq_getElem (hb.known h hm)⟩

theorem apart (hb : b.Orderly) : b.table.Pairwise fun h h' => ∀ host, b.hosts[h]? = some host →
    ∀ host', b.hosts[h']? = some host' → host.address ≠ host'.address :=
  List.pairwise_filterMap.mp (List.pairwise_map.mp hb.distinct)

theorem nodup (hb : b.Orderly) : b.table.Nodup := by
  refine hb.apart.imp_of_mem fun {h h'} hm _ hne heq => ?_
  obtain ⟨host, hh⟩ := hb.exists_host hm
  exact hne host hh host (heq ▸ hh) rfl

theorem unique (hb : b.Orderly) (hm : h ∈ b.table) (hm' : h' ∈ b.table)
    (hh : b.hosts[h]? = some host) (hh' : b.hosts[h']? = some host')
    (ha : host.address = host'.address) : h = h' := by
  by_contra hne
  have hsymm : Std.Symm fun h h' : HostId => ∀ host : Host α (Link α), b.hosts[h]? = some host →
      ∀ host' : Host α (Link α), b.hosts[h']? = some host' → host.address ≠ host'.address :=
    ⟨fun _ _ hr host hh host' hh' => (hr host' hh' host hh).symm⟩
  exact hb.apart.forall hm hm' hne host hh host' hh' ha

theorem ne_closed (hb : b.Orderly) (hm : h ∈ b.table) (hh : b.hosts[h]? = some host) :
    host.status ≠ .closed :=
  hb.opened host (mem_tableHosts.mpr ⟨h, hm, hh⟩)

end Orderly

theorem Orderly.of_tidy {b : Balancer α σ} (ht : Tidy b.hosts b.table []) : b.Orderly where
  known := fun h hm => ht.known h (List.mem_append_left _ hm)
  distinct := ht.nodup_addresses
  opened := fun _ => ht.not_closed_of_mem_tableHosts

/-! ### One event after the other -/

section

variable [DecidableEq α]

/-- What some events do to the host at a place. -/
def hearing (b : Balancer α σ) (es : Batch α) (h : HostId) (host : Host α (Link α)) :
    Host α (Link α) :=
  if h ∈ b.table then host.heardBy es else host

/-- Whether a host need not leave when some events are heard. -/
def stays (b : Balancer α σ) (es : Batch α) (h : HostId) : Bool :=
  (b.hosts[h]?).any fun host => (host.toldBy es).isSome

/-- The host that has to leave because of an event. -/
def leaver (b : Balancer α σ) (e : HostEvent α) : Option HostId :=
  (b.lookup e.address).filter fun h => (b.hosts[h]?).any fun host => (host.told e.status).isNone

/-- What the first events of a batch come to: the hosts of the table heard them,
those that have to leave are noted, and new ones stand behind. -/
structure Heard (b : Balancer α σ) (es : Batch α) (s : Balancer α σ × List HostId) : Prop where
  hosts : s.1.hosts = b.hosts.mapIdx (b.hearing es) ++ newcomers es b.tableHosts
  table : s.1.table = b.table.filter (b.stays es) ++
    List.range' b.hosts.length (newcomers es b.tableHosts).length
  removed : s.2 = es.filterMap b.leaver

variable {b : Balancer α σ} {es : Batch α} {s : Balancer α σ × List HostId} {e : HostEvent α}
  {h : HostId} {host : Host α (Link α)} {a : α}

theorem stays_of_getElem? (hh : b.hosts[h]? = some host) :
    b.stays es h = (host.toldBy es).isSome := by
  rw [stays, hh, Option.any_some]

theorem lookup_of_mem (hb : b.Orderly) (hm : h ∈ b.table) (hh : b.hosts[h]? = some host) :
    b.lookup host.address = some h := by
  cases hf : b.lookup host.address with
  | none => exact absurd rfl (lookup_eq_none hf h hm host hh)
  | some h' =>
    obtain ⟨hm', host', hh', ha⟩ := lookup_eq_some hf
    rw [hb.unique hm' hm hh' hh ha]

theorem isNews_of_lookup (hf : b.lookup e.address = none) (hs : e.status = .available) :
    IsNews b.tableHosts e := by
  refine ⟨hs, fun host hm => ?_⟩
  obtain ⟨h, hm, hh⟩ := mem_tableHosts.mp hm
  exact lookup_eq_none hf h hm host hh

theorem not_isNews_of_lookup (hf : b.lookup e.address = some h) : ¬ IsNews b.tableHosts e := by
  rintro ⟨-, hfree⟩
  obtain ⟨hm, host, hh, ha⟩ := lookup_eq_some hf
  exact hfree host (mem_tableHosts.mpr ⟨h, hm, hh⟩) ha

/-- Only the host that an event finds has its address. -/
theorem ne_of_lookup (hb : b.Orderly) (hm : h ∈ b.table) (hh : b.hosts[h]? = some host)
    (hne : b.lookup e.address ≠ some h) : e.address ≠ host.address := by
  intro heq
  rw [heq] at hne
  exact hne (lookup_of_mem hb hm hh)

/-- The other hosts do not hear an event. -/
theorem hearing_concat_of_ne (hb : b.Orderly) (hh : b.hosts[h]? = some host)
    (hne : b.lookup e.address ≠ some h) : b.hearing (es ++ [e]) h host = b.hearing es h host := by
  unfold hearing
  split
  · rename_i hm
    rw [Host.heardBy_concat, if_neg (ne_of_lookup hb hm hh hne)]
  · rfl

theorem stays_concat_of_ne (hb : b.Orderly) (hm : h ∈ b.table)
    (hne : b.lookup e.address ≠ some h) : b.stays (es ++ [e]) h = b.stays es h := by
  obtain ⟨host, hh⟩ := hb.exists_host hm
  rw [stays_of_getElem? hh, stays_of_getElem? hh, Host.toldBy_concat,
    if_neg (ne_of_lookup hb hm hh hne)]

/-- The host that an event finds hears it. -/
theorem mapIdx_hearing_concat (hb : b.Orderly) (hf : b.lookup e.address = some h)
    (hh : b.hosts[h]? = some host) : b.hosts.mapIdx (b.hearing (es ++ [e])) =
      (b.hosts.mapIdx (b.hearing es)).set h (host.heard e.status) := by
  obtain ⟨hm, host', hh', ha⟩ := lookup_eq_some hf
  obtain rfl : host' = host := Option.some.inj (hh'.symm.trans hh)
  have hlt : h < (b.hosts.mapIdx (b.hearing es)).length := by simpa using hb.known h hm
  refine List.mapIdx_eq_iff.mpr fun j => ?_
  by_cases hj : j = h
  · subst hj
    rw [List.getElem?_set_self hlt, hh, Option.map_some, hearing, if_pos hm, Host.heardBy_concat,
      if_pos ha.symm]
  · have hne : b.lookup e.address ≠ some j := fun heq => hj (Option.some.inj (heq.symm.trans hf))
    rw [List.getElem?_set_ne (Ne.symm hj), List.getElem?_mapIdx]
    cases hk : b.hosts[j]? with
    | none => rfl
    | some k => exact congrArg some (hearing_concat_of_ne hb hk hne).symm

/-- It leaves the table if it is told to. -/
theorem filter_stays_concat (hb : b.Orderly) (hf : b.lookup e.address = some h)
    (hh : b.hosts[h]? = some host) (hstayed : b.stays es h = true) :
    b.table.filter (b.stays (es ++ [e])) =
      if (host.told e.status).isNone then (b.table.filter (b.stays es)).erase h
      else b.table.filter (b.stays es) := by
  obtain ⟨hm, host', hh', ha⟩ := lookup_eq_some hf
  obtain rfl : host' = host := Option.some.inj (hh'.symm.trans hh)
  have hstays : ∀ j ∈ b.table, b.stays (es ++ [e]) j =
      if j = h then (host'.told e.status).isSome else b.stays es j := by
    intro j hj
    split
    · subst j
      rw [stays_of_getElem? hh, Host.toldBy_concat, if_pos ha.symm]
    · rename_i hne
      exact stays_concat_of_ne hb hj fun heq => hne (Option.some.inj (heq.symm.trans hf))
  cases htold : host'.told e.status with
  | none =>
    rw [Option.isNone_none, if_pos rfl, List.Nodup.erase_eq_filter (hb.nodup.filter _),
      List.filter_filter]
    refine List.filter_congr fun j hj => ?_
    rw [hstays j hj, htold]
    by_cases hjh : j = h <;> simp [hjh]
  | some host'' =>
    rw [if_neg (by simp)]
    refine List.filter_congr fun j hj => ?_
    rw [hstays j hj, htold]
    split
    · subst j
      exact hstayed.symm
    · rfl

/-- An event that finds its host. -/
theorem applyEvent_known (hf : s.1.lookup e.address = some h) (hh : s.1.hosts[h]? = some host) :
    (applyEvent s e).1.hosts = s.1.hosts.set h (host.heard e.status) ∧
      (applyEvent s e).1.table =
        (if (host.told e.status).isNone then s.1.table.erase h else s.1.table) ∧
      (applyEvent s e).2 = s.2 ++ if (host.told e.status).isNone then [h] else [] := by
  obtain ⟨a, status⟩ := e
  cases status with
  | available =>
    simp only [applyEvent, hf, activateHost, hh, Host.told_available, Option.isNone_some,
      Bool.false_eq_true, ↓reduceIte, List.append_nil, and_true, Host.heard]
    split
    · rw [cancelCheck_setHost hh]
      exact ⟨rfl, rfl⟩
    · rw [← host.check_activate]
      exact ⟨rfl, rfl⟩
  | expired =>
    simp only [applyEvent, hf, expireHost, hh, cancelCheck_setHost hh, Host.told_expired,
      Host.heard]
    split
    · simp [removeHost]
    · simp
  | unavailable =>
    have hsame : s.1.hosts.set h host = s.1.hosts := by
      obtain ⟨hlt, rfl⟩ := List.getElem?_eq_some_iff.mp hh
      exact List.set_getElem_self hlt
    simp [applyEvent, hf, removeHost, Host.told_unavailable, Host.heard, hsame]

namespace Heard

theorem nil (hb : b.Orderly) : Heard b [] (b, []) where
  hosts := by
    have hsame : b.hosts.mapIdx (b.hearing []) = b.hosts := by
      refine List.mapIdx_eq_iff.mpr fun j => ?_
      cases b.hosts[j]? with
      | none => rfl
      | some host => simp [hearing, Host.heardBy, lastStatus]
    rw [hsame]
    exact (List.append_nil _).symm
  table := by
    have hall : b.table.filter (b.stays []) = b.table := by
      refine List.filter_eq_self.mpr fun j hj => ?_
      obtain ⟨host, hh⟩ := hb.exists_host hj
      rw [stays_of_getElem? hh]
      rfl
    rw [hall]
    exact (List.append_nil _).symm
  removed := rfl

/-- The host at a place of the old table. -/
theorem getElem? (hs : Heard b es s) (hm : h ∈ b.table) (hh : b.hosts[h]? = some host) :
    s.1.hosts[h]? = some (host.heardBy es) := by
  have hlt : h < b.hosts.length := (List.getElem?_eq_some_iff.mp hh).1
  rw [hs.hosts, List.getElem?_append_left (by simpa using hlt), List.getElem?_mapIdx, hh,
    Option.map_some, hearing, if_pos hm]

/-- A new host stands at each new place. -/
theorem exists_newcomer (hs : Heard b es s)
    (hm : h ∈ List.range' b.hosts.length (newcomers es b.tableHosts).length) :
    ∃ k ∈ newcomers es b.tableHosts, s.1.hosts[h]? = some k := by
  obtain ⟨hle, hlt⟩ := List.mem_range'_1.mp hm
  have hlength : (b.hosts.mapIdx (b.hearing es)).length = b.hosts.length := List.length_mapIdx
  rw [hs.hosts, List.getElem?_append_right (by omega), hlength,
    List.getElem?_eq_getElem (by omega)]
  exact ⟨_, List.getElem_mem _, rfl⟩

/-- An address that no event has named yet has the host that it had. -/
theorem lookup (hs : Heard b es s) (hb : b.Orderly) (hn : ∀ e ∈ es, e.address ≠ a) :
    s.1.lookup a = b.lookup a := by
  have hold : (b.table.filter (b.stays es)).find?
      (fun h => (s.1.hosts[h]?).any fun host => host.address = a) = b.lookup a := by
    rw [List.find?_filter]
    refine List.find?_congr fun j hj => ?_
    obtain ⟨host, hh⟩ := hb.exists_host hj
    rw [hs.getElem? hj hh, hh, stays_of_getElem? hh]
    simp only [Option.any_some, Host.address_heardBy, decide_eq_true_eq, Bool.decide_and,
      Bool.decide_eq_true]
    by_cases ha : host.address = a
    · have hstays : host.toldBy es = some host :=
        Host.toldBy_of_ne fun e he heq => hn e he (heq.trans ha)
      simp [ha, hstays]
    · simp [ha]
  have hnew : (List.range' b.hosts.length (newcomers es b.tableHosts).length).find?
      (fun h => (s.1.hosts[h]?).any fun host => host.address = a) = none := by
    refine List.find?_eq_none.mpr fun j hj => ?_
    obtain ⟨k, hk, hjk⟩ := hs.exists_newcomer hj
    have hne : k.address ≠ a := hn _ (mem_newcomers hk).2.1
    simp [hjk, hne]
  rw [Balancer.lookup, hs.table, List.find?_append, hold, hnew, Option.or_none]

/-- An event of an address without a host adds one or passes by. -/
theorem concat_unknown (hs : Heard b es s) (hb : b.Orderly) (hf : b.lookup e.address = none)
    (hsf : s.1.lookup e.address = none) : Heard b (es ++ [e]) (applyEvent s e) := by
  have hne (j : HostId) : b.lookup e.address ≠ some j := by simp [hf]
  have hhosts : b.hosts.mapIdx (b.hearing (es ++ [e])) = b.hosts.mapIdx (b.hearing es) :=
    List.mapIdx_eq_mapIdx_iff.mpr fun j hlt =>
      hearing_concat_of_ne hb (List.getElem?_eq_getElem hlt) (hne j)
  have htable : b.table.filter (b.stays (es ++ [e])) = b.table.filter (b.stays es) :=
    List.filter_congr fun j hm => stays_concat_of_ne hb hm (hne j)
  have hleaver : (es ++ [e]).filterMap b.leaver = es.filterMap b.leaver := by
    have hnone : b.leaver e = none := by rw [leaver, hf, Option.filter_none]
    rw [List.filterMap_append, List.filterMap_cons_none hnone, List.filterMap_nil, List.append_nil]
  by_cases hs' : e.status = .available
  · have hnew := newcomers_of_isNews (isNews_of_lookup hf hs')
    have happly : applyEvent s e = (s.1.addHost e.address, s.2) := by
      simp only [applyEvent, hsf, hs']
    have hlength : s.1.hosts.length = b.hosts.length + (newcomers es b.tableHosts).length := by
      rw [hs.hosts, List.length_append, List.length_mapIdx]
    rw [happly]
    refine ⟨?_, ?_, hs.removed.trans hleaver.symm⟩
    · rw [hhosts, newcomers_append, hnew, ← List.append_assoc, ← hs.hosts]
      rfl
    · rw [htable, newcomers_append, hnew, List.length_append, List.length_singleton,
        List.range'_1_concat, ← List.append_assoc, ← hs.table, ← hlength]
      rfl
  · have hnew : newcomers [e] b.tableHosts = [] :=
      newcomers_of_not_isNews fun hnews => hs' hnews.1
    have happly : applyEvent s e = s := by
      cases hstatus : e.status with
      | available => exact absurd hstatus hs'
      | expired | unavailable => simp only [applyEvent, hsf, hstatus]
    rw [happly]
    refine ⟨?_, ?_, hs.removed.trans hleaver.symm⟩
    · rw [hhosts, newcomers_append, hnew, List.append_nil]
      exact hs.hosts
    · rw [htable, newcomers_append, hnew, List.append_nil]
      exact hs.table

/-- An event of an address with a host is heard by it. -/
theorem concat_known (hs : Heard b es s) (hb : b.Orderly) (hn : ∀ e' ∈ es, e'.address ≠ e.address)
    (hf : b.lookup e.address = some h) : Heard b (es ++ [e]) (applyEvent s e) := by
  obtain ⟨hm, host, hh, ha⟩ := lookup_eq_some hf
  have hfresh : ∀ e' ∈ es, e'.address ≠ host.address := ha ▸ hn
  have hsame : s.1.hosts[h]? = some host := by
    rw [hs.getElem? hm hh, Host.heardBy_of_ne hfresh]
  have hnew : newcomers (es ++ [e]) b.tableHosts = newcomers es b.tableHosts := by
    rw [newcomers_append, newcomers_of_not_isNews (not_isNews_of_lookup hf), List.append_nil]
  have hstayed : b.stays es h = true := by
    rw [stays_of_getElem? hh, Host.toldBy_of_ne hfresh, Option.isSome_some]
  obtain ⟨hhosts, htable, hremoved⟩ := applyEvent_known ((hs.lookup hb hn).trans hf) hsame
  refine ⟨?_, ?_, ?_⟩
  · rw [hhosts, hs.hosts, hnew, mapIdx_hearing_concat hb hf hh,
      List.set_append_left _ _ (by simpa using hb.known h hm)]
  · have hmem : h ∈ b.table.filter (b.stays es) := List.mem_filter.mpr ⟨hm, hstayed⟩
    rw [htable, hs.table, hnew, filter_stays_concat hb hf hh hstayed]
    split
    · rw [List.erase_append_left _ hmem]
    · rfl
  · have hleaver : b.leaver e = if (host.told e.status).isNone then some h else none := by
      rw [leaver, hf, Option.filter_some, hh, Option.any_some]
    rw [hremoved, hs.removed, List.filterMap_append, List.filterMap_cons, hleaver]
    split <;> rfl

/-- One event more. -/
theorem concat (hs : Heard b es s) (hb : b.Orderly) (hn : ∀ e' ∈ es, e'.address ≠ e.address) :
    Heard b (es ++ [e]) (applyEvent s e) := by
  have hsame := hs.lookup hb hn
  cases hf : b.lookup e.address with
  | none => exact hs.concat_unknown hb hf (hsame.trans hf)
  | some h => exact hs.concat_known hb hn hf

end Heard

/-- Events that name distinct addresses are heard one after the other. -/
theorem heard_applyEvents (hb : b.Orderly) (hnd : (es.map HostEvent.address).Nodup) :
    Heard b es (es.foldl applyEvent (b, [])) := by
  induction es using List.reverseRecOn with
  | nil => exact .nil hb
  | append_singleton es e ih =>
    rw [List.map_append, List.map_singleton, List.nodup_append] at hnd
    obtain ⟨hnd, -, hnot⟩ := hnd
    rw [List.foldl_append]
    refine (ih hnd).concat hb fun e' he' heq => ?_
    exact hnot _ (List.mem_map_of_mem he') _ (List.mem_singleton_self _) heq

end
end Balancer
end HostRotation
