/-
# What a batch makes of the table

The hosts after a batch can be told from the hosts before it and what the batch
says last of each address (`Balancer.applyBatch_result`): every host of the table
that the batch names does what its last event asks for, or leaves and is shut; the
others stay as they are; and behind them come the hosts of the addresses that are
available now and had no host. Seen from the table this is `rosterAfter`
(`Balancer.applyBatch_eq`). The connections of the hosts that had to leave are
handed over, host by host (`partings`). The same is said of a drained host that is
removed (`Balancer.removeDrained_eq`).
-/
import HostRotation.Proofs.Hearings
import Mathlib.Data.List.Basic

namespace HostRotation

variable {α κ σ : Type}

section

variable [DecidableEq α]

/-- The hosts of a table after events that name distinct addresses. -/
def rosterAfter (events : Batch α) (hosts : List (Host α κ)) : List (Host α κ) :=
  hosts.filterMap (Host.toldBy events) ++ newcomers events hosts

/-- Connections that have to be closed in the background, if there are any. -/
def closingOf (links : List (Link α)) : List (Closing α) :=
  if links.isEmpty then [] else [{ links }]

/-- The hosts that are left when the drained host of an address is removed. -/
def undrained (a : α) (hosts : List (Host α κ)) : List (Host α κ) :=
  hosts.filter fun host => !(host.address = a && host.isDrained)

/-- What events hand over of a table of hosts. -/
def partings (events : Batch α) (hosts : List (Host α (Link α))) : List (Closing α) :=
  events.flatMap fun event =>
    if event.status = .unavailable then
      (hosts.filter fun host => host.address = event.address).flatMap fun host =>
        closingOf host.pool
    else []

/-! ### The hosts of a table -/

omit [DecidableEq α] in
/-- The host of an address, and the hosts before and behind it. -/
theorem exists_split {hosts : List (Host α κ)} (hnd : (hosts.map Host.address).Nodup)
    {host : Host α κ} (hm : host ∈ hosts) : ∃ before after, hosts = before ++ host :: after ∧
      (∀ k ∈ before, k.address ≠ host.address) ∧ ∀ k ∈ after, k.address ≠ host.address := by
  obtain ⟨before, after, rfl⟩ := List.append_of_mem hm
  rw [List.map_append, List.map_cons, List.perm_middle.nodup_iff, List.nodup_cons,
    List.mem_append, not_or] at hnd
  refine ⟨before, after, rfl, fun k hk heq => hnd.1.1 ?_, fun k hk heq => hnd.1.2 ?_⟩
  · exact heq ▸ List.mem_map_of_mem hk
  · exact heq ▸ List.mem_map_of_mem hk

theorem filter_address {hosts : List (Host α κ)} (hnd : (hosts.map Host.address).Nodup)
    {host : Host α κ} (hm : host ∈ hosts) :
    hosts.filter (fun k => k.address = host.address) = [host] := by
  obtain ⟨before, after, rfl, hbefore, hafter⟩ := exists_split hnd hm
  have hb : before.filter (fun k => k.address = host.address) = [] :=
    List.filter_eq_nil_iff.mpr fun k hk => by simpa using hbefore k hk
  have ha : after.filter (fun k => k.address = host.address) = [] :=
    List.filter_eq_nil_iff.mpr fun k hk => by simpa using hafter k hk
  rw [List.filter_append, hb, List.filter_cons_of_pos (by simp), ha, List.nil_append]

/-- The hosts that stay after a batch keep their places. -/
theorem sublist_told (es : Batch α) : ∀ hosts : List (Host α κ),
    ((hosts.filterMap (Host.toldBy es)).map Host.address).Sublist (hosts.map Host.address)
  | [] => .slnil
  | host :: hosts => by
    have ih := sublist_told es hosts
    rw [List.filterMap_cons, List.map_cons]
    cases htold : host.toldBy es with
    | none => exact ih.cons _
    | some host' =>
      rw [← Host.address_of_toldBy htold]
      exact ih.cons_cons _

end

/-! ### Hosts that are shut -/

section

variable {hosts : List (Host α (Link α))}

/-- Shuts some of the hosts. -/
def shutHosts (hosts : List (Host α (Link α))) (hs : List HostId) : List (Host α (Link α)) :=
  hs.foldl (fun hosts h => hosts.modify h Host.shut) hosts

theorem shutHosts_cons (h : HostId) (hs : List HostId) :
    shutHosts hosts (h :: hs) = shutHosts (hosts.modify h Host.shut) hs := rfl

theorem getElem?_shutHosts (i : HostId) : ∀ (hs : List HostId) (hosts : List (Host α (Link α))),
    (shutHosts hosts hs)[i]? = if i ∈ hs then (hosts[i]?).map Host.shut else hosts[i]?
  | [], _ => by simp [shutHosts]
  | h :: hs, hosts => by
    have ih := getElem?_shutHosts i hs (hosts.modify h Host.shut)
    rw [shutHosts_cons, ih, List.getElem?_modify]
    by_cases hi : h = i
    · subst hi
      cases hosts[h]? <;> simp [Host.shut_shut]
    · simp [hi, Ne.symm hi]

end

namespace Balancer

section

variable {b : Balancer α σ} {h : HostId} {host : Host α (Link α)}

theorem closeHost_eq (hh : b.hosts[h]? = some host) (hs : host.status ≠ .closed) :
    b.closeHost h = ({ b with
      hosts := b.hosts.modify h Host.shut
      tasks := cancelIn b.setup.aborts b.tasks host.check }, host.pool) := by
  have hset : b.hosts.modify h Host.shut = b.hosts.set h host.shut := by
    rw [List.modify_eq_set_getElem?, hh]
    rfl
  simp only [closeHost, hh, Host.close, if_neg hs, cancelCheck_setHost hh, hset]
  rfl

theorem closings_closeLater (b : Balancer α σ) (links : List (Link α)) :
    b.closeLater links = { b with closings := b.closings ++ closingOf links } := by
  unfold closeLater closingOf
  split
  · rw [List.append_nil]
  · rfl

/-- A host that left the table is shut, and its connections are handed over. -/
theorem closeRemoved_eq (hh : b.hosts[h]? = some host) (hs : host.status ≠ .closed) :
    b.closeRemoved h = { b with
      hosts := b.hosts.modify h Host.shut
      tasks := cancelIn b.setup.aborts b.tasks host.check
      closings := b.closings ++ closingOf host.pool } := by
  simp only [closeRemoved, closeHost_eq hh hs, closings_closeLater]

/-- Several hosts that left the table are shut one after the other. -/
theorem closeRemoveds_eq : ∀ (hs : List HostId) (b : Balancer α σ), hs.Nodup →
    (∀ h ∈ hs, ∃ host, b.hosts[h]? = some host ∧ host.status ≠ .closed) →
    ∃ tasks, hs.foldl closeRemoved b = { b with
      hosts := shutHosts b.hosts hs
      tasks
      closings := b.closings ++ hs.flatMap fun h => closingOf (poolAt b.hosts h) }
  | [], b, _, _ => ⟨b.tasks, by simp [shutHosts]⟩
  | h :: hs, b, hn, hex => by
    obtain ⟨hout, hn⟩ := List.nodup_cons.mp hn
    obtain ⟨host, hh, hs'⟩ := hex h List.mem_cons_self
    have hother (j : HostId) (hj : j ∈ hs) : (b.hosts.modify h Host.shut)[j]? = b.hosts[j]? :=
      List.getElem?_modify_ne _ _ fun heq => hout (heq ▸ hj)
    have hpools : (hs.flatMap fun j => closingOf (poolAt (b.hosts.modify h Host.shut) j)) =
        hs.flatMap fun j => closingOf (poolAt b.hosts j) :=
      List.flatMap_congr fun j hj => by rw [poolAt, hother j hj, ← poolAt]
    have hone := closeRemoved_eq hh hs'
    obtain ⟨tasks, hrest⟩ := closeRemoveds_eq hs (b.closeRemoved h) hn fun j hj => by
      obtain ⟨k, hk, hks⟩ := hex j (List.mem_cons_of_mem _ hj)
      rw [hone]
      exact ⟨k, (hother j hj).trans hk, hks⟩
    refine ⟨tasks, ?_⟩
    rw [List.foldl_cons, hrest, hone, shutHosts_cons, List.flatMap_cons, poolAt_of_getElem? hh,
      ← List.append_assoc]
    simp only [hpools]

/-- The new hosts stand at the new places. -/
theorem filterMap_range' (hosts news : List (Host α (Link α))) :
    (List.range' hosts.length news.length).filterMap (fun h => (hosts ++ news)[h]?) = news := by
  induction news generalizing hosts with
  | nil => rfl
  | cons k news ih =>
    have hk : (hosts ++ k :: news)[hosts.length]? = some k := by simp
    have hrest := ih (hosts ++ [k])
    rw [List.length_append, List.length_singleton, List.append_assoc, List.singleton_append]
      at hrest
    rw [List.length_cons, List.range'_succ, List.filterMap_cons_some hk, hrest]

end

/-! ### Who leaves, and what is handed over -/

section

variable [DecidableEq α]

variable {b : Balancer α σ} {es : Batch α} {e : HostEvent α} {h : HostId}
  {host : Host α (Link α)}

theorem leaver_eq_some (hf : b.leaver e = some h) : h ∈ b.table ∧
    ∃ host, b.hosts[h]? = some host ∧ host.address = e.address ∧ host.told e.status = none := by
  obtain ⟨hl, hgone⟩ := Option.filter_eq_some_iff.mp hf
  obtain ⟨hm, host, hh, ha⟩ := lookup_eq_some hl
  rw [hh, Option.any_some, Option.isNone_iff_eq_none] at hgone
  exact ⟨hm, host, hh, ha, hgone⟩

/-- The hosts that leave are those of the table that do not stay. -/
theorem mem_leavers (hb : b.Orderly) (hnd : (es.map HostEvent.address).Nodup) :
    h ∈ es.filterMap b.leaver ↔ h ∈ b.table ∧ b.stays es h = false := by
  rw [List.mem_filterMap]
  constructor
  · rintro ⟨e, he, hf⟩
    obtain ⟨hm, host, hh, ha, hgone⟩ := leaver_eq_some hf
    refine ⟨hm, ?_⟩
    rw [stays_of_getElem? hh, Host.toldBy, ha, lastStatus_of_mem hnd he]
    simp only [hgone, Option.isSome_none]
  · rintro ⟨hm, hgone⟩
    obtain ⟨host, hh⟩ := hb.exists_host hm
    rw [stays_of_getElem? hh, Option.isSome_eq_false_iff, Option.isNone_iff_eq_none,
      Host.toldBy] at hgone
    split at hgone
    · rename_i s hl
      refine ⟨⟨host.address, s⟩, mem_of_lastStatus hl, ?_⟩
      rw [leaver, lookup_of_mem hb hm hh, Option.filter_some, hh, Option.any_some, hgone]
      rfl
    · simp at hgone

theorem nodup_leavers (hnd : (es.map HostEvent.address).Nodup) :
    (es.filterMap b.leaver).Nodup := by
  refine List.pairwise_filterMap.mpr ((List.pairwise_map.mp hnd).imp ?_)
  rintro e e' hne h hf h' hf' rfl
  obtain ⟨-, host, hh, ha, -⟩ := leaver_eq_some hf
  obtain ⟨-, host', hh', ha', -⟩ := leaver_eq_some hf'
  obtain rfl : host = host' := Option.some.inj (hh.symm.trans hh')
  exact hne (ha.symm.trans ha')

/-- What the host that leaves because of an event has pooled. -/
theorem partings_singleton (hb : b.Orderly) (e : HostEvent α) :
    partings [e] b.tableHosts =
      (b.leaver e).toList.flatMap fun h => closingOf (poolAt b.hosts h) := by
  have hnone (hn : e.status ≠ .unavailable) : partings [e] b.tableHosts = [] := by
    rw [partings, List.flatMap_singleton, if_neg hn]
  obtain ⟨a, s⟩ := e
  cases hf : b.lookup a with
  | none =>
    have hempty : b.tableHosts.filter (fun host => host.address = a) = [] := by
      refine List.filter_eq_nil_iff.mpr fun host hm => ?_
      obtain ⟨h, hm, hh⟩ := mem_tableHosts.mp hm
      simpa using lookup_eq_none hf h hm host hh
    rw [leaver, hf, partings, List.flatMap_singleton, hempty]
    simp
  | some h =>
    obtain ⟨hm, host, hh, rfl⟩ := lookup_eq_some hf
    have hleaver : b.leaver ⟨host.address, s⟩ =
        if (host.told s).isNone then some h else none := by
      rw [leaver, hf, Option.filter_some, hh, Option.any_some]
    rw [hleaver]
    cases s with
    | available => exact hnone (by simp)
    | expired =>
      rw [hnone (by simp), Host.told_expired]
      split
      · rename_i hd
        have hempty : host.pool = [] := by
          rw [← host.pool_expire]
          exact (Host.isDrained_eq_true.mp hd).2
        simp [poolAt_of_getElem? hh, hempty, closingOf]
      · rfl
    | unavailable =>
      have hmem : host ∈ b.tableHosts := mem_tableHosts.mpr ⟨h, hm, hh⟩
      rw [partings, List.flatMap_singleton, if_pos rfl, filter_address hb.distinct hmem,
        List.flatMap_singleton, Host.told_unavailable, Option.isNone_none, if_pos rfl,
        Option.toList_some, List.flatMap_singleton, poolAt_of_getElem? hh]

theorem partings_eq (hb : b.Orderly) (es : Batch α) : partings es b.tableHosts =
    (es.filterMap b.leaver).flatMap fun h => closingOf (poolAt b.hosts h) := by
  induction es with
  | nil => rfl
  | cons e es ih =>
    have hone := partings_singleton hb e
    rw [partings, List.flatMap_singleton] at hone
    rw [partings, List.flatMap_cons, hone, ← partings, ih, List.filterMap_cons]
    cases b.leaver e <;> simp

/-! ### The batch as a whole -/

/-- What a batch makes of the host at a place. -/
def fate (b : Balancer α σ) (es : Batch α) (h : HostId) (host : Host α (Link α)) :
    Host α (Link α) :=
  if h ∈ b.table then (host.toldBy es).getD host.shut else host

/-- To each host only its own last word matters. -/
theorem mapIdx_fate_congr {es' : Batch α}
    (hsame : ∀ host ∈ b.tableHosts, host.toldBy es = host.toldBy es') :
    b.hosts.mapIdx (b.fate es) = b.hosts.mapIdx (b.fate es') := by
  refine List.mapIdx_eq_mapIdx_iff.mpr fun h hlt => ?_
  unfold fate
  split
  · rename_i hm
    rw [hsame _ (mem_tableHosts.mpr ⟨h, hm, List.getElem?_eq_getElem hlt⟩)]
  · rfl

theorem filter_stays_congr (hb : b.Orderly) {es' : Batch α}
    (hsame : ∀ host ∈ b.tableHosts, host.toldBy es = host.toldBy es') :
    b.table.filter (b.stays es) = b.table.filter (b.stays es') := by
  refine List.filter_congr fun h hm => ?_
  obtain ⟨host, hh⟩ := hb.exists_host hm
  rw [stays_of_getElem? hh, stays_of_getElem? hh, hsame host (mem_tableHosts.mpr ⟨h, hm, hh⟩)]

/-- A batch in three parts: its last events are applied, the hosts that left are
closed, and the table is observed. -/
theorem applyBatch_parts (ho : b.lifecycle = .running) (batch : Batch α) :
    let s := (lastEvents batch).foldl applyEvent (b, [])
    ∃ tasks monitor metrics tape, b.applyBatch batch =
      { s.2.foldl closeRemoved s.1 with tasks, monitor, metrics, tape } := by
  have hopen : b.isClosed = false := by simp [isClosed, ho]
  unfold applyBatch
  dsimp only
  split
  · rename_i hquiet
    have hnil : lastEvents batch = [] := by simpa [hopen] using hquiet
    rw [hnil]
    exact ⟨_, _, _, _, rfl⟩
  · obtain ⟨tasks, monitor, metrics, tape, heq, -⟩ :=
      (((lastEvents batch).foldl applyEvent (b, [])).2.foldl closeRemoved
        ((lastEvents batch).foldl applyEvent (b, [])).1).observeTable_footprint
    exact ⟨tasks, monitor, metrics, tape, heq⟩

/-- The hosts after a batch: those that had to leave are shut. -/
theorem Heard.shutHosts {s : Balancer α σ × List HostId} (hs : Heard b es s) (hb : b.Orderly)
    (hnd : (es.map HostEvent.address).Nodup) :
    shutHosts s.1.hosts s.2 = b.hosts.mapIdx (b.fate es) ++ newcomers es b.tableHosts := by
  refine List.ext_getElem? fun j => ?_
  simp only [getElem?_shutHosts, hs.removed, mem_leavers hb hnd, hs.hosts]
  rcases Nat.lt_or_ge j b.hosts.length with hlt | hge
  · obtain ⟨host, hh⟩ : ∃ host, b.hosts[j]? = some host := ⟨_, List.getElem?_eq_getElem hlt⟩
    rw [List.getElem?_append_left (by simpa using hlt), List.getElem?_append_left
      (by simpa using hlt), List.getElem?_mapIdx, List.getElem?_mapIdx, hh, Option.map_some,
      Option.map_some, Option.map_some, stays_of_getElem? hh, hearing, fate]
    by_cases hj : j ∈ b.table
    · cases htold : host.toldBy es with
      | none => simp [hj, Host.shut_heardBy htold]
      | some host' => simp [hj, Host.heardBy_of_told htold]
    · simp [hj]
  · have hout : ¬ (j ∈ b.table ∧ b.stays es j = false) := fun hj =>
      Nat.not_lt.mpr hge (hb.known j hj.1)
    rw [if_neg hout, List.getElem?_append_right (by simpa using hge),
      List.getElem?_append_right (by simpa using hge), List.length_mapIdx, List.length_mapIdx]

/-- **What a batch makes of the hosts** of a running balancer. A host of the table
does what its last event asks for, or leaves; new hosts come last, in the table as
among the hosts. The hosts that had to leave hand over their connections. -/
theorem applyBatch_result (hb : b.Orderly) (ho : b.lifecycle = .running) (batch : Batch α) :
    (b.applyBatch batch).hosts = b.hosts.mapIdx (b.fate (lastEvents batch)) ++
        newcomers (lastEvents batch) b.tableHosts ∧
      (b.applyBatch batch).table = b.table.filter (b.stays (lastEvents batch)) ++
        List.range' b.hosts.length (newcomers (lastEvents batch) b.tableHosts).length ∧
      (b.applyBatch batch).closings =
        b.closings ++ partings (lastEvents batch) b.tableHosts := by
  have hnd := nodup_lastEvents batch
  have hs := heard_applyEvents hb hnd
  obtain ⟨tasks, monitor, metrics, tape, heq⟩ := applyBatch_parts ho batch
  obtain ⟨_, _, _, happly⟩ := applyEvents_footprint (lastEvents batch) (b, [])
  generalize (lastEvents batch).foldl applyEvent (b, []) = s at hs heq happly
  have hopened : ∀ h ∈ s.2, ∃ host, s.1.hosts[h]? = some host ∧ host.status ≠ .closed := by
    intro h hm
    rw [hs.removed] at hm
    have htable := ((mem_leavers hb hnd).mp hm).1
    obtain ⟨host, hh⟩ := hb.exists_host htable
    exact ⟨_, hs.getElem? htable hh, Host.status_heardBy (hb.ne_closed htable hh) _⟩
  have hpools : ∀ h ∈ s.2, poolAt s.1.hosts h = poolAt b.hosts h := by
    intro h hm
    rw [hs.removed] at hm
    have htable := ((mem_leavers hb hnd).mp hm).1
    obtain ⟨host, hh⟩ := hb.exists_host htable
    rw [poolAt_of_getElem? (hs.getElem? htable hh), poolAt_of_getElem? hh, Host.pool_heardBy]
  have hhanded : s.2.flatMap (fun h => closingOf (poolAt s.1.hosts h)) =
      partings (lastEvents batch) b.tableHosts := by
    rw [partings_eq hb, ← hs.removed]
    exact List.flatMap_congr fun h hm => by rw [hpools h hm]
  obtain ⟨_, hclose⟩ := closeRemoveds_eq s.2 s.1 (hs.removed ▸ nodup_leavers hnd) hopened
  have hclosings : s.1.closings = b.closings := by rw [happly]
  rw [heq, hclose, hhanded, hclosings]
  exact ⟨hs.shutHosts hb hnd, hs.table, rfl⟩

/-- The host at an old place. -/
theorem getElem?_applyBatch (hb : b.Orderly) (ho : b.lifecycle = .running) (batch : Batch α)
    (hlt : h < b.hosts.length) : (b.applyBatch batch).hosts[h]? =
      (b.hosts[h]?).map (b.fate (lastEvents batch) h) := by
  obtain ⟨hhosts, -, -⟩ := applyBatch_result hb ho batch
  rw [hhosts, List.getElem?_append_left (by simpa using hlt), List.getElem?_mapIdx]

/-- **What a batch makes of the table** of a running balancer: every host is as
its last event asks for, and the hosts of new addresses come last. The hosts
that had to leave hand over their connections. -/
theorem applyBatch_eq (hb : b.Orderly) (ho : b.lifecycle = .running) (batch : Batch α) :
    (b.applyBatch batch).tableHosts = rosterAfter (lastEvents batch) b.tableHosts ∧
      (b.applyBatch batch).closings =
        b.closings ++ partings (lastEvents batch) b.tableHosts := by
  obtain ⟨hhosts, htable, hclosings⟩ := applyBatch_result hb ho batch
  refine ⟨?_, hclosings⟩
  rw [tableHosts, htable, List.filterMap_append, rosterAfter]
  congr 1
  · rw [List.filterMap_filter, tableHosts, List.filterMap_filterMap]
    refine List.filterMap_congr fun j hj => ?_
    obtain ⟨host, hh⟩ := hb.exists_host hj
    rw [getElem?_applyBatch hb ho batch (hb.known j hj), hh, Option.map_some, Option.bind_some,
      stays_of_getElem? hh, fate, if_pos hj]
    cases host.toldBy (lastEvents batch) <;> rfl
  · have hlength : (b.hosts.mapIdx (b.fate (lastEvents batch))).length = b.hosts.length :=
      List.length_mapIdx
    rw [hhosts, ← hlength]
    exact filterMap_range' _ _

end

section

variable {b : Balancer α σ} {h : HostId} {host : Host α (Link α)} {removed : List HostId}

/-- A host leaves the table. -/
theorem filterMap_erase (ht : Tidy b.hosts b.table removed) (h : HostId)
    (f : HostId → Option (Host α (Link α))) :
    (b.table.erase h).filterMap f = b.table.filterMap fun j => if j = h then none else f j := by
  rw [ht.nodup.erase_eq_filter, List.filterMap_filter]
  refine List.filterMap_congr fun j _ => ?_
  by_cases hj : j = h
  · simp [hj]
  · simp [hj]

variable [DecidableEq α]

/-! ### Drained hosts -/

/-- There is no drained host of the address: then nothing changes. -/
theorem removeDrained_of_forall {a : α}
    (hn : ∀ host ∈ b.tableHosts, host.address = a → host.isDrained = false) :
    b.removeDrained a = b := by
  have hfind : b.table.find? (fun h =>
      (b.hosts[h]?).any fun host => host.address = a && host.isDrained) = none := by
    refine List.find?_eq_none.mpr fun h hm hany => ?_
    cases hh : b.hosts[h]? with
    | none => simp [hh] at hany
    | some host =>
      simp only [hh, Option.any_some, Bool.and_eq_true, decide_eq_true_eq] at hany
      have hnot := hn host (mem_tableHosts.mpr ⟨h, hm, hh⟩) hany.1
      simp [hnot] at hany
  unfold removeDrained
  simp only [hfind]
  split <;> rfl

/-- The drained host of an address is removed and closed. -/
theorem removeDrained_of_mem (ht : Tidy b.hosts b.table []) (ho : b.lifecycle = .running)
    (hm : h ∈ b.table) (hh : b.hosts[h]? = some host) (hd : host.isDrained = true) :
    b.removeDrained host.address = ((b.removeHost h).closeRemoved h).observeTable := by
  have hopen : b.isClosed = false := by simp [isClosed, ho]
  have hfind : b.table.find? (fun j =>
      (b.hosts[j]?).any fun k => k.address = host.address && k.isDrained) = some h := by
    cases hf : b.table.find? (fun j =>
        (b.hosts[j]?).any fun k => k.address = host.address && k.isDrained) with
    | none =>
      have hnot := List.find?_eq_none.mp hf h hm
      simp [hh, hd] at hnot
    | some j =>
      have hj := List.mem_of_find?_eq_some hf
      have hany := List.find?_some hf
      cases hk : b.hosts[j]? with
      | none => simp [hk] at hany
      | some k =>
        simp only [hk, Option.any_some, Bool.and_eq_true, decide_eq_true_eq] at hany
        rw [ht.unique hj hm hk hh hany.1]
  unfold removeDrained
  simp only [hopen, Bool.false_eq_true, ↓reduceIte, hfind]

/-- A drained host has nothing to hand over, and no other host changes. -/
theorem removeDrained_frame (ht : Tidy b.hosts b.table []) (ho : b.lifecycle = .running)
    (hm : h ∈ b.table) (hh : b.hosts[h]? = some host) (hd : host.isDrained = true) :
    ∃ hosts tasks monitor metrics tape, b.removeDrained host.address =
        { b with hosts, table := b.table.erase h, tasks, monitor, metrics, tape } ∧
      ∀ j ≠ h, hosts[j]? = b.hosts[j]? := by
  obtain ⟨hexpired, hempty⟩ := Host.isDrained_eq_true.mp hd
  have hclose : (b.removeHost h).closeRemoved h = { b with
      hosts := b.hosts.modify h Host.shut
      table := b.table.erase h
      tasks := cancelIn b.setup.aborts b.tasks host.check } := by
    have hlinks : closingOf host.pool = [] := by rw [hempty]; rfl
    rw [closeRemoved_eq (b := b.removeHost h) hh (by simp [hexpired]), hlinks, List.append_nil]
    rfl
  obtain ⟨_, _, _, _, hobserve, -⟩ := ((b.removeHost h).closeRemoved h).observeTable_footprint
  rw [removeDrained_of_mem ht ho hm hh hd, hobserve, hclose]
  exact ⟨_, _, _, _, _, rfl, fun j hj => List.getElem?_modify_ne _ _ hj.symm⟩

/-- A drained host is removed, and has nothing to hand over. -/
theorem removeDrained_eq (ht : Tidy b.hosts b.table []) (ho : b.lifecycle = .running) (a : α) :
    (b.removeDrained a).tableHosts = undrained a b.tableHosts ∧
      (b.removeDrained a).closings = b.closings := by
  unfold undrained
  by_cases hex : ∃ host ∈ b.tableHosts, host.address = a ∧ host.isDrained = true
  · obtain ⟨host, hmem, rfl, hd⟩ := hex
    obtain ⟨h, hm, hh⟩ := mem_tableHosts.mp hmem
    obtain ⟨hosts, _, _, _, _, heq, hother⟩ := removeDrained_frame ht ho hm hh hd
    rw [heq]
    refine ⟨?_, rfl⟩
    have hkept : (b.table.erase h).filterMap (fun j => hosts[j]?) = (b.removeHost h).tableHosts :=
      List.filterMap_congr fun j hj => hother j (ht.nodup.mem_erase_iff.mp hj).1
    -- Of the hosts of the table only this one has its address.
    simp only [removeHost, tableHosts] at hkept ⊢
    rw [hkept, filterMap_erase ht, List.filter_filterMap]
    refine List.filterMap_congr fun j hj => ?_
    by_cases hjh : j = h
    · subst hjh
      simp [hh, hd, Option.filter]
    · obtain ⟨k, hk⟩ : ∃ k, b.hosts[j]? = some k :=
        ⟨_, List.getElem?_eq_getElem (ht.known j (List.mem_append_left _ hj))⟩
      have hne : k.address ≠ host.address := fun heq => hjh (ht.unique hj hm hk hh heq)
      simp [hjh, hk, hne, Option.filter]
  · have hn : ∀ host ∈ b.tableHosts, host.address = a → host.isDrained = false := by
      intro host hm ha
      exact Bool.eq_false_iff.mpr fun hd => hex ⟨host, hm, ha, hd⟩
    rw [removeDrained_of_forall hn]
    refine ⟨(List.filter_eq_self.mpr fun host hm => ?_).symm, rfl⟩
    by_cases ha : host.address = a
    · simp [ha, hn host hm ha]
    · simp [ha]

end

end Balancer
end HostRotation
