/-
# Laws of batches

A batch that is applied once more changes nothing. Batches that name different
addresses may be put together, or change places, and of the events of one batch
only the order of those of one address matters: then the hosts are the same, and
the new ones may stand in another order (`Balancer.SameButNew`).

All of this is a matter of the last word on each address. Whether an expired host
has to leave depends on its pool, but what one batch does to a host no event of
another address undoes (`Host.toldBy_append`), and a host that was told something
and stays need not leave when it is told again (`Host.told_of_told`).

Key theorem: `Balancer.batch_laws`.
-/
import HostRotation.Proofs.BatchReference
import Mathlib.Data.List.Nodup

namespace HostRotation

variable {α κ σ : Type}

/-! ### Hosts that are told twice -/

/-- Who was told something and stays makes nothing of hearing it again. -/
theorem Host.told_of_told {host host' : Host α κ} {s : DiscoveryStatus}
    (h : host.told s = some host') : host'.told s = some host' := by
  cases s with
  | available =>
    obtain rfl := Option.some.inj h
    obtain ⟨address, status, pool, failures, check⟩ := host
    cases status <;> rfl
  | expired =>
    rw [Host.told_expired] at h
    split at h
    · simp at h
    · rename_i hd
      obtain rfl := Option.some.inj h
      have hsame : ({ host.expire with check := none } : Host α κ).expire =
          { host.expire with check := none } := by
        obtain ⟨address, status, pool, failures, check⟩ := host
        cases status <;> rfl
      have hkept : ({ host.expire with check := none } : Host α κ).isDrained ≠ true := hd
      rw [Host.told_expired, hsame, if_neg hkept]
  | unavailable => simp [Host.told_unavailable] at h

section

variable [DecidableEq α]

variable {host host' : Host α κ} {xs ys batch batch' : Batch α}

theorem Host.toldBy_of_toldBy (h : host.toldBy xs = some host') :
    host'.toldBy xs = some host' := by
  have haddr := Host.address_of_toldBy h
  unfold Host.toldBy at h ⊢
  rw [haddr]
  cases hl : lastStatus xs host.address with
  | none => rfl
  | some s =>
    simp only [hl] at h
    exact Host.told_of_told h

/-- A host is told something by one of two batches that name different addresses,
if by any. -/
theorem Host.toldBy_append (hd : ∀ x ∈ xs, ∀ y ∈ ys, x.address ≠ y.address)
    (host : Host α κ) : host.toldBy (xs ++ ys) = (host.toldBy xs).bind (Host.toldBy ys) := by
  by_cases hy : ∃ y ∈ ys, y.address = host.address
  · obtain ⟨y, hmem, ha⟩ := hy
    have hquiet : host.toldBy xs = some host :=
      Host.toldBy_of_ne fun x hx heq => hd x hx y hmem (heq.trans ha.symm)
    obtain ⟨s, hs⟩ := isSome_lastStatus ⟨y, hmem, ha⟩
    rw [hquiet, Option.bind_some, Host.toldBy, Host.toldBy, lastStatus_append, hs, Option.some_or]
  · have hn : ∀ y ∈ ys, y.address ≠ host.address := fun y hmem ha => hy ⟨y, hmem, ha⟩
    have hsame : host.toldBy (xs ++ ys) = host.toldBy xs := by
      rw [Host.toldBy, Host.toldBy, lastStatus_append, lastStatus_eq_none hn, Option.none_or]
    rw [hsame]
    cases ht : host.toldBy xs with
    | none => rfl
    | some host' =>
      have haddr := Host.address_of_toldBy ht
      rw [Option.bind_some, Host.toldBy_of_ne fun y hmem => haddr ▸ hn y hmem]

/-- If such a host has to leave after all, then the first batch said nothing of it. -/
theorem Host.eq_of_toldBy (hd : ∀ x ∈ xs, ∀ y ∈ ys, x.address ≠ y.address)
    (hx : host.toldBy xs = some host') (hy : host'.toldBy ys = none) : host' = host := by
  by_cases hn : ∀ x ∈ xs, x.address ≠ host.address
  · rw [Host.toldBy_of_ne hn] at hx
    exact (Option.some.inj hx).symm
  · obtain ⟨x, hmem, ha⟩ : ∃ x ∈ xs, x.address = host.address := by simpa using hn
    have hquiet : host'.toldBy ys = some host' := by
      refine Host.toldBy_of_ne fun y hmem' heq => hd x hmem y hmem' ?_
      rw [heq, ha, Host.address_of_toldBy hx]
    rw [hquiet] at hy
    exact absurd hy (by simp)

/-! ### The last events of two batches -/

theorem lastEvents_append (hd : ∀ x ∈ xs, ∀ y ∈ ys, x.address ≠ y.address) :
    lastEvents (xs ++ ys) = lastEvents xs ++ lastEvents ys := by
  induction xs with
  | nil => rfl
  | cons x xs ih =>
    have hany : (xs ++ ys).any (fun e => e.address = x.address) =
        xs.any fun e => e.address = x.address := by
      have hnone : ys.any (fun e => e.address = x.address) = false := by
        refine List.any_eq_false.mpr fun y hy => ?_
        simpa using (hd x List.mem_cons_self y hy).symm
      rw [List.any_append, hnone, Bool.or_false]
    have ih := ih fun x' hx => hd x' (List.mem_cons_of_mem _ hx)
    rw [List.cons_append, lastEvents, hany, ih, lastEvents]
    split <;> rfl

theorem disjoint_lastEvents (hd : ∀ x ∈ xs, ∀ y ∈ ys, x.address ≠ y.address) :
    ∀ x ∈ lastEvents xs, ∀ y ∈ lastEvents ys, x.address ≠ y.address := fun x hx y hy =>
  hd x (nodup_lastEvents.mem_of_mem_lastEvents hx) y (nodup_lastEvents.mem_of_mem_lastEvents hy)

theorem mem_lastEvents {e : HostEvent α} :
    e ∈ lastEvents batch ↔ lastStatus batch e.address = some e.status := by
  rw [← lastStatus_lastEvents]
  exact ⟨lastStatus_of_mem (nodup_lastEvents batch), mem_of_lastStatus⟩

theorem lastEvents_perm (hw : ∀ a, lastStatus batch a = lastStatus batch' a) :
    (lastEvents batch).Perm (lastEvents batch') := by
  refine (List.perm_ext_iff_of_nodup ?_ ?_).mpr fun e => ?_
  · exact (nodup_lastEvents batch).of_map _
  · exact (nodup_lastEvents batch').of_map _
  · rw [mem_lastEvents, mem_lastEvents, hw]

/-- The last word on an address is up to its own events, and their order. -/
theorem lastStatus_congr {a : α} (h : batch.filter (fun e => e.address = a) =
    batch'.filter fun e => e.address = a) : lastStatus batch a = lastStatus batch' a := by
  have hown (es : Batch α) : lastStatus (es.filter fun e => e.address = a) a = lastStatus es a :=
    lastStatus_filter (p := fun a' => a' = a) (by simp) es
  calc lastStatus batch a = lastStatus (batch.filter fun e => e.address = a) a := (hown batch).symm
    _ = lastStatus (batch'.filter fun e => e.address = a) a := by rw [h]
    _ = lastStatus batch' a := hown batch'

/-! ### The hosts after a batch -/

theorem mem_rosterAfter {hosts : List (Host α κ)} {k : Host α κ} {es : Batch α} :
    k ∈ rosterAfter es hosts ↔
      (∃ host ∈ hosts, host.toldBy es = some k) ∨ k ∈ newcomers es hosts := by
  rw [rosterAfter, List.mem_append, List.mem_filterMap]

/-- A new host hears nothing else from its batch. -/
theorem toldBy_newcomer {hosts : List (Host α κ)} {k : Host α κ} {es : Batch α}
    (hes : (es.map HostEvent.address).Nodup) (hk : k ∈ newcomers es hosts) :
    k.toldBy es = some k := by
  obtain ⟨hnew, hmem, -⟩ := mem_newcomers hk
  have hlast : lastStatus es k.address = some .available := lastStatus_of_mem hes hmem
  rw [Host.toldBy, hlast, hnew]
  rfl

/-- The addresses that have no host after a batch that does not name them had none
before. -/
theorem newcomers_rosterAfter {hosts : List (Host α κ)}
    (hd : ∀ x ∈ xs, ∀ y ∈ ys, x.address ≠ y.address) :
    newcomers ys (rosterAfter xs hosts) = newcomers ys hosts := by
  unfold newcomers
  congr 1
  refine List.filter_congr fun y hy => decide_eq_decide.mpr ?_
  unfold IsNews
  refine and_congr_right fun _ => ⟨fun hfree host hm ha => ?_, fun hfree k hk ha => ?_⟩
  · have hquiet : host.toldBy xs = some host :=
      Host.toldBy_of_ne fun x hx heq => hd x hx y hy (heq.trans ha)
    exact hfree host (mem_rosterAfter.mpr (.inl ⟨host, hm, hquiet⟩)) ha
  · rcases mem_rosterAfter.mp hk with ⟨host, hm, ht⟩ | hk
    · exact hfree host hm ((Host.address_of_toldBy ht).symm.trans ha)
    · exact hd _ (mem_newcomers hk).2.1 y hy ha

namespace Balancer

variable {b c c' d d' : Balancer α σ} {h : HostId}

/-! ### The table after a batch -/

theorem lifecycle_applyBatch (b : Balancer α σ) (batch : Batch α) :
    (b.applyBatch batch).lifecycle = b.lifecycle := by
  obtain ⟨_, _, _, _, _, _, _, heq, -⟩ := b.applyBatch_footprint batch
  rw [heq]

theorem mem_table_applyBatch (hb : b.Orderly) (ho : b.lifecycle = .running)
    (hlt : h < b.hosts.length) : h ∈ (b.applyBatch batch).table ↔
      h ∈ b.table ∧ b.stays (lastEvents batch) h = true := by
  obtain ⟨-, htable, -⟩ := applyBatch_result hb ho batch
  rw [htable, List.mem_append, List.mem_filter, or_iff_left]
  exact fun hm => Nat.not_lt.mpr (List.mem_range'_1.mp hm).1 hlt

/-- A batch leaves a table in order. -/
theorem Orderly.applyBatch (hb : b.Orderly) (ho : b.lifecycle = .running) (batch : Batch α) :
    (b.applyBatch batch).Orderly := by
  obtain ⟨hhosts, htable, -⟩ := applyBatch_result hb ho batch
  obtain ⟨hroster, -⟩ := applyBatch_eq hb ho batch
  refine ⟨fun h hm => ?_, ?_, fun k hk => ?_⟩
  · rw [hhosts, List.length_append, List.length_mapIdx]
    rw [htable] at hm
    rcases List.mem_append.mp hm with hm | hm
    · exact Nat.lt_of_lt_of_le (hb.known h (List.mem_filter.mp hm).1) (Nat.le_add_right _ _)
    · exact (List.mem_range'_1.mp hm).2
  · rw [hroster, rosterAfter, List.map_append]
    refine (hb.distinct.sublist (sublist_told _ _)).append
      (nodup_newcomers (nodup_lastEvents batch) _) fun a hold hnew => ?_
    obtain ⟨k, hk, rfl⟩ := List.mem_map.mp hnew
    obtain ⟨host, hm, ha⟩ := List.mem_map.mp ((sublist_told _ _).subset hold)
    exact (mem_newcomers hk).2.2 host hm ha
  · rw [hroster] at hk
    rcases mem_rosterAfter.mp hk with ⟨host, hm, ht⟩ | hk
    · rw [← Host.heardBy_of_told ht]
      exact Host.status_heardBy (hb.opened host hm) _
    · rw [(mem_newcomers hk).1]
      simp

/-! ### Once more -/

/-- A batch that tells nobody anything new changes nothing. -/
theorem applyBatch_of_settled (hb : b.Orderly) (ho : b.lifecycle = .running)
    (htold : ∀ host ∈ b.tableHosts, host.toldBy (lastEvents batch) = some host)
    (hnew : newcomers (lastEvents batch) b.tableHosts = []) :
    (b.applyBatch batch).hosts = b.hosts ∧ (b.applyBatch batch).table = b.table ∧
      (b.applyBatch batch).closings = b.closings := by
  obtain ⟨hhosts, htable, hclosings⟩ := applyBatch_result hb ho batch
  have hstays : ∀ h ∈ b.table, b.stays (lastEvents batch) h = true := by
    intro h hm
    obtain ⟨host, hh⟩ := hb.exists_host hm
    rw [stays_of_getElem? hh, htold host (mem_tableHosts.mpr ⟨h, hm, hh⟩), Option.isSome_some]
  refine ⟨?_, ?_, ?_⟩
  · rw [hhosts, hnew, List.append_nil]
    refine List.mapIdx_eq_iff.mpr fun h => ?_
    cases hh : b.hosts[h]? with
    | none => rfl
    | some host =>
      rw [Option.map_some, fate]
      split
      · rename_i hm
        rw [htold host (mem_tableHosts.mpr ⟨h, hm, hh⟩)]
        rfl
      · rfl
  · rw [htable, hnew, List.filter_eq_self.mpr hstays]
    exact List.append_nil _
  · have hnone : (lastEvents batch).filterMap b.leaver = [] := by
      refine List.eq_nil_iff_forall_not_mem.mpr fun h hm => ?_
      obtain ⟨hm, hgone⟩ := (mem_leavers hb (nodup_lastEvents batch)).mp hm
      rw [hstays h hm] at hgone
      exact Bool.noConfusion hgone
    rw [hclosings, partings_eq hb, hnone]
    exact List.append_nil _

theorem applyBatch_twice (hb : b.Orderly) (ho : b.lifecycle = .running) (batch : Batch α) :
    let once := b.applyBatch batch
    (once.applyBatch batch).hosts = once.hosts ∧ (once.applyBatch batch).table = once.table ∧
      (once.applyBatch batch).closings = once.closings := by
  intro once
  have hnd := nodup_lastEvents batch
  obtain ⟨hroster, -⟩ := applyBatch_eq hb ho batch
  refine applyBatch_of_settled (hb.applyBatch ho batch)
    ((lifecycle_applyBatch b batch).trans ho) (fun k hk => ?_) ?_
  · rw [hroster] at hk
    rcases mem_rosterAfter.mp hk with ⟨host, hm, ht⟩ | hk
    · exact Host.toldBy_of_toldBy ht
    · exact toldBy_newcomer hnd hk
  · -- Who is available has a host by now.
    refine List.eq_nil_iff_forall_not_mem.mpr fun k hk => ?_
    obtain ⟨hnew, hmem, hfree⟩ := mem_newcomers hk
    have hlast : lastStatus (lastEvents batch) k.address = some .available :=
      lastStatus_of_mem hnd hmem
    by_cases hex : ∃ host ∈ b.tableHosts, host.address = k.address
    · obtain ⟨host, hm, ha⟩ := hex
      obtain ⟨host', ht⟩ : ∃ host', host.toldBy (lastEvents batch) = some host' := by
        rw [Host.toldBy, ha, hlast]
        exact ⟨_, rfl⟩
      refine hfree host' ?_ ((Host.address_of_toldBy ht).trans ha)
      rw [hroster]
      exact mem_rosterAfter.mpr (.inl ⟨host, hm, ht⟩)
    · refine hfree k ?_ rfl
      rw [hroster, hnew]
      have hnews : IsNews b.tableHosts (⟨k.address, .available⟩ : HostEvent α) :=
        ⟨rfl, fun host hm ha => hex ⟨host, hm, ha⟩⟩
      exact mem_rosterAfter.mpr (.inr (mem_newcomers_of_isNews hmem hnews))

/-! ### Two batches in a row -/

variable (hb : b.Orderly) (ho : b.lifecycle = .running)
  (hd : ∀ x ∈ xs, ∀ y ∈ ys, x.address ≠ y.address)

include hb ho hd

/-- What becomes of a host in two batches. -/
theorem fate_fate {host : Host α (Link α)} (hh : b.hosts[h]? = some host) :
    (b.applyBatch xs).fate (lastEvents ys) h (b.fate (lastEvents xs) h host) =
      b.fate (lastEvents xs ++ lastEvents ys) h host := by
  have hlt : h < b.hosts.length := (List.getElem?_eq_some_iff.mp hh).1
  have hd' := disjoint_lastEvents hd
  unfold fate
  by_cases hm : h ∈ b.table
  · rw [if_pos hm, if_pos hm, Host.toldBy_append hd']
    simp only [mem_table_applyBatch hb ho hlt, stays_of_getElem? hh, hm, true_and]
    cases ht : host.toldBy (lastEvents xs) with
    | none => simp
    | some host' =>
      rw [Option.isSome_some, if_pos rfl, Option.getD_some, Option.bind_some]
      cases ht' : host'.toldBy (lastEvents ys) with
      | none => rw [Host.eq_of_toldBy hd' ht ht']
      | some host'' => rfl
  · have hout : h ∉ (b.applyBatch xs).table := fun hm' =>
      hm ((mem_table_applyBatch hb ho hlt).mp hm').1
    rw [if_neg hm, if_neg hm, if_neg hout]

/-- Who stays after two batches. -/
theorem stays_applyBatch (hm : h ∈ b.table) : b.stays (lastEvents xs ++ lastEvents ys) h =
    ((b.applyBatch xs).stays (lastEvents ys) h && b.stays (lastEvents xs) h) := by
  obtain ⟨host, hh⟩ := hb.exists_host hm
  have hat : (b.applyBatch xs).hosts[h]? = some (b.fate (lastEvents xs) h host) := by
    rw [getElem?_applyBatch hb ho xs (hb.known h hm), hh, Option.map_some]
  rw [stays_of_getElem? hh, stays_of_getElem? hh, stays_of_getElem? hat,
    Host.toldBy_append (disjoint_lastEvents hd), fate, if_pos hm]
  cases ht : host.toldBy (lastEvents xs) with
  | none => simp
  | some host' => simp

omit hb ho in
/-- The second batch says nothing of the hosts that the first one brings in. -/
theorem toldBy_other {hosts : List (Host α (Link α))} {k : Host α (Link α)}
    (hk : k ∈ newcomers (lastEvents xs) hosts) : k.toldBy (lastEvents ys) = some k :=
  Host.toldBy_of_ne fun y hy heq =>
    disjoint_lastEvents hd _ (mem_newcomers hk).2.1 y hy heq.symm

/-- What the second batch makes of the hosts after the first. -/
theorem mapIdx_fate_applyBatch :
    (b.applyBatch xs).hosts.mapIdx ((b.applyBatch xs).fate (lastEvents ys)) =
      b.hosts.mapIdx (b.fate (lastEvents xs ++ lastEvents ys)) ++
        newcomers (lastEvents xs) b.tableHosts := by
  obtain ⟨hhosts, -, -⟩ := applyBatch_result hb ho xs
  rw [hhosts, List.mapIdx_append]
  congr 1
  · rw [List.mapIdx_mapIdx]
    exact List.mapIdx_eq_mapIdx_iff.mpr fun h hlt =>
      fate_fate hb ho hd (List.getElem?_eq_getElem hlt)
  · refine List.mapIdx_eq_iff.mpr fun j => ?_
    cases hk : (newcomers (lastEvents xs) b.tableHosts)[j]? with
    | none => rfl
    | some k =>
      rw [Option.map_some, fate, toldBy_other hd (List.mem_of_getElem? hk)]
      exact congrArg some (ite_self _).symm

/-- Whom the second batch leaves in the table after the first. -/
theorem filter_stays_applyBatch :
    (b.applyBatch xs).table.filter ((b.applyBatch xs).stays (lastEvents ys)) =
      b.table.filter (b.stays (lastEvents xs ++ lastEvents ys)) ++
        List.range' b.hosts.length (newcomers (lastEvents xs) b.tableHosts).length := by
  obtain ⟨hhosts, htable, -⟩ := applyBatch_result hb ho xs
  rw [htable, List.filter_append, List.filter_filter]
  congr 1
  · exact List.filter_congr fun h hm => (stays_applyBatch hb ho hd hm).symm
  · refine List.filter_eq_self.mpr fun j hj => ?_
    obtain ⟨hle, hlt⟩ := List.mem_range'_1.mp hj
    have hmapped : (b.hosts.mapIdx (b.fate (lastEvents xs))).length = b.hosts.length :=
      List.length_mapIdx
    have hat : (b.applyBatch xs).hosts[j]? =
        (newcomers (lastEvents xs) b.tableHosts)[j - b.hosts.length]? := by
      rw [hhosts, List.getElem?_append_right (by omega), hmapped]
    have hk := List.getElem?_eq_getElem (l := newcomers (lastEvents xs) b.tableHosts)
      (i := j - b.hosts.length) (by omega)
    rw [stays_of_getElem? (hat.trans hk), toldBy_other hd (List.getElem_mem _), Option.isSome_some]

theorem applyBatch_append :
    (b.applyBatch (xs ++ ys)).hosts = ((b.applyBatch xs).applyBatch ys).hosts ∧
      (b.applyBatch (xs ++ ys)).table = ((b.applyBatch xs).applyBatch ys).table := by
  obtain ⟨hhosts₁, -, -⟩ := applyBatch_result hb ho xs
  obtain ⟨hroster₁, -⟩ := applyBatch_eq hb ho xs
  obtain ⟨hhosts₂, htable₂, -⟩ := applyBatch_result (hb.applyBatch ho xs)
    ((lifecycle_applyBatch b xs).trans ho) ys
  obtain ⟨hhosts, htable, -⟩ := applyBatch_result hb ho (xs ++ ys)
  have hnew : newcomers (lastEvents ys) (b.applyBatch xs).tableHosts =
      newcomers (lastEvents ys) b.tableHosts := by
    rw [hroster₁, newcomers_rosterAfter (disjoint_lastEvents hd)]
  have hlength : (b.applyBatch xs).hosts.length =
      b.hosts.length + (newcomers (lastEvents xs) b.tableHosts).length := by
    rw [hhosts₁, List.length_append, List.length_mapIdx]
  constructor
  · rw [hhosts, hhosts₂, hnew, mapIdx_fate_applyBatch hb ho hd, lastEvents_append hd,
      newcomers_append, List.append_assoc]
  · rw [htable, htable₂, hnew, hlength, filter_stays_applyBatch hb ho hd, lastEvents_append hd,
      newcomers_append, List.length_append, List.append_assoc, List.range'_append_1]

omit hb ho hd

/-! ### The order of events -/

/-- The hosts are the same as elsewhere, and so are the old ones in the order of the
table. Those that `b` did not have yet may stand in another order. -/
structure SameButNew (b c c' : Balancer α σ) : Prop where
  table : c.table = c'.table
  old : c.hosts.take b.hosts.length = c'.hosts.take b.hosts.length
  new : (c.hosts.drop b.hosts.length).Perm (c'.hosts.drop b.hosts.length)
  roster : ∃ staying new new', c.tableHosts = staying ++ new ∧ c'.tableHosts = staying ++ new' ∧
    new.Perm new' ∧ (∀ k ∈ staying, ∃ host ∈ b.tableHosts, host.address = k.address) ∧
    ∀ k ∈ new, ∀ host ∈ b.tableHosts, host.address ≠ k.address

omit [DecidableEq α] in
theorem SameButNew.congr (hs : SameButNew b c c') (hhosts : c.hosts = d.hosts)
    (htable : c.table = d.table) (hhosts' : c'.hosts = d'.hosts)
    (htable' : c'.table = d'.table) : SameButNew b d d' := by
  have hroster : c.tableHosts = d.tableHosts := by rw [tableHosts, hhosts, htable]; rfl
  have hroster' : c'.tableHosts = d'.tableHosts := by rw [tableHosts, hhosts', htable']; rfl
  refine ⟨?_, ?_, ?_, ?_⟩
  · rw [← htable, ← htable']
    exact hs.table
  · rw [← hhosts, ← hhosts']
    exact hs.old
  · rw [← hhosts, ← hhosts']
    exact hs.new
  · rw [← hroster, ← hroster']
    exact hs.roster

/-- Batches with the same last words. -/
theorem applyBatch_congr (hb : b.Orderly) (ho : b.lifecycle = .running)
    (hw : ∀ a, lastStatus batch a = lastStatus batch' a) :
    SameButNew b (b.applyBatch batch) (b.applyBatch batch') := by
  obtain ⟨hhosts, htable, -⟩ := applyBatch_result hb ho batch
  obtain ⟨hhosts', htable', -⟩ := applyBatch_result hb ho batch'
  obtain ⟨hroster, -⟩ := applyBatch_eq hb ho batch
  obtain ⟨hroster', -⟩ := applyBatch_eq hb ho batch'
  have htold (host : Host α (Link α)) :
      host.toldBy (lastEvents batch) = host.toldBy (lastEvents batch') := by
    rw [Host.toldBy_lastEvents, Host.toldBy_lastEvents, Host.toldBy, Host.toldBy, hw]
  have hnew : (newcomers (lastEvents batch) b.tableHosts).Perm
      (newcomers (lastEvents batch') b.tableHosts) :=
    ((lastEvents_perm hw).filter _).map _
  have hfate := mapIdx_fate_congr (b := b) fun host _ => htold host
  refine ⟨?_, ?_, ?_, _, _, _, hroster, ?_, hnew, fun k hk => ?_, fun k hk =>
    (mem_newcomers hk).2.2⟩
  · rw [htable, htable', filter_stays_congr hb fun host _ => htold host, hnew.length_eq]
  · rw [hhosts, hhosts', hfate, List.take_left' List.length_mapIdx,
      List.take_left' List.length_mapIdx]
  · rw [hhosts, hhosts', List.drop_left' List.length_mapIdx, List.drop_left' List.length_mapIdx]
    exact hnew
  · rw [hroster', rosterAfter, List.filterMap_congr fun host _ => htold host]
  · obtain ⟨host, hm, ht⟩ := List.mem_filterMap.mp hk
    exact ⟨host, hm, (Host.address_of_toldBy ht).symm⟩

/-- **Laws of batches**, on the hosts and the table of a balancer that is open. -/
theorem batch_laws (b : Balancer α σ) (hb : b.Orderly) (ho : b.isClosed = false) :
    -- A batch twice is the batch once, and hands nothing over the second time.
    (∀ batch, let once := b.applyBatch batch
      (once.applyBatch batch).hosts = once.hosts ∧ (once.applyBatch batch).table = once.table ∧
        (once.applyBatch batch).closings = once.closings) ∧
      -- Batches that name different addresses.
      (∀ xs ys : Batch α, (∀ x ∈ xs, ∀ y ∈ ys, x.address ≠ y.address) →
        ((b.applyBatch (xs ++ ys)).hosts = ((b.applyBatch xs).applyBatch ys).hosts ∧
          (b.applyBatch (xs ++ ys)).table = ((b.applyBatch xs).applyBatch ys).table) ∧
        SameButNew b ((b.applyBatch xs).applyBatch ys) ((b.applyBatch ys).applyBatch xs)) ∧
      -- Batches that have the events of each address in the same order.
      ∀ batch batch' : Batch α, (∀ a, batch.filter (fun e => e.address = a) =
          batch'.filter fun e => e.address = a) →
        SameButNew b (b.applyBatch batch) (b.applyBatch batch') := by
  have hrunning : b.lifecycle = .running := by simpa [isClosed] using ho
  refine ⟨applyBatch_twice hb hrunning, fun xs ys hd => ?_, fun batch batch' hsame =>
    applyBatch_congr hb hrunning fun a => lastStatus_congr (hsame a)⟩
  have hd' : ∀ y ∈ ys, ∀ x ∈ xs, y.address ≠ x.address := fun y hy x hx => (hd x hx y hy).symm
  obtain ⟨hhosts, htable⟩ := applyBatch_append hb hrunning hd
  obtain ⟨hhosts', htable'⟩ := applyBatch_append hb hrunning hd'
  have hw (a : α) : lastStatus (xs ++ ys) a = lastStatus (ys ++ xs) a := by
    rw [lastStatus_append, lastStatus_append]
    by_cases hx : ∃ x ∈ xs, x.address = a
    · obtain ⟨x, hx, rfl⟩ := hx
      rw [lastStatus_eq_none (hd' · · x hx), Option.none_or, Option.or_none]
    · rw [lastStatus_eq_none fun x hx' heq => hx ⟨x, hx', heq⟩, Option.none_or, Option.or_none]
  exact ⟨⟨hhosts, htable⟩,
    (applyBatch_congr hb hrunning hw).congr hhosts htable hhosts' htable'⟩

end Balancer
end

theorem Balancer.batch_laws_oneServedOneDown :
    let b := (freshBalancer true).run oneServedOneDown
    let xs : Batch Nat := [⟨4, .available⟩, ⟨1, .unavailable⟩]
    let ys : Batch Nat := [⟨2, .expired⟩, ⟨5, .available⟩]
    b.Orderly ∧ b.isClosed = false ∧ (∀ x ∈ xs, ∀ y ∈ ys, x.address ≠ y.address) ∧
      ((b.applyBatch mixedBatch).applyBatch mixedBatch).hosts = (b.applyBatch mixedBatch).hosts ∧
      SameButNew b ((b.applyBatch xs).applyBatch ys) ((b.applyBatch ys).applyBatch xs) ∧
      ((b.applyBatch xs).applyBatch ys).tableHosts.map Host.address = [3, 4, 5] ∧
      ((b.applyBatch ys).applyBatch xs).tableHosts.map Host.address = [3, 5, 4] := by
  intro b xs ys
  have hb : b.Orderly := .of_tidy (tidy_run (plainSetup true) (.ofSeed 0) () oneServedOneDown)
  have ho : b.isClosed = false := by decide
  have hd : ∀ x ∈ xs, ∀ y ∈ ys, x.address ≠ y.address := by decide
  obtain ⟨htwice, hdisjoint, -⟩ := batch_laws b hb ho
  obtain ⟨hhosts, -⟩ := htwice mixedBatch
  exact ⟨hb, ho, hd, hhosts, (hdisjoint xs ys hd).2, by decide, by decide⟩

end HostRotation
