/-
# A batch, by reference

What a batch makes of the hosts does not take a fold to say. A host of the table
answers to the last word on its address (`Host.afterWord`), and the addresses that
a batch brings in (`arrivals`) get a new host each. Whatever else a batch says is
passed over.

Key theorem: `Balancer.applyBatch_reference`.
-/
import HostRotation.Proofs.Batches

namespace HostRotation

variable {α κ σ : Type}

/-! ### The last word on a host -/

/-- A host after the last word on its address, if there is one: `none` if it has to
leave. -/
def Host.afterWord (host : Host α κ) : Option DiscoveryStatus → Option (Host α κ)
  | none => some host
  | some .available => some { host with
      status := .active
      failures := if host.status = .expired ∨ host.status = .unhealthy then 0 else host.failures
      check := if host.status = .unhealthy then none else host.check }
  | some .expired =>
    if host.pool = [] then none else some { host with status := .expired, check := none }
  | some .unavailable => none

theorem Host.told_eq_afterWord {host : Host α κ} (hc : host.status ≠ .closed)
    (s : DiscoveryStatus) : host.told s = host.afterWord (some s) := by
  cases s with
  | available =>
    obtain ⟨address, status, pool, failures, check⟩ := host
    cases status with
    | closed => exact absurd rfl hc
    | active | expired | unhealthy => rfl
  | expired =>
    have hexpire : host.expire = { host with status := .expired } := by
      obtain ⟨address, status, pool, failures, check⟩ := host
      cases status with
      | closed => exact absurd rfl hc
      | active | expired | unhealthy => rfl
    have hdrained : host.expire.isDrained = true ↔ host.pool = [] := by
      rw [Host.isDrained_eq_true, hexpire]
      exact and_iff_right rfl
    rw [Host.told_expired, Host.afterWord]
    simp only [hdrained]
    rw [hexpire]
  | unavailable => rfl

section

variable [DecidableEq α]

theorem Host.toldBy_eq_afterWord {host : Host α κ} (hc : host.status ≠ .closed)
    (es : Batch α) : host.toldBy es = host.afterWord (lastStatus es host.address) := by
  unfold Host.toldBy
  split
  · rename_i s hs
    rw [hs, Host.told_eq_afterWord hc]
  · rename_i hs
    rw [hs]
    rfl

/-! ### Addresses that a batch brings in -/

/-- The addresses without a host that are available in their last event, in the
order of these events. -/
def arrivals (hosts : List (Host α κ)) : Batch α → List α
  | [] => []
  | e :: es =>
    if e.status = .available ∧ (∀ e' ∈ es, e'.address ≠ e.address) ∧
        ∀ host ∈ hosts, host.address ≠ e.address
    then e.address :: arrivals hosts es else arrivals hosts es

theorem newcomers_lastEvents (hosts : List (Host α κ)) : ∀ es : Batch α,
    newcomers (lastEvents es) hosts = (arrivals hosts es).map fun a => { address := a }
  | [] => rfl
  | e :: es => by
    have ih := newcomers_lastEvents hosts es
    have hlater : (es.any fun e' => e'.address = e.address) = true ↔
        ¬ ∀ e' ∈ es, e'.address ≠ e.address := by simp
    unfold lastEvents arrivals
    by_cases hl : ∀ e' ∈ es, e'.address ≠ e.address
    · have hcons : newcomers (e :: lastEvents es) hosts =
          newcomers [e] hosts ++ newcomers (lastEvents es) hosts := newcomers_append [e] _ _
      rw [if_neg (mt hlater.mp (not_not.mpr hl)), hcons, ih]
      by_cases hnews : IsNews hosts e
      · rw [newcomers_of_isNews hnews, if_pos ⟨hnews.1, hl, hnews.2⟩]
        rfl
      · rw [newcomers_of_not_isNews hnews, if_neg fun h => hnews ⟨h.1, h.2.2⟩, List.nil_append]
    · rw [if_pos (hlater.mpr hl), if_neg fun h => hl h.2.1]
      exact ih

theorem arrivals_eq_map (hosts : List (Host α κ)) (es : Batch α) :
    arrivals hosts es = (newcomers (lastEvents es) hosts).map Host.address := by
  rw [newcomers_lastEvents, List.map_map]
  exact (List.map_id _).symm

theorem nodup_arrivals (hosts : List (Host α κ)) (es : Batch α) : (arrivals hosts es).Nodup := by
  rw [arrivals_eq_map]
  exact nodup_newcomers (nodup_lastEvents es) hosts

theorem mem_arrivals {hosts : List (Host α κ)} {es : Batch α} {a : α} : a ∈ arrivals hosts es ↔
    lastStatus es a = some .available ∧ ∀ host ∈ hosts, host.address ≠ a := by
  rw [arrivals_eq_map, ← lastStatus_lastEvents, List.mem_map]
  constructor
  · rintro ⟨k, hk, rfl⟩
    obtain ⟨-, hmem, hfree⟩ := mem_newcomers hk
    exact ⟨lastStatus_of_mem (nodup_lastEvents es) hmem, hfree⟩
  · rintro ⟨hlast, hfree⟩
    have hnews : IsNews hosts (⟨a, .available⟩ : HostEvent α) := ⟨rfl, hfree⟩
    exact ⟨{ address := a }, mem_newcomers_of_isNews (mem_of_lastStatus hlast) hnews, rfl⟩

/-! ### Events that are passed over -/

/-- Leaving out every event of some addresses leaves out their last ones. -/
theorem lastEvents_filter (p : α → Bool) : ∀ es : Batch α,
    lastEvents (es.filter fun e => p e.address) = (lastEvents es).filter fun e => p e.address
  | [] => rfl
  | e :: es => by
    have ih := lastEvents_filter p es
    by_cases hp : p e.address = true
    · have hany : ((es.filter fun e => p e.address).any fun e' => e'.address = e.address) =
          es.any fun e' => e'.address = e.address := by
        rw [List.any_filter]
        congr 1
        funext e'
        by_cases ha : e'.address = e.address
        · simp [ha, hp]
        · simp [ha]
      rw [List.filter_cons, if_pos hp, lastEvents, lastEvents, hany, ih]
      split
      · rfl
      · rw [List.filter_cons, if_pos hp]
    · rw [List.filter_cons, if_neg hp, ih, lastEvents]
      split
      · rfl
      · rw [List.filter_cons, if_neg hp]

theorem lastStatus_filter {p : α → Bool} {a : α} (hp : p a = true) (es : Batch α) :
    lastStatus (es.filter fun e => p e.address) a = lastStatus es a := by
  rw [lastStatus, lastStatus, ← List.filter_reverse, List.find?_filter]
  congr 2
  funext e
  by_cases ha : e.address = a
  · simp [ha, hp]
  · simp [ha]

namespace Balancer

variable {b : Balancer α σ}

/-- Whether a batch matters to an address: it has a host, or it is available in the
end. -/
def Concerns (b : Balancer α σ) (batch : Batch α) (a : α) : Prop :=
  (∃ host ∈ b.tableHosts, host.address = a) ∨ lastStatus batch a = some .available

instance (b : Balancer α σ) (batch : Batch α) (a : α) : Decidable (b.Concerns batch a) :=
  inferInstanceAs (Decidable (_ ∨ _))

/-- News concern the batch that brings them. -/
theorem concerns_of_isNews {batch : Batch α} {e : HostEvent α} (he : e ∈ lastEvents batch)
    (hnews : IsNews b.tableHosts e) : b.Concerns batch e.address := by
  have hlast : lastStatus batch e.address = some e.status := by
    rw [← lastStatus_lastEvents]
    exact lastStatus_of_mem (nodup_lastEvents batch) he
  exact .inr (hnews.1 ▸ hlast)

theorem leaver_eq_none {batch : Batch α} {e : HostEvent α}
    (he : ¬ b.Concerns batch e.address) : b.leaver e = none := by
  cases hl : b.leaver e with
  | none => rfl
  | some h =>
    obtain ⟨hm, host, hh, ha, -⟩ := leaver_eq_some hl
    exact absurd (.inl ⟨host, mem_tableHosts.mpr ⟨h, hm, hh⟩, ha⟩) he

/-- Events of other addresses have no effect on the hosts. -/
theorem applyBatch_filter (hb : b.Orderly) (ho : b.lifecycle = .running) (batch : Batch α) :
    let concerning := batch.filter fun e => b.Concerns batch e.address
    (b.applyBatch concerning).hosts = (b.applyBatch batch).hosts ∧
      (b.applyBatch concerning).table = (b.applyBatch batch).table ∧
      (b.applyBatch concerning).closings = (b.applyBatch batch).closings := by
  intro concerning
  obtain ⟨hhosts, htable, hclosings⟩ := applyBatch_result hb ho batch
  obtain ⟨hhosts', htable', hclosings'⟩ := applyBatch_result hb ho concerning
  have hevents : lastEvents concerning =
      (lastEvents batch).filter fun e => b.Concerns batch e.address :=
    lastEvents_filter (fun a => b.Concerns batch a) batch
  have htold : ∀ host ∈ b.tableHosts,
      host.toldBy (lastEvents concerning) = host.toldBy (lastEvents batch) := by
    intro host hm
    have hmatters : b.Concerns batch host.address := .inl ⟨host, hm, rfl⟩
    rw [Host.toldBy_lastEvents, Host.toldBy_lastEvents, Host.toldBy, Host.toldBy,
      lastStatus_filter (p := fun a => b.Concerns batch a) (by simpa using hmatters)]
  have hnew : newcomers (lastEvents concerning) b.tableHosts =
      newcomers (lastEvents batch) b.tableHosts := by
    rw [newcomers, newcomers, hevents, List.filter_filter]
    congr 1
    refine List.filter_congr fun e he => ?_
    by_cases hnews : IsNews b.tableHosts e
    · simp [hnews, concerns_of_isNews he hnews]
    · simp [hnews]
  have hpartings : partings (lastEvents concerning) b.tableHosts =
      partings (lastEvents batch) b.tableHosts := by
    have hleavers : (lastEvents concerning).filterMap b.leaver =
        (lastEvents batch).filterMap b.leaver := by
      rw [hevents, List.filterMap_filter]
      refine List.filterMap_congr fun e _ => ?_
      by_cases he : b.Concerns batch e.address
      · simp [he]
      · simp [he, leaver_eq_none he]
    rw [partings_eq hb, partings_eq hb, hleavers]
  rw [hhosts, htable, hclosings, hhosts', htable', hclosings', mapIdx_fate_congr htold,
    filter_stays_congr hb htold, hnew, hpartings]
  exact ⟨rfl, rfl, rfl⟩

/-- What a batch hands over, up to the order of the hosts that leave. -/
theorem partings_perm (hb : b.Orderly) (batch : Batch α) :
    (partings (lastEvents batch) b.tableHosts).Perm
      ((b.tableHosts.filter fun host =>
          (host.afterWord (lastStatus batch host.address)).isNone).flatMap
        fun host => closingOf host.pool) := by
  have hnd := nodup_lastEvents batch
  have hleavers : ((lastEvents batch).filterMap b.leaver).Perm
      (b.table.filter fun h => !b.stays (lastEvents batch) h) := by
    refine (List.perm_ext_iff_of_nodup (nodup_leavers hnd) (hb.nodup.filter _)).mpr fun h => ?_
    rw [mem_leavers hb hnd, List.mem_filter, Bool.not_eq_true']
  have hhosts : (b.table.filter fun h => !b.stays (lastEvents batch) h).flatMap
      (fun h => closingOf (poolAt b.hosts h)) =
        (b.tableHosts.filter fun host =>
          (host.afterWord (lastStatus batch host.address)).isNone).flatMap
            fun host => closingOf host.pool := by
    rw [tableHosts, List.filter_filterMap, ← List.filterMap_eq_filter,
      List.filterMap_eq_flatMap_toList, List.filterMap_eq_flatMap_toList, List.flatMap_assoc,
      List.flatMap_assoc]
    refine List.flatMap_congr fun h hm => ?_
    obtain ⟨host, hh⟩ := hb.exists_host hm
    have hword : host.toldBy (lastEvents batch) =
        host.afterWord (lastStatus batch host.address) := by
      rw [Host.toldBy_lastEvents, Host.toldBy_eq_afterWord (hb.ne_closed hm hh)]
    rw [Option.guard, stays_of_getElem? hh, hword, hh, Option.filter_some]
    cases host.afterWord (lastStatus batch host.address) with
    | none => simp [poolAt_of_getElem? hh]
    | some host' => simp
  rw [partings_eq hb, ← hhosts]
  exact hleavers.flatMap_right _

/-- **A batch is its reference**: who stays and as what, who comes, and what the hosts
that leave hand over, whatever an open balancer looks like and a batch repeats. -/
theorem applyBatch_reference (b : Balancer α σ) (batch : Batch α) (hb : b.Orderly)
    (ho : b.isClosed = false) :
    let after := b.applyBatch batch
    let word := fun host : Host α (Link α) => lastStatus batch host.address
    let arriving := arrivals b.tableHosts batch
    let new : List (Host α (Link α)) := arriving.map fun a =>
      { address := a, status := .active, pool := [], failures := 0, check := none }
    let concerning := batch.filter fun e => b.Concerns batch e.address
    -- The table lists who stays, and then the new hosts.
    after.tableHosts = (b.tableHosts.filterMap fun host => host.afterWord (word host)) ++ new ∧
      (∃ staying, staying.Sublist b.table ∧
        after.table = staying ++ List.range' b.hosts.length arriving.length ∧
        ∀ h ∈ b.table, ∀ host, b.hosts[h]? = some host →
          match host.afterWord (word host) with
          | some host' => h ∈ staying ∧ after.hosts[h]? = some host'
          | none => h ∉ staying ∧
            after.hosts[h]? = some { host with status := .closed, pool := [], check := none }) ∧
      (∀ h < b.hosts.length, h ∉ b.table → after.hosts[h]? = b.hosts[h]?) ∧
      after.hosts.drop b.hosts.length = new ∧
      (arriving.Nodup ∧ ∀ a, a ∈ arriving ↔
        lastStatus batch a = some .available ∧ ∀ host ∈ b.tableHosts, host.address ≠ a) ∧
      -- Who leaves hands over what it has pooled.
      (∃ handed, after.closings = b.closings ++ handed ∧
        handed.Perm ((b.tableHosts.filter fun host => (host.afterWord (word host)).isNone).flatMap
          fun host => closingOf host.pool)) ∧
      (b.applyBatch concerning).hosts = after.hosts ∧
      (b.applyBatch concerning).table = after.table ∧
      (b.applyBatch concerning).closings = after.closings := by
  intro after word arriving new concerning
  have hrunning : b.lifecycle = .running := by simpa [isClosed] using ho
  obtain ⟨hhosts, htable, hclosings⟩ := applyBatch_result hb hrunning batch
  obtain ⟨hroster, -⟩ := applyBatch_eq hb hrunning batch
  have hnew : newcomers (lastEvents batch) b.tableHosts = new := newcomers_lastEvents _ _
  have hlength : (newcomers (lastEvents batch) b.tableHosts).length = arriving.length := by
    rw [hnew, List.length_map]
  have hword : ∀ host ∈ b.tableHosts,
      host.toldBy (lastEvents batch) = host.afterWord (word host) := fun host hm => by
    rw [Host.toldBy_lastEvents, Host.toldBy_eq_afterWord (hb.opened host hm)]
  have hold : ∀ h < b.hosts.length,
      after.hosts[h]? = (b.hosts[h]?).map (b.fate (lastEvents batch) h) :=
    fun h => getElem?_applyBatch hb hrunning batch
  refine ⟨?_, ⟨_, List.filter_sublist, hlength ▸ htable, ?_⟩, ?_, ?_,
    ⟨nodup_arrivals _ _, fun a => mem_arrivals⟩, ⟨_, hclosings, partings_perm hb batch⟩,
    applyBatch_filter hb hrunning batch⟩
  · rw [hroster, rosterAfter, hnew, List.filterMap_congr hword]
  · intro h hm host hh
    have hat := hold h (hb.known h hm)
    rw [hh, Option.map_some, fate, if_pos hm,
      hword host (mem_tableHosts.mpr ⟨h, hm, hh⟩)] at hat
    rw [List.mem_filter, stays_of_getElem? hh, hword host (mem_tableHosts.mpr ⟨h, hm, hh⟩)]
    cases hw : host.afterWord (word host) with
    | some host' => exact ⟨⟨hm, rfl⟩, by rw [hat, hw]; rfl⟩
    | none => exact ⟨by simp, by rw [hat, hw]; rfl⟩
  · intro h hlt hm
    rw [hold h hlt]
    cases b.hosts[h]? with
    | none => rfl
    | some host => rw [Option.map_some, fate, if_neg hm]
  · rw [hhosts, hnew, List.drop_left' List.length_mapIdx]

end Balancer
end

/-- Of three hosts one has a connection, one is down and one was never used. -/
def oneServedOneDown : List (Event Nat Unit) :=
  [.startReconciler, .deliver (.batch [⟨1, .available⟩, ⟨2, .available⟩, ⟨3, .available⟩]),
    .takeNotice, .select (.pure fun _ => true), .dialled 0 .opened,
    .select (.pure fun _ => true), .dialled 1 (.refused "down")]

/-- What it says of 1 and of 4 it takes back, and of 5 it says nothing new. -/
def mixedBatch : Batch Nat :=
  [⟨4, .available⟩, ⟨1, .expired⟩, ⟨6, .available⟩, ⟨4, .unavailable⟩, ⟨5, .expired⟩,
    ⟨3, .expired⟩, ⟨4, .available⟩, ⟨2, .available⟩, ⟨1, .unavailable⟩]

theorem Balancer.applyBatch_reference_mixedBatch :
    let b := (freshBalancer true).run oneServedOneDown
    let after := b.applyBatch mixedBatch
    b.Orderly ∧ b.isClosed = false ∧
      b.tableHosts.map Host.status = [.active, .unhealthy, .active] ∧
      after.tableHosts = [{ address := 2 }, { address := 6 }, { address := 4 }] ∧
      after.closings = [{ links := [⟨0, 1⟩] }] := by
  intro b after
  have hb : b.Orderly := .of_tidy (tidy_run (plainSetup true) (.ofSeed 0) () oneServedOneDown)
  have ho : b.isClosed = false := by decide
  obtain ⟨hroster, -, -, -, -, ⟨handed, hclosings, hperm⟩, -⟩ :=
    applyBatch_reference b mixedBatch hb ho
  have hleft : ((b.tableHosts.filter fun host =>
      (host.afterWord (lastStatus mixedBatch host.address)).isNone).flatMap
        fun host => closingOf host.pool) = [{ links := [⟨0, 1⟩] }] := by decide
  rw [hleft, List.perm_singleton] at hperm
  refine ⟨hb, ho, by decide, hroster.trans (by decide), hclosings.trans ?_⟩
  rw [hperm]
  decide

end HostRotation
