/-
# A drain and a batch in either order

When the reconciler has both a notice and a command to take, either may come
first. Of a drain and a batch it makes hardly a difference which: the hosts
have the same standing afterwards, and the same connections are handed over
for closing. Only if the drained host is announced again does its place
differ. Batch first, the host is active again when the drain looks for it, and
stays where it is; drain first, the host is gone, and the batch adds a new one
of its address behind the others.

So the two orders are compared on lists of hosts: `undrained` before and after
`rosterAfter`.

Key theorem: `drain_batch_crossing`.
-/
import HostRotation.Proofs.Drains

namespace HostRotation

variable {α κ σ : Type}

section

variable [DecidableEq α]

/-- Status, pool and failures of the host of an address. -/
def standing (hosts : List (Host α κ)) (a : α) : Option (HostStatus × List κ × Nat) :=
  (hosts.find? fun host => host.address = a).map fun host =>
    (host.status, host.pool, host.failures)

/-- Whether an address has a drained host that events announce again. -/
def Returns (events : Batch α) (hosts : List (Host α κ)) (a : α) : Prop :=
  (∃ host ∈ hosts, host.address = a ∧ host.isDrained = true) ∧
    lastStatus events a = some .available

variable {es : Batch α} {a : α} {s : DiscoveryStatus} {hosts before after : List (Host α κ)}
  {host : Host α κ}

/-! ### New hosts -/

/-- The address of a host is no news: without that host it may be. -/
theorem newcomers_middle (es : Batch α) (before after : List (Host α κ)) (host : Host α κ) :
    newcomers es (before ++ host :: after) =
      (newcomers es (before ++ after)).filter fun k => k.address ≠ host.address := by
  rw [newcomers, newcomers, List.filter_map, List.filter_filter]
  congr 1
  refine List.filter_congr fun e _ => ?_
  have hiff : IsNews (before ++ host :: after) e ↔
      e.address ≠ host.address ∧ IsNews (before ++ after) e := by
    unfold IsNews
    simp only [List.mem_append, List.mem_cons]
    constructor
    · rintro ⟨hs, hfree⟩
      exact ⟨(hfree host (.inr (.inl rfl))).symm, hs,
        fun k hk => hfree k (hk.imp_right .inr)⟩
    · rintro ⟨hne, hs, hfree⟩
      refine ⟨hs, fun k hk => ?_⟩
      rcases hk with hk | rfl | hk
      · exact hfree k (.inl hk)
      · exact hne.symm
      · exact hfree k (.inr hk)
  simp only [hiff, Bool.decide_and]
  rfl

/-! ### Drained hosts -/

theorem undrained_append (a : α) (xs ys : List (Host α κ)) :
    undrained a (xs ++ ys) = undrained a xs ++ undrained a ys := List.filter_append ..

theorem undrained_eq_self (hn : ∀ k ∈ hosts, k.address = a → k.isDrained = false) :
    undrained a hosts = hosts := by
  refine List.filter_eq_self.mpr fun k hk => ?_
  by_cases ha : k.address = a
  · simp [ha, hn k hk ha]
  · simp [ha]

/-- A batch leaves no host drained that it says something of. -/
theorem undrained_told (hopen : ∀ k ∈ hosts, k.status ≠ .closed)
    (hn : ∀ k ∈ hosts, k.address = a → k.isDrained = false) (es : Batch α) :
    undrained a (hosts.filterMap (Host.toldBy es)) = hosts.filterMap (Host.toldBy es) := by
  refine undrained_eq_self fun k hk ha => ?_
  obtain ⟨k₀, hk₀, htold⟩ := List.mem_filterMap.mp hk
  have haddr := Host.address_of_toldBy htold
  unfold Host.toldBy at htold
  split at htold
  · exact Host.isDrained_of_told (hopen k₀ hk₀) htold
  · obtain rfl := Option.some.inj htold
    exact hn k₀ hk₀ ha

theorem undrained_newcomers (es : Batch α) (hosts : List (Host α κ)) (a : α) :
    undrained a (newcomers es hosts) = newcomers es hosts := by
  refine undrained_eq_self fun k hk _ => ?_
  rw [(mem_newcomers hk).1]
  rfl

omit [DecidableEq α] in
/-- A drained host becomes as good as new when it is announced, and leaves
when discovery says anything else of it. -/
theorem Host.told_of_drained (hd : host.isDrained = true) (s : DiscoveryStatus) :
    host.told s = if s = .available
      then some { host with status := .active, pool := [], failures := 0 } else none := by
  obtain ⟨hs, hp⟩ := Host.isDrained_eq_true.mp hd
  cases s with
  | available => simp [Host.told_available, Host.activate, hs, hp]
  | expired => simp [Host.told_expired, Host.expire, hs, hd]
  | unavailable => rfl

/-- What is left of a drained host, the batch first and then the drain. -/
theorem undrained_toldBy (hd : host.isDrained = true) (ha : host.address = a) (es : Batch α) :
    undrained a (host.toldBy es).toList = if lastStatus es a = some .available
      then [{ host with status := .active, pool := [], failures := 0 }] else [] := by
  unfold Host.toldBy
  rw [ha]
  cases hl : lastStatus es a with
  | none => simp [undrained, ha, hd]
  | some s =>
    simp only [Host.told_of_drained hd]
    split
    · rename_i hs
      simp [undrained, Host.isDrained, hs, ha]
    · rename_i hs
      simp [undrained, hs]

/-- Both orders, host by host: the drained host stands between others. -/
theorem crossing_middle (hd : host.isDrained = true) (hbefore : ∀ k ∈ before, k.address ≠ a)
    (hafter : ∀ k ∈ after, k.address ≠ a) (ha : host.address = a)
    (hopen : ∀ k ∈ before ++ host :: after, k.status ≠ .closed) (es : Batch α) :
    rosterAfter es (undrained a (before ++ host :: after)) =
        before.filterMap (Host.toldBy es) ++ after.filterMap (Host.toldBy es) ++
          newcomers es (before ++ after) ∧
      undrained a (rosterAfter es (before ++ host :: after)) =
        before.filterMap (Host.toldBy es) ++ undrained a (host.toldBy es).toList ++
          after.filterMap (Host.toldBy es) ++
          (newcomers es (before ++ after)).filter fun k => k.address ≠ a := by
  have hnone (hosts : List (Host α κ)) (hn : ∀ k ∈ hosts, k.address ≠ a) :
      ∀ k ∈ hosts, k.address = a → k.isDrained = false := fun k hk heq => absurd heq (hn k hk)
  have hb := hnone before hbefore
  have haf := hnone after hafter
  constructor
  · have hgone : undrained a [host] = [] := by simp [undrained, ha, hd]
    have hleft : undrained a (before ++ host :: after) = before ++ after := by
      rw [← List.singleton_append, undrained_append, undrained_append, hgone,
        undrained_eq_self hb, undrained_eq_self haf]
      rfl
    rw [hleft, rosterAfter, List.filterMap_append]
  · have hone : [host].filterMap (Host.toldBy es) = (host.toldBy es).toList := by
      cases h : host.toldBy es <;> simp [h]
    have hbo : ∀ k ∈ before, k.status ≠ .closed := fun k hk => hopen k (by simp [hk])
    have hao : ∀ k ∈ after, k.status ≠ .closed := fun k hk => hopen k (by simp [hk])
    rw [rosterAfter, undrained_append, undrained_newcomers, newcomers_middle, ha,
      ← List.singleton_append, List.filterMap_append, List.filterMap_append, hone,
      undrained_append, undrained_append, undrained_told hbo hb, undrained_told hao haf,
      ← List.append_assoc]

/-- The order makes no difference, unless a drained host is announced again. -/
theorem crossing_of_not_returns (hnd : (hosts.map Host.address).Nodup)
    (hopen : ∀ k ∈ hosts, k.status ≠ .closed) (hes : (es.map HostEvent.address).Nodup)
    (hr : ¬ Returns es hosts a) :
    rosterAfter es (undrained a hosts) = undrained a (rosterAfter es hosts) := by
  by_cases hex : ∃ host ∈ hosts, host.address = a ∧ host.isDrained = true
  · obtain ⟨host, hm, ha, hd⟩ := hex
    obtain ⟨before, after, rfl, hbefore, hafter⟩ := exists_split hnd hm
    have hnot : lastStatus es a ≠ some .available := fun hl => hr ⟨⟨host, hm, ha, hd⟩, hl⟩
    obtain ⟨hleft, hright⟩ := crossing_middle hd (ha ▸ hbefore) (ha ▸ hafter) ha hopen es
    -- Nobody of this address is new.
    have hnew : (newcomers es (before ++ after)).filter (fun k => k.address ≠ a) =
        newcomers es (before ++ after) := by
      refine List.filter_eq_self.mpr fun k hk => ?_
      obtain ⟨-, hmem, -⟩ := mem_newcomers hk
      have hne : k.address ≠ a := by
        rintro rfl
        exact hnot (lastStatus_of_mem hes hmem)
      simpa using hne
    rw [hleft, hright, hnew, undrained_toldBy hd ha, if_neg hnot, List.append_nil]
  · have hn : ∀ k ∈ hosts, k.address = a → k.isDrained = false := fun k hk ha =>
      Bool.eq_false_iff.mpr fun hd => hex ⟨k, hk, ha, hd⟩
    rw [undrained_eq_self hn, rosterAfter, undrained_append, undrained_told hopen hn,
      undrained_newcomers]

/-- A drained host that is announced again keeps its place if the batch comes
first. If the drain comes first, a host of its address stands among the new
ones. -/
theorem crossing_of_returns (hnd : (hosts.map Host.address).Nodup)
    (hopen : ∀ k ∈ hosts, k.status ≠ .closed) (hes : (es.map HostEvent.address).Nodup)
    (hr : Returns es hosts a) : ∃ before after early late check,
      rosterAfter es (undrained a hosts) =
        before ++ after ++ (early ++ ({ address := a } : Host α κ) :: late) ∧
      undrained a (rosterAfter es hosts) =
        before ++ { address := a, check } :: after ++ (early ++ late) ∧
      ((before ++ { address := a, check } :: after).map Host.address).Sublist
        (hosts.map Host.address) ∧
      (∀ k ∈ before ++ after ++ (early ++ late), k.address ≠ a) ∧
      ∀ k ∈ early ++ late, ∀ host ∈ hosts, host.address ≠ k.address := by
  obtain ⟨⟨host, hm, rfl, hd⟩, hl⟩ := hr
  obtain ⟨before, after, rfl, hbefore, hafter⟩ := exists_split hnd hm
  obtain ⟨hleft, hright⟩ := crossing_middle hd hbefore hafter rfl hopen es
  -- Where the address stands among the new ones.
  have hmem : ({ address := host.address } : Host α κ) ∈ newcomers es (before ++ after) := by
    have hnews : IsNews (before ++ after) (⟨host.address, .available⟩ : HostEvent α) := by
      refine ⟨rfl, fun k hk => ?_⟩
      rcases List.mem_append.mp hk with hk | hk
      · exact hbefore k hk
      · exact hafter k hk
    exact mem_newcomers_of_isNews (mem_of_lastStatus hl) hnews
  obtain ⟨early, late, hnew, hearly, hlate⟩ := exists_split (nodup_newcomers hes _) hmem
  have hold : (newcomers es (before ++ after)).filter (fun k => k.address ≠ host.address) =
      early ++ late := by
    have hearly' : early.filter (fun k => k.address ≠ host.address) = early :=
      List.filter_eq_self.mpr fun k hk => by simpa using hearly k hk
    have hlate' : late.filter (fun k => k.address ≠ host.address) = late :=
      List.filter_eq_self.mpr fun k hk => by simpa using hlate k hk
    rw [hnew, List.filter_append, List.filter_cons_of_neg (by simp), hearly', hlate']
  have hpresent (hosts : List (Host α κ)) (hn : ∀ k ∈ hosts, k.address ≠ host.address) :
      ∀ k ∈ hosts.filterMap (Host.toldBy es), k.address ≠ host.address := by
    intro k hk
    obtain ⟨k₀, hk₀, htold⟩ := List.mem_filterMap.mp hk
    rw [Host.address_of_toldBy htold]
    exact hn k₀ hk₀
  refine ⟨before.filterMap (Host.toldBy es), after.filterMap (Host.toldBy es), early, late,
    host.check, ?_, ?_, ?_, ?_, ?_⟩
  · rw [hleft, hnew]
  · rw [hright, hold, undrained_toldBy hd rfl, if_pos hl]
    simp only [List.append_assoc, List.cons_append, List.nil_append]
  · rw [List.map_append, List.map_append, List.map_cons, List.map_cons]
    exact (sublist_told es before).append ((sublist_told es after).cons_cons _)
  · intro k hk
    rcases List.mem_append.mp hk with hk | hk
    · rcases List.mem_append.mp hk with hk | hk
      · exact hpresent before hbefore k hk
      · exact hpresent after hafter k hk
    · rcases List.mem_append.mp hk with hk | hk
      · exact hearly k hk
      · exact hlate k hk
  · intro k hk
    rw [← hold, ← newcomers_middle] at hk
    exact (mem_newcomers hk).2.2

/-! ### Standing and connections -/

theorem standing_of_ne {x : α} {host : Host α κ} (hne : host.address ≠ x)
    (before after : List (Host α κ)) :
    standing (before ++ host :: after) x = standing (before ++ after) x := by
  simp [standing, List.find?_append, hne]

theorem standing_of_forall_ne (host : Host α κ)
    (hbefore : ∀ k ∈ before, k.address ≠ host.address) (after : List (Host α κ)) :
    standing (before ++ host :: after) host.address =
      some (host.status, host.pool, host.failures) := by
  have hnone : before.find? (fun k => k.address = host.address) = none :=
    List.find?_eq_none.mpr fun k hk => by simpa using hbefore k hk
  simp [standing, List.find?_append, hnone]

/-- Where a host stands makes no difference to the standing of any. -/
theorem standing_moved {early late : List (Host α κ)} {check : Option TaskId}
    (hn : ∀ k ∈ before ++ after ++ (early ++ late), k.address ≠ a) (x : α) :
    standing (before ++ after ++ (early ++ { address := a } :: late)) x =
      standing (before ++ { address := a, check } :: after ++ (early ++ late)) x := by
  have hassoc : before ++ after ++ (early ++ ({ address := a } : Host α κ) :: late) =
      (before ++ after ++ early) ++ { address := a } :: late := by
    simp only [List.append_assoc]
  have hassoc' : before ++ ({ address := a, check } : Host α κ) :: after ++ (early ++ late) =
      before ++ { address := a, check } :: (after ++ (early ++ late)) := by
    simp only [List.append_assoc, List.cons_append]
  rw [hassoc, hassoc']
  by_cases hx : a = x
  · subst hx
    have hleft : ∀ k ∈ before ++ after ++ early, k.address ≠ a := fun k hk => by
      refine hn k ?_
      rw [← List.append_assoc]
      exact List.mem_append_left late hk
    have hright : ∀ k ∈ before, k.address ≠ a := fun k hk => hn k (by simp [hk])
    exact (standing_of_forall_ne { address := a } hleft late).trans
      (standing_of_forall_ne { address := a, check } hright _).symm
  · have hleft : ({ address := a } : Host α κ).address ≠ x := hx
    have hright : ({ address := a, check } : Host α κ).address ≠ x := hx
    rw [standing_of_ne hleft, standing_of_ne hright]
    simp only [List.append_assoc]

omit [DecidableEq α] in
theorem flatMap_filter_eq {β γ : Type} {p : β → Bool} {f : β → List γ} : ∀ {xs : List β},
    (∀ x ∈ xs, p x = false → f x = []) → (xs.filter p).flatMap f = xs.flatMap f
  | [], _ => rfl
  | x :: xs, h => by
    have ih := flatMap_filter_eq fun y hy => h y (List.mem_cons_of_mem x hy)
    cases hx : p x with
    | true => rw [List.filter_cons_of_pos hx, List.flatMap_cons, List.flatMap_cons, ih]
    | false =>
      rw [List.filter_cons_of_neg (by simp [hx]), List.flatMap_cons, h x List.mem_cons_self hx,
        List.nil_append, ih]

/-- A drained host has nothing to hand over. -/
theorem partings_undrained (es : Batch α) (hosts : List (Host α (Link α))) (a : α) :
    partings es (undrained a hosts) = partings es hosts := by
  refine List.flatMap_congr fun e _ => ?_
  split
  · rw [undrained, List.filter_comm]
    refine flatMap_filter_eq fun k _ hk => ?_
    have hempty : k.pool = [] := by
      simp only [Bool.not_eq_eq_eq_not, Bool.not_false, Bool.and_eq_true] at hk
      exact (Host.isDrained_eq_true.mp hk.2).2
    rw [hempty]
    rfl
  · rfl

end

/-! ### The two orders -/

section

variable [DecidableEq α] {b : Balancer α σ} {a : α} {batch : Batch α}

/-- The reconciler heeds a drain. -/
theorem drain_taken (ht : Tidy b.hosts b.table []) (ho : b.lifecycle = .running)
    (hc : b.nextCommand? = some (.drained a)) :
    (b.step .takeCommand).tableHosts = undrained a b.tableHosts ∧
      (b.step .takeCommand).closings = b.closings ∧
      (b.step .takeCommand).lifecycle = .running ∧
      (b.step .takeCommand).nextNotice? = b.nextNotice? := by
  obtain ⟨htable, hclosings⟩ :=
    Balancer.removeDrained_eq (b := { b with commands := b.commands.tail }) ht ho a
  obtain ⟨_, _, _, _, _, _, _, heq, -⟩ :=
    Balancer.removeDrained_footprint { b with commands := b.commands.tail } a
  rw [takeCommand_of_drain hc]
  refine ⟨htable, hclosings, ?_, ?_⟩
  · rw [heq]
    exact ho
  · rw [heq]
    rfl

/-- The reconciler heeds a batch. -/
theorem batch_taken (ht : Tidy b.hosts b.table []) (ho : b.lifecycle = .running)
    (hn : b.nextNotice? = some (.batch batch)) :
    (b.step .takeNotice).tableHosts = rosterAfter (lastEvents batch) b.tableHosts ∧
      (b.step .takeNotice).closings =
        b.closings ++ partings (lastEvents batch) b.tableHosts ∧
      (b.step .takeNotice).lifecycle = .running ∧
      (b.step .takeNotice).nextCommand? = b.nextCommand? := by
  have hstep : b.step .takeNotice =
      Balancer.applyBatch { b with subscriptions := b.advanced } batch := by
    simp only [Balancer.step, Balancer.takeNotice, hn]
    rfl
  obtain ⟨htable, hclosings⟩ :=
    Balancer.applyBatch_eq (b := { b with subscriptions := b.advanced })
      (Balancer.Orderly.of_tidy ht) ho batch
  obtain ⟨_, _, _, _, _, _, _, heq, -⟩ :=
    Balancer.applyBatch_footprint { b with subscriptions := b.advanced } batch
  rw [hstep]
  refine ⟨htable, hclosings, ?_, ?_⟩
  · rw [heq]
    exact ho
  · rw [heq]
    rfl

/-- **A drain and a batch may be taken in either order.** When both are ready,
each is still ready after the other. Either way every address has the same
standing in the end, and the same connections are handed over for closing. The
order of the table is the same, unless the address of the drain has an expired
host with an empty pool and the batch says last that it is available: then it
keeps its old place if the batch comes first, and stands among the new hosts
if the drain does. -/
theorem drain_batch_crossing (setup : Setup α) (tape : Tape) (callers : σ)
    (events : List (Event α σ)) (a : α) (batch : Batch α) :
    let b := (Balancer.start setup tape callers).run events
    let b₁ := (b.step .takeCommand).step .takeNotice
    let b₂ := (b.step .takeNotice).step .takeCommand
    let old := b.tableHosts.map Host.address
    let returns := (∃ host ∈ b.tableHosts, host.address = a ∧ host.status = .expired ∧
      host.pool = []) ∧ lastStatus batch a = some .available
    b.nextCommand? = some (.drained a) → b.nextNotice? = some (.batch batch) →
    ((b.step .takeCommand).nextNotice? = some (.batch batch) ∧
      (b.step .takeNotice).nextCommand? = some (.drained a)) ∧
    (∀ x, standing b₁.tableHosts x = standing b₂.tableHosts x) ∧
    b₁.closings = b₂.closings ∧
    (¬ returns → b₁.tableHosts.map Host.address = b₂.tableHosts.map Host.address) ∧
    (returns → ∃ before after early late,
      b₁.tableHosts.map Host.address = before ++ after ++ (early ++ a :: late) ∧
      b₂.tableHosts.map Host.address = before ++ a :: after ++ (early ++ late) ∧
      (before ++ a :: after).Sublist old ∧ ∀ x ∈ early ++ late, x ∉ old) := by
  intro b b₁ b₂ old returns hc hn
  have ht : Tidy b.hosts b.table [] := tidy_run setup tape callers events
  have ho : b.lifecycle = .running :=
    (renewal_run setup tape callers events).2.running (Balancer.nextCommand?_eq_some hc).1
  obtain ⟨hroster, hdrop, ho₁, hnext₁⟩ := drain_taken ht ho hc
  obtain ⟨hroster', hdrop', ho₂, hnext₂⟩ := batch_taken ht ho hn
  obtain ⟨htable₁, hclosings₁, -⟩ := batch_taken (tidy_step .takeCommand ht) ho₁ (hnext₁.trans hn)
  obtain ⟨htable₂, hclosings₂, -⟩ := drain_taken (tidy_step .takeNotice ht) ho₂ (hnext₂.trans hc)
  rw [hroster] at htable₁
  rw [hroster'] at htable₂
  have hreturns : returns ↔ Returns (lastEvents batch) b.tableHosts a := by
    simp only [returns, Returns, lastStatus_lastEvents, Host.isDrained_eq_true]
  have hnd := ht.nodup_addresses
  have hopen : ∀ k ∈ b.tableHosts, k.status ≠ .closed := fun k => ht.not_closed_of_mem_tableHosts
  have hes := nodup_lastEvents batch
  refine ⟨⟨hnext₁.trans hn, hnext₂.trans hc⟩, ?_, ?_, ?_, ?_⟩
  · intro x
    rw [htable₁, htable₂]
    by_cases hr : Returns (lastEvents batch) b.tableHosts a
    · obtain ⟨_, _, _, _, _, hleft, hright, -, hne, -⟩ := crossing_of_returns hnd hopen hes hr
      rw [hleft, hright]
      exact standing_moved hne x
    · rw [crossing_of_not_returns hnd hopen hes hr]
  · rw [hclosings₁, hclosings₂, hdrop, hdrop', hroster, partings_undrained]
  · intro hr
    rw [htable₁, htable₂, crossing_of_not_returns hnd hopen hes (mt hreturns.mpr hr)]
  · intro hr
    obtain ⟨before, after, early, late, check, hleft, hright, hsub, -, hnew⟩ :=
      crossing_of_returns hnd hopen hes (hreturns.mp hr)
    refine ⟨before.map Host.address, after.map Host.address, early.map Host.address,
      late.map Host.address, ?_, ?_, ?_, ?_⟩
    · rw [htable₁, hleft]
      simp only [List.map_append, List.map_cons]
    · rw [htable₂, hright]
      simp only [List.map_append, List.map_cons]
    · simpa only [List.map_append, List.map_cons] using hsub
    · intro x hx hold
      rw [← List.map_append] at hx
      obtain ⟨k, hk, rfl⟩ := List.mem_map.mp hx
      obtain ⟨host, hm, haddr⟩ := List.mem_map.mp hold
      exact hnew k hk host hm haddr

end

/-- The one host expired and lost its connection, and is announced again
between two new ones. -/
def returningHost : List (Event Nat Unit) :=
  lastConnectionLost ++
    [.deliver (.batch [⟨2, .available⟩, ⟨1, .available⟩, ⟨3, .available⟩])]

theorem returningHost_crossing :
    let b := (freshBalancer true).run returningHost
    let b₁ := (b.step .takeCommand).step .takeNotice
    let b₂ := (b.step .takeNotice).step .takeCommand
    b.nextCommand? = some (.drained 1) ∧
      (∀ x, standing b₁.tableHosts x = standing b₂.tableHosts x) ∧
      b₁.tableHosts.map Host.address = [2, 1, 3] ∧ b₂.tableHosts.map Host.address = [1, 2, 3] := by
  intro b b₁ b₂
  have hc : b.nextCommand? = some (.drained 1) := by decide
  have hn : b.nextNotice? =
      some (.batch [⟨2, .available⟩, ⟨1, .available⟩, ⟨3, .available⟩]) := by rfl
  obtain ⟨-, hstanding, -⟩ := drain_batch_crossing (plainSetup true) (.ofSeed 0) () returningHost 1
    [⟨2, .available⟩, ⟨1, .available⟩, ⟨3, .available⟩] hc hn
  exact ⟨hc, hstanding, by decide, by decide⟩

end HostRotation
