/-
# The table agrees with discovery

While a balancer runs, the table can be read off what discovery said last of
each address (`table_agrees`): an address never announced or last said to be
unavailable has no entry, one last said to be available has one entry, active
or unhealthy, and one last said to be expired has at most one, expired. The
entries stand in the order in which they were added.

The invariant behind it is `Agrees`: every entry stands for the last word on
its address, and every address last said to be available has an entry. Of the
things a step does only the discovery events change a word, and each of them
changes the entry of its own address with it; a failed connect or a health
check goes back and forth between active and unhealthy, which is one word.
-/
import HostRotation.Proofs.Table

namespace HostRotation

variable {α σ : Type}

/-- What discovery last said of a host, as far as its status shows it. -/
def HostStatus.word : HostStatus → DiscoveryStatus
  | active | unhealthy => .available
  | expired => .expired
  | closed => .unavailable

/-- Whether the statuses of the entries of an address are as they should be,
given the last word on it. -/
def Fits : Option DiscoveryStatus → List HostStatus → Prop
  | none, entries | some .unavailable, entries => entries = []
  | some .available, entries => entries = [.active] ∨ entries = [.unhealthy]
  | some .expired, entries => entries = [] ∨ entries = [.expired]

/-- The statuses of the entries of an address. -/
def Balancer.entries [DecidableEq α] (b : Balancer α σ) (a : α) : List HostStatus :=
  (b.tableHosts.filter fun host => host.address = a).map Host.status

theorem word_recordFailure (host : Host α (Link α)) (threshold : Option Nat) :
    (host.recordFailure threshold).1.status.word = host.status.word := by
  unfold Host.recordFailure
  split
  · rename_i ha
    simp only [ha]
    split <;> rfl
  · rfl

section

variable [DecidableEq α] {hosts : List (Host α (Link α))} {table leaving : List HostId}
  {h : HostId} {host host' : Host α (Link α)} {said : Batch α} {a : α}

theorem word_add {l : Link α} (host : Host α (Link α)) :
    (host.add l).1.status.word = host.status.word := by
  rw [Host.status_add]
  split
  · rename_i hu
    simp [hu, HostStatus.word]
  · rfl

/-! ### The invariant -/

/-- The entries of the table agree with what discovery said. -/
structure Agrees (hosts : List (Host α (Link α))) (table : List HostId) (said : Batch α) :
    Prop where
  word : ∀ h ∈ table, ∀ host : Host α (Link α), hosts[h]? = some host →
    lastStatus said host.address = some host.status.word
  present : ∀ a, lastStatus said a = some .available →
    ∃ h ∈ table, ∃ host, hosts[h]? = some host ∧ host.address = a

namespace Agrees

/-- A host changes and its word does not. -/
theorem set (ha : Agrees hosts table said) (hh : hosts[h]? = some host)
    (haddr : host'.address = host.address) (hw : host'.status.word = host.status.word) :
    Agrees (hosts.set h host') table said where
  word := by
    intro j hj k hk
    rcases getElem?_set_cases hk with ⟨rfl, rfl⟩ | ⟨-, hk⟩
    · rw [haddr, hw]
      exact ha.word j hj host hh
    · exact ha.word j hj k hk
  present := by
    intro a hlast
    obtain ⟨j, hj, k, hk, hka⟩ := ha.present a hlast
    by_cases hjh : j = h
    · subst hjh
      obtain rfl := Option.some.inj (hh.symm.trans hk)
      obtain ⟨hlt, -⟩ := List.getElem?_eq_some_iff.mp hh
      exact ⟨j, hj, host', List.getElem?_set_self hlt, haddr.trans hka⟩
    · exact ⟨j, hj, k, by rwa [List.getElem?_set_ne (Ne.symm hjh)], hka⟩

/-- A host that is not in the table does not matter. -/
theorem set_out (ha : Agrees hosts table said) (hm : h ∉ table) :
    Agrees (hosts.set h host') table said where
  word := by
    intro j hj k hk
    rcases getElem?_set_cases hk with ⟨rfl, -⟩ | ⟨-, hk⟩
    · exact absurd hj hm
    · exact ha.word j hj k hk
  present := by
    intro a hlast
    obtain ⟨j, hj, k, hk, hka⟩ := ha.present a hlast
    have hne : h ≠ j := fun heq => hm (heq ▸ hj)
    exact ⟨j, hj, k, by rwa [List.getElem?_set_ne hne], hka⟩

/-- An address without an entry is announced. -/
theorem append (ha : Agrees hosts table said)
    (hn : ∀ h ∈ table, ∀ host, hosts[h]? = some host → host.address ≠ a)
    (hk : ∀ h ∈ table, h < hosts.length) :
    Agrees (hosts ++ [{ address := a }]) (table ++ [hosts.length])
      (said ++ [⟨a, .available⟩]) where
  word := by
    intro j hj k hk
    rw [lastStatus_concat]
    rcases getElem?_concat_cases hk with ⟨rfl, rfl⟩ | ⟨hlt, hk⟩
    · simp [HostStatus.word]
    · have hj : j ∈ table := by simpa [Nat.ne_of_lt hlt] using hj
      rw [if_neg (Ne.symm (hn j hj k hk))]
      exact ha.word j hj k hk
  present := by
    intro a' hlast
    rw [lastStatus_concat] at hlast
    by_cases haa : a = a'
    · exact ⟨hosts.length, by simp, { address := a }, by simp, haa⟩
    · rw [if_neg haa] at hlast
      obtain ⟨j, hj, k, hk', hka⟩ := ha.present a' hlast
      exact ⟨j, List.mem_append_left _ hj, k, by rwa [List.getElem?_append_left (hk j hj)], hka⟩

/-- The host of an address changes with a word on it. -/
theorem tell (ha : Agrees hosts table said) (ht : Tidy hosts table leaving) (hm : h ∈ table)
    (hh : hosts[h]? = some host) (host' : Host α (Link α)) (haddr : host'.address = host.address)
    {s : DiscoveryStatus} (hs : host'.status.word = s) :
    Agrees (hosts.set h host') table (said ++ [⟨host.address, s⟩]) where
  word := by
    intro j hj k hk
    rw [lastStatus_concat]
    rcases getElem?_set_cases hk with ⟨rfl, rfl⟩ | ⟨hne, hk⟩
    · rw [if_pos haddr.symm, hs]
    · rw [if_neg fun heq => hne (ht.unique hj hm hk hh heq.symm)]
      exact ha.word j hj k hk
  present := by
    intro a' hlast
    rw [lastStatus_concat] at hlast
    obtain ⟨hlt, -⟩ := List.getElem?_eq_some_iff.mp hh
    by_cases haa : host.address = a'
    · exact ⟨h, hm, host', List.getElem?_set_self hlt, haddr.trans haa⟩
    · rw [if_neg haa] at hlast
      obtain ⟨j, hj, k, hk, hka⟩ := ha.present a' hlast
      have hne : h ≠ j := by
        rintro rfl
        obtain rfl := Option.some.inj (hh.symm.trans hk)
        exact haa hka
      exact ⟨j, hj, k, by rwa [List.getElem?_set_ne hne], hka⟩

/-- A host leaves the table, and the last word on its address is not that it
is available. -/
theorem part (ha : Agrees hosts table said) (ht : Tidy hosts table leaving) (hm : h ∈ table)
    (hh : hosts[h]? = some host) (said' : Batch α)
    (hother : ∀ a, host.address ≠ a → lastStatus said' a = lastStatus said a)
    (hw : lastStatus said' host.address ≠ some .available) :
    Agrees hosts (table.erase h) said' where
  word := by
    intro j hj k hk
    obtain ⟨hne, hj⟩ := ht.nodup.mem_erase_iff.mp hj
    rw [hother _ fun heq => hne (ht.unique hj hm hk hh heq.symm)]
    exact ha.word j hj k hk
  present := by
    intro a hlast
    have hne : host.address ≠ a := by
      rintro rfl
      exact hw hlast
    rw [hother a hne] at hlast
    obtain ⟨j, hj, k, hk, hka⟩ := ha.present a hlast
    have hjh : j ≠ h := by
      rintro rfl
      obtain rfl := Option.some.inj (hh.symm.trans hk)
      exact hne hka
    exact ⟨j, (List.mem_erase_of_ne hjh).mpr hj, k, hk, hka⟩

/-- An event that is not news to the table is passed over. -/
theorem ignore (ha : Agrees hosts table said) {event : HostEvent α}
    (hn : ∀ h ∈ table, ∀ host, hosts[h]? = some host → host.address ≠ event.address)
    (hs : event.status ≠ .available) : Agrees hosts table (said ++ [event]) where
  word := by
    intro j hj k hk
    rw [lastStatus_concat, if_neg (Ne.symm (hn j hj k hk))]
    exact ha.word j hj k hk
  present := by
    intro a hlast
    rw [lastStatus_concat] at hlast
    by_cases haa : event.address = a
    · rw [if_pos haa] at hlast
      exact absurd (Option.some.inj hlast) hs
    · rw [if_neg haa] at hlast
      exact ha.present a hlast

end Agrees

/-! ### Every move keeps it -/

/-- Where a running balancer stands in a step. -/
def Moment.InAgreement (m : Moment α σ) : Prop :=
  Tidy m.hosts m.table m.leaving ∧ (m.lifecycle = .running → Agrees m.hosts m.table m.applied)

variable {e : Event α σ} {m m' : Moment α σ}

/-- An address is told of, and its host is in the table. -/
theorem Agrees.told {b : Balancer α σ} (hf : b.lookup a = some h) (hh : b.hosts[h]? = some host) :
    h ∈ b.table ∧ host.address = a := by
  obtain ⟨hm, host', hh', haddr⟩ := Balancer.lookup_eq_some hf
  obtain rfl := Option.some.inj (hh.symm.trans hh')
  exact ⟨hm, haddr⟩

theorem inAgreement_move (hmove : Move e m m') (hm : m.InAgreement) : m'.InAgreement := by
  obtain ⟨ht, ha⟩ := hm
  refine ⟨tidy_move hmove ht, ?_⟩
  cases hmove with
  | note | listen | lose | resubscribe | heed | arm | fire | attempt | skip => exact ha
  | discard | discarded | giveUp | unplanned => exact ha
  | opens | reopen | closeLink | handOver | beginClosing | peerCloses | closeWillFail => exact ha
  | shut _ _ hl => exact fun ho => absurd ho hl
  | settle => exact fun ho => by simp at ho
  | reach _ _ _ _ _ hh _ _ => exact fun ho => (ha ho).set hh (Host.address_add _ _) (word_add _)
  | retry _ _ _ _ _ hh _ => exact fun ho => (ha ho).set hh rfl rfl
  | prune hh _ _ =>
    exact fun ho => (ha ho).set hh (Host.address_remove _ _) (by rw [Host.status_remove])
  | fail hh _ =>
    exact fun ho => (ha ho).set hh (Host.address_recordFailure _ _) (word_recordFailure _ _)
  | fallSick _ _ hh _ _ =>
    exact fun ho => (ha ho).set hh (Host.address_recordFailure _ _) (word_recordFailure _ _)
  | welcome _ hh _ _ => exact fun ho => (ha ho).set hh (Host.address_add _ _) (word_add _)
  | pool _ hh _ _ _ => exact fun ho => (ha ho).set hh (Host.address_add _ _) (word_add _)
  | appear a ho hn =>
    refine fun _ => (ha ho).append (lookup_eq_none hn) fun h hm => ?_
    exact ht.known h (List.mem_append_left _ hm)
  | @reannounce h host a hf hh _ =>
    intro ho
    obtain ⟨hm, rfl⟩ := Agrees.told hf hh
    have hs := host.status_activate (ht.not_closed hh hm)
    exact (ha ho).tell ht hm hh host.activate host.address_activate (congrArg HostStatus.word hs)
  | @revive h host a hf hh _ =>
    intro ho
    obtain ⟨hm, rfl⟩ := Agrees.told hf hh
    have hs := host.status_activate (ht.not_closed hh hm)
    exact (ha ho).tell ht hm hh { host.activate with check := none } host.address_activate
      (congrArg HostStatus.word hs)
  | @expire h host a hf hh _ =>
    intro ho
    obtain ⟨hm, rfl⟩ := Agrees.told hf hh
    have hs := host.status_expire (ht.not_closed hh hm)
    exact (ha ho).tell ht hm hh { host.expire with check := none } host.address_expire
      (congrArg HostStatus.word hs)
  | @expireOut h host a hf hh _ =>
    intro ho
    obtain ⟨hm, rfl⟩ := Agrees.told hf hh
    have hpart := (ha ho).part ht hm hh (m.applied ++ [⟨host.address, .expired⟩])
      (fun a hne => by simp [lastStatus_concat, hne]) (by simp [lastStatus_concat])
    exact hpart.set_out fun hmem => (ht.nodup.mem_erase_iff.mp hmem).1 rfl
  | @withdraw h a hf =>
    intro ho
    obtain ⟨hm, host, hh, rfl⟩ := Balancer.lookup_eq_some hf
    exact (ha ho).part ht hm hh (m.applied ++ [⟨host.address, .unavailable⟩])
      (fun a hne => by simp [lastStatus_concat, hne]) (by simp [lastStatus_concat])
  | ignore event hn hs => exact fun ho => (ha ho).ignore (lookup_eq_none hn) hs
  | @retire h host hm hh hd =>
    intro ho
    have hs : host.status = .expired := by
      simp only [Host.isDrained, Bool.and_eq_true, decide_eq_true_eq] at hd
      exact hd.1
    refine (ha ho).part ht hm hh m.applied (fun _ _ => rfl) ?_
    rw [(ha ho).word h hm host hh, hs]
    simp [HostStatus.word]
  | @closeHost h host hs _ hl hh =>
    refine fun ho => (ha ho).set_out (ht.apart h ?_)
    rw [hl]
    exact List.mem_cons_self
  | closeNone => exact ha

/-! ### The entries of an address -/

theorem entries_of_mem {b : Balancer α σ} (ht : Tidy b.hosts b.table []) (hm : h ∈ b.table)
    (hh : b.hosts[h]? = some host) : b.entries host.address = [host.status] := by
  have hnd := ht.nodup
  obtain ⟨before, after, htable⟩ := List.append_of_mem hm
  -- No other entry has the address.
  have hnone (part : List HostId) (hp : ∀ j ∈ part, j ∈ b.table ∧ j ≠ h) :
      (part.filterMap fun j => b.hosts[j]?).filter (fun k => k.address = host.address) = [] := by
    refine List.filter_eq_nil_iff.mpr fun k hk => ?_
    obtain ⟨j, hj, hjk⟩ := List.mem_filterMap.mp hk
    obtain ⟨hjt, hne⟩ := hp j hj
    simpa using fun haddr => hne (ht.unique hjt hm hjk hh haddr)
  rw [htable, List.perm_middle.nodup_iff, List.nodup_cons, List.mem_append, not_or] at hnd
  have hbefore := hnone before fun j hj =>
    ⟨by simp [htable, hj], fun heq => hnd.1.1 (heq ▸ hj)⟩
  have hafter := hnone after fun j hj =>
    ⟨by simp [htable, hj], fun heq => hnd.1.2 (heq ▸ hj)⟩
  simp only [Balancer.entries, Balancer.tableHosts, htable, List.filterMap_append,
    List.filterMap_cons, hh, List.filter_append, hbefore, List.filter_cons, decide_true,
    ↓reduceIte, hafter, List.nil_append, List.map_cons, List.map_nil]

theorem entries_of_forall {b : Balancer α σ}
    (hn : ∀ h ∈ b.table, ∀ host, b.hosts[h]? = some host → host.address ≠ a) :
    b.entries a = [] := by
  refine List.map_eq_nil_iff.mpr (List.filter_eq_nil_iff.mpr fun host hmem => ?_)
  obtain ⟨h, hm, hh⟩ := List.mem_filterMap.mp hmem
  simpa using hn h hm host hh

theorem fits_entries {b : Balancer α σ} (ht : Tidy b.hosts b.table [])
    (ha : Agrees b.hosts b.table said) (a : α) : Fits (lastStatus said a) (b.entries a) := by
  by_cases hex : ∃ h ∈ b.table, ∃ host, b.hosts[h]? = some host ∧ host.address = a
  · obtain ⟨h, hm, host, hh, rfl⟩ := hex
    have hc := ht.not_closed hh hm
    rw [entries_of_mem ht hm hh, ha.word h hm host hh]
    cases hs : host.status <;> simp_all [HostStatus.word, Fits]
  · have hnil : b.entries a = [] :=
      entries_of_forall fun h hm host hh haddr => hex ⟨h, hm, host, hh, haddr⟩
    rw [hnil]
    match hl : lastStatus said a with
    | none | some .unavailable => rfl
    | some .expired => exact .inl rfl
    | some .available => exact absurd (ha.present a hl) hex

/-! ### Every run -/

theorem inAgreement_start (setup : Setup α) (tape : Tape) (callers : σ) :
    Moment.InAgreement ⟨Balancer.start setup tape callers, [], [], [], []⟩ :=
  ⟨.start, fun _ => ⟨by simp [Balancer.start], by simp [lastStatus]⟩⟩

theorem inAgreement_run (setup : Setup α) (tape : Tape) (callers : σ)
    (events : List (Event α σ)) :
    let b := (Balancer.start setup tape callers).run events
    Tidy b.hosts b.table [] ∧ (b.lifecycle = .running → Agrees b.hosts b.table
      ((Balancer.start setup tape callers).heeded events)) := by
  obtain ⟨_, hm⟩ := Balancer.run_keeps (I := Moment.InAgreement) events
    (fun _ _ _ _ hmove => inAgreement_move hmove) _ [] [] (inAgreement_start setup tape callers)
  exact hm

/-- **The table agrees with discovery.** In every state of a run in which the
balancer is running, the entries of every address are what the last word on
it asks for; no two entries share an address and none is closed. Hosts are
numbered as they are added, the table is in the order of these numbers, an
entry is the latest host of its address, and it has been in the table ever
since it was added. -/
theorem table_agrees (setup : Setup α) (tape : Tape) (callers : σ) (events : List (Event α σ))
    (ho : ((Balancer.start setup tape callers).run events).lifecycle = .running) :
    let b₀ := Balancer.start setup tape callers
    let b := b₀.run events
    (∀ a, Fits (lastStatus (b₀.history events) a) (b.entries a)) ∧
      (b.tableHosts.map Host.address).Nodup ∧
      (∀ host ∈ b.tableHosts, host.status ≠ .closed) ∧
      b.table.Pairwise (· < ·) ∧ (∀ h ∈ b.table, h < b.hosts.length) ∧ Latest b.hosts b.table ∧
      ∀ before after, events = before ++ after →
        Extends (b₀.run before).hosts b.hosts (b₀.run before).table b.table := by
  intro b₀ b
  obtain ⟨ht, ha⟩ := inAgreement_run setup tape callers events
  refine ⟨fun a => ?_, ht.nodup_addresses, fun host => ht.not_closed_of_mem_tableHosts, ht.sorted,
    fun h hm => ?_, ht.latest, ?_⟩
  · rw [← Balancer.lastStatus_heeded]
    exact fits_entries ht (ha ho) a
  · exact ht.known h (List.mem_append_left _ hm)
  · rintro before after rfl
    have hx := extends_run (b₀.run before) after
    rwa [← Balancer.run_append] at hx

/-- Two addresses are announced, a connection to the first is opened, and then
the first expires and the second is withdrawn. -/
def expiring : List (Event Nat Unit) :=
  [.startReconciler, .deliver (.batch [⟨1, .available⟩, ⟨2, .available⟩]), .takeNotice,
    .select (.pure fun _ => true), .dialled 0 .opened,
    .deliver (.batch [⟨1, .available⟩, ⟨2, .unavailable⟩, ⟨1, .expired⟩]), .takeNotice]

theorem table_agrees_expiring :
    ((freshBalancer true).run expiring).lifecycle = .running ∧
      ((freshBalancer true).run expiring).entries 1 = [.expired] ∧
      ∀ a, Fits (lastStatus ((freshBalancer true).history expiring) a)
        (((freshBalancer true).run expiring).entries a) :=
  ⟨by decide, by decide, (table_agrees (plainSetup true) (.ofSeed 0) () expiring (by decide)).1⟩

end
end HostRotation
