/-
# Drained hosts and their signals

An expired host whose pool is empty has to leave the table. Selections empty
pools, but the reconciler alone removes hosts, so whoever takes out the last
connection sends a command. Until the reconciler heeds it the host may become
active again, gain a connection, leave, or come back as another host of the
same address.

None of this loses a signal: a host that is drained has a command for its
address in the queue (`Signalled`). Every move but the taking of a command
keeps that (`signalled_move`), and a command that is taken takes with it every
drained host of its address. Nor does a stale command do harm: it removes the
host that is drained at that moment, or nothing.

Key theorem: `drained_signalled`.
-/
import HostRotation.Proofs.Batches
import HostRotation.Proofs.Resubscribes
import Mathlib.Data.List.Induction

namespace HostRotation

variable {α σ : Type}

/-- Every drained host of the table has a command in the queue. -/
def Signalled (hosts : List (Host α (Link α))) (table : List HostId)
    (commands : List (Command α)) : Prop :=
  ∀ h ∈ table, ∀ host, hosts[h]? = some host → host.isDrained = true →
    .drained host.address ∈ commands

namespace Signalled

variable {hosts : List (Host α (Link α))} {table table' : List HostId}
  {commands commands' : List (Command α)} {h : HostId} {host : Host α (Link α)}

theorem shrink (hs : Signalled hosts table commands) (ht : ∀ h ∈ table', h ∈ table) :
    Signalled hosts table' commands :=
  fun h hm => hs h (ht h hm)

theorem send (hs : Signalled hosts table commands) (c : List (Command α)) :
    Signalled hosts table (commands ++ c) :=
  fun h hm host hh hd => List.mem_append_left c (hs h hm host hh hd)

/-- A host changes; if that drains it, there is a command. -/
theorem set (hs : Signalled hosts table commands)
    (hd : host.isDrained = true → .drained host.address ∈ commands) :
    Signalled (hosts.set h host) table commands := by
  intro j hj k hk hdrained
  rcases getElem?_set_cases hk with ⟨-, rfl⟩ | ⟨-, hk⟩
  · exact hd hdrained
  · exact hs j hj k hk hdrained

theorem set_of_not_drained (hs : Signalled hosts table commands)
    (hd : host.isDrained = false) : Signalled (hosts.set h host) table commands :=
  hs.set fun hdrained => by simp [hd] at hdrained

/-- A host that is set does not count if it is not in the table. -/
theorem set_of_not_mem (hs : Signalled hosts table commands) (hn : h ∉ table) :
    Signalled (hosts.set h host) table commands := by
  intro j hj k hk hdrained
  rcases getElem?_set_cases hk with ⟨rfl, -⟩ | ⟨-, hk⟩
  · exact absurd hj hn
  · exact hs j hj k hk hdrained

end Signalled

theorem signalled_iff {b : Balancer α σ} : Signalled b.hosts b.table b.commands ↔
    ∀ host ∈ b.tableHosts, host.isDrained = true → .drained host.address ∈ b.commands := by
  constructor
  · intro hs host hm
    obtain ⟨h, hmem, hh⟩ := List.mem_filterMap.mp hm
    exact hs h hmem host hh
  · intro hs h hm host hh
    exact hs host (List.mem_filterMap.mpr ⟨h, hm, hh⟩)

namespace Host

variable {κ : Type} {host : Host α κ}

theorem isDrained_of_ne (hs : host.status ≠ .expired) : host.isDrained = false := by
  simp [Host.isDrained, hs]

theorem isDrained_of_mem {c : κ} (hc : c ∈ host.pool) : host.isDrained = false := by
  have hne : host.pool ≠ [] := List.ne_nil_of_mem hc
  simp [Host.isDrained, hne]

theorem status_activate_ne_expired (host : Host α κ) : host.activate.status ≠ .expired := by
  unfold Host.activate
  split <;> simp_all

/-- Failed connects drain no host. -/
theorem isDrained_of_recordFailure {threshold : Option Nat}
    (hd : (host.recordFailure threshold).1.isDrained = true) : host.isDrained = true := by
  by_cases ha : host.status = .active
  · have hs := (isDrained_eq_true.mp hd).1
    rw [Host.status_recordFailure, ha] at hs
    split at hs <;> simp at hs
  · rwa [Host.recordFailure_of_ne host threshold ha] at hd

end Host

section

variable [DecidableEq α] {e : Event α σ} {m m' : Moment α σ}

/-- Whoever takes out the last connection of an expired host says so. -/
theorem drained_of_remove {host : Host α (Link α)} {l : Link α} (hl : l ∈ host.pool)
    (hd : (host.remove l).1.isDrained = true) : (host.remove l).2 = true := by
  rw [Host.isDrained_eq_true] at hd
  unfold Host.remove at hd ⊢
  simp only [List.contains_iff_mem, hl, ↓reduceIte] at hd ⊢
  simp [hd.1, hd.2]

/-! ### Moves and steps -/

theorem signalled_move (he : e ≠ .takeCommand) (hmove : Move e m m')
    (ht : Tidy m.hosts m.table m.leaving) (hs : Signalled m.hosts m.table m.commands) :
    Signalled m'.hosts m'.table m'.commands := by
  cases hmove with
  | note | listen | lose | settle | arm | attempt | skip | discard | discarded => exact hs
  | giveUp | unplanned | ignore | closeNone | opens | reopen | closeLink => exact hs
  | handOver | beginClosing | peerCloses | closeWillFail => exact hs
  | resubscribe _ _ he' | heed he' => exact absurd he' he
  | shut => exact hs.shrink (by simp)
  | fire => exact hs.send _
  | withdraw | retire => exact hs.shrink fun _ => List.mem_of_mem_erase
  | reach _ _ _ _ _ _ hc _ =>
    exact hs.set_of_not_drained (Host.isDrained_of_mem (Host.self_mem_pool_add hc _))
  | welcome _ _ hu _ =>
    have hc : ∀ host : Host α (Link α), host.status = .unhealthy → host.status ≠ .closed :=
      fun _ hu => by simp [hu]
    exact hs.set_of_not_drained (Host.isDrained_of_mem (Host.self_mem_pool_add (hc _ hu) _))
  | pool _ _ hc _ _ =>
    exact hs.set_of_not_drained (Host.isDrained_of_mem (Host.self_mem_pool_add hc _))
  | retry _ _ _ _ _ _ hu => exact hs.set_of_not_drained (Host.isDrained_of_ne (by simp [hu]))
  | @prune h host l _ hl _ =>
    refine (hs.send _).set fun hd => ?_
    rw [drained_of_remove hl hd, Host.address_remove]
    exact List.mem_append_right _ (List.mem_singleton_self _)
  | @fail h host hh hf =>
    -- The host was drained before, and in the table or closed.
    intro j hj k hk hd
    rcases getElem?_set_cases hk with ⟨rfl, rfl⟩ | ⟨-, hk⟩
    · rw [Host.address_recordFailure]
      exact hs j hj host hh (Host.isDrained_of_recordFailure hd)
    · exact hs j hj k hk hd
  | fallSick _ _ _ _ hf =>
    refine hs.set_of_not_drained (Host.isDrained_of_ne ?_)
    simp [Host.status_recordFailure, hf]
  | appear a =>
    intro j hj k hk hd
    rcases getElem?_concat_cases hk with ⟨-, rfl⟩ | ⟨hlt, hk⟩
    · simp [Host.isDrained] at hd
    · exact hs j (by simpa [Nat.ne_of_lt hlt] using hj) k hk hd
  | reannounce =>
    exact hs.set_of_not_drained (Host.isDrained_of_ne (Host.status_activate_ne_expired _))
  | revive =>
    exact hs.set_of_not_drained (Host.isDrained_of_ne (Host.status_activate_ne_expired _))
  | expire _ _ _ hd => exact hs.set_of_not_drained hd
  | expireOut =>
    refine (hs.shrink fun _ => List.mem_of_mem_erase).set_of_not_mem fun hm => ?_
    exact (ht.nodup.mem_erase_iff.mp hm).1 rfl
  | closeHost => exact hs.set_of_not_drained (Host.isDrained_of_ne (by simp))

/-- A command that is taken takes with it the drained host of its address. -/
theorem signalled_takeCommand {b : Balancer α σ} (ht : Tidy b.hosts b.table [])
    (ho : b.reconciler ≠ .stopped → b.lifecycle = .running)
    (hs : Signalled b.hosts b.table b.commands) :
    Signalled (b.step .takeCommand).hosts (b.step .takeCommand).table
      (b.step .takeCommand).commands := by
  simp only [Balancer.step, Balancer.takeCommand]
  cases hc : b.nextCommand? with
  | none => exact hs
  | some c =>
    obtain ⟨hr, hcommands⟩ := Balancer.nextCommand?_eq_some hc
    cases c with
    | resubscribe =>
      intro h hm host hh hd
      have hmem := hs h hm host hh hd
      rw [hcommands] at hmem
      exact (List.mem_cons.mp hmem).resolve_left (by simp)
    | drained a =>
      obtain ⟨htable, -⟩ :=
        Balancer.removeDrained_eq (b := { b with commands := b.commands.tail }) ht (ho hr) a
      obtain ⟨_, _, _, _, _, _, _, heq, -⟩ :=
        Balancer.removeDrained_footprint { b with commands := b.commands.tail } a
      have hleft : (Balancer.removeDrained { b with commands := b.commands.tail } a).commands =
          b.commands.tail := by rw [heq]
      refine signalled_iff.mpr fun host hm hd => ?_
      rw [htable] at hm
      obtain ⟨hm, hstays⟩ := List.mem_filter.mp hm
      have hne : host.address ≠ a := fun ha => by simp [ha, hd] at hstays
      have hmem := signalled_iff.mp hs host hm hd
      rw [hcommands] at hmem
      rw [hleft]
      exact (List.mem_cons.mp hmem).resolve_left (by simpa using hne)

theorem signalled_run (setup : Setup α) (tape : Tape) (callers : σ) (events : List (Event α σ)) :
    let b := (Balancer.start setup tape callers).run events
    Signalled b.hosts b.table b.commands := by
  induction events using List.reverseRecOn with
  | nil => exact fun h hm => absurd hm List.not_mem_nil
  | append_singleton events e ih =>
    have ht := tidy_run setup tape callers events
    obtain ⟨-, hr⟩ := renewal_run setup tape callers events
    rw [Balancer.run_append]
    generalize (Balancer.start setup tape callers).run events = b at ih ht hr
    show Signalled (b.step e).hosts (b.step e).table (b.step e).commands
    by_cases he : e = .takeCommand
    · subst he
      exact signalled_takeCommand ht hr.running ih
    · obtain ⟨_, hmoves⟩ := Balancer.moves_step b e [] []
      obtain ⟨-, hs⟩ := Moves.keeps
        (I := fun m => Tidy m.hosts m.table m.leaving ∧ Signalled m.hosts m.table m.commands)
        (fun _ _ hmove hi => ⟨tidy_move hmove hi.1, signalled_move he hmove hi.1 hi.2⟩)
        hmoves ⟨ht, ih⟩
      exact hs

/-! ### What a drain does -/

section

variable {b : Balancer α σ} {a : α} {h : HostId} {host : Host α (Link α)}

theorem takeCommand_of_drain (hc : b.nextCommand? = some (.drained a)) :
    b.step .takeCommand = Balancer.removeDrained { b with commands := b.commands.tail } a := by
  simp only [Balancer.step, Balancer.takeCommand, hc]

/-- A drain that finds a drained host removes it and does nothing else. -/
theorem drain_removes (ht : Tidy b.hosts b.table []) (ho : b.lifecycle = .running)
    (hc : b.nextCommand? = some (.drained host.address)) (hm : h ∈ b.table)
    (hh : b.hosts[h]? = some host) (hd : host.isDrained = true) :
    (b.step .takeCommand).table = b.table.erase h ∧
      (∀ j ≠ h, (b.step .takeCommand).hosts[j]? = b.hosts[j]?) ∧
      (b.step .takeCommand).connections = b.connections ∧
      (b.step .takeCommand).closings = b.closings := by
  obtain ⟨_, _, _, _, _, heq, hother⟩ := Balancer.removeDrained_frame
    (b := { b with commands := b.commands.tail }) ht ho hm hh hd
  rw [takeCommand_of_drain hc, heq]
  exact ⟨rfl, hother, rfl, rfl⟩

end

/-- **Every drained host has its signal**: an expired host of the table whose
pool is empty has a command for its address in the queue, so there is none when
the queue is empty. A drain that is taken, however old, removes exactly the
host of its address that is expired and has an empty pool at that moment.
Nothing else happens to hosts and connections, and if there is no such host the
command is forgotten and that is all. -/
theorem drained_signalled (setup : Setup α) (tape : Tape) (callers : σ)
    (events : List (Event α σ)) :
    let b := (Balancer.start setup tape callers).run events
    (∀ host ∈ b.tableHosts, host.status = .expired → host.pool = [] →
      .drained host.address ∈ b.commands) ∧
    (b.commands = [] → ∀ host ∈ b.tableHosts, ¬ (host.status = .expired ∧ host.pool = [])) ∧
    ∀ a, b.nextCommand? = some (.drained a) →
      let b' := b.step .takeCommand
      let drained (h : HostId) := ∃ host, b.hosts[h]? = some host ∧ host.address = a ∧
        host.status = .expired ∧ host.pool = []
      b'.table.Sublist b.table ∧ (∀ h ∈ b.table, h ∈ b'.table ↔ ¬ drained h) ∧
      (∀ h, ¬ drained h → b'.hosts[h]? = b.hosts[h]?) ∧
      b'.connections = b.connections ∧ b'.closings = b.closings ∧
      ((∀ h ∈ b.table, ¬ drained h) → b' = { b with commands := b.commands.tail }) := by
  intro b
  have ht : Tidy b.hosts b.table [] := tidy_run setup tape callers events
  have hs : ∀ host ∈ b.tableHosts, host.isDrained = true → .drained host.address ∈ b.commands :=
    signalled_iff.mp (signalled_run setup tape callers events)
  refine ⟨fun host hm hx hp => ?_, fun hempty host hm hd => ?_, fun a hc => ?_⟩
  · exact hs host hm (Host.isDrained_eq_true.mpr ⟨hx, hp⟩)
  · have hmem := hs host hm (Host.isDrained_eq_true.mpr hd)
    rw [hempty] at hmem
    exact List.not_mem_nil hmem
  · intro b' drained
    have ho : b.lifecycle = .running :=
      (renewal_run setup tape callers events).2.running (Balancer.nextCommand?_eq_some hc).1
    by_cases hex : ∃ h ∈ b.table, drained h
    · obtain ⟨h, hm, hdrained⟩ := hex
      obtain ⟨host, hh, rfl, hd⟩ := id hdrained
      obtain ⟨htable, hother, hconnections, hclosings⟩ :=
        drain_removes ht ho hc hm hh (Host.isDrained_eq_true.mpr hd)
      -- No other host of the table is drained and has this address.
      have honly : ∀ j ∈ b.table, drained j → j = h := by
        rintro j hj ⟨k, hk, haddr, -⟩
        exact ht.unique hj hm hk hh haddr
      refine ⟨htable ▸ List.erase_sublist, fun j hj => ?_, fun j hj => ?_, hconnections, hclosings,
        fun hnone => absurd hdrained (hnone h hm)⟩
      · show j ∈ (b.step .takeCommand).table ↔ _
        rw [htable, ht.nodup.mem_erase_iff]
        refine ⟨fun hmem hd' => hmem.1 (honly j hj hd'), fun hnot => ⟨?_, hj⟩⟩
        rintro rfl
        exact hnot hdrained
      · refine hother j ?_
        rintro rfl
        exact hj hdrained
    · have hnone : ∀ h ∈ b.table, ¬ drained h := fun h hm hd => hex ⟨h, hm, hd⟩
      have hsame : b' = { b with commands := b.commands.tail } := by
        show b.step .takeCommand = _
        rw [takeCommand_of_drain hc]
        refine Balancer.removeDrained_of_forall fun host hm haddr => ?_
        obtain ⟨h, hmem, hh⟩ := List.mem_filterMap.mp hm
        refine Bool.eq_false_iff.mpr fun hd => ?_
        exact hnone h hmem ⟨host, hh, haddr, Host.isDrained_eq_true.mp hd⟩
      rw [hsame]
      exact ⟨.refl _, fun h hm => ⟨fun _ => hnone h hm, fun _ => hm⟩, fun _ _ => rfl, rfl, rfl,
        fun _ => rfl⟩

end

/-- The one host expired, and a selection found its last connection closed. -/
def lastConnectionLost : List (Event Nat Unit) :=
  [.startReconciler, .deliver (.batch [⟨1, .available⟩]), .takeNotice,
    .select (.pure fun _ => true), .dialled 0 .opened, .deliver (.batch [⟨1, .expired⟩]),
    .takeNotice, .peerCloses 0, .select (.pure fun _ => true)]

/-- The drain that is in the queue then removes the host. -/
theorem lastConnectionLost_drains :
    let b := (freshBalancer true).run lastConnectionLost
    b.tableHosts = [{ address := 1, status := .expired }] ∧ b.commands = [.drained 1] ∧
      .drained 1 ∈ b.commands ∧ (b.step .takeCommand).table = [] := by
  intro b
  have hhosts : b.tableHosts = [{ address := 1, status := .expired }] := by decide
  have hc : b.nextCommand? = some (.drained 1) := by decide
  obtain ⟨hsignal, -, htaken⟩ :=
    drained_signalled (plainSetup true) (.ofSeed 0) () lastConnectionLost
  obtain ⟨hsub, hleft, -⟩ := htaken 1 hc
  have hmem : .drained 1 ∈ b.commands :=
    hsignal { address := 1, status := .expired } (hhosts ▸ List.mem_singleton_self _) rfl rfl
  refine ⟨hhosts, by decide, hmem, List.eq_nil_iff_forall_not_mem.mpr fun h hm => ?_⟩
  have htable : b.table = [0] := by decide
  have hzero : h = 0 := List.mem_singleton.mp (htable ▸ hsub.subset hm)
  exact (hleft h (hsub.subset hm)).mp hm (hzero ▸ ⟨_, rfl, rfl, rfl, rfl⟩)

end HostRotation
