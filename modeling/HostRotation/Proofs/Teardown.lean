/-
# Two ways to end

A balancer ends when it is closed or when it is dropped. Both stop the
reconciler, empty the slots and cancel the handles in them, close the hosts of
the table and close what was pooled; one waits for the connections, the other
hands them to a task. So both come to the same state, which can be written
down (`Balancer.tornDown`): `finishDrop_eq` and `finishClose_eq`.

They differ in the gauges. Closing records them for an empty table when the
connections are closed, dropping never does. So the two ways agree exactly
when there was no host (`teardowns_agree_iff`).
-/
import HostRotation.Proofs.Batches
import HostRotation.Proofs.CheckSlots
import HostRotation.Proofs.Finality
import HostRotation.Proofs.Gauges

namespace HostRotation

variable {α σ : Type}

/-- A connection after it was closed `n` times. -/
def Connection.hangUp (n : Nat) (k : Connection α) : Connection α :=
  { k with closed := k.closed || decide (0 < n), closeCalls := k.closeCalls + n }

theorem Connection.hangUp_zero (k : Connection α) : k.hangUp 0 = k := by simp [hangUp]

/-- Closing once more. -/
theorem Connection.hangUp_succ (n : Nat) (k : Connection α) :
    { k with closed := true, closeCalls := k.closeCalls + 1 }.hangUp n = k.hangUp (n + 1) := by
  simp [hangUp]
  omega

/-! ### Hosts that are shut -/

section

variable {hosts : List (Host α (Link α))}

/-- What a host has pooled is pooled no more when it is shut. -/
theorem poolCopies_modify_shut (c : ConnId) (h : HostId) (hosts : List (Host α (Link α))) :
    poolCopies c (hosts.modify h Host.shut) + copies (poolAt hosts h) c = poolCopies c hosts := by
  rw [List.modify_eq_set_getElem?]
  cases hh : hosts[h]? with
  | none => simp [poolAt, hh]
  | some host =>
    rw [poolAt_of_getElem? hh]
    exact poolCopies_set hh host.shut c

theorem flatMap_poolAt_modify {h : HostId} {hs : List HostId} (hout : h ∉ hs)
    (hosts : List (Host α (Link α))) :
    hs.flatMap (poolAt (hosts.modify h Host.shut)) = hs.flatMap (poolAt hosts) := by
  refine List.flatMap_congr fun j hj => ?_
  have hne : h ≠ j := fun heq => hout (heq ▸ hj)
  rw [poolAt, poolAt, List.getElem?_modify_ne _ _ hne]

theorem poolCopies_shutHosts (c : ConnId) :
    ∀ (hs : List HostId) (hosts : List (Host α (Link α))), hs.Nodup →
      poolCopies c (shutHosts hosts hs) + copies (hs.flatMap (poolAt hosts)) c = poolCopies c hosts
  | [], _, _ => rfl
  | h :: hs, hosts, hn => by
    obtain ⟨hout, hn⟩ := List.nodup_cons.mp hn
    have ih := poolCopies_shutHosts c hs (hosts.modify h Host.shut) hn
    have hone := poolCopies_modify_shut c h hosts
    rw [flatMap_poolAt_modify hout] at ih
    rw [shutHosts_cons, List.flatMap_cons, copies_append]
    omega

/-- Hosts that are not in the table are shut already. -/
theorem shutHosts_table {table : List HostId} (ht : Tidy hosts table [])
    (hc : ∀ (h : HostId) (host : Host α (Link α)), hosts[h]? = some host →
      (host.check.isSome = true ↔ host.status = .unhealthy)) :
    shutHosts hosts table = hosts.map Host.shut := by
  refine List.ext_getElem? fun h => ?_
  rw [getElem?_shutHosts, List.getElem?_map]
  split
  · rfl
  · rename_i hout
    cases hh : hosts[h]? with
    | none => rfl
    | some host =>
      have hs : host.status = .closed := (ht.closed_iff h host hh).mpr ⟨hout, List.not_mem_nil⟩
      have hp : host.pool = [] := ht.empty h host hh hs
      have hn : host.check = none := by
        rw [← Option.not_isSome_iff_eq_none, hc h host hh, hs]
        simp
      rw [Option.map_some, Host.shut, ← hs, ← hp, ← hn]

end

namespace Balancer

/-! ### Closing hosts and connections -/

section

variable {b : Balancer α σ} {h : HostId} {host : Host α (Link α)}

/-- Closing some hosts, none of which is closed. -/
theorem closeHosts_eq : ∀ (hs : List HostId) (b : Balancer α σ), hs.Nodup →
    (∀ h ∈ hs, ∃ host, b.hosts[h]? = some host ∧ host.status ≠ .closed) →
    b.closeHosts hs = ({ b with
      hosts := shutHosts b.hosts hs
      tasks := ((hs.filterMap fun h => b.hosts[h]?).map Host.check).foldl
        (cancelIn b.setup.aborts) b.tasks }, hs.flatMap (poolAt b.hosts))
  | [], _, _, _ => rfl
  | h :: hs, b, hn, hex => by
    obtain ⟨hout, hn⟩ := List.nodup_cons.mp hn
    obtain ⟨host, hh, hs'⟩ := hex h List.mem_cons_self
    have hother (j : HostId) (hj : j ∈ hs) : (b.hosts.modify h Host.shut)[j]? = b.hosts[j]? :=
      List.getElem?_modify_ne _ _ fun heq => hout (heq ▸ hj)
    have hrest := closeHosts_eq hs { b with
      hosts := b.hosts.modify h Host.shut
      tasks := cancelIn b.setup.aborts b.tasks host.check } hn fun j hj => by
        obtain ⟨k, hk, hks⟩ := hex j (List.mem_cons_of_mem _ hj)
        exact ⟨k, (hother j hj).trans hk, hks⟩
    have hchecks : hs.filterMap (fun j => (b.hosts.modify h Host.shut)[j]?) =
        hs.filterMap fun j => b.hosts[j]? := List.filterMap_congr hother
    simp only [closeHosts, closeHost_eq hh hs', hrest, hchecks, flatMap_poolAt_modify hout]
    simp [hh, poolAt_of_getElem? hh, shutHosts_cons]

end

/-- Closing connections changes the connections alone. -/
theorem closeLinks_eq : ∀ (ls : List (Link α)) (b : Balancer α σ),
    (b.closeLinks ls).1 = { b with
      connections := b.connections.mapIdx fun c k => k.hangUp (copies ls c) }
  | [], b => by
    have hsame : (b.connections.mapIdx fun c k => k.hangUp (copies ([] : List (Link α)) c)) =
        b.connections := by
      refine List.ext_getElem? fun c => ?_
      simp [List.getElem?_mapIdx, Connection.hangUp_zero]
    rw [closeLinks, hsame]
  | l :: ls, b => by
    have hone : ((b.closeLink l).1.connections.mapIdx fun c k => k.hangUp (copies ls c)) =
        b.connections.mapIdx fun c k => k.hangUp (copies (l :: ls) c) := by
      refine List.ext_getElem? fun c => ?_
      simp only [closeLink, modifyConnection, List.getElem?_mapIdx, List.getElem?_modify]
      cases b.connections[c]? with
      | none => rfl
      | some k =>
        by_cases hc : l.id = c
        · simp [hc, Connection.hangUp_succ]
        · simp [hc]
    calc (b.closeLinks (l :: ls)).1 = ((b.closeLink l).1.closeLinks ls).1 := rfl
      _ = _ := by rw [closeLinks_eq ls, hone]; rfl

/-- The task that was given connections last runs. -/
theorem runClosing_last (b : Balancer α σ) (links : List (Link α)) :
    (b.closeLater links).runClosing b.closings.length = { b with
      closings := b.closings ++ (closingOf links).map fun k => { k with begun := true }
      connections := b.connections.mapIdx fun c k => k.hangUp (copies links c) } := by
  have hclose := congrArg Balancer.connections (closeLinks_eq links b)
  rw [closings_closeLater]
  unfold closingOf
  split
  · rename_i hl
    obtain rfl := List.isEmpty_iff.mp hl
    simpa [runClosing, closeLinks] using hclose
  · simp [runClosing, closeLinks_eq]

/-! ### The state at the end -/

/-- The handles in the slots of a balancer: the pending resubscribe and the health
checks. -/
def handles (b : Balancer α σ) : List (Option TaskId) :=
  b.monitor.pending :: b.tableHosts.map Host.check

/-- All that the hosts of the table have pooled. -/
def holdings (b : Balancer α σ) : List (Link α) := b.table.flatMap (poolAt b.hosts)

/-- The balancer at its end, as far as both ways to end it agree. -/
def tornDown (b : Balancer α σ) : Balancer α σ :=
  { b with
    hosts := b.hosts.map Host.shut
    table := []
    reconciler := .stopped
    monitor := { pending := none, shutDown := true }
    tasks := b.handles.foldl (cancelIn b.setup.aborts) b.tasks
    connections := b.connections.mapIdx fun c k => k.hangUp (b.pooled c) }

/-- The balancer is dropped, and the task that closes its connections runs. -/
def finishDrop (b : Balancer α σ) : Balancer α σ := b.drop.runClosing b.closings.length

/-- The balancer is closed, and the call returns. -/
def finishClose (b : Balancer α σ) : Balancer α σ := b.close.closeSettled

section

variable {b : Balancer α σ} (ht : Tidy b.hosts b.table [])
  (hc : ∀ (h : HostId) (host : Host α (Link α)), b.hosts[h]? = some host →
    (host.check.isSome = true ↔ host.status = .unhealthy))

include ht hc

theorem clearAll_eq : b.stopBackground.clearTable = ({ b with
    hosts := b.hosts.map Host.shut
    table := []
    reconciler := .stopped
    monitor := { pending := none, shutDown := true }
    tasks := b.handles.foldl (cancelIn b.setup.aborts) b.tasks }, b.holdings) := by
  have hex : ∀ h ∈ b.table, ∃ host, b.hosts[h]? = some host ∧ host.status ≠ .closed := by
    intro h hm
    have hlt : h < b.hosts.length := ht.known h (List.mem_append_left _ hm)
    exact ⟨_, List.getElem?_eq_getElem hlt, ht.not_closed (List.getElem?_eq_getElem hlt) hm⟩
  have hclose := closeHosts_eq b.table { b with
    table := []
    reconciler := .stopped
    monitor := { pending := none, shutDown := true }
    tasks := cancelIn b.setup.aborts b.tasks b.monitor.pending } ht.nodup hex
  simp only [shutHosts_table ht hc] at hclose
  simp only [stopBackground, cancelIfAny_eq, clearTable]
  exact hclose

theorem copies_holdings (c : ConnId) : copies b.holdings c = b.pooled c := by
  have hsum := poolCopies_shutHosts c b.table b.hosts ht.nodup
  have hempty (h : HostId) : poolAt (b.hosts.map Host.shut) h = [] := by
    rw [poolAt, List.getElem?_map]
    cases b.hosts[h]? <;> rfl
  have hzero : poolCopies c (b.hosts.map Host.shut) = 0 :=
    pooled_eq_zero (b := { b with hosts := b.hosts.map Host.shut }) hempty c
  rw [shutHosts_table ht hc, hzero] at hsum
  exact (Nat.zero_add _).symm.trans hsum

theorem finishDrop_eq (ho : b.isClosed = false) : b.finishDrop = { b.tornDown with
    lifecycle := .dropped
    closings := b.closings ++ (closingOf b.holdings).map fun k => { k with begun := true } } := by
  have hrun := runClosing_last
    { b.stopBackground.clearTable.1 with lifecycle := .dropped } b.holdings
  simp only [copies_holdings ht hc] at hrun
  simp only [finishDrop, drop, ho, Bool.false_eq_true, ↓reduceIte]
  rw [clearAll_eq ht hc] at hrun ⊢
  exact hrun

theorem finishClose_eq (ho : b.isClosed = false) : ∃ failed,
    b.close = { b.tornDown with lifecycle := .closing failed b.holdings.length } ∧
    b.finishClose = { b.tornDown with
      lifecycle := .closed failed b.holdings.length
      metrics := { b.metrics with hosts := 0, unhealthy := 0 } } := by
  have hlinks := closeLinks_eq b.holdings b.stopBackground.clearTable.1
  simp only [copies_holdings ht hc] at hlinks
  have hclose : b.close = { b.tornDown with
      lifecycle := .closing (b.stopBackground.clearTable.1.closeLinks b.holdings).2
        b.holdings.length } := by
    simp only [close, ho, Bool.false_eq_true, ↓reduceIte]
    rw [clearAll_eq ht hc] at hlinks ⊢
    rw [hlinks]
    rfl
  refine ⟨_, hclose, ?_⟩
  rw [finishClose, hclose]
  rfl

end

theorem closeCalls_tornDown {b : Balancer α σ} (hk : ∀ h, ∀ l ∈ poolAt b.hosts h,
    l.id < b.connections.length) (c : ConnId) :
    closeCalls c b.tornDown.connections = closeCalls c b.connections + b.pooled c := by
  simp only [closeCalls, tornDown, List.getElem?_mapIdx]
  cases hc : b.connections[c]? with
  | some k => rfl
  | none =>
    have hzero : ¬ 0 < b.pooled c := fun hpos => by
      obtain ⟨h, l, hl, rfl⟩ := exists_of_poolCopies_pos hpos
      have hlt := hk h l hl
      rw [List.getElem?_eq_getElem hlt] at hc
      simp at hc
    simp only [Option.map_none, Option.getD_none]
    omega

/-- Two balancers have come to the same end: the same connections were closed,
equally often; the hosts, what they have pooled and their slots are the same;
so are the tasks and which of them were cancelled, and what the reconciler
listens to; and the gauges show the same. -/
structure EndsAlike (b b' : Balancer α σ) : Prop where
  connections : b.connections = b'.connections
  hosts : b.hosts = b'.hosts
  table : b.table = b'.table
  tasks : b.tasks = b'.tasks
  monitor : b.monitor = b'.monitor
  reconciler : b.reconciler = b'.reconciler
  gauges : b.metrics.gauges = b'.metrics.gauges

end Balancer

open Balancer

section

variable [DecidableEq α]

/-- Once it has ended, a balancer takes no notice and no command any more. -/
theorem takes_nothing (setup : Setup α) (tape : Tape) (callers : σ) (events : List (Event α σ))
    (hl : ((Balancer.start setup tape callers).run events).lifecycle ≠ .running) :
    ((Balancer.start setup tape callers).run events).nextNotice? = none ∧
      ((Balancer.start setup tape callers).run events).nextCommand? = none := by
  have hstopped := (shut_run setup tape callers events hl).stopped
  simp [nextNotice?, nextCommand?, hstopped]

/-- **When dropping comes to the same as closing.** Take any state of a running
balancer. Dropping it and letting the task run that it leaves behind comes to
the same state as closing it, but for three things: what the balancer calls its
end, the finished task among the closings, and the gauges. In both ways every
host is closed with nothing pooled, every handle in a slot is cancelled, and
every connection is closed as often as it was pooled; that is once, and never
before, if no connect returns a connection twice. The reconciler takes nothing
any more, whatever comes later, and dropping a closed balancer changes nothing.

The gauges are right after closing. Dropping leaves them as they are, so the
two ways come to the same exactly if the table was empty. -/
theorem teardowns_agree_iff (setup : Setup α) (tape : Tape) (callers : σ)
    (events : List (Event α σ)) :
    let b := (Balancer.start setup tape callers).run events
    b.lifecycle = .running →
      (b.close.drop = b.close ∧ b.finishClose.drop = b.finishClose) ∧
      b.finishDrop = { b.tornDown with
        lifecycle := .dropped
        closings := b.closings ++ (closingOf b.holdings).map fun k => { k with begun := true } } ∧
      (∃ failed, b.finishClose = { b.tornDown with
        lifecycle := .closed failed b.holdings.length
        metrics := { b.metrics with hosts := 0, unhealthy := 0 } }) ∧
      (∀ host ∈ b.tornDown.hosts, host.status = .closed ∧ host.pool = []) ∧
      (∀ c, closeCalls c b.tornDown.connections = closeCalls c b.connections + b.pooled c) ∧
      ((∀ e ∈ events, ¬ e.Reopens) → ∀ c, 0 < b.pooled c →
        b.pooled c = 1 ∧ closeCalls c b.connections = 0) ∧
      (∀ later, (b.finishDrop.run later).nextNotice? = none ∧
        (b.finishDrop.run later).nextCommand? = none ∧
        (b.finishClose.run later).nextNotice? = none ∧
        (b.finishClose.run later).nextCommand? = none) ∧
      (EndsAlike b.finishDrop b.finishClose.drop ↔ b.table = []) := by
  intro b hr
  have ht : Tidy b.hosts b.table [] := tidy_run setup tape callers events
  have hc : ∀ (h : HostId) (host : Host α (Link α)), b.hosts[h]? = some host →
      (host.check.isSome = true ↔ host.status = .unhealthy) :=
    fun h host hh => ((attended_run setup tape callers events).checked h host hh).occupied
  have ho : b.isClosed = false := by simp [isClosed, hr]
  have hdrop := finishDrop_eq ht hc ho
  obtain ⟨failed, hclosing, hclose⟩ := finishClose_eq ht hc ho
  have hend : b.finishClose.drop = b.finishClose := if_pos (by simp [hclose, isClosed])
  refine ⟨⟨if_pos (by simp [hclosing, isClosed]), hend⟩, hdrop, ⟨failed, hclose⟩,
    fun host hm => ?_, closeCalls_tornDown (known_run setup tape callers events).pooled,
    fun hn c hpos => ?_, fun later => ?_, fun halike => ?_, fun hempty => ?_⟩
  · obtain ⟨host, -, rfl⟩ := List.mem_map.mp hm
    exact ⟨rfl, rfl⟩
  · obtain ⟨pruned, ha, -⟩ := accounted_run events (Balancer.start setup tape callers) [] hn .start
      (accounted_start setup tape callers)
    have hone : b.pooled c + copies [] c + copies pruned c + closingCopies c b.closings +
      closeCalls c b.connections ≤ 1 := ha.le_one c
    omega
  · have hdropped : b.finishDrop = b.run [.drop, .runClosing b.closings.length] := rfl
    have hclosed : b.finishClose = b.run [.close, .closeSettled] := rfl
    have hended (more : List (Event α σ)) (hl : (b.run more).lifecycle ≠ .running) :
        ((b.run more).run later).nextNotice? = none ∧
          ((b.run more).run later).nextCommand? = none := by
      have hl := Balancer.ended_run hl later
      rw [← Balancer.run_append, ← Balancer.run_append] at hl ⊢
      exact takes_nothing setup tape callers _ hl
    have hd := hended [.drop, .runClosing b.closings.length] (by rw [← hdropped, hdrop]; simp)
    have hc := hended [.close, .closeSettled] (by rw [← hclosed, hclose]; simp)
    exact ⟨hd.1, hd.2, hc.1, hc.2⟩
  · have hgauges := halike.gauges
    rw [hend, hdrop, hclose] at hgauges
    exact table_eq_nil_of_census ht ((gauged_run setup tape callers events (.inl hr)).symm.trans
      hgauges)
  · have hgauges : b.metrics.gauges = (0, 0) :=
      (gauged_run setup tape callers events (.inl hr)).trans (census_of_empty hempty)
    rw [hend, hdrop, hclose]
    exact ⟨rfl, rfl, rfl, rfl, rfl, rfl, hgauges⟩

end

/-- A host comes, gets a connection and goes. -/
def comeAndGone : List (Event Nat Unit) :=
  [.startReconciler, .deliver (.batch [⟨1, .available⟩]), .takeNotice,
    .select (.pure fun _ => true), .dialled 0 .opened,
    .deliver (.batch [⟨1, .unavailable⟩]), .takeNotice]

/-- One host has a connection, an attempt at the other one waits, and so does a
resubscribe. -/
def inUse : List (Event Nat Unit) :=
  [.startReconciler, .deliver (.batch [⟨1, .available⟩, ⟨2, .available⟩]), .takeNotice,
    .select (.pure fun _ => true), .dialled 0 .opened,
    .select (.pure fun _ => true), .dialled 1 (.refused "down"), .deliver .ended, .takeNotice]

/-- With an empty table both ways to end come to the same. In the middle of its life,
a balancer loses the same in both: its connection is closed once, its hosts are
closed, its two handles are cancelled, and whatever is delivered later is left
alone; only what the gauges show differs. -/
theorem teardowns_agree_comeAndGone :
    (let b := (freshBalancer true).run comeAndGone
     b.lifecycle = .running ∧ b.table = [] ∧ EndsAlike b.finishDrop b.finishClose.drop) ∧
    let b := (freshBalancer true).run inUse
    b.lifecycle = .running ∧ b.pooled 0 = 1 ∧ b.handles = [some 1, none, some 0] ∧
      b.finishClose.drop = b.finishClose ∧
      (closeCalls 0 b.finishDrop.connections = 1 ∧ closeCalls 0 b.finishClose.connections = 1) ∧
      (∀ host ∈ b.finishDrop.hosts, host.status = .closed ∧ host.pool = []) ∧
      (b.finishDrop.hosts = b.finishClose.hosts ∧ b.finishDrop.tasks = b.finishClose.tasks) ∧
      b.finishDrop.tasks.map Task.cancelled = [true, true] ∧
      (b.finishDrop.run [.deliver .ended]).nextNotice? = none ∧
      ¬ EndsAlike b.finishDrop b.finishClose.drop := by
  constructor
  · have hr : ((freshBalancer true).run comeAndGone).lifecycle = .running := by decide
    have ht : ((freshBalancer true).run comeAndGone).table = [] := by decide
    obtain ⟨-, -, -, -, -, -, -, halike⟩ :=
      teardowns_agree_iff (plainSetup true) (.ofSeed 0) () comeAndGone hr
    exact ⟨hr, ht, halike.mpr ht⟩
  · have hr : ((freshBalancer true).run inUse).lifecycle = .running := by decide
    have ht : ((freshBalancer true).run inUse).table ≠ [] := by decide
    have hnew : ∀ e ∈ inUse, ¬ e.Reopens := by simp [inUse, Event.Reopens]
    have hpooled : ((freshBalancer true).run inUse).pooled 0 = 1 := by decide
    have hhandles : ((freshBalancer true).run inUse).handles = [some 1, none, some 0] := by decide
    have hcancelled : ((freshBalancer true).run inUse).finishDrop.tasks.map Task.cancelled =
        [true, true] := by decide
    obtain ⟨⟨-, hagain⟩, hdrop, ⟨failed, hclose⟩, hhosts, hcalls, honce, hlater, halike⟩ :=
      teardowns_agree_iff (plainSetup true) (.ofSeed 0) () inUse hr
    obtain ⟨-, hfirst⟩ := honce hnew 0 (by rw [← freshBalancer, hpooled]; decide)
    have hone : closeCalls 0 ((freshBalancer true).run inUse).tornDown.connections = 1 := by
      refine (hcalls 0).trans ?_
      rw [hfirst]
      exact (Nat.zero_add _).trans hpooled
    have hquiet := (hlater [.deliver .ended]).1
    rw [← freshBalancer] at hagain hdrop hclose hhosts halike hquiet
    refine ⟨hr, hpooled, hhandles, hagain, ⟨?_, ?_⟩, ?_, ⟨?_, ?_⟩, hcancelled, hquiet,
      fun h => ht (halike.mp h)⟩
    · rw [hdrop]
      exact hone
    · rw [hclose]
      exact hone
    · rw [hdrop]
      exact hhosts
    · rw [hdrop, hclose]
    · rw [hdrop, hclose]

/-- A connect fails and makes the only host unhealthy. -/
def leftUnhealthy : List (Event Nat Unit) :=
  [.startReconciler, .deliver (.batch [⟨1, .available⟩]), .takeNotice,
    .select (.pure fun _ => true), .dialled 0 (.refused "down")]

/-- Dropped, the balancer shows an unhealthy host for ever; closed, it does not. -/
theorem teardowns_differ_leftUnhealthy :
    let b := (freshBalancer true).run leftUnhealthy
    b.lifecycle = .running ∧ b.finishDrop.metrics.gauges = (1, 1) ∧
      b.finishClose.drop.metrics.gauges = (0, 0) ∧
      ¬ EndsAlike b.finishDrop b.finishClose.drop := by
  have hr : ((freshBalancer true).run leftUnhealthy).lifecycle = .running := by decide
  have hd : ((freshBalancer true).run leftUnhealthy).finishDrop.metrics.gauges = (1, 1) := by
    decide
  have hc : ((freshBalancer true).run leftUnhealthy).finishClose.drop.metrics.gauges = (0, 0) := by
    decide
  refine ⟨hr, hd, hc, fun halike => ?_⟩
  have hgauges := halike.gauges
  rw [hd, hc] at hgauges
  simp at hgauges

end HostRotation
