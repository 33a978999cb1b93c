/-
# What the call that closes a balancer reports

The call closes every connection that is pooled, whether or not a close before it
failed, and reports how many connections there were and how many closes failed
(`close_reports`). The count is exact, because closing a connection changes
nothing about which closes fail (`closeLinks_failed`). The report is all that the
failures make a difference to (`unfailing_run`).
-/
import HostRotation.Proofs.Conservation
import HostRotation.Proofs.Indifference
import HostRotation.Proofs.Teardown

namespace HostRotation

variable {α σ : Type}

namespace Balancer

/-- Whether closing a connection fails. -/
def closeFails (b : Balancer α σ) (l : Link α) : Bool :=
  (b.connections[l.id]?).any Connection.failsToClose

theorem closeFails_closeLink (b : Balancer α σ) (l : Link α) :
    (b.closeLink l).1.closeFails = b.closeFails := by
  funext l'
  simp only [closeFails, closeLink, modifyConnection, List.getElem?_modify]
  cases b.connections[l'.id]? with
  | none => rfl
  | some k => by_cases hc : l.id = l'.id <;> simp [hc]

theorem closeFails_failing {b : Balancer α σ} {l : Link α} (hl : l.id < b.connections.length)
    (fails : ConnId → Bool) : (b.failing fails).closeFails l = fails l.id := by
  rw [closeFails, failing, List.getElem?_mapIdx, List.getElem?_eq_getElem hl]
  rfl

/-- The closes that fail are counted, and no others. -/
theorem closeLinks_failed : ∀ (ls : List (Link α)) (b : Balancer α σ),
    (b.closeLinks ls).2 = ls.countP b.closeFails
  | [], _ => rfl
  | l :: ls, b => by
    have ih := closeLinks_failed ls (b.closeLink l).1
    rw [closeFails_closeLink] at ih
    rw [List.countP_cons, ← ih]
    rfl

/-- All that the hosts of the table have pooled, counted host by host. -/
theorem length_holdings (b : Balancer α σ) : b.holdings.length = b.pooledInTable := by
  rw [holdings, List.length_flatMap, pooledInTable, tableHosts, sum_entries]

variable {b : Balancer α σ}

/-- A call that closes the balancer leaves it torn down, with the failures
counted. -/
theorem close_eq (ht : Tidy b.hosts b.table [])
    (hc : ∀ (h : HostId) (host : Host α (Link α)), b.hosts[h]? = some host →
      (host.check.isSome = true ↔ host.status = .unhealthy)) (ho : b.isClosed = false) :
    b.close = { b.tornDown with
      lifecycle := .closing (b.holdings.countP b.closeFails) b.pooledInTable } := by
  obtain ⟨failed, hclose, -⟩ := finishClose_eq ht hc ho
  have hcount : b.close.lifecycle =
      .closing (b.holdings.countP b.closeFails) b.holdings.length := by
    simp only [close, ho, Bool.false_eq_true, ↓reduceIte, closeLinks_failed]
    rw [clearAll_eq ht hc]
    rfl
  rw [hclose] at hcount ⊢
  obtain ⟨rfl, -⟩ := Lifecycle.closing.inj hcount
  rw [length_holdings]

variable [DecidableEq α]

/-- A call that closes the balancer goes on until its connections are closed, and
has returned then. -/
theorem lifecycle_closing {failed total : Nat} (hl : b.lifecycle = .closing failed total)
    (events : List (Event α σ)) :
    (.closeSettled ∉ events → (b.run events).lifecycle = .closing failed total) ∧
      (.closeSettled ∈ events → (b.run events).lifecycle = .closed failed total) := by
  induction events generalizing b with
  | nil => exact ⟨fun _ => hl, by simp⟩
  | cons e events ih =>
    have hrun : b.run (e :: events) = (b.step e).run events := rfl
    by_cases hc : e = .closeSettled
    · have hclosed : (b.step e).lifecycle = .closed failed total := by
        simp only [hc, step, closeSettled, hl]
        rfl
      have hend := lifecycle_over events (b.step e) (by simp [hclosed])
        (by simp [IsSettled, hclosed])
      exact ⟨fun hn => absurd (hc ▸ List.mem_cons_self) hn,
        fun _ => (congrArg lifecycle hrun).trans (hend.trans hclosed)⟩
    · have hone : (b.step e).lifecycle = .closing failed total := by
        by_cases he : e.Ends
        · rw [step_of_ended he (by simp [hl]), hl]
        · rw [lifecycle_step he hc, hl]
      have hmem : .closeSettled ∈ e :: events ↔ .closeSettled ∈ events := by
        simp [Ne.symm hc]
      rw [hrun, hmem]
      exact ih hone

end Balancer

open Balancer

/-- **Closing is best-effort and counts exactly.** Take any state of a running
balancer, and let any connections be those that fail to close. The call that
closes the balancer closes each connection once for every entry of a pool of the
table, and the table is empty and every host closed with nothing pooled. The call
returns when the connections are closed. It succeeds if no close failed, and
otherwise reports how many did and how many connections there were.

Nothing else depends on which closes fail: whatever happens after the call, the
table, the hosts, the tasks and the metrics come to be the same. -/
theorem close_reports [DecidableEq α] (setup : Setup α) (tape : Tape) (callers : σ)
    (events : List (Event α σ)) (fails : ConnId → Bool) :
    let b₀ := Balancer.start setup tape callers
    let b := (b₀.run events).failing fails
    let b₁ := b.step .close
    let total := b.pooledInTable
    let failed := b.holdings.countP fun l => fails l.id
    b.lifecycle = .running →
      (∃ events', b₀.run events' = b) ∧
      (∀ c, closeCalls c b₁.connections = closeCalls c b.connections + copies b.holdings c) ∧
      (b₁.table = [] ∧ b₁.hosts.map Host.address = b.hosts.map Host.address ∧
        ∀ host ∈ b₁.hosts, host.status = .closed ∧ host.pool = []) ∧
      failed ≤ total ∧
      (∀ later, .closeSettled ∉ later → (b₁.run later).closeResult? = none) ∧
      (∀ later, .closeSettled ∈ later → (b₁.run later).closeResult? =
        some (if failed = 0 then .ok () else .error (.closeFailed failed total))) ∧
      ∀ fails' later,
        let d := b₁.run later
        let d' := (((b₀.run events).failing fails').step .close).run later
        d.unfailing = d'.unfailing ∧
          d.table = d'.table ∧ d.hosts = d'.hosts ∧ d.tasks = d'.tasks ∧
          d.metrics = d'.metrics := by
  intro b₀ b b₁ total failed hr
  have ht : Tidy b.hosts b.table [] := tidy_run setup tape callers events
  have hc : ∀ (h : HostId) (host : Host α (Link α)), b.hosts[h]? = some host →
      (host.check.isSome = true ↔ host.status = .unhealthy) :=
    fun h host hh => ((attended_run setup tape callers events).checked h host hh).occupied
  have hknown : ∀ h, ∀ l ∈ poolAt b.hosts h, l.id < b.connections.length := fun h l hl => by
    have hlt := (known_run setup tape callers events).pooled h l hl
    simpa [b, failing] using hlt
  have hcount : b.holdings.countP b.closeFails = failed := by
    refine List.countP_congr fun l hl => ?_
    obtain ⟨h, -, hl⟩ := List.mem_flatMap.mp hl
    have hlt := (known_run setup tape callers events).pooled h l hl
    rw [closeFails_failing hlt fails]
  have hclose : b₁ = { b.tornDown with lifecycle := .closing failed total } :=
    hcount ▸ close_eq ht hc (by simp [isClosed, hr])
  have hlife : b₁.lifecycle = .closing failed total := by rw [hclose]
  have hle : failed ≤ total := Nat.le_trans List.countP_le_length (Nat.le_of_eq b.length_holdings)
  refine ⟨exists_run_failing setup tape callers events fails hr, fun c => ?_, ⟨?_, ?_, ?_⟩, hle,
    fun later hn => ?_, fun later hm => ?_, fun fails' later => ?_⟩
  · rw [hclose, copies_holdings ht hc]
    exact closeCalls_tornDown hknown c
  · rw [hclose]
    rfl
  · rw [hclose, show b.tornDown.hosts = b.hosts.map Host.shut from rfl, List.map_map]
    rfl
  · rw [hclose]
    intro host hm
    obtain ⟨host, -, rfl⟩ := List.mem_map.mp hm
    exact ⟨rfl, rfl⟩
  · rw [closeResult?, (lifecycle_closing hlife later).1 hn]
  · rw [closeResult?, (lifecycle_closing hlife later).2 hm]
    by_cases hnone : failed = 0
    · simp [hnone]
    · simp [hnone, Nat.pos_of_ne_zero hnone]
  · have hsame (fails : ConnId → Bool) :
        ((((b₀.run events).failing fails).step .close).run later).unfailing =
          (b₀.run events).unfailing.run ((.close :: later).filter fun e => !e.fails) := by
      rw [← unfailing_failing (b₀.run events) fails]
      exact unfailing_run _ (.close :: later)
    have halike := (hsame fails).trans (hsame fails').symm
    refine ⟨halike, ?_, ?_, ?_, ?_⟩
    · simpa using congrArg table halike
    · simpa using congrArg hosts halike
    · simpa using congrArg tasks halike
    · simpa using congrArg metrics halike

/-- Three hosts get a connection each. Then a connect makes the first of them
unhealthy, and discovery lets the second one expire while a connect to it is under
way. -/
def mixedTable : List (Event Nat Unit) :=
  [.startReconciler,
    .deliver (.batch [⟨1, .available⟩, ⟨2, .available⟩, ⟨3, .available⟩]), .takeNotice,
    .select (.pure fun _ => true), .dialled 0 .opened,
    .select (.pure fun _ => true), .dialled 1 .opened,
    .select (.pure fun _ => true), .dialled 2 .opened,
    .select (.pure fun _ => false), .dialled 3 (.refused "down"),
    .deliver (.batch [⟨2, .expired⟩]), .takeNotice]

/-- The connection in the middle fails to close. -/
theorem close_reports_mixedTable :
    let b := ((freshBalancer true).run mixedTable).failing fun c => c = 1
    b.lifecycle = .running ∧
      b.tableHosts.map Host.status = [.unhealthy, .expired, .active] ∧
      b.holdings.map Link.id = [0, 1, 2] ∧
      (∀ c < 3, closeCalls c (b.step .close).connections = 1) ∧
      ((b.step .close).run [.dialled 3 .opened, .closeSettled]).closeResult? =
        some (.error (.closeFailed 1 3)) := by
  intro b
  have hr : b.lifecycle = .running := by decide +kernel
  obtain ⟨-, hcalls, -, -, -, hreturns, -⟩ :=
    close_reports (plainSetup true) (.ofSeed 0) () mixedTable (fun c => c = 1) hr
  refine ⟨hr, by decide +kernel, by decide +kernel, fun c hc => ?_, ?_⟩
  · have hone : ∀ c < 3, closeCalls c b.connections + copies b.holdings c = 1 := by decide +kernel
    exact (hcalls c).trans (hone c hc)
  · have hfailed : (b.holdings.countP fun l => decide (l.id = 1)) = 1 := by decide +kernel
    have htotal : b.pooledInTable = 3 := by decide +kernel
    refine (hreturns [.dialled 3 .opened, .closeSettled] (by simp)).trans ?_
    change some (if (b.holdings.countP fun l => decide (l.id = 1)) = 0 then Except.ok ()
      else .error (BalancerError.closeFailed (b.holdings.countP fun l => decide (l.id = 1))
        b.pooledInTable)) = _
    rw [hfailed, htotal]
    rfl

end HostRotation
