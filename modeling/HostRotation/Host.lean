/-
# Hosts

One address of the service: the connections pooled for it, its status, the
connects that failed in a row, and the slot for the handle of its health
check.

* `active`: new connections may be opened to it.
* `expired`: discovery no longer wants it used; pooled connections serve until
  the pool is empty.
* `unhealthy`: too many connects failed in a row; a health check is under way.
* `closed`: removed for good.

Every operation returns the host after it together with what its caller has
to know. A pool holds no two equal connections, where equal is what `==`
says.
-/
import HostRotation.Task
import HostRotation.Text.Quoted

namespace HostRotation

inductive HostStatus
  | active
  | expired
  | unhealthy
  | closed
deriving DecidableEq

/-- The name of a status. -/
def HostStatus.name : HostStatus → String
  | active => "Active"
  | expired => "Expired"
  | unhealthy => "Unhealthy"
  | closed => "Closed"

structure Host (α κ : Type) where
  address : α
  status : HostStatus := .active
  pool : List κ := []
  /-- Connects that failed in a row. -/
  failures : Nat := 0
  /-- The health check under way. -/
  check : Option TaskId := none
deriving DecidableEq

/-- What became of a connection offered to a pool. -/
inductive AddOutcome
  | added
  /-- The host was unhealthy and is active again. -/
  | restored
  /-- The host is closed and took nothing. -/
  | hostClosed
deriving DecidableEq

/-- The count of failed connects stops here. -/
def maxFailures : Nat := UInt32.size - 1

namespace Host

variable {α κ : Type}

/-- Offers a connection that was just opened. It is pooled unless an equal
one is there already, and the host is as good as new. -/
def add [BEq κ] (h : Host α κ) (c : κ) : Host α κ × AddOutcome :=
  if h.status = .closed then (h, .hostClosed)
  else
    let h' := { h with
      pool := if h.pool.contains c then h.pool else h.pool ++ [c]
      failures := 0 }
    if h.status = .unhealthy then ({ h' with status := .active }, .restored) else (h', .added)

/-- Takes a connection out of the pool. Says whether this drained the host:
an expired host lost its last connection. -/
def remove [BEq κ] (h : Host α κ) (c : κ) : Host α κ × Bool :=
  if h.pool.contains c then
    let h' := { h with pool := h.pool.erase c }
    (h', h'.status = .expired && h'.pool.isEmpty)
  else (h, false)

/-- Counts a failed connect to an active host. Says whether this one made it
unhealthy, which takes a threshold. -/
def recordFailure (h : Host α κ) (threshold : Option Nat) : Host α κ × Bool :=
  if h.status = .active then
    let failures := min (h.failures + 1) maxFailures
    let crossed := threshold.any fun t => t ≤ failures
    ({ h with failures, status := if crossed then .unhealthy else .active }, crossed)
  else (h, false)

/-- Discovery announces the host: expired and unhealthy hosts are active
again. -/
def activate (h : Host α κ) : Host α κ :=
  match h.status with
  | .active | .closed => h
  | .expired | .unhealthy => { h with status := .active, failures := 0 }

/-- Discovery no longer wants the host used. -/
def expire (h : Host α κ) : Host α κ :=
  match h.status with
  | .closed | .expired => h
  | .active | .unhealthy => { h with status := .expired }

/-- Whether an expired host has nothing left to serve with. -/
def isDrained (h : Host α κ) : Bool := h.status = .expired && h.pool.isEmpty

/-- Closes the host. Whoever closes it first gets the pool. -/
def close (h : Host α κ) : Host α κ × List κ :=
  if h.status = .closed then (h, []) else ({ h with status := .closed, pool := [] }, h.pool)

/-- Whether connections of the host may be handed out. -/
def isUsable (h : Host α κ) : Bool := h.status = .active || h.status = .expired

/-- Whether discovery or failed connects took the host out of service. -/
def isStarved (h : Host α κ) : Bool := h.status = .expired || h.status = .unhealthy

/-! ### What the operations keep -/

section

variable [BEq κ] (h : Host α κ) (c : κ) (threshold : Option Nat)

@[simp] theorem address_add : (h.add c).1.address = h.address := by
  unfold add
  repeat' split
  all_goals rfl

@[simp] theorem check_add : (h.add c).1.check = h.check := by
  unfold add
  repeat' split
  all_goals rfl

/-- What becomes of an offered connection is up to the status alone. -/
theorem snd_add : (h.add c).2 = match h.status with
    | .closed => .hostClosed
    | .unhealthy => .restored
    | .active | .expired => .added := by
  unfold add
  cases hs : h.status <;> simp

theorem status_add :
    (h.add c).1.status = if h.status = .unhealthy then .active else h.status := by
  unfold add
  repeat' split
  all_goals simp_all

theorem status_add_ne_closed {h : Host α κ} (hc : h.status ≠ .closed) (c : κ) :
    (h.add c).1.status ≠ .closed := by
  rw [status_add]
  split
  · simp
  · exact hc

theorem status_add_ne_unhealthy (h : Host α κ) (c : κ) : (h.add c).1.status ≠ .unhealthy := by
  rw [status_add]
  split
  · simp
  · assumption

/-- A host that is not closed pools a connection that it does not have. -/
theorem pool_add [LawfulBEq κ] {h : Host α κ} (hc : h.status ≠ .closed) {c : κ}
    (hn : c ∉ h.pool) : (h.add c).1.pool = h.pool ++ [c] := by
  unfold add
  rw [if_neg hc]
  dsimp only
  split <;> simp [hn]

theorem add_of_active {h : Host α κ} (ha : h.status = .active) (c : κ) : (h.add c).1 =
    { h with pool := if h.pool.contains c then h.pool else h.pool ++ [c], failures := 0 } := by
  simp [add, ha]

theorem mem_pool_add [LawfulBEq κ] {h : Host α κ} {c c' : κ} (hm : c' ∈ (h.add c).1.pool) :
    c' ∈ h.pool ∨ c' = c := by
  unfold add at hm
  repeat' split at hm
  all_goals simp_all

theorem self_mem_pool_add [LawfulBEq κ] {h : Host α κ} (hc : h.status ≠ .closed) (c : κ) :
    c ∈ (h.add c).1.pool := by
  unfold add
  rw [if_neg hc]
  dsimp only
  split <;> split <;> simp_all

theorem subset_pool_add {h : Host α κ} {c c' : κ} (hm : c' ∈ h.pool) :
    c' ∈ (h.add c).1.pool := by
  unfold add
  repeat' split
  all_goals simp_all

/-- A connection that is pooled is taken out. -/
theorem pool_remove [LawfulBEq κ] {h : Host α κ} {c : κ} (hc : c ∈ h.pool) :
    (h.remove c).1.pool = h.pool.erase c := by
  unfold remove
  simp [hc]

@[simp] theorem address_remove : (h.remove c).1.address = h.address := by
  unfold remove
  split <;> rfl

@[simp] theorem status_remove : (h.remove c).1.status = h.status := by
  unfold remove
  split <;> rfl

@[simp] theorem check_remove : (h.remove c).1.check = h.check := by
  unfold remove
  split <;> rfl

end

section

variable (h : Host α κ) (threshold : Option Nat)

@[simp] theorem address_recordFailure : (h.recordFailure threshold).1.address = h.address := by
  unfold recordFailure
  split <;> rfl

@[simp] theorem pool_recordFailure : (h.recordFailure threshold).1.pool = h.pool := by
  unfold recordFailure
  split <;> rfl

@[simp] theorem check_recordFailure : (h.recordFailure threshold).1.check = h.check := by
  unfold recordFailure
  split <;> rfl

@[simp] theorem address_activate : h.activate.address = h.address := by
  unfold activate
  split <;> rfl

@[simp] theorem pool_activate : h.activate.pool = h.pool := by
  unfold activate
  split <;> rfl

@[simp] theorem check_activate : h.activate.check = h.check := by
  unfold activate
  split <;> rfl

@[simp] theorem address_expire : h.expire.address = h.address := by
  unfold expire
  split <;> rfl

@[simp] theorem pool_expire : h.expire.pool = h.pool := by
  unfold expire
  split <;> rfl

@[simp] theorem check_expire : h.expire.check = h.check := by
  unfold expire
  split <;> rfl

@[simp] theorem address_close : h.close.1.address = h.address := by
  unfold close
  split <;> rfl

@[simp] theorem check_close : h.close.1.check = h.check := by
  unfold close
  split <;> rfl

@[simp] theorem status_close : h.close.1.status = .closed := by
  unfold close
  split
  · assumption
  · rfl

theorem mem_pool_close {h : Host α κ} {c : κ} (hm : c ∈ h.close.1.pool) : c ∈ h.pool := by
  unfold close at hm
  split at hm
  · exact hm
  · simp at hm

theorem mem_of_mem_close {h : Host α κ} {c : κ} (hm : c ∈ h.close.2) : c ∈ h.pool := by
  unfold close at hm
  split at hm
  · simp at hm
  · exact hm

/-- A host that is closed has nothing pooled, if that held before. -/
theorem pool_close (hp : h.status = .closed → h.pool = []) : h.close.1.pool = [] := by
  unfold close
  split
  · rename_i hc
    exact hp hc
  · rfl

/-- A connect that fails is counted, and the count may have reached the threshold. -/
theorem recordFailure_of_active (ha : h.status = .active) :
    let failures := min (h.failures + 1) maxFailures
    let crossed := threshold.any fun t => t ≤ failures
    h.recordFailure threshold =
      ({ h with failures, status := if crossed then .unhealthy else .active }, crossed) :=
  if_pos ha

/-- A connect that fails makes no difference to a host that is not active. -/
theorem recordFailure_of_ne (ha : h.status ≠ .active) :
    h.recordFailure threshold = (h, false) :=
  if_neg ha

/-- Only a connect to an active host that fails may make it unhealthy. -/
theorem active_of_recordFailure {h : Host α κ} {threshold : Option Nat}
    (hf : (h.recordFailure threshold).2 = true) : h.status = .active := by
  unfold recordFailure at hf
  split at hf
  · assumption
  · simp at hf

/-- A host becomes unhealthy only if there is a threshold. -/
theorem isSome_of_recordFailure {h : Host α κ} {threshold : Option Nat}
    (hf : (h.recordFailure threshold).2 = true) : threshold.isSome = true := by
  rw [recordFailure_of_active _ _ (active_of_recordFailure hf)] at hf
  cases threshold with
  | none => exact Bool.noConfusion hf
  | some limit => rfl

theorem status_recordFailure : (h.recordFailure threshold).1.status =
    if (h.recordFailure threshold).2 then .unhealthy else h.status := by
  unfold recordFailure
  split
  · rename_i ha
    simp only [ha]
  · rfl

theorem status_activate_ne_unhealthy : h.activate.status ≠ .unhealthy := by
  unfold activate
  split <;> simp_all

theorem status_expire_ne_unhealthy : h.expire.status ≠ .unhealthy := by
  unfold expire
  split <;> simp_all

theorem status_activate (hc : h.status ≠ .closed) : h.activate.status = .active := by
  unfold activate
  split <;> simp_all

theorem status_expire (hc : h.status ≠ .closed) : h.expire.status = .expired := by
  unfold expire
  split <;> simp_all

end

/-- What a host looks like. -/
def text (describe : α → String) (h : Host α κ) : String :=
  "Host \x7b address: " ++ describe h.address ++ ", status: " ++ h.status.name ++
    ", connections: " ++ toString h.pool.length ++
    ", consecutive_failures: " ++ toString h.failures ++ " \x7d"

end Host

/-- A host as its users see it. -/
structure HostSummary (α : Type) where
  address : α
  status : HostStatus
  connections : Nat
  failures : Nat
deriving DecidableEq

/-- The host at this moment. -/
def Host.summary {α κ : Type} (h : Host α κ) : HostSummary α where
  address := h.address
  status := h.status
  connections := h.pool.length
  failures := h.failures

end HostRotation
