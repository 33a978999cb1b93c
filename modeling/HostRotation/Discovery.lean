/-
# Discovery

A source of hosts is subscribed to and then delivers notices: batches of host
events, until it fails or ends. Of the events of a batch that name one
address only the last one counts (`lastEvents`). A fixed source announces its
addresses once per subscription and then stays silent.
-/

namespace HostRotation

inductive DiscoveryStatus
  | available
  | expired
  | unavailable
deriving DecidableEq

/-- The name of a status. -/
def DiscoveryStatus.name : DiscoveryStatus → String
  | available => "available"
  | expired => "expired"
  | unavailable => "unavailable"

/-- What discovery says of one address. -/
structure HostEvent (α : Type) where
  address : α
  status : DiscoveryStatus
deriving DecidableEq

abbrev Batch (α : Type) := List (HostEvent α)

section

variable {α : Type} [DecidableEq α]

/-- The last event of every address, in the order of these events. -/
def lastEvents : Batch α → Batch α
  | [] => []
  | e :: es =>
    if es.any fun e' => e'.address = e.address then lastEvents es else e :: lastEvents es

/-- What a batch says last of an address. -/
def lastStatus (batch : Batch α) (a : α) : Option DiscoveryStatus :=
  (batch.reverse.find? fun e => e.address = a).map HostEvent.status

end

/-- One delivery of a subscription. -/
inductive Notice (α : Type)
  | batch (events : Batch α)
  | failed (reason : String)
  | ended

/-- A subscription: everything delivered to it, and how much of that was
taken. -/
structure Subscription (α : Type) where
  notices : List (Notice α) := []
  taken : Nat := 0

namespace Subscription

variable {α : Type}

/-- The oldest notice that was not taken yet. -/
def next? (s : Subscription α) : Option (Notice α) := s.notices[s.taken]?

/-- Takes one notice. -/
def take (s : Subscription α) : Subscription α := { s with taken := s.taken + 1 }

/-- Delivers a notice. -/
def deliver (s : Subscription α) (n : Notice α) : Subscription α :=
  { s with notices := s.notices ++ [n] }

end Subscription

/-- Where hosts come from. -/
inductive DiscoverySource (α : Type)
  /-- Notices arrive as they are delivered. -/
  | live
  /-- These addresses, once per subscription. -/
  | fixed (addresses : List α)

/-- The announcement of a fixed set of addresses. -/
def announcement {α : Type} (addresses : List α) : Batch α :=
  addresses.map fun a => ⟨a, .available⟩

/-- A fresh subscription to a source. -/
def DiscoverySource.subscribe {α : Type} : DiscoverySource α → Subscription α
  | live => {}
  | fixed addresses => { notices := [.batch (announcement addresses)] }

end HostRotation
