/-
# Predicates over connections

The selectors of a rehearsal. What its callers know is which connections are
reserved.
-/
import HostRotation.Balancer.State

namespace HostRotation
namespace Rehearsal

/-- The connections that callers reserved. -/
abbrev Reservations := List ConnId

inductive Predicate
  | any
  | none
  /-- Reserves a connection that is not reserved; refuses one that is. -/
  | reserve
  | ids (list : List ConnId)
  | minId (id : ConnId)
  /-- Identifiers of this remainder modulo `divisor`. -/
  | remainder (divisor residue : Nat)
  | address (address : String)

namespace Predicate

/-- Whether a predicate that reserves nothing holds. -/
def holds (l : Link String) : Predicate → Bool
  | any => true
  | none => false
  | reserve => true
  | ids list => list.contains l.id
  | minId id => id ≤ l.id
  | remainder divisor residue => l.id % divisor = residue
  | address a => l.address = a

/-- The selector of a predicate. -/
def selector (p : Predicate) : Selector (Link String) Reservations := fun l reserved =>
  match p with
  | .reserve => if reserved.contains l.id then (false, reserved) else (true, l.id :: reserved)
  | p => (p.holds l, reserved)

end Predicate
end Rehearsal
end HostRotation
