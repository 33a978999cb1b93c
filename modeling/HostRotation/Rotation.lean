/-
# Rotation

The position at which the next pass over the hosts starts. The counter is one
64-bit word that every pass advances by one, whatever the number of hosts; a
pass over `n` hosts starts at the remainder modulo `n`.
-/

namespace HostRotation

/-- The counter of passes begun so far. -/
structure Rotation where
  counter : UInt64 := 0
deriving DecidableEq

namespace Rotation

/-- Advances the counter, which wraps around in the end. -/
def advance (r : Rotation) : Rotation := ⟨r.counter + 1⟩

/-- Where a pass over `hosts` hosts starts; there is no such place among no
hosts. -/
def start? (r : Rotation) (hosts : Nat) : Option Nat :=
  if hosts = 0 then none else some (r.counter.toNat % hosts)

/-- The starts of passes that follow each other, over so many hosts each. -/
def starts (r : Rotation) : List Nat → List (Option Nat)
  | [] => []
  | n :: ns => r.start? n :: r.advance.starts ns

end Rotation

/-- The entries of a list in cyclic order from position `start` on. -/
def cyclicFrom {β : Type} (start : Nat) (xs : List β) : List β :=
  xs.drop start ++ xs.take start

end HostRotation
