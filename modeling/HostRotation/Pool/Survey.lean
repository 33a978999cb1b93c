/-
# Surveys of the search

What one search of a pool did, part by part, and how the choices of many
searches of the same pool are spread. The connections of the pool are
numbered by their place in it.
-/
import HostRotation.Pool.Search
import HostRotation.Tape

namespace HostRotation
namespace Pool

/-- One search. The first part are the places below `linear`, the rest are
the others. -/
structure Survey where
  found : Option Nat
  /-- The places of the first part that were shown to the selector, in order. -/
  firstShown : List Nat
  firstClosed : List Nat
  /-- The places of the rest that were shown, in the order of the draw. -/
  restShown : List Nat
  restClosed : List Nat
  /-- The number of places in the rest. -/
  rest : Nat
  /-- The open places of the rest that the selector accepts. -/
  restAcceptable : Nat

namespace Survey

/-- Whether the connection was found in the rest. -/
def foundInRest (s : Survey) : Bool := s.found.any fun i => s.restShown.contains i

/-- How many places of the rest were looked at. -/
def restProbed (s : Survey) : Nat := s.restShown.length + s.restClosed.length

/-- Whether some place of the rest was looked at twice. -/
def hasRepeats (s : Survey) : Bool := !decide (s.restShown ++ s.restClosed).Nodup

end Survey

variable {σ : Type}

/-- A search of a pool of `size` connections, with the tape after it. -/
def trial (linear size : Nat) (isClosed : Nat → Bool) (accepts : Selector Nat σ) (s : σ)
    (t : Tape) : Finding Nat σ × Tape :=
  let rest := size - linear
  let (drawn, t) := t.sample rest (probeBudget rest)
  (search linear drawn isClosed accepts (List.range size) s, t)

def survey (linear size : Nat) (isClosed : Nat → Bool) (accepts : Selector Nat σ) (s : σ)
    (t : Tape) : Survey :=
  let f := (trial linear size isClosed accepts s t).1
  let shown := f.shown.map Prod.fst
  { found := f.found
    firstShown := shown.filter fun i => i < linear
    firstClosed := f.closed.filter fun i => i < linear
    restShown := shown.filter fun i => linear ≤ i
    restClosed := f.closed.filter fun i => linear ≤ i
    rest := size - linear
    restAcceptable := ((List.range size).filter fun i =>
      linear ≤ i && !isClosed i && (accepts i s).1).length }

/-- What `n` searches in a row found. Callers know the same before each. -/
def picks (linear size : Nat) (isClosed : Nat → Bool) (accepts : Selector Nat σ) (s : σ) :
    Nat → Tape → List (Option Nat)
  | 0, _ => []
  | n + 1, t =>
    let (f, t) := trial linear size isClosed accepts s t
    f.found :: picks linear size isClosed accepts s n t

/-- How the choices of some searches are spread. -/
structure Spread where
  /-- The places ever found, in ascending order. -/
  picked : List Nat
  /-- Whether some search found nothing. -/
  missed : Bool
  /-- Whether each of them was found more than half, and less than twice, as
  often as an equal share. -/
  balanced : Bool

def spread (size : Nat) (found : List (Option Nat)) : Spread :=
  let times (i : Nat) : Nat := found.count (some i)
  let picked := (List.range size).filter fun i => 0 < times i
  let share := found.length / max 1 picked.length
  { picked
    missed := found.contains none
    balanced := picked.all fun i => share < 2 * times i && times i < 2 * share }

end Pool
end HostRotation
