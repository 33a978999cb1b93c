/-
# IP addresses

IPv4 and IPv6 addresses, their texts, and readers that take an address from
the start of a text and return what follows.

An IPv6 address is written in groups of lower case hexadecimal digits; the
first of its longest runs of at least two zero groups is left out. An IPv4
address that is mapped into IPv6 keeps its dots. Readers accept more than is
ever written: either case of digits, zeros on the left of a group, and an
IPv4 address in place of the last two groups.
-/
import HostRotation.Text.Digits

namespace HostRotation

structure Ipv4 where
  a : UInt8
  b : UInt8
  c : UInt8
  d : UInt8
deriving DecidableEq

structure Ipv6 where
  groups : List UInt16
  length_groups : groups.length = 8
deriving DecidableEq

/-- Takes one character from the start of a text. -/
def expectChar (c : Char) : List Char → Option (List Char)
  | [] => none
  | d :: rest => if d = c then some rest else none

namespace Ipv4

/-- The address of a 32-bit number. -/
def ofNat (n : Nat) : Ipv4 :=
  ⟨.ofNat (n >>> 24), .ofNat (n >>> 16), .ofNat (n >>> 8), .ofNat n⟩

def text (ip : Ipv4) : String :=
  toString ip.a.toNat ++ "." ++ toString ip.b.toNat ++ "." ++ toString ip.c.toNat ++ "." ++
    toString ip.d.toNat

/-- Reads a number below 256 of at most three digits, none of them a zero on
the left. -/
def readOctet (cs : List Char) : Option (UInt8 × List Char) :=
  let (ds, rest) := Text.spanDigits 10 cs
  let n := Text.ofDigits 10 ds
  if ds.isEmpty || 3 < ds.length || (ds.head? = some '0' && 1 < ds.length) || 255 < n then none
  else some (.ofNat n, rest)

def read (cs : List Char) : Option (Ipv4 × List Char) := do
  let (a, cs) ← readOctet cs
  let (b, cs) ← readOctet (← expectChar '.' cs)
  let (c, cs) ← readOctet (← expectChar '.' cs)
  let (d, cs) ← readOctet (← expectChar '.' cs)
  return (⟨a, b, c, d⟩, cs)

/-- The two groups that an IPv4 address stands for. -/
def groups (ip : Ipv4) : List UInt16 :=
  [.ofNat (ip.a.toNat * 256 + ip.b.toNat), .ofNat (ip.c.toNat * 256 + ip.d.toNat)]

end Ipv4

namespace Ipv6

/-- The address of some leading groups, zeros, and some trailing groups. -/
def ofEnds? (front back : List UInt16) : Option Ipv6 :=
  let groups := front ++ List.replicate (8 - front.length - back.length) 0 ++ back
  if h : groups.length = 8 then some ⟨groups, h⟩ else none

/-- The IPv4 address that this one maps. -/
def mapped? (ip : Ipv6) : Option Ipv4 :=
  match ip.groups with
  | [0, 0, 0, 0, 0, 0xffff, x, y] => some (.ofNat (x.toNat <<< 16 + y.toNat))
  | _ => none

/-! ### Writing -/

/-- The length of the run of zeros at the start of some groups. -/
def zeroRun (gs : List UInt16) : Nat := (gs.takeWhile fun g => g = 0).length

/-- Where the first of the longest runs of zeros starts, and its length. -/
def longestZeroRun (gs : List UInt16) : Nat × Nat :=
  (List.range gs.length).foldl
    (fun best i => if best.2 < zeroRun (gs.drop i) then (i, zeroRun (gs.drop i)) else best) (0, 0)

def groupsText (gs : List UInt16) : String :=
  ":".intercalate (gs.map fun g => Text.digitsText 16 g.toNat)

def text (ip : Ipv6) : String :=
  match ip.mapped? with
  | some v4 => "::ffff:" ++ v4.text
  | none =>
    let (start, length) := longestZeroRun ip.groups
    if 1 < length then
      groupsText (ip.groups.take start) ++ "::" ++ groupsText (ip.groups.drop (start + length))
    else groupsText ip.groups

/-! ### Reading -/

/-- Reads a group of at most four digits. -/
def readGroup (cs : List Char) : Option (UInt16 × List Char) :=
  let (ds, rest) := Text.spanDigits 16 cs
  if ds.isEmpty || 4 < ds.length then none else some (.ofNat (Text.ofDigits 16 ds), rest)

/-- What was read of a row of groups. -/
structure Groups where
  groups : List UInt16
  endsInIpv4 : Bool
  rest : List Char

/-- Reads at most so many groups, with a colon before each but the first. An
IPv4 address may stand where two groups are left. -/
def readGroups : Nat → Bool → List Char → Groups
  | 0, _, cs => ⟨[], false, cs⟩
  | left + 1, isFirst, cs =>
    match if isFirst then some cs else expectChar ':' cs with
    | none => ⟨[], false, cs⟩
    | some body =>
      match if 0 < left then Ipv4.read body else none with
      | some (ip, rest) => ⟨ip.groups, true, rest⟩
      | none =>
        match readGroup body with
        | none => ⟨[], false, cs⟩
        | some (g, rest) =>
          let r := readGroups left false rest
          { r with groups := g :: r.groups }

def read (cs : List Char) : Option (Ipv6 × List Char) := do
  let front := readGroups 8 true cs
  if front.groups.length = 8 then
    return (← ofEnds? front.groups [], front.rest)
  if front.endsInIpv4 then none
  let cs ← expectChar ':' front.rest
  let cs ← expectChar ':' cs
  let back := readGroups (7 - front.groups.length) true cs
  return (← ofEnds? front.groups back.groups, back.rest)

end Ipv6

end HostRotation
