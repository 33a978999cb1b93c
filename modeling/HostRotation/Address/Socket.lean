/-
# Socket addresses

An IP address and a port: `127.0.0.1:80`, `[::1]:80`. An IPv6 address may
carry a numeric scope: `[fe80::1%2]:80`.
-/
import HostRotation.Address.Ip

namespace HostRotation

inductive SocketAddress
  | v4 (ip : Ipv4) (port : UInt16)
  | v6 (ip : Ipv6) (port : UInt16) (scope : UInt32)
deriving DecidableEq

namespace SocketAddress

def isIpv4 : SocketAddress → Bool
  | v4 _ _ => true
  | v6 _ _ _ => false

def text : SocketAddress → String
  | v4 ip port => ip.text ++ ":" ++ toString port.toNat
  | v6 ip port scope =>
    let zone := if scope = 0 then "" else "%" ++ toString scope.toNat
    "[" ++ ip.text ++ zone ++ "]:" ++ toString port.toNat

/-- Reads a decimal number below `limit`, of any number of digits. -/
def readBelow (limit : Nat) (cs : List Char) : Option (Nat × List Char) :=
  let (ds, rest) := Text.spanDigits 10 cs
  let n := Text.ofDigits 10 ds
  if ds.isEmpty || limit ≤ n then none else some (n, rest)

/-- Reads a colon and a port up to the end. -/
def readPort (cs : List Char) : Option UInt16 := do
  let (n, rest) ← readBelow UInt16.size (← expectChar ':' cs)
  if rest.isEmpty then return .ofNat n else none

/-- Reads a scope if there is one. -/
def readScope (cs : List Char) : UInt32 × List Char :=
  match expectChar '%' cs >>= readBelow UInt32.size with
  | some (n, rest) => (.ofNat n, rest)
  | none => (0, cs)

/-- The socket address that a text consists of. -/
def parse? (s : String) : Option SocketAddress :=
  (do
    let (ip, rest) ← Ipv4.read s.toList
    return v4 ip (← readPort rest)) <|>
  (do
    let (ip, rest) ← Ipv6.read (← expectChar '[' s.toList)
    let (scope, rest) := readScope rest
    return v6 ip (← readPort (← expectChar ']' rest)) scope)

end SocketAddress
end HostRotation
