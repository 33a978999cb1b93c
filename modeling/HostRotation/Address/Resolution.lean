/-
# Resolving static hosts

A static host list is resolved entry by entry. An entry that is a socket
address stands for itself. Otherwise its host is what precedes the last
colon, and what follows is the port; the host is looked up. Of what an entry
stands for, the family policy selects some, and every address is kept once,
at its first occurrence. The first entry that fails makes the whole list
fail.

The only names looked up here are numeric ones: IPv6 addresses, and IPv4
addresses in any of the older forms, with one to four parts in decimal, octal
or hexadecimal, of which the last one fills what the others leave.
-/
import HostRotation.Address.Family
import HostRotation.Address.Socket
import HostRotation.Error

namespace HostRotation

namespace Ipv4

/-- A part of an older form: hexadecimal after `0x`, octal after `0`, decimal
otherwise. -/
def partValue? (cs : List Char) : Option Nat :=
  match cs with
  | '0' :: 'x' :: ds | '0' :: 'X' :: ds => Text.natOfDigits? 16 ds
  | '0' :: ds => if ds.isEmpty then some 0 else Text.natOfDigits? 8 ds
  | ds => Text.natOfDigits? 10 ds

/-- The value of parts of which all but the last are single octets. -/
def ofParts? : List Nat → Option Nat
  | [a] => if a < 0x100000000 then some a else none
  | [a, b] => if a < 256 && b < 0x1000000 then some (a <<< 24 + b) else none
  | [a, b, c] =>
    if a < 256 && b < 256 && c < 0x10000 then some (a <<< 24 + b <<< 16 + c) else none
  | [a, b, c, d] =>
    if a < 256 && b < 256 && c < 256 && d < 256 then
      some (a <<< 24 + b <<< 16 + c <<< 8 + d)
    else none
  | _ => none

/-- An address in one of the older forms. -/
def ofOldForm? (s : String) : Option Ipv4 := do
  let parts ← (s.splitOn ".").mapM fun p => partValue? p.toList
  return .ofNat (← ofParts? parts)

end Ipv4

/-- Why an entry of a host list does not resolve. -/
inductive ResolutionFault
  /-- There is no colon. -/
  | noPort
  | badPort
  /-- The host holds a NUL character. -/
  | badName
  | unknownName
deriving DecidableEq

/-- The words for a resolution that failed. -/
def ResolutionFault.text : ResolutionFault → String
  | noPort => "invalid socket address"
  | badPort => "invalid port value"
  | badName => "file name contained an unexpected NUL byte"
  | unknownName => "failed to lookup address information: Name or service not known"

namespace Resolution

/-- Looks up a numeric name, for a port. -/
def lookupNumeric (name : String) (port : UInt16) : Except ResolutionFault (List SocketAddress) :=
  if name.toList.contains '\x00' then .error .badName
  else
    match Ipv4.ofOldForm? name with
    | some ip => .ok [.v4 ip port]
    | none =>
      match Ipv6.read name.toList with
      | none => .error .unknownName
      | some (ip, rest) =>
        let (scope, rest) := SocketAddress.readScope rest
        if rest.isEmpty then .ok [.v6 ip port scope] else .error .unknownName

/-- A port: decimal digits, which a plus sign may precede. -/
def portOf? (cs : List Char) : Option UInt16 :=
  let digits := (expectChar '+' cs).getD cs
  match Text.natOfDigits? 10 digits with
  | some n => if n < UInt16.size then some (.ofNat n) else none
  | none => none

/-- Splits an entry at its last colon. -/
def splitEntry? (entry : String) : Option (String × List Char) :=
  let cs := entry.toList.reverse
  let port := cs.takeWhile fun c => c ≠ ':'
  match cs.dropWhile fun c => c ≠ ':' with
  | [] => none
  | _ :: host => some (String.ofList host.reverse, port.reverse)

/-- What an entry of a host list stands for, given a way to look up names. -/
def lookupEntry (lookup : String → UInt16 → Except ResolutionFault (List SocketAddress))
    (entry : String) : Except ResolutionFault (List SocketAddress) :=
  match SocketAddress.parse? entry with
  | some a => .ok [a]
  | none =>
    match splitEntry? entry with
    | none => .error .noPort
    | some (name, port) =>
      match portOf? port with
      | none => .error .badPort
      | some port => lookup name port

section

variable {η ε β : Type} [DecidableEq β]

/-- Appends those addresses that are not in the list yet. -/
def addNew (known found : List β) : List β :=
  found.foldl (fun known a => if a ∈ known then known else known ++ [a]) known

/-- Resolves the entries that are left, after some addresses. -/
def resolveFrom (lookup : η → Except ε (List β)) (isIpv4 : β → Bool) (policy : FamilyPolicy) :
    List η → List β → Except ε (List β)
  | [], known => .ok known
  | entry :: entries, known =>
    match lookup entry with
    | .error e => .error e
    | .ok found =>
      resolveFrom lookup isIpv4 policy entries (addNew known (policy.select isIpv4 found))

/-- Resolves a host list, given what each entry stands for. -/
def resolveWith (lookup : η → Except ε (List β)) (isIpv4 : β → Bool) (policy : FamilyPolicy)
    (entries : List η) : Except ε (List β) :=
  resolveFrom lookup isIpv4 policy entries []

end

/-- Resolves a host list of numeric addresses. -/
def resolve (policy : FamilyPolicy) (entries : List String) :
    Except BalancerError (List SocketAddress) :=
  resolveWith (fun entry => (lookupEntry lookupNumeric entry).mapError fun f => .io f.text)
    SocketAddress.isIpv4 policy entries

end Resolution
end HostRotation
