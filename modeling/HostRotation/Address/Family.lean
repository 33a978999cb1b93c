/-
# Address families

Which of the addresses of a name are used, and in which order.
-/

namespace HostRotation

/-- What is kept of a list of IPv4 and IPv6 addresses. -/
inductive FamilyPolicy
  | ipv4Only
  | ipv6Only
  /-- IPv4 when there is any, IPv6 otherwise. -/
  | ipv4Preferred
  /-- IPv6 when there is any, IPv4 otherwise. -/
  | ipv6Preferred
  /-- Everything, IPv4 first. -/
  | ipv4First
  /-- Everything, IPv6 first. -/
  | ipv6First
deriving DecidableEq

namespace FamilyPolicy

/-- The names used in settings files. -/
def name : FamilyPolicy → String
  | ipv4Only => "ipv4_only"
  | ipv6Only => "ipv6_only"
  | ipv4Preferred => "ipv4_preferred"
  | ipv6Preferred => "ipv6_preferred"
  | ipv4First => "ipv4_preferred_return_all"
  | ipv6First => "ipv6_preferred_return_all"

def all : List FamilyPolicy :=
  [ipv4Only, ipv6Only, ipv4Preferred, ipv6Preferred, ipv4First, ipv6First]

/-- Prefer IPv4. -/
def standard : FamilyPolicy := ipv4Preferred

/-- The policy of a name. -/
def ofName? (s : String) : Option FamilyPolicy := all.find? fun p => p.name = s

theorem ofName?_name (p : FamilyPolicy) : ofName? p.name = some p := by
  cases p <;> decide +kernel

/-- Selects from a list, where `isIpv4` tells the families apart. The order
within a family is kept. -/
def select {β : Type} (policy : FamilyPolicy) (isIpv4 : β → Bool) (xs : List β) : List β :=
  let v4 := xs.filter isIpv4
  let v6 := xs.filter fun x => !isIpv4 x
  match policy with
  | ipv4Only => v4
  | ipv6Only => v6
  | ipv4Preferred => if v4.isEmpty then v6 else v4
  | ipv6Preferred => if v6.isEmpty then v4 else v6
  | ipv4First => v4 ++ v6
  | ipv6First => v6 ++ v4

end FamilyPolicy
end HostRotation
