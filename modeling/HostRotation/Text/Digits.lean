/-
# Digits

Numbers written in digits of a radix up to sixteen.
-/

namespace HostRotation
namespace Text

/-- The value of a hexadecimal digit. -/
def digitValue? (c : Char) : Option Nat :=
  if '0' ≤ c && c ≤ '9' then some (c.toNat - '0'.toNat)
  else if 'a' ≤ c && c ≤ 'f' then some (c.toNat - 'a'.toNat + 10)
  else if 'A' ≤ c && c ≤ 'F' then some (c.toNat - 'A'.toNat + 10)
  else none

/-- Whether a character is a digit of a radix. -/
def isDigitOf (radix : Nat) (c : Char) : Bool := (digitValue? c).any fun v => v < radix

/-- The value of a row of digits. -/
def ofDigits (radix : Nat) (ds : List Char) : Nat :=
  ds.foldl (fun n d => n * radix + (digitValue? d).getD 0) 0

/-- The longest row of digits at the start, and what follows it. -/
def spanDigits (radix : Nat) (cs : List Char) : List Char × List Char :=
  (cs.takeWhile (isDigitOf radix), cs.dropWhile (isDigitOf radix))

/-- The value of a text that consists of digits, at least one. -/
def natOfDigits? (radix : Nat) (cs : List Char) : Option Nat :=
  if !cs.isEmpty && cs.all (isDigitOf radix) then some (ofDigits radix cs) else none

/-- The digits of a number in lower case. -/
def digitsText (radix n : Nat) : String := String.ofList (Nat.toDigits radix n)

end Text
end HostRotation
