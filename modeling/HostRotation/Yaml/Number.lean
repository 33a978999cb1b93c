/-
# Reading YAML: integers

An integer is decimal, or hexadecimal, octal or binary after `0x`, `0o` or
`0b`, and may have a sign in front. A decimal one has no leading zeros: what
has them is a text.
-/
import HostRotation.Text.Digits

namespace HostRotation
namespace Yaml

/-- The value of an integer without a sign. -/
def magnitude? : List Char → Option Nat
  | '0' :: 'x' :: ds => Text.natOfDigits? 16 ds
  | '0' :: 'o' :: ds => Text.natOfDigits? 8 ds
  | '0' :: 'b' :: ds => Text.natOfDigits? 2 ds
  | '0' :: _ :: _ => none
  | ds => Text.natOfDigits? 10 ds

/-- The value of an integer that has no minus sign. -/
def natOf? (text : String) : Option Nat :=
  match text.toList with
  | '+' :: cs => magnitude? cs
  | cs => magnitude? cs

/-- The value of an integer. -/
def intOf? (text : String) : Option Int :=
  match text.toList with
  | '-' :: cs => (magnitude? cs).map fun n => -n
  | '+' :: cs => (magnitude? cs).map fun n => n
  | cs => (magnitude? cs).map fun n => n

end Yaml
end HostRotation
