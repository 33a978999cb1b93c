/-
# Quoted text

A text between double quotes in which every character that would be hard to
see is escaped: the quote and the backslash by a backslash, tab, newline,
carriage return and NUL by a letter or digit, and every other character that
is not graphic, or that would combine with its neighbour, by its code point.
-/
import HostRotation.Text.Graphic

namespace HostRotation
namespace Text

/-- The code point in lower case hexadecimal, between braces. -/
def codePointEscape (c : Char) : List Char :=
  ['\\', 'u', '\x7b'] ++ Nat.toDigits 16 c.toNat ++ ['\x7d']

/-- How a character is written between double quotes. -/
def quotedChar (c : Char) : List Char :=
  if c = '"' then ['\\', '"']
  else if c = '\\' then ['\\', '\\']
  else if c = '\n' then ['\\', 'n']
  else if c = '\r' then ['\\', 'r']
  else if c = '\t' then ['\\', 't']
  else if c = '\x00' then ['\\', '0']
  else if isGraphic c && !isExtending c then [c]
  else codePointEscape c

/-- A text between double quotes. -/
def quoted (s : String) : String :=
  String.ofList ('"' :: s.toList.flatMap quotedChar ++ ['"'])

end Text
end HostRotation
