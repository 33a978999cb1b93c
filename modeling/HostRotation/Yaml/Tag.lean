/-
# Reading YAML: tags

A tag names the type of a node. It is written in full between angle brackets,
or as a handle that stands for its beginning, followed by the rest of it.
Escapes in a tag give single octets, so a tag is a row of octets, which need
not be a text. A zero octet ends it.
-/
import HostRotation.Text.Digits
import HostRotation.Yaml.Cursor

namespace HostRotation
namespace Yaml

structure Tag where
  octets : List UInt8
deriving DecidableEq

namespace Tag

def ofText (s : String) : Tag := ⟨s.toUTF8.toList⟩

/-- The tag as a text, if it is one. -/
def text? (t : Tag) : Option String := String.fromUTF8? ⟨t.octets.toArray⟩

/-- The tag of integers. -/
def int : Tag := .ofText "tag:yaml.org,2002:int"

/-- The tag of nothing. -/
def null : Tag := .ofText "tag:yaml.org,2002:null"

/-- The name in a tag of the reader's own, which is an exclamation mark and a
name. -/
def localName? (t : Tag) : Option String :=
  match t.octets with
  | 0x21 :: o :: os => text? ⟨o :: os⟩
  | _ => none

/-! ### The characters of tags -/

/-- The octets before the first zero. -/
def untilZero (os : List UInt8) : List UInt8 := os.takeWhile fun o => o ≠ 0

/-- The characters that may stand in a tag. A comma or a square bracket may
stand only where no collection could be meant (`wide`). -/
def isTagChar (wide : Bool) (c : Char) : Bool :=
  isNameChar c || ";/?:@&=+$.%!~*'()".toList.contains c || (wide && ",[]".toList.contains c)

/-- How many octets encode a character, by the first of them. -/
def encodedLength? (first : Nat) : Option Nat :=
  if first < 0x80 then some 1
  else if first < 0xc0 then none
  else if first < 0xe0 then some 2
  else if first < 0xf0 then some 3
  else if first < 0xf8 then some 4
  else none

/-- Reads one octet, written as a percent sign and two digits. -/
def readOctet (c : Cursor) : Option (Nat × Cursor) :=
  match c.rest with
  | '%' :: a :: b :: _ => do return (← Text.natOfDigits? 16 [a, b], c.skipMany 3)
  | _ => none

/-- Reads so many octets that continue a character. -/
def readFurtherOctets : Nat → Cursor → Option (List UInt8 × Cursor)
  | 0, c => some ([], c)
  | n + 1, c => do
    let (o, c) ← readOctet c
    if o < 0x80 || 0xc0 ≤ o then none
    let (os, c) ← readFurtherOctets n c
    return (.ofNat o :: os, c)

/-- Reads a character that is written as octets. -/
def readEscaped (c : Cursor) : Option (List UInt8 × Cursor) := do
  let (o, c) ← readOctet c
  let (os, c) ← readFurtherOctets ((← encodedLength? o) - 1) c
  return (.ofNat o :: os, c)

/-- Reads characters of a tag. -/
def readChars (wide : Bool) : Nat → Cursor → Option (List UInt8 × Cursor)
  | 0, c => some ([], c)
  | fuel + 1, c =>
    match c.peek? with
    | none => some ([], c)
    | some ch =>
      if !isTagChar wide ch then some ([], c)
      else do
        let (os, c) ← if ch = '%' then readEscaped c else some ([.ofNat ch.toNat], c.skip)
        let (rest, c) ← readChars wide fuel c
        return (os ++ rest, c)

/-- Reads the octets of a tag, at least one. -/
def readOctets (wide : Bool) (c : Cursor) : Option (List UInt8 × Cursor) := do
  let (os, c) ← readChars wide c.rest.length c
  if os.isEmpty then none else return (os, c)

end Tag

/-! ### Tags as they are written -/

/-- A tag as it is written: a handle, which is empty when the tag is given in
full, and what follows it. -/
structure TagText where
  handle : String
  octets : List UInt8
deriving DecidableEq

namespace TagText

/-- Reads a tag between angle brackets. -/
def readFull (c : Cursor) : Option (TagText × Cursor) := do
  let (os, c) ← Tag.readOctets true (c.skipMany 2)
  if c.is '>' then return (⟨"", Tag.untilZero os⟩, c.skip) else none

/-- Reads a tag with a handle. A single exclamation mark is a tag by itself. -/
def readShort (c : Cursor) : Option (TagText × Cursor) := do
  let word := c.skip.rest.takeWhile isNameChar
  let c := c.skipMany (1 + word.length)
  if c.is '!' then
    let (os, c) ← Tag.readOctets false c.skip
    return (⟨"!" ++ String.ofList word ++ "!", Tag.untilZero os⟩, c)
  else
    let (os, c) ← Tag.readChars false c.rest.length c
    let os := Tag.untilZero ((String.ofList word).toUTF8.toList ++ os)
    return (if os.isEmpty then ⟨"", "!".toUTF8.toList⟩ else ⟨"!", os⟩, c)

/-- Reads a tag. A blank or a line break ends it, in a flow collection also a
comma. -/
def read (inFlow : Bool) (c : Cursor) : Option (TagText × Cursor) := do
  let (t, c) ← if c.skip.is '<' then readFull c else readShort c
  if c.isSpaceAt 0 || (inFlow && c.is ',') then return (t, c) else none

/-- Reads the handle of a directive. -/
def readHandle (c : Cursor) : Option (String × Cursor) :=
  if !c.is '!' then none
  else
    let word := c.skip.rest.takeWhile isNameChar
    let c := c.skipMany (1 + word.length)
    if c.is '!' then some ("!" ++ String.ofList word ++ "!", c.skip)
    else if word.isEmpty then some ("!", c)
    else none

/-- The tag that a written one stands for, given what the handles stand for. -/
def resolve? (handles : List (String × List UInt8)) (t : TagText) : Option Tag :=
  if t.handle = "" then some ⟨t.octets⟩
  else (handles.lookup t.handle).map fun start => ⟨start ++ t.octets⟩

/-- What handles stand for unless a directive says otherwise. -/
def standardHandles : List (String × List UInt8) :=
  [("!", "!".toUTF8.toList), ("!!", "tag:yaml.org,2002:".toUTF8.toList)]

end TagText
end Yaml
end HostRotation
