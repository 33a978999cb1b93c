/-
# Reading YAML: characters and places

A place in a text, with its line and column, and the classes of characters
that matter there.
-/

namespace HostRotation
namespace Yaml

/-- Line breaks. A carriage return before a line feed makes one break with
it. -/
def isBreak (c : Char) : Bool :=
  c = '\n' || c = '\r' || c = '\u0085' || c = '\u2028' || c = '\u2029'

def isBlank (c : Char) : Bool := c = ' ' || c = '\t'

/-- The characters of names: ASCII letters, digits, dash and underscore. -/
def isNameChar (c : Char) : Bool := c.isAlphanum || c = '-' || c = '_'

/-- The marks of flow collections. -/
def isFlowMark (c : Char) : Bool := ",[]\x7b\x7d".toList.contains c

/-- The characters that a text may hold at all. -/
def isAllowed (c : Char) : Bool :=
  let n := c.toNat
  n = 0x09 || n = 0x0a || n = 0x0d || (0x20 ≤ n && n ≤ 0x7e) || n = 0x85 ||
    (0xa0 ≤ n && n ≤ 0xd7ff) || (0xe000 ≤ n && n ≤ 0xfffd) ||
    (0x10000 ≤ n && n ≤ 0x10ffff)

/-- A place in a text. -/
structure Cursor where
  rest : List Char
  index : Nat := 0
  line : Nat := 0
  column : Nat := 0

namespace Cursor

/-- The character here. -/
def peek? (c : Cursor) : Option Char := c.rest.head?

/-- Whether a certain character is here. -/
def is (c : Cursor) (ch : Char) : Bool := c.peek? = some ch

def isOneOf (c : Cursor) (chs : String) : Bool := (c.peek?).any fun ch => chs.toList.contains ch

def atEnd (c : Cursor) : Bool := c.rest.isEmpty

def atBlank (c : Cursor) : Bool := (c.peek?).any isBlank

def atBreak (c : Cursor) : Bool := (c.peek?).any isBreak

def atBreakOrEnd (c : Cursor) : Bool := c.atEnd || c.atBreak

/-- Whether a blank, a line break or the end is so many characters ahead. -/
def isSpaceAt (c : Cursor) (ahead : Nat) : Bool :=
  match c.rest[ahead]? with
  | none => true
  | some ch => isBlank ch || isBreak ch

/-- Passes over a character. -/
def skip (c : Cursor) : Cursor :=
  { c with rest := c.rest.tail, index := c.index + 1, column := c.column + 1 }

/-- Passes over so many characters. -/
def skipMany (c : Cursor) (n : Nat) : Cursor :=
  { c with rest := c.rest.drop n, index := c.index + n, column := c.column + n }

/-- Passes over characters of a class. -/
def skipWhile (p : Char → Bool) (c : Cursor) : Cursor := c.skipMany (c.rest.takeWhile p).length

/-- Passes over a line break, if there is one. Returns what it stands for: a
line feed, unless it separates lines or paragraphs by a character of its own. -/
def skipBreak (c : Cursor) : List Char × Cursor :=
  let after (n : Nat) (rest : List Char) : Cursor :=
    { rest, index := c.index + n, line := c.line + 1, column := 0 }
  match c.rest with
  | '\r' :: '\n' :: rest => (['\n'], after 2 rest)
  | ch :: rest =>
    if ch = '\u2028' || ch = '\u2029' then ([ch], after 1 rest)
    else if isBreak ch then (['\n'], after 1 rest)
    else ([], c)
  | [] => ([], c)

/-- Whether a line starts here with three dashes or three dots by
themselves. -/
def atDocumentMark (c : Cursor) (mark : Char) : Bool :=
  c.column = 0 && c.rest.take 3 = [mark, mark, mark] && c.isSpaceAt 3

def atDocumentBoundary (c : Cursor) : Bool := c.atDocumentMark '-' || c.atDocumentMark '.'

end Cursor
end Yaml
end HostRotation
