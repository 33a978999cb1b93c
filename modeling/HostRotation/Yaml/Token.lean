/-
# Reading YAML: tokens

A text is cut into tokens from left to right. The marks of block collections
are not written: a collection starts where a line is indented further than
those around it and ends where one is indented less, so the lexer keeps the
columns of the open ones and puts in the tokens `blockSequenceStart`,
`blockMappingStart` and `blockEnd`.

Whether a node is a key shows only at the colon behind it. The lexer keeps,
for every open flow collection and for the block around them, the last place
where a key may have started. At the colon, the token `key` is put in there.
A key ends on the line on which it started and within 1024 characters. Where
a node can only be a key, a missing colon is an error.
-/
import HostRotation.Yaml.Scalar
import HostRotation.Yaml.Tag

namespace HostRotation
namespace Yaml

inductive Token
  /-- A directive that gives the version. -/
  | version (major minor : Nat)
  /-- A directive that says what a handle stands for. -/
  | handle (name : String) (octets : List UInt8)
  | documentStart
  | documentEnd
  | blockSequenceStart
  | blockMappingStart
  | blockEnd
  | flowSequenceStart
  | flowSequenceEnd
  | flowMappingStart
  | flowMappingEnd
  | blockEntry
  | flowEntry
  | key
  | value
  | reference (name : String)
  | anchor (name : String)
  | tag (tag : TagText)
  | scalar (style : ScalarStyle) (text : String)
  | streamEnd
deriving DecidableEq

/-- A place where a key may have started. -/
structure PossibleKey where
  /-- Whether nothing but a key can stand there. -/
  isRequired : Bool
  /-- How many tokens came before. -/
  position : Nat
  index : Nat
  line : Nat
  column : Nat

/-- Whether a key that started there would have ended before. -/
def PossibleKey.isOver (k : PossibleKey) (c : Cursor) : Bool :=
  k.line < c.line || k.index + 1024 < c.index

/-- The lexer, between two tokens. -/
structure Lexer where
  cursor : Cursor
  tokens : Array Token := #[]
  /-- The columns of the open block collections, the innermost first. -/
  columns : List Nat := []
  /-- The possible key in the innermost flow collection, or in the block. -/
  possibleKey : Option PossibleKey := none
  /-- The possible keys of the collections around it. -/
  outerKeys : List (Option PossibleKey) := []
  /-- Whether a key may start here. -/
  keyAllowed : Bool := true

namespace Lexer

/-- Whether a flow collection is open. -/
def inFlow (l : Lexer) : Bool := !l.outerKeys.isEmpty

/-- The column of the innermost block collection, `-1` outside of any. -/
def indent (l : Lexer) : Int :=
  match l.columns with
  | [] => -1
  | column :: _ => column

def emit (l : Lexer) (t : Token) : Lexer := { l with tokens := l.tokens.push t }

/-- Emits a token that is written with so many characters. -/
def emitMark (l : Lexer) (length : Nat) (t : Token) : Lexer :=
  { l.emit t with cursor := l.cursor.skipMany length }

/-! ### Possible keys -/

/-- Gives up the possible key, which is an error where one is required. -/
def dropKey (l : Lexer) : Option Lexer :=
  if l.possibleKey.any (·.isRequired) then none else some { l with possibleKey := none }

/-- Notes that a key may start here. -/
def noteKey (l : Lexer) : Option Lexer :=
  if l.keyAllowed then do
    let c := l.cursor
    let k : PossibleKey :=
      { isRequired := !l.inFlow && l.indent = c.column
        position := l.tokens.size, index := c.index, line := c.line, column := c.column }
    return { ← l.dropKey with possibleKey := some k }
  else some l

/-- Gives up the possible keys that would have ended before. -/
def dropKeysOver (l : Lexer) : Option Lexer :=
  let isOver (k : PossibleKey) := k.isOver l.cursor
  if (l.possibleKey :: l.outerKeys).any fun k => k.any fun k => k.isRequired && isOver k then none
  else
    let keep (k : Option PossibleKey) := k.filter fun k => !isOver k
    some { l with possibleKey := keep l.possibleKey, outerKeys := l.outerKeys.map keep }

/-! ### Block collections -/

/-- Opens a block collection at a column, if it is indented further than the
one around it. Its start is put before the token at `position`. -/
def openBlock (l : Lexer) (column position : Nat) (start : Token) : Lexer :=
  if !l.inFlow && l.indent < column then
    { l with
      columns := column :: l.columns
      tokens := l.tokens.insertIdxIfInBounds position start }
  else l

/-- Opens a block collection here, where only the start of a key may stand. -/
def openBlockHere (l : Lexer) (start : Token) : Option Lexer :=
  if l.inFlow then some l
  else if l.keyAllowed then some (l.openBlock l.cursor.column l.tokens.size start)
  else none

/-- Closes the block collections that are indented further than `column`. -/
def closeBlocks (l : Lexer) (column : Int) : Lexer :=
  if l.inFlow then l
  else
    let isInside (i : Nat) : Bool := column < (i : Int)
    { l with
      columns := l.columns.dropWhile isInside
      tokens := l.tokens ++ Array.replicate (l.columns.takeWhile isInside).length .blockEnd }

/-! ### Space -/

/-- Passes over blanks, comments and line breaks. In a block, a line break
allows a key, and a tab may not stand where a key is allowed. -/
def skipSpace : Nat → Lexer → Lexer
  | 0, l => l
  | fuel + 1, l =>
    let c := l.cursor
    let c := if c.column = 0 && c.is '\ufeff' then c.skip else c
    let c := c.skipWhile fun ch => ch = ' ' || (ch = '\t' && (l.inFlow || !l.keyAllowed))
    let c := if c.is '#' then c.skipWhile fun ch => !isBreak ch else c
    if c.atBreak then
      skipSpace fuel { l with cursor := c.skipBreak.2, keyAllowed := l.keyAllowed || !l.inFlow }
    else { l with cursor := c }

/-! ### Directives -/

/-- Reads a number of at most nine digits. -/
def readNumber (c : Cursor) : Option (Nat × Cursor) :=
  let digits := c.rest.takeWhile Char.isDigit
  if digits.isEmpty || 9 < digits.length then none
  else some (Text.ofDigits 10 digits, c.skipMany digits.length)

/-- Reads a version. -/
def readVersion (c : Cursor) : Option (Token × Cursor) := do
  let (major, c) ← readNumber (c.skipWhile isBlank)
  if !c.is '.' then none
  let (minor, c) ← readNumber c.skip
  return (.version major minor, c)

/-- Reads a handle and what it stands for. -/
def readHandleRule (c : Cursor) : Option (Token × Cursor) := do
  let (name, c) ← TagText.readHandle (c.skipWhile isBlank)
  if !c.atBlank then none
  let (octets, c) ← Tag.readOctets true (c.skipWhile isBlank)
  if !c.isSpaceAt 0 then none
  return (.handle name (Tag.untilZero octets), c)

/-- Reads a directive, which takes a whole line. -/
def readDirective (c : Cursor) : Option (Token × Cursor) := do
  let name := c.skip.rest.takeWhile isNameChar
  let c := c.skipMany (1 + name.length)
  if !c.isSpaceAt 0 then none
  let (t, c) ←
    match String.ofList name with
    | "YAML" => readVersion c
    | "TAG" => readHandleRule c
    | _ => none
  let c := c.skipWhile isBlank
  let c := if c.is '#' then c.skipWhile fun ch => !isBreak ch else c
  if c.atBreakOrEnd then return (t, c.skipBreak.2) else none

/-! ### Tokens -/

/-- A directive or a mark between documents, which closes all blocks. -/
def boundary (l : Lexer) (read : Cursor → Option (Token × Cursor)) : Option Lexer := do
  let l ← (l.closeBlocks (-1)).dropKey
  let (t, c) ← read l.cursor
  return { l.emit t with cursor := c, keyAllowed := false }

/-- The start of a flow collection, which may be a key. -/
def openFlow (l : Lexer) (start : Token) : Option Lexer := do
  let l ← l.noteKey
  return { l.emitMark 1 start with
    possibleKey := none, outerKeys := l.possibleKey :: l.outerKeys, keyAllowed := true }

/-- The end of a flow collection. -/
def closeFlow (l : Lexer) (stop : Token) : Option Lexer := do
  let l := { (← l.dropKey).emitMark 1 stop with keyAllowed := false }
  match l.outerKeys with
  | [] => return l
  | k :: ks => return { l with possibleKey := k, outerKeys := ks }

/-- The comma between the entries of a flow collection. -/
def nextInFlow (l : Lexer) : Option Lexer := do
  return { (← l.dropKey).emitMark 1 .flowEntry with keyAllowed := true }

/-- The dash before an entry of a block sequence. -/
def nextInBlock (l : Lexer) : Option Lexer := do
  let l ← (← l.openBlockHere .blockSequenceStart).dropKey
  return { l.emitMark 1 .blockEntry with keyAllowed := true }

/-- The mark before a key that is not simple. -/
def markKey (l : Lexer) : Option Lexer := do
  let l ← (← l.openBlockHere .blockMappingStart).dropKey
  return { l.emitMark 1 .key with keyAllowed := !l.inFlow }

/-- The colon before a value. If there is a possible key, it was one. -/
def markValue (l : Lexer) : Option Lexer :=
  match l.possibleKey with
  | some k =>
    let l := { l with tokens := l.tokens.insertIdxIfInBounds k.position .key, possibleKey := none }
    let l := l.openBlock k.column k.position .blockMappingStart
    some { l.emitMark 1 .value with keyAllowed := false }
  | none => do
    let l ← l.openBlockHere .blockMappingStart
    return { l.emitMark 1 .value with keyAllowed := !l.inFlow }

/-- A node or a property of one, which may be a key or the start of one. -/
def inNode (l : Lexer) (read : Cursor → Option (Token × Cursor)) : Option Lexer := do
  let l ← l.noteKey
  let (t, c) ← read l.cursor
  return { l.emit t with cursor := c, keyAllowed := false }

/-- Reads the name of an anchor after its mark. -/
def readName (token : String → Token) (c : Cursor) : Option (Token × Cursor) :=
  let name := c.skip.rest.takeWhile isNameChar
  let c := c.skipMany (1 + name.length)
  if !name.isEmpty && (c.isSpaceAt 0 || c.isOneOf "?:,]\x7d%@\x60") then
    some (token (String.ofList name), c)
  else none

/-- A block scalar. A key may start after it. -/
def blockScalar (l : Lexer) (style : ScalarStyle) : Option Lexer := do
  let l ← l.dropKey
  let (text, c) ← readBlock (style = .literal) l.indent l.cursor
  return { l.emit (.scalar style text) with cursor := c, keyAllowed := true }

def quotedScalar (l : Lexer) (quote : Char) (style : ScalarStyle) : Option Lexer :=
  l.inNode fun c => do
    let (text, c) ← readQuoted quote c
    return (.scalar style text, c)

/-- A plain scalar. A key may start after it if it ended with its line. -/
def plainScalar (l : Lexer) : Option Lexer := do
  let l ← l.noteKey
  let (text, isLineOver, c) ← readPlain l.inFlow (l.indent + 1) l.cursor
  return { l.emit (.scalar .plain text) with cursor := c, keyAllowed := isLineOver }

/-- Whether a plain scalar may start with a character here. -/
def startsPlain (l : Lexer) (ch : Char) : Bool :=
  let c := l.cursor
  match ch with
  | '-' => !(c.rest[1]?).any isBlank
  | '?' | ':' => !l.inFlow && !c.isSpaceAt 1
  | _ => !isBlank ch && !isBreak ch && !isFlowMark ch && !"#&*!|>'\"%@\x60".toList.contains ch

/-- Reads the token that starts with the character here. -/
def next (l : Lexer) (ch : Char) : Option Lexer :=
  let c := l.cursor
  let isMark : Bool := l.inFlow || c.isSpaceAt 1
  if c.column = 0 && ch = '%' then l.boundary readDirective
  else if c.atDocumentMark '-' then l.boundary fun c => some (.documentStart, c.skipMany 3)
  else if c.atDocumentMark '.' then l.boundary fun c => some (.documentEnd, c.skipMany 3)
  else if ch = '[' then l.openFlow .flowSequenceStart
  else if ch = '{' then l.openFlow .flowMappingStart
  else if ch = ']' then l.closeFlow .flowSequenceEnd
  else if ch = '}' then l.closeFlow .flowMappingEnd
  else if ch = ',' then l.nextInFlow
  else if ch = '-' && c.isSpaceAt 1 then l.nextInBlock
  else if ch = '?' && isMark then l.markKey
  else if ch = ':' && isMark then l.markValue
  else if ch = '*' then l.inNode (readName .reference)
  else if ch = '&' then l.inNode (readName .anchor)
  else if ch = '!' then
    l.inNode fun c => (TagText.read l.inFlow c).map fun (t, c) => (.tag t, c)
  else if ch = '|' && !l.inFlow then l.blockScalar .literal
  else if ch = '>' && !l.inFlow then l.blockScalar .folded
  else if ch = '\'' then l.quotedScalar ch .singleQuoted
  else if ch = '"' then l.quotedScalar ch .doubleQuoted
  else if l.startsPlain ch then l.plainScalar
  else none

/-- Reads tokens up to the end of the text. Every token takes a character, so
fuel for one more than there are is enough. -/
def run : Nat → Lexer → Option (Array Token)
  | 0, _ => none
  | fuel + 1, l => do
    let l ← (l.skipSpace (l.cursor.rest.length + 1)).dropKeysOver
    let l := l.closeBlocks l.cursor.column
    match l.cursor.peek? with
    | some ch => run fuel (← l.next ch)
    | none => return ((← (l.closeBlocks (-1)).dropKey).emit .streamEnd).tokens

end Lexer

/-- The tokens of a text, if it can be cut into tokens. -/
def Token.scan (text : String) : Option (List Token) :=
  let cs := text.toList
  if cs.all isAllowed then
    (Lexer.run (cs.length + 1) { cursor := { rest := cs } }).map Array.toList
  else none

end Yaml
end HostRotation
