/-
# Reading YAML: scalars

Scalars are plain, quoted or blocks. Inside plain and quoted ones, line
breaks are folded: one becomes a space, further ones stay. A block keeps its
lines (literal), or folds those that are not indented further (folded); what
follows its last line is kept, cut to one line break, or left out, as its
header says.
-/
import HostRotation.Text.Digits
import HostRotation.Yaml.Cursor

namespace HostRotation
namespace Yaml

inductive ScalarStyle
  | plain
  | singleQuoted
  | doubleQuoted
  | literal
  | folded
deriving DecidableEq

/-- A text as it is put together: the characters so far, the latest first,
and the blanks and breaks that may come between them and the next. -/
structure Folding where
  text : List Char := []
  /-- Whether a line break came after the last character. -/
  broken : Bool := false
  /-- The first line break. -/
  first : List Char := []
  /-- The line breaks after it. -/
  further : List Char := []
  /-- The blanks, when there is no line break. -/
  blanks : List Char := []

namespace Folding

/-- What the blanks and breaks stand for. -/
def gap (f : Folding) : List Char :=
  if f.broken then
    if f.first.head? = some '\n' then if f.further.isEmpty then [' '] else f.further
    else f.first ++ f.further
  else f.blanks

/-- Appends what the blanks and breaks stand for. -/
def join (f : Folding) : Folding := { text := f.gap.reverse ++ f.text }

def push (f : Folding) (c : Char) : Folding := { f with text := c :: f.text }

def result (f : Folding) : String := String.ofList f.text.reverse

end Folding

/-- Gathers blanks and line breaks. Where a line may not be indented by a
tab, a tab before column `indent` is an error. -/
def gatherBlanks (indent : Option Int) : Nat → Cursor → Folding → Option (Cursor × Folding)
  | 0, c, f => some (c, f)
  | fuel + 1, c, f =>
    match c.rest with
    | [] => some (c, f)
    | ch :: _ =>
      if isBlank ch then
        if f.broken && ch = '\t' && indent.any fun i => (c.column : Int) < i then none
        else
          gatherBlanks indent fuel c.skip
            (if f.broken then f else { f with blanks := f.blanks ++ [ch] })
      else if isBreak ch then
        let (br, c) := c.skipBreak
        gatherBlanks indent fuel c
          (if f.broken then { f with further := f.further ++ br }
          else { f with broken := true, blanks := [], first := br })
      else some (c, f)

/-! ### Plain scalars -/

/-- Reads the characters of a plain scalar up to a blank, a break or a mark
that ends it. -/
def plainWord (inFlow : Bool) : Nat → Cursor → Folding → Option (Cursor × Folding)
  | 0, c, f => some (c, f)
  | fuel + 1, c, f =>
    match c.rest with
    | [] => some (c, f)
    | ch :: rest =>
      if isBlank ch || isBreak ch then some (c, f)
      else if inFlow && ch = ':' && rest.head?.any fun n => n = '?' || isFlowMark n then none
      else if (ch = ':' && c.isSpaceAt 1) || (inFlow && isFlowMark ch) then some (c, f)
      else plainWord inFlow fuel c.skip (f.join.push ch)

/-- Reads a plain scalar, word by word. In a block its further lines are
indented to column `indent` at least. -/
def plainWords (inFlow : Bool) (indent : Int) :
    Nat → Cursor → Folding → Option (Cursor × Folding)
  | 0, c, f => some (c, f)
  | fuel + 1, c, f =>
    if c.atDocumentBoundary || c.is '#' then some (c, f)
    else do
      let (c, f) ← plainWord inFlow c.rest.length c f
      if c.atBlank || c.atBreak then
        let (c, f) ← gatherBlanks (some indent) c.rest.length c f
        if !inFlow && (c.column : Int) < indent then return (c, f)
        plainWords inFlow indent fuel c f
      else return (c, f)

/-- Reads a plain scalar. Also says whether it ended after a line break. -/
def readPlain (inFlow : Bool) (indent : Int) (c : Cursor) : Option (String × Bool × Cursor) := do
  let (c, f) ← plainWords inFlow indent (c.rest.length + 1) c {}
  return (f.result, f.broken, c)

/-! ### Quoted scalars -/

/-- What a one-letter escape stands for. -/
def simpleEscape? : Char → Option Char
  | '0' => some '\x00'
  | 'a' => some '\x07'
  | 'b' => some '\x08'
  | 't' | '\t' => some '\t'
  | 'n' => some '\n'
  | 'v' => some '\x0b'
  | 'f' => some '\x0c'
  | 'r' => some '\r'
  | 'e' => some '\x1b'
  | ' ' => some ' '
  | '"' => some '"'
  | '/' => some '/'
  | '\\' => some '\\'
  | 'N' => some '\u0085'
  | '_' => some '\u00a0'
  | 'L' => some '\u2028'
  | 'P' => some '\u2029'
  | _ => none

/-- How many digits an escape by code point has. -/
def codeEscapeLength? : Char → Option Nat
  | 'x' => some 2
  | 'u' => some 4
  | 'U' => some 8
  | _ => none

/-- The character of a code point. -/
def charOfCode? (n : Nat) : Option Char :=
  if (0xd800 ≤ n && n ≤ 0xdfff) || 0x10ffff < n then none else some (Char.ofNat n)

/-- Reads an escape, after its backslash. -/
def readEscape (c : Cursor) : Option (Char × Cursor) := do
  let ch ← c.peek?
  match simpleEscape? ch with
  | some r => return (r, c.skip)
  | none =>
    let length ← codeEscapeLength? ch
    let digits := (c.rest.drop 1).take length
    if digits.length < length then none
    let n ← Text.natOfDigits? 16 digits
    return (← charOfCode? n, c.skipMany (1 + length))

/-- Reads the characters of a quoted scalar up to a blank, a break or its
end. -/
def quotedWord (quote : Char) : Nat → Cursor → Folding → Option (Cursor × Folding)
  | 0, c, f => some (c, f)
  | fuel + 1, c, f =>
    match c.rest with
    | [] => some (c, f)
    | ch :: rest =>
      if isBlank ch || isBreak ch then some (c, f)
      else if ch = quote then
        if quote = '\'' && rest.head? = some '\'' then
          quotedWord quote fuel (c.skipMany 2) (f.push '\'')
        else some (c, f)
      else if quote = '"' && ch = '\\' then
        if rest.head?.any isBreak then some (c.skip.skipBreak.2, { f with broken := true })
        else do
          let (r, c) ← readEscape c.skip
          quotedWord quote fuel c (f.push r)
      else quotedWord quote fuel c.skip (f.push ch)

/-- Reads a quoted scalar, after its opening quote, word by word. -/
def quotedWords (quote : Char) : Nat → Cursor → Folding → Option (Cursor × Folding)
  | 0, _, _ => none
  | fuel + 1, c, f =>
    if c.atDocumentBoundary || c.atEnd then none
    else do
      let (c, f) ← quotedWord quote c.rest.length c f
      if c.is quote then return (c.skip, f)
      let (c, f) ← gatherBlanks none c.rest.length c f
      quotedWords quote fuel c f.join

/-- Reads a quoted scalar. -/
def readQuoted (quote : Char) (c : Cursor) : Option (String × Cursor) := do
  let (c, f) ← quotedWords quote (c.rest.length + 1) c.skip {}
  return (f.result, c)

/-! ### Block scalars -/

/-- What is done with the line breaks at the end of a block. -/
inductive Chomping
  | strip
  | clip
  | keep
deriving DecidableEq

def chompingMark? : Option Char → Option Chomping
  | some '+' => some .keep
  | some '-' => some .strip
  | _ => none

/-- An indentation given in a header: a digit, but not zero. -/
def indentMark? (ch : Option Char) : Option Nat :=
  match ch with
  | some d => if d.isDigit then some (d.toNat - '0'.toNat) else none
  | none => none

/-- Reads the header of a block, after its mark: the chomping and the
indentation, in either order. -/
def readBlockHeader (c : Cursor) : Option (Chomping × Option Nat × Cursor) := do
  let (chomping, indent, c) :=
    match chompingMark? c.peek? with
    | some chomping =>
      match indentMark? c.skip.peek? with
      | some n => (chomping, some n, c.skipMany 2)
      | none => (chomping, none, c.skip)
    | none =>
      match indentMark? c.peek? with
      | some n =>
        match chompingMark? c.skip.peek? with
        | some chomping => (chomping, some n, c.skipMany 2)
        | none => (.clip, some n, c.skip)
      | none => (.clip, none, c)
  if indent = some 0 then none
  let c := c.skipWhile isBlank
  let c := if c.is '#' then c.skipWhile fun ch => !isBreak ch else c
  if c.atBreakOrEnd then return (chomping, indent, c.skipBreak.2) else none

/-- Reads empty lines and indentation. While the indentation of the block is
not known (`none`), all spaces are taken; the widest line decides. Returns the
line breaks, the widest line and the place after. -/
def blockBreaks (indent : Option Nat) : Nat → Cursor → List Char → Nat →
    Option (List Char × Nat × Cursor)
  | 0, _, _, _ => none
  | fuel + 1, c, breaks, widest =>
    let spaces := (c.rest.takeWhile fun ch => ch = ' ').length
    let taken :=
      match indent with
      | none => spaces
      | some i => min spaces (i - c.column)
    let c := c.skipMany taken
    let widest := max widest c.column
    if c.is '\t' && indent.all fun i => c.column < i then none
    else if c.atBreak then
      let (br, c) := c.skipBreak
      blockBreaks indent fuel c (breaks ++ br) widest
    else some (breaks, widest, c)

/-- A block as it is put together. -/
structure BlockText where
  text : List Char := []
  /-- The break at the end of the last line. -/
  lineBreak : List Char := []
  /-- The breaks of the empty lines after it. -/
  emptyLines : List Char := []
  /-- Whether the last line started with a blank. -/
  wasBlank : Bool := false

/-- Reads the lines of a block. -/
def blockLines (isLiteral : Bool) (indent : Nat) : Nat → Cursor → BlockText →
    Option (Cursor × BlockText)
  | 0, c, t => some (c, t)
  | fuel + 1, c, t =>
    if c.column = indent && !c.atEnd then do
      let isBlankLine := c.atBlank
      let between :=
        if !isLiteral && t.lineBreak.head? = some '\n' && !t.wasBlank && !isBlankLine then
          (if t.emptyLines.isEmpty then [' '] else []) ++ t.emptyLines
        else t.lineBreak ++ t.emptyLines
      let line := c.rest.takeWhile fun ch => !isBreak ch
      let (br, c) := (c.skipMany line.length).skipBreak
      let (empty, _, c) ← blockBreaks (some indent) (c.rest.length + 1) c [] 0
      blockLines isLiteral indent fuel c
        { text := t.text ++ between ++ line, lineBreak := br, emptyLines := empty,
          wasBlank := isBlankLine }
    else some (c, t)

/-- Reads a block scalar. The indentation of the collection around it is
`outer`, which is negative when there is none. -/
def readBlock (isLiteral : Bool) (outer : Int) (c : Cursor) : Option (String × Cursor) := do
  let (chomping, given, c) ← readBlockHeader c.skip
  let fixed : Option Nat := given.map fun n => n + outer.toNat
  let (breaks, widest, c) ← blockBreaks fixed (c.rest.length + 1) c [] 0
  let indent := fixed.getD (max (max widest (outer + 1).toNat) 1)
  let (c, t) ← blockLines isLiteral indent (c.rest.length + 1) c { emptyLines := breaks }
  let tail :=
    match chomping with
    | .strip => []
    | .clip => t.lineBreak
    | .keep => t.lineBreak ++ t.emptyLines
  return (String.ofList (t.text ++ tail), c)

end Yaml
end HostRotation
