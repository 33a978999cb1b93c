/-
# Reading YAML: nodes

A document is a node: a scalar, a sequence or a mapping, with an anchor and a
tag if they are given, or a reference to a node with an anchor. A text holds
one document at most; one without any token holds none.

Anchors are numbered. The number of an anchor is how many names were known
before, so a name that is used again may share the number of a later one. A
reference stands for the last node of its number.
-/
import HostRotation.Yaml.Token

namespace HostRotation
namespace Yaml

/-- What may be said of a node before it. -/
structure Properties where
  anchor : Option Nat := none
  tag : Option Tag := none
deriving DecidableEq

inductive Node
  | scalar (properties : Properties) (style : ScalarStyle) (text : String)
  | sequence (properties : Properties) (items : List Node)
  | mapping (properties : Properties) (entries : List (Node × Node))
  | reference (anchor : Nat)

namespace Node

/-- The node that stands where none is written. -/
def empty : Node := .scalar {} .plain ""

/-- A node with its anchor, if it has one. -/
def labelled (p : Properties) (n : Node) : List (Nat × Node) :=
  match p.anchor with
  | some a => [(a, n)]
  | none => []

/-- The nodes with an anchor, in the order in which they start. -/
def anchored : Node → List (Nat × Node)
  | .scalar p style text => labelled p (.scalar p style text)
  | .sequence p items => labelled p (.sequence p items) ++ anchoredItems items
  | .mapping p entries => labelled p (.mapping p entries) ++ anchoredEntries entries
  | .reference _ => []
where
  anchoredItems : List Node → List (Nat × Node)
    | [] => []
    | n :: ns => anchored n ++ anchoredItems ns
  anchoredEntries : List (Node × Node) → List (Nat × Node)
    | [] => []
    | (k, v) :: es => anchored k ++ anchored v ++ anchoredEntries es

/-- The last node that has an anchor. -/
def find? (root : Node) (anchor : Nat) : Option Node := root.anchored.reverse.lookup anchor

/-- The node that a node stands for in a document. -/
def follow? (root : Node) : Node → Option Node
  | .reference anchor => root.find? anchor
  | n => some n

end Node

/-! ### From tokens to nodes -/

/-- What is left to read, and what is known from what was read. -/
structure Reader where
  tokens : List Token
  handles : List (String × List UInt8) := TagText.standardHandles
  anchors : List (String × Nat) := []

/-- Reading some part of a document, which may fail. -/
abbrev Reading (α : Type) := StateT Reader Option α

namespace Reading

/-- The next token. -/
def peek : Reading Token := do
  match (← get).tokens with
  | t :: _ => return t
  | [] => failure

def skip : Reading Unit := modify fun r => { r with tokens := r.tokens.tail }

/-- Reads a certain token. -/
def expect (t : Token) : Reading Unit := do
  if (← peek) = t then skip else failure

/-- The number of a known anchor. -/
def anchorOf (name : String) : Reading Nat := do
  match (← get).anchors.lookup name with
  | some a => return a
  | none => failure

/-- Makes an anchor known. -/
def define (name : String) : Reading Nat := do
  let known := (← get).anchors
  let a := known.length
  modify fun r => { r with anchors := (name, a) :: known.filter fun k => k.1 ≠ name }
  return a

/-- Reads an anchor, if there is one. -/
def anchorName? : Reading (Option String) := do
  match ← peek with
  | .anchor name => skip; return some name
  | _ => return none

/-- Reads a tag, if there is one. -/
def tagText? : Reading (Option TagText) := do
  match ← peek with
  | .tag t => skip; return some t
  | _ => return none

/-- Reads an anchor and a tag, in either order. -/
def properties : Reading Properties := do
  let first ← anchorName?
  let written ← tagText?
  let name ← if first.isNone && written.isSome then anchorName? else pure first
  let tag ←
    match written with
    | none => pure none
    | some t =>
      match t.resolve? (← get).handles with
      | some tag => pure (some tag)
      | none => failure
  match name with
  | none => return { tag }
  | some name => return { anchor := ← define name, tag }

/-- Reads a part, unless a token shows that it was left out. -/
def orEmpty (ends : List Token) (part : Reading Node) : Reading Node := do
  if ends.contains (← peek) then return .empty else part

/-- Reads what stands behind a colon, if there is one. -/
def valueOrEmpty (ends : List Token) (part : Reading Node) : Reading Node := do
  if (← peek) = .value then
    skip
    orEmpty ends part
  else return .empty

/-- Reads the comma between two entries of a flow collection. None stands
before the first. -/
def separator (isFirst : Bool) : Reading Unit := if isFirst then pure () else expect .flowEntry

mutual

/-- Reads a node. Block collections may stand in blocks only, and a block
sequence without an indentation of its own only in an entry of a mapping. -/
def node (inBlock inEntry : Bool) : Nat → Reading Node
  | 0 => failure
  | fuel + 1 => do
    if let .reference name ← peek then
      skip
      return .reference (← anchorOf name)
    let p ← properties
    match ← peek with
    | .blockEntry =>
      if inEntry then return .sequence p (← flatItems fuel)
      else if p = {} then failure
      else return .scalar p .plain ""
    | .scalar style text =>
      skip
      let tag := if p.tag = some (.ofText "!") then none else p.tag
      return .scalar { p with tag } style text
    | .flowSequenceStart =>
      skip
      return .sequence p (← flowItems true fuel)
    | .flowMappingStart =>
      skip
      return .mapping p (← flowEntries true fuel)
    | t =>
      if inBlock && t = .blockSequenceStart then
        skip
        return .sequence p (← blockItems fuel)
      else if inBlock && t = .blockMappingStart then
        skip
        return .mapping p (← blockEntries fuel)
      else if p = {} then failure
      else return .scalar p .plain ""

/-- Reads the items of a block sequence. -/
def blockItems : Nat → Reading (List Node)
  | 0 => failure
  | fuel + 1 => do
    match ← peek with
    | .blockEntry =>
      skip
      let n ← orEmpty [.blockEntry, .blockEnd] (node true false fuel)
      return n :: (← blockItems fuel)
    | .blockEnd => skip; return []
    | _ => failure

/-- Reads the items of a block sequence without an indentation of its own. -/
def flatItems : Nat → Reading (List Node)
  | 0 => failure
  | fuel + 1 => do
    match ← peek with
    | .blockEntry =>
      skip
      let n ← orEmpty [.blockEntry, .key, .value, .blockEnd] (node true false fuel)
      return n :: (← flatItems fuel)
    | _ => return []

/-- Reads the entries of a block mapping. -/
def blockEntries : Nat → Reading (List (Node × Node))
  | 0 => failure
  | fuel + 1 => do
    match ← peek with
    | .key =>
      skip
      let k ← orEmpty [.key, .value, .blockEnd] (node true true fuel)
      let v ← valueOrEmpty [.key, .value, .blockEnd] (node true true fuel)
      return (k, v) :: (← blockEntries fuel)
    | .blockEnd => skip; return []
    | _ => failure

/-- Reads the items of a flow sequence. A key there starts a mapping of a
single entry; if nothing stands between its mark and the next, that mark is
passed over with it. -/
def flowItems (isFirst : Bool) : Nat → Reading (List Node)
  | 0 => failure
  | fuel + 1 => do
    if (← peek) = .flowSequenceEnd then
      skip
      return []
    separator isFirst
    match ← peek with
    | .flowSequenceEnd => skip; return []
    | .key =>
      skip
      let t ← peek
      let k ←
        if [Token.value, .flowEntry, .flowSequenceEnd].contains t then do
          skip
          pure Node.empty
        else node false false fuel
      let v ← valueOrEmpty [.flowEntry, .flowSequenceEnd] (node false false fuel)
      return .mapping {} [(k, v)] :: (← flowItems false fuel)
    | _ =>
      let n ← node false false fuel
      return n :: (← flowItems false fuel)

/-- Reads the entries of a flow mapping. -/
def flowEntries (isFirst : Bool) : Nat → Reading (List (Node × Node))
  | 0 => failure
  | fuel + 1 => do
    if (← peek) = .flowMappingEnd then
      skip
      return []
    separator isFirst
    match ← peek with
    | .flowMappingEnd => skip; return []
    | .key =>
      skip
      let k ← orEmpty [.value, .flowEntry, .flowMappingEnd] (node false false fuel)
      let v ← valueOrEmpty [.flowEntry, .flowMappingEnd] (node false false fuel)
      return (k, v) :: (← flowEntries false fuel)
    | _ =>
      let k ← node false false fuel
      return (k, .empty) :: (← flowEntries false fuel)

end

/-- Reads the directives before a document. Each may be given once, and the
version is one that this reader knows. -/
def directives : Nat → Option (Nat × Nat) → List (String × List UInt8) →
    Reading (List (String × List UInt8))
  | 0, _, _ => failure
  | fuel + 1, version, handles => do
    match ← peek with
    | .version major minor =>
      if version.isSome || major ≠ 1 || (minor ≠ 1 && minor ≠ 2) then failure
      skip
      directives fuel (some (major, minor)) handles
    | .handle name octets =>
      if handles.any fun h => h.1 = name then failure
      skip
      directives fuel version ((name, octets) :: handles)
    | _ => return handles

/-- Whether a token can only stand between documents. -/
def isBetweenDocuments : Token → Bool
  | .version _ _ | .handle _ _ | .documentStart | .documentEnd | .streamEnd => true
  | _ => false

/-- Reads the start of a document. Directives and the mark of a start come
together; without either, the document has to have content. Returns whether it
may be empty. -/
def documentStart : Reading Bool := do
  match ← peek with
  | .version _ _ | .handle _ _ | .documentStart =>
    let handles ← directives ((← get).tokens.length + 1) none []
    modify fun r => { r with handles := handles ++ TagText.standardHandles }
    expect .documentStart
    return true
  | _ => return false

/-- Reads the only document of a text, if there is one. Every two steps down
pass over a token, which bounds the fuel. -/
def document : Reading (Option Node) := do
  if (← peek) = .streamEnd then return none
  let mayBeEmpty ← documentStart
  let content := node true false (2 * (← get).tokens.length + 2)
  let root ← if mayBeEmpty && isBetweenDocuments (← peek) then pure Node.empty else content
  modify fun r => { r with tokens := r.tokens.dropWhile fun t => t = .documentEnd }
  expect .streamEnd
  return some root

end Reading

/-- What a text holds: nothing, or a node. -/
structure Document where
  root : Option Node

/-- Reads a text, if it is well formed. -/
def Document.ofText? (text : String) : Option Document := do
  let tokens ← Token.scan text
  let (root, _) ← Reading.document.run { tokens }
  return { root }

end Yaml
end HostRotation
