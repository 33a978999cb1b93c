/-
# Configuration files

A configuration file is a YAML document: a mapping whose keys are the names
of the fields. Fields that are left out have their standard values, as has
everything if the document or a section is empty. Unknown keys are passed
over; a known key may stand once.

A number is written as a plain scalar, a text as any scalar. Nothing at all
stands for an empty list, and for the absence of an optional number, which
may also be written `null` or `~`.

What is done with a file once its text is read is the same for other readers of
records (`Config.ofFileWith`).
-/
import HostRotation.Config
import HostRotation.Yaml.Node
import HostRotation.Yaml.Number

namespace HostRotation

/-- Why a file cannot be read. -/
inductive UnreadableFile
  | missing
  | forbidden
  /-- A part of the path that should be a folder is a file. -/
  | belowFile
  | isFolder
  | nameTooLong
  | other (reason : String)
deriving DecidableEq

/-- The words for a file that cannot be read. -/
def UnreadableFile.text : UnreadableFile → String
  | missing => "No such file or directory (os error 2)"
  | forbidden => "Permission denied (os error 13)"
  | belowFile => "Not a directory (os error 20)"
  | isFolder => "Is a directory (os error 21)"
  | nameTooLong => "File name too long (os error 36)"
  | other reason => reason

namespace Config

open Yaml

/-! ### Fields and values -/

/-- The text of a scalar. -/
def text? (root n : Node) : Option String :=
  match root.follow? n with
  | some (.scalar _ _ text) => some text
  | _ => none

/-- The fields of a section. A section where nothing stands has none. -/
def fields? (root n : Node) : Option (List (String × Node)) :=
  match root.follow? n with
  | some (.mapping _ entries) => entries.mapM fun e => do return (← text? root e.1, e.2)
  | some (.scalar _ .plain "") => some []
  | _ => none

/-- The value of a field, or the standard one if there is no such field. -/
def field? {β : Type} (fields : List (String × Node)) (name : String) (read : Node → Option β)
    (standard : β) : Option β :=
  match fields.filter fun f => f.1 = name with
  | [] => some standard
  | [f] => read f.2
  | _ => none

/-- Whether a scalar may be a number. -/
def mayBeNumber (p : Properties) (style : ScalarStyle) : Bool :=
  style = .plain || (style = .literal && p.tag = some Tag.int)

/-- A number of 64 bits without a sign. -/
def word? (root n : Node) : Option UInt64 :=
  match root.follow? n with
  | some (.scalar p style text) =>
    if mayBeNumber p style then
      match natOf? text with
      | some k => if k < UInt64.size then some (.ofNat k) else none
      | none => none
    else none
  | _ => none

/-- A number of 32 bits with a sign. -/
def int? (root n : Node) : Option Int :=
  match root.follow? n with
  | some (.scalar p style text) =>
    if mayBeNumber p style then
      match intOf? text with
      | some k => if -0x80000000 ≤ k && k < 0x80000000 then some k else none
      | none => none
    else none
  | _ => none

/-- Whether a plain scalar stands for nothing. -/
def isNull (text : String) : Bool := ["~", "null", "Null", "NULL"].contains text

/-- An optional number. A tag says whether it is there. -/
def optionalWord? (root n : Node) : Option (Option UInt64) :=
  let given := (word? root n).map some
  match root.follow? n with
  | some (.scalar p .plain text) =>
    match p.tag with
    | none => if text = "" || isNull text then some none else given
    | some tag =>
      if tag = Tag.null then if isNull text then some none else none
      else given
  | _ => given

/-- A list of texts. -/
def texts? (root n : Node) : Option (List String) :=
  match root.follow? n with
  | some (.sequence _ items) => items.mapM (text? root)
  | some (.scalar _ .plain "") => some []
  | _ => none

/-- A family policy, by its name. The name may also be a tag before
nothing. -/
def families? (root n : Node) : Option FamilyPolicy :=
  match root.follow? n with
  | some (.scalar p style text) =>
    match p.tag.bind Tag.localName? with
    | some name =>
      if style = .plain && (text = "" || isNull text) then FamilyPolicy.ofName? name else none
    | none => FamilyPolicy.ofName? text
  | _ => none

/-! ### Sections -/

def health? (root n : Node) : Option HealthConfig := do
  let fields ← fields? root n
  let standard : HealthConfig := {}
  return {
    intervalMs := ← field? fields "interval_ms" (word? root) standard.intervalMs
    jitterMs := ← field? fields "jitter_ms" (optionalWord? root) standard.jitterMs
    threshold := ← field? fields "failed_connections_threshold" (int? root) standard.threshold }

def resubscribe? (root n : Node) : Option ResubscribeConfig := do
  let fields ← fields? root n
  let standard : ResubscribeConfig := {}
  return {
    intervalMs := ← field? fields "interval_ms" (word? root) standard.intervalMs
    jitterMs := ← field? fields "jitter_ms" (word? root) standard.jitterMs }

/-- The record in a node. -/
def ofNode? (root : Node) : Option Config := do
  let fields ← fields? root root
  let standard : Config := {}
  return {
    linearSpace :=
      ← field? fields "linear_search_space" (fun n => (word? root n).map (·.toNat))
        standard.linearSpace
    health := ← field? fields "health_check" (health? root) standard.health
    resubscribe := ← field? fields "resubscribe" (resubscribe? root) standard.resubscribe
    hosts := ← field? fields "hosts" (texts? root) standard.hosts
    families := ← field? fields "address_types" (families? root) standard.families }

/-- The record in a text. -/
def ofText? (text : String) : Option Config :=
  match Document.ofText? text with
  | some ⟨some root⟩ => ofNode? root
  | some ⟨none⟩ => some {}
  | none => none

/-- Reads a record that is written as YAML. -/
def ofYaml (text : String) : Except String Config :=
  match ofText? text with
  | some c => .ok c
  | none => .error "not a valid configuration"

/-! ### Files -/

/-- Reads a record with a reader, which gives a record or the details of its
refusal, and validates it. -/
def readWith (reader : String → Except String Config) (text : String) :
    Except BalancerError Config :=
  match reader text with
  | .error detail => .error (.malformed detail)
  | .ok c =>
    match c.validate with
    | .error fault => .error (.settings fault)
    | .ok _ => .ok c

/-- Reads the record in a file with a reader, given what opening the file gave. -/
def ofFileWith (reader : String → Except String Config) :
    Except UnreadableFile ByteArray → Except BalancerError Config
  | .error fault => .error (.io fault.text)
  | .ok bytes =>
    match String.fromUTF8? bytes with
    | none => .error (.io "stream did not contain valid UTF-8")
    | some text => readWith reader text

/-- Reads the record in a YAML file. -/
def ofFile : Except UnreadableFile ByteArray → Except BalancerError Config := ofFileWith ofYaml

end Config
end HostRotation
