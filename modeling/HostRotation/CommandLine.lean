/-
# The command line

The program takes the path of a configuration file and a number of
selections. It reads the file, resolves the hosts in it, and rehearses the
selections over these hosts, with a network on which every connect succeeds.

The first of these steps that fails ends the program with a report: what
went wrong, and what caused it. The number is read before the file.
-/
import HostRotation.Address.Resolution
import HostRotation.Config.File
import HostRotation.Rehearsal.Script
import HostRotation.Text.Quoted

namespace HostRotation
namespace CommandLine

/-! ### Arguments -/

/-- Why an argument is not a number of selections. -/
inductive CountFault
  | empty
  | badDigit
  | tooLarge
deriving DecidableEq

/-- The words for an argument that is not a number. -/
def CountFault.text : CountFault → String
  | empty => "cannot parse integer from empty string"
  | badDigit => "invalid digit found in string"
  | tooLarge => "number too large to fit in target type"

/-- Reads the digits that are left after some number. The first digit that is
none or does not fit 64 bits is at fault. -/
def readDigits : Nat → List Char → Except CountFault Nat
  | n, [] => .ok n
  | n, c :: cs =>
    if !c.isDigit then .error .badDigit
    else
      let n := n * 10 + (c.toNat - '0'.toNat)
      if n < UInt64.size then readDigits n cs else .error .tooLarge

/-- Reads a number of selections, which a plus sign may precede. -/
def readCount (arg : String) : Except CountFault Nat :=
  match arg.toList with
  | [] => .error .empty
  | ['+'] => .error .badDigit
  | '+' :: cs => readDigits 0 cs
  | cs => readDigits 0 cs

/-- Why the program ends early. -/
inductive Fault
  | badCount (fault : CountFault)
  | noHosts (path : String)
  | balancer (error : BalancerError)

namespace Fault

def message : Fault → String
  | badCount fault => fault.text
  | noHosts path => "no hosts configured in " ++ path
  | balancer error => error.message

def sources : Fault → List String
  | balancer error => error.sources
  | _ => []

/-- The report of a fault, with what caused it further in. -/
def report (f : Fault) : String :=
  let causes :=
    match f.sources with
    | [] => ""
    | sources => "\nCaused by:\n" ++ String.join (sources.map fun s => "    " ++ s ++ "\n")
  "Error: " ++ f.message ++ "\n" ++ causes

end Fault

/-- What the arguments ask for. -/
structure Request where
  path : String := "config/lb.yaml"
  selections : Nat := 12

/-- Reads the arguments. Further ones are passed over. -/
def Request.ofArgs : List String → Except Fault Request
  | [] => .ok {}
  | [path] => .ok { path }
  | path :: count :: _ =>
    match readCount count with
    | .error fault => .error (.badCount fault)
    | .ok selections => .ok { path, selections }

/-! ### The plan -/

/-- What is to be rehearsed. -/
structure Plan where
  settings : Settings
  addresses : List SocketAddress
  selections : Nat

/-- The plan of a request, given what opening its file gave. -/
def Request.plan (r : Request) (file : Except UnreadableFile ByteArray) : Except Fault Plan := do
  let config ← (Config.ofFile file).mapError .balancer
  if config.hosts.isEmpty then throw (.noHosts r.path)
  let addresses ← (Resolution.resolve config.families config.hosts).mapError .balancer
  let settings ← config.settings.mapError fun fault => .balancer (.settings fault)
  return { settings, addresses, selections := r.selections }

open Rehearsal

/-- The stage of a plan, after its selections. -/
def Plan.perform (p : Plan) (tape : Tape) : Stage × List Outcome :=
  let setup : Setup String := {
    p.settings with
    target := "demo", source := .fixed (p.addresses.map SocketAddress.text)
    describe := Text.quoted, aborts := true }
  (Stage.start setup .unrecorded tape).selectInTurn .any p.selections

/-- How often each host served a selection, as lines. -/
def Plan.tallyLines (p : Plan) (tape : Tape) : List String :=
  let address? : Outcome → Option String
    | .selected l _ => some l.address
    | _ => none
  let served := (p.perform tape).2.filterMap address?
  (Stage.tally served).map fun t => t.1 ++ " " ++ toString t.2

end CommandLine
end HostRotation
