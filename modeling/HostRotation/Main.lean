/-
# The program

Reads what the command line asks for, and prints how often each host served
a selection.
-/
import HostRotation.CommandLine

namespace HostRotation
namespace CommandLine

/-- The code of an error of the system, for files that cannot be read. -/
def systemCode? : IO.Error → Option UInt32
  | .noFileOrDirectory _ code _ => some code
  | .invalidArgument _ code _ => some code
  | .permissionDenied _ code _ => some code
  | .inappropriateType _ code _ => some code
  | _ => none

/-- The number of an error. Some codes are negated numbers. -/
def systemNumber (code : UInt32) : UInt32 := if code < 0x80000000 then code else 0 - code

/-- Why a file cannot be read. -/
def unreadable (e : IO.Error) : UnreadableFile :=
  match (systemCode? e).map systemNumber with
  | some 2 => .missing
  | some 13 => .forbidden
  | some 20 => .belowFile
  | some 21 => .isFolder
  | some 36 => .nameTooLong
  | _ => .other (toString e)

/-- What opening a file gives. -/
def openFile (path : String) : IO (Except UnreadableFile ByteArray) := do
  try return .ok (← IO.FS.readBinFile path)
  catch e => return .error (unreadable e)

/-- The plan that the arguments ask for. -/
def planOf (args : List String) : IO (Except Fault Plan) := do
  match Request.ofArgs args with
  | .error fault => return .error fault
  | .ok request => return request.plan (← openFile request.path)

end CommandLine
end HostRotation

def main (args : List String) : IO UInt32 := do
  match ← HostRotation.CommandLine.planOf args with
  | .error fault =>
    (← IO.getStderr).putStr fault.report
    return 1
  | .ok plan =>
    let tape := HostRotation.Tape.ofSeed (UInt64.ofNat (← IO.monoNanosNow))
    for line in plan.tallyLines tape do
      IO.println line
    return 0
