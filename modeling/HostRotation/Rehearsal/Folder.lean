/-
# A folder to rehearse in

A folder in memory, with its files and the folders that their paths imply.
Nothing outside of it can be read.
-/
import HostRotation.Config.File

namespace HostRotation
namespace Rehearsal

structure Folder where
  files : List (String × ByteArray)

namespace Folder

/-- The names in a path. -/
def names (path : String) : List String :=
  (path.splitOn "/").filter fun name => name ≠ "" && name ≠ "."

/-- The names that lead to the folder around a place. -/
def outer? (names : List String) : Option (List String) :=
  if names.isEmpty then none else some names.dropLast

/-- Follows the parts of a path, from a place given by the names that lead to
it, or from outside. -/
def follow (files : List (List String × ByteArray)) :
    Option (List String) → List String → Except UnreadableFile ByteArray
  | _, [] => .error .isFolder
  | place, part :: parts =>
    if part = "" || part = "." then follow files place parts
    else if part = ".." then
      follow files (place.bind outer?) parts
    else if 255 < part.utf8ByteSize then .error .nameTooLong
    else
      match place with
      | none => .error .missing
      | some names =>
        let names := names ++ [part]
        match files.lookup names with
        | some bytes => if parts.isEmpty then .ok bytes else .error .belowFile
        | none =>
          if files.any fun f => names.isPrefixOf f.1 then follow files (some names) parts
          else .error .missing

/-- Reads the file of a path. -/
def read (f : Folder) (path : String) : Except UnreadableFile ByteArray :=
  if path = "" then .error .missing
  else if 4096 ≤ path.utf8ByteSize then .error .nameTooLong
  else
    follow (f.files.map fun f => (names f.1, f.2))
      (if path.startsWith "/" then none else some []) (path.splitOn "/")

end Folder
end Rehearsal
end HostRotation
