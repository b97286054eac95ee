import SecureStream.SystemError
import SecureStream.Text.Decode

/-!
# Files

A working directory with some files in it, and nothing else in the world but directories above it.

* `Files`: names and contents;
* `Files.read`: the content of a file, found by its path.
-/

namespace SecureStream.Peer

/-- The files of the working directory. -/
structure Files where
  entries : List (String × List UInt8)

namespace Files

/-- The parts of a path between slashes. -/
def parts (path : List Char) : List (List Char) :=
  path.foldr (fun c acc => if c = '/' then [] :: acc else
    match acc with
    | part :: rest => (c :: part) :: rest
    | [] => [[c]]) [[]]

/-- The last part of a path. -/
def baseName (path : String) : String := String.ofList ((parts path.toList).getLast?.getD [])

/-- The greatest length of a file's name, in bytes. -/
def nameLimit : Nat := 255

/-- The greatest length of a path, in bytes. -/
def pathLimit : Nat := 4095

/-- Where a path has led to so far. -/
inductive Place
  | workingDirectory
  | above
  | file (content : List UInt8)

/-- Follow one part of a path. -/
def enter (files : Files) (place : Place) (part : List Char) : Except SystemError Place :=
  match place with
  | .file _ => .error (.os 20)
  | _ =>
    if part = [] ∨ part = ['.'] then .ok place
    else if part = ['.', '.'] then .ok .above
    else if nameLimit < (Text.utf8 part).length then .error (.os 36)
    else
      match place with
      | .workingDirectory =>
        match files.entries.lookup (String.ofList part) with
        | some content => .ok (.file content)
        | none => .error (.os 2)
      | _ => .error (.os 2)

/-- The content of the file that a path leads to. A directory has none. -/
def read (files : Files) (path : String) : Except SystemError (List UInt8) :=
  let cs := path.toList
  if '\x00' ∈ cs then
    .error (.custom .invalidInput "file name contained an unexpected NUL byte")
  else if cs = [] then
    .error (.os 2)
  else if pathLimit < (Text.utf8 cs).length then
    .error (.os 36)
  else
    let start := if cs.head? = some '/' then Place.above else Place.workingDirectory
    match (parts cs).foldlM (enter files) start with
    | .error e => .error e
    | .ok (.file content) => .ok content
    | .ok _ => .error (.os 21)

end Files

end SecureStream.Peer
