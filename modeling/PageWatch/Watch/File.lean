import PageWatch.Watch.Format

/-!
# Watches in files

A watch is read from the bytes of a file. Main definition: `Files.watch`, which tells apart that
there is nothing to read, that what there is is no UTF-8, and that the text holds no watch. What
stands at a path is given from outside (`Files`).
-/

namespace PageWatch

open PageWatch.Json

/-- What stands at a path. -/
inductive Entry where
  | directory
  | file (bytes : ByteArray)

/-- The entries of a file system, as far as there are any. -/
abbrev Files := String → Option Entry

/-- Why a file cannot be read as text. -/
inductive ReadFault where
  | notFound
  | isDirectory
  | invalidData
  deriving Repr, DecidableEq

def ReadFault.name : ReadFault → String
  | .notFound => "NotFound"
  | .isDirectory => "IsADirectory"
  | .invalidData => "InvalidData"

/-- Why no watch was read from a file. -/
inductive FileError where
  | read (fault : ReadFault)
  | json (failure : Failure)

/-- The text at a path. -/
def Files.readText (files : Files) (path : String) : Except ReadFault String :=
  match files path with
  | none => .error .notFound
  | some .directory => .error .isDirectory
  | some (.file bytes) =>
    match String.fromUTF8? bytes with
    | some text => .ok text
    | none => .error .invalidData

/-- **The watch in the file at a path.** -/
def Files.watch (files : Files) (path : String) : Except FileError Watch :=
  match files.readText path with
  | .error fault => .error (.read fault)
  | .ok text =>
    match Watch.ofText text with
    | .ok w => .ok w
    | .error failure => .error (.json failure)

end PageWatch
