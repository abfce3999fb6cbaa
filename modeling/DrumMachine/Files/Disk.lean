import DrumMachine.Files.Error
import DrumMachine.Files.Path

/-!
# Disks

What the program asks of the place where files are kept. The program is written for any `Disk`: the
system's own, or a tree of files held in memory.
-/

namespace DrumMachine

/-- The operations on files, for computations in `m`. `replace` puts a whole new file in the place
of what was there. -/
class Disk (m : Type → Type) where
  read : String → m (Except FileError ByteArray)
  write : String → ByteArray → m (Except FileError Unit)
  replace : String → ByteArray → m (Except FileError Unit)
  makeDirectory : String → m (Except FileError Unit)
  isDirectory : String → m Bool
  isFile : String → m Bool

namespace Disk

variable {m : Type → Type} [Monad m] [Disk m]

def readText (path : String) : m (Except FileError String) := do
  match ← Disk.read path with
  | .error error => return .error error
  | .ok bytes =>
    match String.fromUTF8? bytes with
    | some text => return .ok text
    | none => return .error .notText

/-- Make the first directory of a path and its ancestors; where its parent is missing, make that
first. -/
def makeDirectoryBelow : List String → m (Except FileError Unit)
  | [] => return .error (.other "failed to create whole tree")
  | path :: above => do
    if path.isEmpty then return .ok ()
    match ← Disk.makeDirectory path with
    | .ok () => return .ok ()
    | .error .notFound =>
      match ← makeDirectoryBelow above with
      | .error error => return .error error
      | .ok () => settle path (← Disk.makeDirectory path)
    | .error error => settle path (.error error)
where
  /-- A directory that is there already is as good as one just made. -/
  settle (path : String) (result : Except FileError Unit) : m (Except FileError Unit) := do
    match result with
    | .ok () => return .ok ()
    | .error error => if ← Disk.isDirectory path then return .ok () else return .error error

def makeDirectories (path : String) : m (Except FileError Unit) :=
  makeDirectoryBelow (Path.ancestors path)

end Disk

end DrumMachine
