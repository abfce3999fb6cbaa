import DrumMachine.Cli.Run
import Std.Time.DateTime.Timestamp

/-!
# The program

The system's own files as a `Disk`, and the program's entry.
-/

namespace DrumMachine

def FileError.ofSystem : IO.Error → FileError
  | .noFileOrDirectory .. => .notFound
  | .alreadyExists .. => .exists
  | .inappropriateType _ 21 _ => .isDirectory
  | .inappropriateType .. => .notDirectory
  | .resourceBusy .. => .busy
  | .invalidArgument _ 36 _ => .nameTooLong
  | error => .other (toString error)

def attempt {α : Type} (action : IO α) : IO (Except FileError α) := do
  match ← action.toBaseIO with
  | .ok result => return .ok result
  | .error error => return .error (.ofSystem error)

def fileType? (path : String) : IO (Option IO.FS.FileType) := do
  match ← (do return (← (← IO.FS.realPath path).metadata).type : IO IO.FS.FileType).toBaseIO with
  | .ok type => return some type
  | .error _ => return none

/-- Write a file beside the path, then move it there. -/
def replaceFile (path : String) (content : ByteArray) : IO Unit := do
  let number ← IO.rand 0 0xffffffff
  let beside := Path.join (Path.directory path) s!".tmp{number}"
  IO.FS.writeBinFile beside content
  try IO.FS.rename beside path
  catch error =>
    IO.FS.removeFile beside
    throw error

instance : Disk IO where
  read path := attempt (IO.FS.readBinFile path)
  write path content := attempt (IO.FS.writeBinFile path content)
  replace path content := attempt (replaceFile path content)
  makeDirectory path := attempt (IO.FS.createDir path)
  isDirectory path := return (← fileType? path) == some .dir
  isFile path := return (← fileType? path) == some .file

def surroundings : IO (Cli.Surroundings IO) := do
  let directory ← IO.currentDir
  let configPath? ← IO.getEnv Config.pathVariable
  let now ← Std.Time.Timestamp.now
  let input ← IO.getStdin
  return {
    environment := { directory := directory.toString, configPath? }
    started := now.toSecondsSinceUnixEpoch.val.toNat
    readInput := attempt input.readBinToEnd }

end DrumMachine

def main (arguments : List String) : IO UInt32 := do
  let outcome ← DrumMachine.Cli.run (← DrumMachine.surroundings) arguments
  (← IO.getStdout).putStr outcome.out
  (← IO.getStderr).putStr outcome.err
  return UInt32.ofNat outcome.status
