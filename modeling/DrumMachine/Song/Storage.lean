import DrumMachine.Failure
import DrumMachine.Files.Disk
import DrumMachine.Song.Writer

/-!
# Songs in files

A song is stored as the document that declares it. Storing replaces the whole file at once, so a
reader never sees half a document.
-/

namespace DrumMachine.Song

variable {m : Type → Type} [Monad m] [Disk m]

def save (path : String) (song : Song) : m (Except Failure Unit) := do
  let directory := Path.directory path
  match ← Disk.makeDirectories directory with
  | .error error => return .error ⟨.makeDocumentDirectory directory, .file error⟩
  | .ok () => return Failure.during (.persistDocument path) (← Disk.replace path song.write.toUTF8)

def load (path : String) : m (Except Failure Song) := do
  match ← Disk.readText path with
  | .error error => return .error ⟨.readDocument path, .file error⟩
  | .ok source =>
    match compile source with
    | .ok song => return .ok song
    | .error (.document error) => return .error ⟨.parseDocument path, .document error⟩
    | .error (.invalid fault) => return .error ⟨.buildSong path, .invalid fault⟩

end DrumMachine.Song
