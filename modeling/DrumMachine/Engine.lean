import DrumMachine.Export
import DrumMachine.Report.Storage
import DrumMachine.Song.Storage

/-!
# Engines

A song at work: the song, and the directory from which its sample files are found. A section that is
faulty leaves the song as it was.
-/

namespace DrumMachine

structure Engine where
  song : Song := {}
  base : String := "."
deriving Inhabited

inductive Engine.Error where
  | compile (error : Song.CompileError)
  | wave (error : Wave.LoadError)
  | io (detail : String)
deriving DecidableEq, Repr

namespace Engine

def Error.message : Error → String
  | .compile error => error.message
  | .wave error => error.message
  | .io detail => "io error: " ++ detail

def Error.ofFailure (failure : Failure) : Error := .io failure.message

def Error.ofRender : RenderError → Error
  | .wave error => .wave error
  | .failure failure => .ofFailure failure

def ofDocument (source base : String) : Except Error Engine :=
  match Song.compile source with
  | .ok song => .ok ⟨song, base⟩
  | .error error => .error (.compile error)

/-- The song with a section added, or the engine as it was. -/
def addSection (engine : Engine) (sec : Section) : Except Song.Fault Engine :=
  match engine.song.add? sec with
  | .ok song => .ok { engine with song }
  | .error fault => .error fault

def document (engine : Engine) : String := engine.song.write

variable {m : Type → Type} [Monad m] [Disk m]

/-- An engine for the song in a file; its samples are found from the file's directory. -/
def ofFile (path : String) : m (Except Error Engine) := do
  match ← Disk.readText path with
  | .error error => return .error (.io (path ++ ": " ++ error.message))
  | .ok source => return ofDocument source (Path.directory path)

def render (engine : Engine) (options : RenderOptions) : m (Except Error RenderSummary) := do
  return (← Export.renderSong engine.song engine.base options).mapError .ofRender

def fingerprint (engine : Engine) : m (Except Error Report) := do
  match ← Export.loadWaves engine.song engine.base with
  | .error error => return .error (.wave error)
  | .ok waves => return .ok (.ofSong engine.song waves)

def save (engine : Engine) (path : String) : m (Except Error Unit) := do
  return (← Song.save path engine.song).mapError .ofFailure

end Engine

end DrumMachine
