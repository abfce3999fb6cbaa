import DrumMachine.Files.Error
import DrumMachine.Song.Builder

/-!
# Failures

What the program was about to do with a file when something prevented it, and what that was.
-/

namespace DrumMachine

/-- Work on files that can fail, with the path it is about. -/
inductive Failure.Task where
  | makeDocumentDirectory (path : String)
  | persistDocument (path : String)
  | readDocument (path : String)
  | parseDocument (path : String)
  | buildSong (path : String)
  | readInput
  | makeWaveDirectory (path : String)
  | persistWave (path : String)
  | readReport (path : String)
  | parseReport
  | makeReportDirectory (path : String)
  | writeReport (path : String)
  | makeKitDirectory (path : String)
  | createKitWave (path : String)
  | writeDemoDocument (path : String)
  | makeLogDirectory (path : String)
  | startLog (path : String)
  | readConfig (path : String)
  | parseConfig (path : String)
  | locateConfig (name : String)
deriving DecidableEq, Repr

def Failure.Task.message : Failure.Task → String
  | .makeDocumentDirectory path => "failed to create directory: " ++ path
  | .persistDocument path => "failed to persist document: " ++ path
  | .readDocument path => "failed to read document: " ++ path
  | .parseDocument path => "invalid document: " ++ path
  | .buildSong path => "invalid song model: " ++ path
  | .readInput => "failed to read document from stdin"
  | .makeWaveDirectory path => "failed to create wav output directory: " ++ path
  | .persistWave path => "failed to persist wav file: " ++ path
  | .readReport path => "failed to read render report: " ++ path
  | .parseReport => "failed to parse render report json"
  | .makeReportDirectory path => "failed to create report directory: " ++ path
  | .writeReport path => "failed to write render report: " ++ path
  | .makeKitDirectory path => "failed to create sample directory: " ++ path
  | .createKitWave path => "failed to create fixture wav: " ++ path
  | .writeDemoDocument path => "failed to write demo document: " ++ path
  | .makeLogDirectory path => "failed to create log directory: " ++ path
  | .startLog path => "failed to create log file: " ++ path
  | .readConfig path => "failed to read config file " ++ path
  | .parseConfig path => "failed to parse config TOML from " ++ path
  | .locateConfig name => "failed to locate " ++ name ++ "; looked in cwd and parent directory"

/-- What can prevent it. A text in the wrong form is not explained further. -/
inductive Failure.Cause where
  | file (error : FileError)
  | document (error : Document.Error)
  | invalid (fault : Song.Fault)
  | malformed
deriving DecidableEq, Repr

structure Failure where
  task : Failure.Task
  cause : Failure.Cause
deriving DecidableEq, Repr

namespace Failure

def headline (failure : Failure) : String := failure.task.message

def message (failure : Failure) : String :=
  match failure.cause with
  | .file error => failure.headline ++ ": " ++ error.message
  | .document error => failure.headline ++ ": " ++ error.message
  | .invalid fault => failure.headline ++ ": " ++ fault.message
  | .malformed => failure.headline

def during {α : Type} (task : Task) (result : Except FileError α) : Except Failure α :=
  result.mapError fun error => ⟨task, .file error⟩

end Failure

end DrumMachine
