import DrumMachine.Failure
import DrumMachine.Files.Disk
import DrumMachine.Report

/-!
# Reports in files

A report is stored as JSON text.
-/

namespace DrumMachine.Report

variable {m : Type → Type} [Monad m] [Disk m]

def load (path : String) : m (Except Failure Report) := do
  match ← Disk.read path with
  | .error error => return .error ⟨.readReport path, .file error⟩
  | .ok bytes =>
    match read? bytes with
    | some report => return .ok report
    | none => return .error ⟨.parseReport, .malformed⟩

/-- Make the directory that a report goes to, if its path names one. -/
def makeDirectory (path : String) : m (Except Failure Unit) := do
  match Path.parent? path with
  | none => return .ok ()
  | some directory =>
    return Failure.during (.makeReportDirectory directory) (← Disk.makeDirectories directory)

def save (path : String) (report : Report) : m (Except Failure Unit) := do
  match ← makeDirectory path with
  | .error failure => return .error failure
  | .ok () =>
    return Failure.during (.writeReport path) (← Disk.write path report.write.toUTF8)

end DrumMachine.Report
