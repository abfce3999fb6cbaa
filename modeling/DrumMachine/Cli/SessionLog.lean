import DrumMachine.Config

/-!
# Session logs

Every run of the program starts a log file of its own, named for the moment at which it started.
-/

namespace DrumMachine.SessionLog

/-- A day of the Gregorian calendar. -/
structure Date where
  year : Nat
  month : Nat
  day : Nat
deriving DecidableEq, Repr

/-- Days in 400 years, after which the calendar repeats itself. -/
def cycle : Nat := 146097

/-- The day a number of days after the first of March of the year 0. Years are counted from March,
so that a leap day is a year's last day. -/
def Date.ofMarchDays (days : Nat) : Date :=
  let inCycle := days % cycle
  let year := (inCycle - inCycle / 1460 + inCycle / 36524 - inCycle / (cycle - 1)) / 365
  let inYear := inCycle - (365 * year + year / 4 - year / 100)
  let month := (5 * inYear + 2) / 153
  let day := inYear - (153 * month + 2) / 5 + 1
  let year := 400 * (days / cycle) + year
  if month < 10 then ⟨year, month + 3, day⟩ else ⟨year + 1, month - 9, day⟩

/-- The first of January 1970, in days after the first of March of the year 0. -/
def epoch : Nat := 719468

/-- At least `width` decimal digits. -/
def padded (width n : Nat) : String :=
  let digits := Nat.toDigits 10 n
  String.ofList (List.replicate (width - digits.length) '0' ++ digits)

/-- A moment, in seconds after the start of 1970, as digits: the date, then the time of day. -/
def stamp (seconds : Nat) : String :=
  let date := Date.ofMarchDays (epoch + seconds / 86400)
  padded 4 date.year ++ padded 2 date.month ++ padded 2 date.day ++ "-" ++
    padded 2 (seconds / 3600 % 24) ++ padded 2 (seconds / 60 % 60) ++ padded 2 (seconds % 60)

/-- The name of the log of a session that started at a moment. -/
def fileName (filePrefix : String) (started : Nat) : String :=
  filePrefix ++ "-" ++ stamp started ++ ".log"

variable {m : Type → Type} [Monad m] [Disk m]

/-- Make an empty file unless there is one; where its directory is missing, make that first. -/
def create (path : String) : m (Except FileError Unit) := do
  if ← Disk.isFile path then return .ok ()
  match ← Disk.write path ByteArray.empty with
  | .ok () => return .ok ()
  | .error error =>
    match Path.parent? path with
    | none => return .error error
    | some directory =>
      match ← Disk.makeDirectories directory with
      | .error error => return .error error
      | .ok () => Disk.write path ByteArray.empty

def start (config : DiagnosticsConfig) (started : Nat) : m (Except Failure Unit) := do
  match ← Disk.makeDirectories config.logDirectory with
  | .error error => return .error ⟨.makeLogDirectory config.logDirectory, .file error⟩
  | .ok () =>
    let path := Path.join config.logDirectory (fileName config.filePrefix started)
    return Failure.during (.startLog path) (← create path)

end DrumMachine.SessionLog
