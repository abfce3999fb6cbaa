import DrumMachine.Demo.Kit
import DrumMachine.Failure
import DrumMachine.Files.Disk
import DrumMachine.Wave.Writer

/-!
# The demo project

A short groove to start from: a drum kit and a document that plays it, written into one directory.
-/

namespace DrumMachine.Demo

def documentName : String := "demo.jakbeat"

/-- The lines of the document: an introduction, and a groove that is played twice. -/
def documentLines : List String :=
  ["[WHO]",
    "kick = ( path = kick.wav volume = 100 )",
    "snare = ( path = snare.wav volume = 80 stereo = reverb " ++
      "params = ( delay = 10 level = 25 decay = 40 ) )",
    "hat = ( path = hat.wav volume = 60 stereo = chorus params = ( pan = 30 amount = 40 ) )",
    "",
    "[WHAT]",
    "Output = ( intro groove groove )",
    "intro = ( bpm = 120 )",
    "groove = ( bpm = 120 )",
    "",
    "[intro]",
    "kick = \"!... !... !... !...\"",
    "hat = \"-.-. -.-. -.-. -.-:\"",
    "",
    "[groove]",
    "kick = \"!..! ..!. !..! ..!.\"",
    "snare = \"..!. ..!. ..!. ..-!\"",
    "hat = \"-!-! -!-! -!-! -!-:\""]

def document : String := String.join (documentLines.map (· ++ "\n"))

/-- A sound of the kit, with the file that it is stored in. -/
structure Sound where
  file : String
  encoding : Wave.Encoding
  wave : Wave

def kit : List Sound :=
  [⟨"kick.wav", .float32, Kit.kick⟩, ⟨"snare.wav", .int16, Kit.snare⟩,
    ⟨"hat.wav", .float32, Kit.hat⟩]

variable {m : Type → Type} [Monad m] [Disk m]

def writeSounds (directory : String) : List Sound → m (Except Failure Unit)
  | [] => return .ok ()
  | sound :: rest => do
    let path := Path.join directory sound.file
    match ← Disk.write path (Wave.encodeMono sound.encoding sound.wave) with
    | .error error => return .error ⟨.createKitWave path, .file error⟩
    | .ok () => writeSounds directory rest

def writeKit (directory : String) : m (Except Failure Unit) := do
  match ← Disk.makeDirectories directory with
  | .error error => return .error ⟨.makeKitDirectory directory, .file error⟩
  | .ok () => writeSounds directory kit

/-- Write the kit and the document into a directory; the answer is the path of the document. -/
def writeProject (directory : String) : m (Except Failure String) := do
  match ← writeKit directory with
  | .error failure => return .error failure
  | .ok () =>
    let path := Path.join directory documentName
    return (Failure.during (.writeDemoDocument path) (← Disk.write path document.toUTF8)).map
      fun () => path

end DrumMachine.Demo
