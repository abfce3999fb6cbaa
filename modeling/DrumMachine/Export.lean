import DrumMachine.Failure
import DrumMachine.Files.Disk
import DrumMachine.Playback.Mixdown
import DrumMachine.Wave.Reader
import DrumMachine.Wave.Writer

/-!
# Exporting songs

From the sound files of a song's samples to the sound files of the song: one for the whole mix, or
one for each track beside each other. If a sample's file cannot be used nothing is written.
-/

namespace DrumMachine

inductive MixMode where
  | unified
  | split
deriving DecidableEq, Inhabited, Repr

structure RenderOptions where
  output : String := "test.wav"
  mode : MixMode := .unified
  parallel : Bool := true
  encoding : Wave.Encoding := .float32
deriving DecidableEq, Inhabited, Repr

structure RenderSummary where
  tracks : Nat
  frames : Nat
  files : List String
deriving DecidableEq, Inhabited, Repr

inductive RenderError where
  | wave (error : Wave.LoadError)
  | failure (failure : Failure)
deriving DecidableEq, Repr

namespace Export

/-- The file for one track: the name of the track goes between the stem of the base file's name and
its extension. -/
def splitTrackPath (base track : String) : String :=
  let name := match Path.fileName? base with
    | none => track
    | some name =>
      match Path.cutExtension name.toList with
      | (stem, none) => String.ofList stem ++ track
      | (stem, some extension) => String.ofList stem ++ track ++ "." ++ String.ofList extension
  Path.withFileName base name

/-- The file of a sample, seen from the directory of its document. -/
def samplePath (base path : String) : String := Path.join base path

variable {m : Type → Type} [Monad m] [Disk m]

def loadWave (path : String) : m (Except Wave.LoadError Wave) := do
  match ← Disk.read path with
  | .ok bytes => return Wave.decode path bytes.toList
  | .error error => return .error (.unreadable path (.file error))

/-- Load waveforms in order, up to the first that fails. -/
def loadEach (base : String) : List (String × Sample) →
    m (Except Wave.LoadError (List (String × Wave)))
  | [] => return .ok []
  | (name, sample) :: rest => do
    match ← loadWave (samplePath base sample.path) with
    | .error error => return .error error
    | .ok wave =>
      match ← loadEach base rest with
      | .error error => return .error error
      | .ok waves => return .ok ((name, wave) :: waves)

def loadWaves (song : Song) (base : String) : m (Except Wave.LoadError (NameTable Wave)) := do
  return (← loadEach base song.samples.entries).map .ofList

/-- Write sound to a file, making the directory it goes to. -/
def writeWave (path : String) (sound : Stereo) (encoding : Wave.Encoding) :
    m (Except Failure Unit) := do
  let directory := Path.directory path
  match ← Disk.makeDirectories directory with
  | .error error => return .error ⟨.makeWaveDirectory directory, .file error⟩
  | .ok () =>
    return Failure.during (.persistWave path)
      (← Disk.replace path (Wave.encodeStereo encoding sound))

def writeSplit (path : String) (encoding : Wave.Encoding) :
    List (String × Stereo) → m (Except Failure (List String))
  | [] => return .ok []
  | (name, sound) :: rest => do
    let trackPath := splitTrackPath path name
    match ← writeWave trackPath sound encoding with
    | .error failure => return .error failure
    | .ok () =>
      match ← writeSplit path encoding rest with
      | .error failure => return .error failure
      | .ok paths => return .ok (trackPath :: paths)

/-- Write tracks to one file or several; the answer is the files written. -/
def writeTracks (tracks : List Track) (path : String) (mode : MixMode) (encoding : Wave.Encoding) :
    m (Except Failure (List String)) := do
  match mode with
  | .unified => return (← writeWave path (Mixdown.unified tracks) encoding).map fun () => [path]
  | .split => writeSplit path encoding (Mixdown.split tracks)

/-- Load, render and write a song whose samples are found from `base`. -/
def renderSong (song : Song) (base : String) (options : RenderOptions) :
    m (Except RenderError RenderSummary) := do
  match ← loadWaves song base with
  | .error error => return .error (.wave error)
  | .ok waves =>
    let tracks := Playback.renderTracks song waves options.parallel
    match ← writeTracks tracks options.output options.mode options.encoding with
    | .error failure => return .error (.failure failure)
    | .ok files => return .ok ⟨tracks.length, Track.longest tracks, files⟩

end Export

end DrumMachine
