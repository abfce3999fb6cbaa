import DrumMachine.Digest.Sha256
import DrumMachine.Json.Value
import DrumMachine.Playback.Mixdown
import DrumMachine.Song.Writer
import DrumMachine.Wave.Writer

/-!
# Reports

A report identifies what a song sounds like: a digest of the song as it is written and a digest of
the mixed samples as a sound file holds them. Reports are kept as JSON objects with one field a
line.
-/

namespace DrumMachine

structure Report where
  schemaVersion : Nat
  trackCount : Nat
  phraseCount : Nat
  outputLength : Nat
  frames : Nat
  songHash : String
  audioHash : String
deriving DecidableEq, Inhabited, Repr

namespace Report

def currentVersion : Nat := 1

def ofSong (song : Song) (waves : NameTable Wave) : Report :=
  let mix := Mixdown.unified (Playback.renderTracks song waves false)
  { schemaVersion := currentVersion
    trackCount := song.samples.size
    phraseCount := song.phrases.size
    outputLength := song.output.length
    frames := mix.frames
    songHash := Sha256.hex song.write.toUTF8
    audioHash := Sha256.hex (Wave.encodeData .float32 mix.interleaved ByteArray.empty) }

/-! ### Writing -/

def writeChar (c : Char) : String :=
  if c = '"' then "\\\""
  else if c = '\\' then "\\\\"
  else if c = '\x08' then "\\b"
  else if c = '\x0c' then "\\f"
  else if c = '\n' then "\\n"
  else if c = '\r' then "\\r"
  else if c = '\t' then "\\t"
  else if c.toNat < 0x20 then "\\u00" ++ String.ofList (Sha256.hexByte (UInt8.ofNat c.toNat))
  else c.toString

def writeText (text : String) : String := "\"" ++ String.join (text.toList.map writeChar) ++ "\""

/-- The fields of a report with their values as written. -/
def fields (report : Report) : List (String × String) :=
  [("schema_version", toString report.schemaVersion),
    ("track_count", toString report.trackCount),
    ("phrase_count", toString report.phraseCount),
    ("output_len", toString report.outputLength),
    ("frames", toString report.frames),
    ("song_hash", writeText report.songHash),
    ("audio_hash", writeText report.audioHash)]

def write (report : Report) : String :=
  let lines := report.fields.map fun (name, value) => "  \"" ++ name ++ "\": " ++ value
  "\x7b\n" ++ ",\n".intercalate lines ++ "\n\x7d"

/-! ### Reading -/

/-- A number below a limit. -/
def natural? (limit : Nat) : JsonValue → Option Nat
  | .number (some n) => if n < limit then some n else none
  | _ => none

def text? : JsonValue → Option String
  | .string text? => text?
  | _ => none

def ofValues? : List JsonValue → Option Report
  | [version, tracks, phrases, output, frames, songHash, audioHash] => do
    return {
      schemaVersion := ← natural? 0x100000000 version
      trackCount := ← natural? 0x10000000000000000 tracks
      phraseCount := ← natural? 0x10000000000000000 phrases
      outputLength := ← natural? 0x10000000000000000 output
      frames := ← natural? 0x10000000000000000 frames
      songHash := ← text? songHash
      audioHash := ← text? audioHash }
  | _ => none

def fieldNames : List String :=
  ["schema_version", "track_count", "phrase_count", "output_len", "frames", "song_hash",
    "audio_hash"]

/-- The value of a field that is given exactly once. -/
def unique? (fields : List (String × JsonValue)) (name : String) : Option JsonValue :=
  match fields.filter (·.1 == name) with
  | [(_, value)] => some value
  | _ => none

/-- A report from a JSON value: an object that has each field once, and may have others, or an array
of the fields' values. -/
def ofJson? : JsonValue → Option Report
  | .object fields => do
    let named ← fields.mapM fun (key, value) => key.map fun key => (key, value)
    ofValues? (← fieldNames.mapM (unique? named))
  | .array values => ofValues? values
  | _ => none

def read? (bytes : ByteArray) : Option Report := do ofJson? (← JsonText.parse bytes.toList)

end Report

end DrumMachine
