import DrumMachine.Playback.Mixdown
import DrumMachine.Wave.Format
import DrumMachine.Wave.Quantize

/-!
# Writing sound files

Whole numbers are written with the plain 16-byte format chunk, floating-point samples with the
extensible one.
-/

namespace DrumMachine.Wave

def formatChunk (encoding : Encoding) (channels : Nat) : List UInt8 :=
  let align := channels * encoding.width
  let common (tag : Nat) : List UInt8 :=
    littleEndian 2 tag ++ littleEndian 2 channels ++ littleEndian 4 Tempo.sampleRate ++
      littleEndian 4 (Tempo.sampleRate * align) ++ littleEndian 2 align ++
      littleEndian 2 (8 * encoding.width)
  match encoding with
  | .int16 => common intTag
  | .float32 =>
    common extensibleTag ++ littleEndian 2 22 ++ littleEndian 2 32 ++
      littleEndian 4 ((1 <<< channels) - 1) ++ identifier floatTag

def chunkHead (name : String) (length : Nat) : List UInt8 := ascii name ++ littleEndian 4 length

/-- All of a file before its samples, for `length` bytes of them. -/
def header (encoding : Encoding) (channels length : Nat) : List UInt8 :=
  let format := formatChunk encoding channels
  chunkHead "RIFF" (20 + format.length + length) ++ ascii "WAVE" ++
    chunkHead "fmt " format.length ++ format ++ chunkHead "data" length

def encodeSample (encoding : Encoding) (sample : Float32) : List UInt8 :=
  match encoding with
  | .float32 => littleEndian 4 sample.toBits.toNat
  | .int16 => littleEndian 2 (quantize sample % 0x10000).toNat

def append (bytes : ByteArray) (more : List UInt8) : ByteArray := more.foldl ByteArray.push bytes

def encodeData (encoding : Encoding) (samples : Array Float32) (before : ByteArray) : ByteArray :=
  samples.foldl (fun bytes sample => append bytes (encodeSample encoding sample)) before

/-- A file of samples whose channels take turns. -/
def encode (encoding : Encoding) (channels : Nat) (samples : Array Float32) : ByteArray :=
  encodeData encoding samples
    (append ByteArray.empty (header encoding channels (samples.size * encoding.width)))

def encodeMono (encoding : Encoding) (samples : Array Float32) : ByteArray :=
  encode encoding 1 samples

def encodeStereo (encoding : Encoding) (sound : Stereo) : ByteArray :=
  encode encoding 2 sound.interleaved

end DrumMachine.Wave
