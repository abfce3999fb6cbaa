import DrumMachine.Files.Error
import DrumMachine.Playback.Track
import DrumMachine.Wave.Format
import DrumMachine.Wave.Quantize

/-!
# Reading sound files

A file is accepted if its chunks are well formed and it holds mono sound at 44100 samples a second
in 32-bit floating-point or 16-bit whole numbers. Anything else is reported: first what makes the
file unreadable, then what makes its sound unusable, then what is wrong with its samples.
-/

namespace DrumMachine.Wave

inductive Defect where
  | noRiffTag
  | noWaveTag
  | missingFormat
  | formatSize
  | zeroChannels
  | sampleBits
  | inconsistentFormat
  | partialByte
  | zeroBits
  | unexpectedFormatSize
  | integerBits
  | extraSize
  | floatBits
  | extensibleSize
  | partialSample
  | dataLength
deriving DecidableEq, Repr

def Defect.message : Defect → String
  | .noRiffTag => "no RIFF tag found"
  | .noWaveTag => "no WAVE tag found"
  | .missingFormat => "missing fmt chunk"
  | .formatSize => "invalid fmt chunk size"
  | .zeroChannels => "file contains zero channels"
  | .sampleBits => "sample bits exceeds size of sample"
  | .inconsistentFormat => "inconsistent fmt chunk"
  | .partialByte => "bits per sample is not a multiple of 8"
  | .zeroBits => "bits per sample is 0"
  | .unexpectedFormatSize => "unexpected fmt chunk size"
  | .integerBits => "bits per sample is not 8 or 16"
  | .extraSize => "unexpected WAVEFORMATEX size"
  | .floatBits => "bits per sample is not 32"
  | .extensibleSize => "unexpected WAVEFORMATEXTENSIBLE size"
  | .partialSample => "data chunk length is not a multiple of sample size"
  | .dataLength => "invalid data chunk length"

inductive ReadError where
  | file (error : FileError)
  | illFormed (defect : Defect)
  | unsupported
  | truncated
  | tooWide
deriving DecidableEq, Repr

def ReadError.message : ReadError → String
  | .file error => error.message
  | .illFormed defect => "Ill-formed WAVE file: " ++ defect.message
  | .unsupported => "The wave format of the file is not supported."
  | .truncated => "Failed to read enough bytes."
  | .tooWide => "The sample has more bits than the destination type."

inductive LoadError where
  | unreadable (path : String) (error : ReadError)
  | decode (path : String) (error : ReadError)
  | sampleRate (path : String) (rate : Nat)
  | channels (path : String) (count : Nat)
  | sampleFormat (path : String) (isFloat : Bool) (bits : Nat)
deriving DecidableEq, Repr

def LoadError.message : LoadError → String
  | .unreadable path error => s!"failed to open waveform {path}: {error.message}"
  | .decode path error => s!"failed to decode waveform {path}: {error.message}"
  | .sampleRate path rate => s!"{path}: sample rate {rate} Hz is not supported, expected 44100 Hz"
  | .channels path count => s!"{path}: {count} channels are not supported, expected mono"
  | .sampleFormat path isFloat bits =>
    let format := if isFloat then "float" else "int"
    s!"{path}: {bits}-bit {format} samples are not supported, expected 32-bit float or 16-bit int"

structure Format where
  isFloat : Bool
  channels : Nat
  rate : Nat
  bits : Nat
  sampleBytes : Nat
deriving DecidableEq, Repr

def take (count : Nat) (bytes : List UInt8) : Except ReadError (List UInt8 × List UInt8) :=
  let first := bytes.take count
  if first.length = count then .ok (first, bytes.drop count) else .error .truncated

def takeNumber (count : Nat) (bytes : List UInt8) : Except ReadError (Nat × List UInt8) := do
  let (number, rest) ← take count bytes
  return (ofLittleEndian number, rest)

/-- Go on only if the file is not defective in this way. -/
def require (sound : Bool) (defect : Defect) : Except ReadError Unit :=
  if sound then .ok () else .error (.illFormed defect)

/-- A format with whole-number samples, in a chunk of the given length. -/
def readIntFormat (length : Nat) (format : Format) (bytes : List UInt8) :
    Except ReadError (Format × List UInt8) := do
  require (length == 16 || length == 18 || length == 40) .unexpectedFormatSize
  if length = 16 then return (format, bytes)
  let (_, rest) ← take 2 bytes
  require (format.bits == 8 || format.bits == 16 || format.bits == 24) .integerBits
  if length = 18 then return (format, rest)
  let (_, rest) ← take 22 rest
  return (format, rest)

def readFloatFormat (length : Nat) (format : Format) (bytes : List UInt8) :
    Except ReadError (Format × List UInt8) := do
  require (length == 16 || length == 18) .unexpectedFormatSize
  let mut rest := bytes
  if length = 18 then
    let (extra, after) ← takeNumber 2 bytes
    require (extra == 0) .extraSize
    rest := after
  require (format.bits == 32) .floatBits
  return ({ format with isFloat := true }, rest)

/-- A format that names its kind of samples by an identifier. -/
def readExtensibleFormat (length : Nat) (format : Format) (bytes : List UInt8) :
    Except ReadError (Format × List UInt8) := do
  require (40 ≤ length) .unexpectedFormatSize
  let (extra, rest) ← takeNumber 2 bytes
  require (extra == 22) .extensibleSize
  let (validBits, rest) ← takeNumber 2 rest
  let (_, rest) ← take 4 rest
  let (kind, rest) ← take 16 rest
  let isFloat ←
    if kind = identifier intTag then pure false
    else if kind = identifier floatTag then pure true
    else throw .unsupported
  return ({ format with isFloat, bits := if 0 < validBits then validBits else format.bits }, rest)

/-- A format chunk of the given length. A size of samples that takes more than 16 bits to say in
bits is too small for any sample. -/
def readFormat (length : Nat) (bytes : List UInt8) : Except ReadError (Format × List UInt8) := do
  require (16 ≤ length) .formatSize
  let (tag, rest) ← takeNumber 2 bytes
  let (channels, rest) ← takeNumber 2 rest
  let (rate, rest) ← takeNumber 4 rest
  let (byteRate, rest) ← takeNumber 4 rest
  let (align, rest) ← takeNumber 2 rest
  let (bits, rest) ← takeNumber 2 rest
  require (channels != 0) .zeroChannels
  let sampleBytes := align / channels
  require (8 * sampleBytes < 0x10000 && bits ≤ 8 * sampleBytes) .sampleBits
  require (align * rate < 0x100000000 && byteRate == align * rate) .inconsistentFormat
  require (bits % 8 == 0) .partialByte
  require (bits != 0) .zeroBits
  let format : Format := ⟨false, channels, rate, bits, sampleBytes⟩
  if tag = intTag then readIntFormat length format rest
  else if tag = floatTag then readFloatFormat length format rest
  else if tag = extensibleTag then readExtensibleFormat length format rest
  else throw .unsupported

/-- The chunks up to the samples: their format, their length and all bytes from there on. The fuel
is more than the chunks that fit. -/
def readChunks : Nat → Option Format → List UInt8 → Except ReadError (Format × Nat × List UInt8)
  | 0, _, _ => .error .truncated
  | fuel + 1, format?, bytes => do
    let (name, rest) ← take 4 bytes
    let (length, rest) ← takeNumber 4 rest
    if name = ascii "fmt " then
      let (format, rest) ← readFormat length rest
      readChunks fuel (some format) rest
    else if name = ascii "fact" then readChunks fuel format? (rest.drop 4)
    else if name = ascii "data" then
      match format? with
      | some format => return (format, length, rest)
      | none => throw (.illFormed .missingFormat)
    else
      let (_, rest) ← take length rest
      readChunks fuel format? rest

/-- Everything before the samples: their format, how many there are, and the bytes from there on. -/
def readHeader (bytes : List UInt8) : Except ReadError (Format × Nat × List UInt8) := do
  let (riff, rest) ← take 4 bytes
  require (riff == ascii "RIFF") .noRiffTag
  let (_, rest) ← take 4 rest
  let (wave, rest) ← take 4 rest
  require (wave == ascii "WAVE") .noWaveTag
  let (format, length, rest) ← readChunks rest.length none rest
  require (length % format.sampleBytes == 0) .partialSample
  let count := length / format.sampleBytes
  require (count % format.channels == 0) .dataLength
  return (format, count, rest)

/-- The number that sixteen bits stand for in two's complement. -/
def signed16 (n : Nat) : Int := if n < 0x8000 then n else (n : Int) - 0x10000

def decodeSample (encoding : Encoding) (bytes : List UInt8) : Float32 :=
  match encoding with
  | .float32 => Float32.ofBits (UInt32.ofNat (ofLittleEndian bytes))
  | .int16 => dequantize (signed16 (ofLittleEndian bytes))

def readSamples (encoding : Encoding) : Nat → Wave → List UInt8 → Except ReadError Wave
  | 0, done, _ => .ok done
  | count + 1, done, bytes =>
    match take encoding.width bytes with
    | .ok (sample, rest) =>
      readSamples encoding count (done.push (decodeSample encoding sample)) rest
    | .error error => .error error

/-- The samples of the data chunk; none are read if they are not stored in their own width. -/
def readData (encoding : Encoding) (sampleBytes count : Nat) (bytes : List UInt8) :
    Except ReadError Wave :=
  if count = 0 then .ok #[]
  else if encoding.width < sampleBytes then .error .tooWide
  else if sampleBytes < encoding.width then .error .unsupported
  else readSamples encoding count #[] bytes

/-- The encoding among those of the program that a format amounts to. -/
def Format.encoding? (format : Format) : Option Encoding :=
  if format.isFloat && format.bits == 32 then some .float32
  else if !format.isFloat && format.bits == 16 then some .int16
  else none

def decode (path : String) (bytes : List UInt8) : Except LoadError Wave :=
  match readHeader bytes with
  | .error error => .error (.unreadable path error)
  | .ok (format, count, rest) =>
    if format.rate ≠ Tempo.sampleRate then .error (.sampleRate path format.rate)
    else if format.channels ≠ 1 then .error (.channels path format.channels)
    else match format.encoding? with
      | none => .error (.sampleFormat path format.isFloat format.bits)
      | some encoding =>
        match readData encoding format.sampleBytes count rest with
        | .ok samples => .ok samples
        | .error error => .error (.decode path error)

end DrumMachine.Wave
