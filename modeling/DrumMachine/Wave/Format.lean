import DrumMachine.Playback.Tempo

/-!
# Sound file format

A sound file is a RIFF container of chunks, each with a four-letter name and a length: a `fmt `
chunk that tells how samples are stored, and a `data` chunk that holds them. All numbers are
little-endian.
-/

namespace DrumMachine.Wave

inductive Encoding where
  | float32
  | int16
deriving DecidableEq, Inhabited, Repr

namespace Encoding

def name : Encoding → String
  | .float32 => "float32"
  | .int16 => "int16"

def ofName? (name : String) : Option Encoding := [float32, int16].find? (·.name = name)

/-- Bytes of one sample. -/
def width : Encoding → Nat
  | .float32 => 4
  | .int16 => 2

end Encoding

/-- The number in `count` bytes, the least significant first; higher bytes are lost. -/
def littleEndian : Nat → Nat → List UInt8
  | 0, _ => []
  | count + 1, n => UInt8.ofNat n :: littleEndian count (n / 256)

/-- The number that bytes spell, the least significant first. -/
def ofLittleEndian : List UInt8 → Nat
  | [] => 0
  | byte :: rest => byte.toNat + 256 * ofLittleEndian rest

def ascii (text : String) : List UInt8 := text.toList.map fun c => UInt8.ofNat c.toNat

def intTag : Nat := 1
def floatTag : Nat := 3
def extensibleTag : Nat := 0xfffe

/-- What the two identifiers that stand for the plain tags have after those. -/
def identifierTail : List UInt8 :=
  [0x00, 0x00, 0x00, 0x00, 0x10, 0x00, 0x80, 0x00, 0x00, 0xaa, 0x00, 0x38, 0x9b, 0x71]

/-- The identifier that an extensible format gives for a plain tag. -/
def identifier (tag : Nat) : List UInt8 := littleEndian 2 tag ++ identifierTail

end DrumMachine.Wave
