/-!
# SHA-256

The 256-bit Secure Hash Algorithm over bytes. The message, closed by a one bit, zeros and its length
in bits, is taken in blocks of 64 bytes; each block is stretched to 64 words that stir the eight
words of the state.
-/

namespace DrumMachine.Sha256

structure State where
  a : UInt32
  b : UInt32
  c : UInt32
  d : UInt32
  e : UInt32
  f : UInt32
  g : UInt32
  h : UInt32
deriving DecidableEq, Inhabited, Repr

/-- The first fractional bits of the square roots of the first eight primes. -/
def initial : State := ⟨
  0x6a09e667, 0xbb67ae85, 0x3c6ef372, 0xa54ff53a,
  0x510e527f, 0x9b05688c, 0x1f83d9ab, 0x5be0cd19⟩

/-- The first fractional bits of the cube roots of the first sixty-four primes. -/
def roundConstants : Array UInt32 := #[
  0x428a2f98, 0x71374491, 0xb5c0fbcf, 0xe9b5dba5, 0x3956c25b, 0x59f111f1, 0x923f82a4, 0xab1c5ed5,
  0xd807aa98, 0x12835b01, 0x243185be, 0x550c7dc3, 0x72be5d74, 0x80deb1fe, 0x9bdc06a7, 0xc19bf174,
  0xe49b69c1, 0xefbe4786, 0x0fc19dc6, 0x240ca1cc, 0x2de92c6f, 0x4a7484aa, 0x5cb0a9dc, 0x76f988da,
  0x983e5152, 0xa831c66d, 0xb00327c8, 0xbf597fc7, 0xc6e00bf3, 0xd5a79147, 0x06ca6351, 0x14292967,
  0x27b70a85, 0x2e1b2138, 0x4d2c6dfc, 0x53380d13, 0x650a7354, 0x766a0abb, 0x81c2c92e, 0x92722c85,
  0xa2bfe8a1, 0xa81a664b, 0xc24b8b70, 0xc76c51a3, 0xd192e819, 0xd6990624, 0xf40e3585, 0x106aa070,
  0x19a4c116, 0x1e376c08, 0x2748774c, 0x34b0bcb5, 0x391c0cb3, 0x4ed8aa4a, 0x5b9cca4f, 0x682e6ff3,
  0x748f82ee, 0x78a5636f, 0x84c87814, 0x8cc70208, 0x90befffa, 0xa4506ceb, 0xbef9a3f7, 0xc67178f2]

def rotateRight (word : UInt32) (bits : UInt32) : UInt32 :=
  (word >>> bits) ||| (word <<< (32 - bits))

/-- The byte at an index, zero beyond the end. -/
def byteAt (message : ByteArray) (index : Nat) : UInt32 :=
  if h : index < message.size then message[index].toUInt32 else 0

/-- The big-endian word at a byte offset. -/
def wordAt (message : ByteArray) (offset : Nat) : UInt32 :=
  (byteAt message offset <<< 24) ||| (byteAt message (offset + 1) <<< 16) |||
    (byteAt message (offset + 2) <<< 8) ||| byteAt message (offset + 3)

/-- A word of an array, zero beyond the end. -/
def wordOf (words : Array UInt32) (index : Nat) : UInt32 :=
  if h : index < words.size then words[index] else 0

/-- One more word of a block's schedule, from the sixteen before it. -/
def stretch (words : Array UInt32) : Array UInt32 :=
  let i := words.size
  let near := wordOf words (i - 2)
  let far := wordOf words (i - 15)
  let s0 := rotateRight far 7 ^^^ rotateRight far 18 ^^^ (far >>> 3)
  let s1 := rotateRight near 17 ^^^ rotateRight near 19 ^^^ (near >>> 10)
  words.push (wordOf words (i - 16) + s0 + wordOf words (i - 7) + s1)

def schedule (message : ByteArray) (offset : Nat) : Array UInt32 :=
  let block :=
    (List.range 16).foldl (fun words i => words.push (wordAt message (offset + 4 * i))) #[]
  (List.range 48).foldl (fun words _ => stretch words) block

/-- One round with a word of the schedule and its constant. -/
def round (s : State) (word constant : UInt32) : State :=
  let s1 := rotateRight s.e 6 ^^^ rotateRight s.e 11 ^^^ rotateRight s.e 25
  let choice := (s.e &&& s.f) ^^^ (~~~s.e &&& s.g)
  let t1 := s.h + s1 + choice + constant + word
  let s0 := rotateRight s.a 2 ^^^ rotateRight s.a 13 ^^^ rotateRight s.a 22
  let majority := (s.a &&& s.b) ^^^ (s.a &&& s.c) ^^^ (s.b &&& s.c)
  ⟨t1 + s0 + majority, s.a, s.b, s.c, s.d + t1, s.e, s.f, s.g⟩

def compress (message : ByteArray) (s : State) (offset : Nat) : State :=
  let words := schedule message offset
  let r := (List.range 64).foldl
    (fun state i => round state (wordOf words i) (wordOf roundConstants i)) s
  ⟨s.a + r.a, s.b + r.b, s.c + r.c, s.d + r.d, s.e + r.e, s.f + r.f, s.g + r.g, s.h + r.h⟩

/-- The big-endian bytes of a number, `count` of them. -/
def bigEndian (count n : Nat) : List UInt8 :=
  (List.range count).map fun i => UInt8.ofNat (n >>> (8 * (count - 1 - i)))

/-- The message closed to a whole number of blocks. -/
def padded (message : ByteArray) : ByteArray :=
  let zeros := (119 - message.size % 64) % 64
  (((0x80 : UInt8) :: List.replicate zeros 0) ++ bigEndian 8 (8 * message.size)).foldl
    ByteArray.push message

def digest (message : ByteArray) : List UInt8 :=
  let message := padded message
  let s := (List.range (message.size / 64)).foldl (fun s i => compress message s (64 * i)) initial
  [s.a, s.b, s.c, s.d, s.e, s.f, s.g, s.h].flatMap fun word => bigEndian 4 word.toNat

def hexByte (byte : UInt8) : List Char :=
  [Nat.digitChar (byte.toNat / 16), Nat.digitChar (byte.toNat % 16)]

def hex (message : ByteArray) : String := String.ofList ((digest message).flatMap hexByte)

end DrumMachine.Sha256
