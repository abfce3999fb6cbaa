/-!
# Whole numbers from samples

A 16-bit file stores a sample times 32767 as the nearest whole number. A sample halfway between two
goes to the one farther from zero, one out of range to the end of the range, and one that is not a
number to zero.
-/

namespace DrumMachine.Wave

/-- A magnitude beyond every 16-bit number. -/
def beyond : Nat := 0x10000

/-- The nearest whole number to `mantissa / 2 ^ (down + 1)`, halves upwards. -/
def roundShift (mantissa down : Nat) : Nat := (mantissa + (1 <<< down)) >>> (down + 1)

/-- How many fractions there are between two powers of two. -/
def fractions : Nat := 0x800000

/-- The magnitude of a single-precision number rounded to a whole number, halves away from zero.
Whole numbers of 24 bits and more, and infinity, all count as `beyond`. -/
def roundedMagnitude (bits : Nat) : Nat :=
  let exponent := bits / fractions % 256
  let fraction := bits % fractions
  if exponent = 255 then (if fraction = 0 then beyond else 0)
  else if 150 ≤ exponent then beyond
  else if exponent = 0 then roundShift fraction 148
  else roundShift (fractions + fraction) (149 - exponent)

def nearestInt16 (x : Float32) : Int :=
  let bits := x.toBits.toNat
  let magnitude : Int := roundedMagnitude bits
  if bits < 0x80000000 then min magnitude 0x7fff else max (-magnitude) (-0x8000)

/-- The factor between a sample and its 16-bit number. -/
def int16Scale : Float32 := 32767

def quantize (sample : Float32) : Int := nearestInt16 (sample * int16Scale)

def dequantize (n : Int) : Float32 := Float32.ofInt n / int16Scale

end DrumMachine.Wave
