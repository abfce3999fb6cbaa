import DrumMachine.Text.Blank

/-!
# Lenient numerals

A number setting is read from whatever text is given: white space in front and one sign are allowed,
the longest run of digits counts, and anything else reads as zero. The result saturates at the ends
of the signed 32-bit range.
-/

namespace DrumMachine.Text

/-- The greatest magnitude a numeral can reach, that of the least 32-bit integer. -/
def magnitudeCap : Nat := 0x80000000

/-- The digits at the front of a text read after digits worth `value`, never more than
`magnitudeCap`. -/
def magnitude : Nat → List Char → Nat
  | value, [] => value
  | value, c :: rest =>
    if c.isDigit then magnitude (min (value * 10 + (c.toNat - '0'.toNat)) magnitudeCap) rest
    else value

/-- The nearest signed 32-bit integer. -/
def saturate (n : Int) : Int32 := Int32.ofInt (max (-0x80000000) (min n 0x7fffffff))

def lenientInt (text : String) : Int32 :=
  match text.toList.dropWhile isBlank with
  | '-' :: digits => saturate (-(magnitude 0 digits : Int))
  | '+' :: digits => saturate (magnitude 0 digits)
  | digits => saturate (magnitude 0 digits)

theorem toInt_saturate (n : Int) : (saturate n).toInt = max (-0x80000000) (min n 0x7fffffff) := by
  apply Int32.toInt_ofInt_of_le <;> omega

end DrumMachine.Text
