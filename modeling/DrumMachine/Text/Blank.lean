/-!
# Blank characters

The characters that separate words: those with the Unicode property White_Space.
-/

namespace DrumMachine.Text

/-- White space in the sense of Unicode, with the line separators and the spaces of every width. -/
def isBlank (c : Char) : Bool :=
  let code := c.toNat
  (0x9 ≤ code && code ≤ 0xd) || code == 0x20 || code == 0x85 || code == 0xa0 || code == 0x1680 ||
    (0x2000 ≤ code && code ≤ 0x200a) || code == 0x2028 || code == 0x2029 || code == 0x202f ||
    code == 0x205f || code == 0x3000

end DrumMachine.Text
