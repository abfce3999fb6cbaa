/-!
# Beats

What happens on one beat of a track, and the glyphs that write it. A grid is written as a run of
glyphs in which blanks and line ends may stand anywhere.
-/

namespace DrumMachine

/-- `half` and `full` start the sample anew, `stop` cuts it off, and `rest` lets it go on. -/
inductive Beat where
  | rest
  | half
  | full
  | stop
deriving DecidableEq, Inhabited, Repr

namespace Beat

def ofGlyph? : Char → Option Beat
  | '.' => some .rest
  | '-' | '/' => some .half
  | '!' => some .full
  | ':' | '_' => some .stop
  | _ => none

def glyph : Beat → Char
  | .rest => '.'
  | .half => '-'
  | .full => '!'
  | .stop => ':'

/-- The gain at which a beat starts the sample. -/
def gain? : Beat → Option Float32
  | .half => some 0.5
  | .full => some 1
  | .rest | .stop => none

@[simp] theorem ofGlyph?_glyph (beat : Beat) : ofGlyph? beat.glyph = some beat := by
  cases beat <;> rfl

end Beat

namespace Grid

/-- The characters between glyphs that mean nothing. -/
def isFiller (c : Char) : Bool := c == ' ' || c == '\t' || c == '\r' || c == '\n'

/-- The beats that the characters write, after beats in `done`, latest first. -/
def readFrom (done : List Beat) : List Char → Except Char (List Beat)
  | [] => .ok done.reverse
  | c :: rest =>
    if isFiller c then readFrom done rest
    else match Beat.ofGlyph? c with
      | some beat => readFrom (beat :: done) rest
      | none => .error c

/-- The beats that a text writes, or the first character of it that is no glyph. -/
def read (text : String) : Except Char (List Beat) := readFrom [] text.toList

def write (beats : List Beat) : String := String.ofList (beats.map Beat.glyph)

end Grid

end DrumMachine
