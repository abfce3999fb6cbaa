import DrumMachine.Text.Printable

/-!
# Quoted text in diagnostics

A diagnostic shows a text or a character between quotes, with every character that would be
invisible or ambiguous escaped.
-/

namespace DrumMachine.Text

/-- The code point in lower-case hexadecimal between braces. -/
def codePointEscape (c : Char) : String :=
  "\\u\x7b" ++ String.ofList (Nat.toDigits 16 c.toNat) ++ "\x7d"

/-- One character between `quote` marks. An extending character needs an escape where it has nothing
before it to combine with. -/
def shownChar (quote : Char) (leading : Bool) (c : Char) : String :=
  match c with
  | '\t' => "\\t"
  | '\r' => "\\r"
  | '\n' => "\\n"
  | '\x00' => "\\0"
  | '\\' => "\\\\"
  | c =>
    if c = quote then "\\" ++ c.toString
    else if !isPrintable c || (leading && isExtender c) then codePointEscape c
    else c.toString

def quoted (text : String) : String :=
  match text.toList with
  | [] => "\"\""
  | c :: rest =>
    "\"" ++ shownChar '"' true c ++ String.join (rest.map (shownChar '"' false)) ++ "\""

def quotedChar (c : Char) : String := "'" ++ shownChar '\'' true c ++ "'"

example : quoted "a\"\t\x07" = "\"a\\\"\\t\\u\x7b7\x7d\"" := by cbv

end DrumMachine.Text
