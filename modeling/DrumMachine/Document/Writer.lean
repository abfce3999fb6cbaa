import DrumMachine.Document.Token
import DrumMachine.Document.Value

/-!
# Writing a document

Sections are written one entry a line, with a blank line between sections. A text is written bare
unless it is empty or holds a delimiter; then it stands in quotes.
-/

namespace DrumMachine.Document

/-- The text would not be read back as one bare text. -/
def needsQuotes (text : String) : Bool := text.isEmpty || text.toList.any isDelimiter

def writeQuoted (text : String) : String := "\"" ++ text ++ "\""

def writeText (text : String) : String := if needsQuotes text then writeQuoted text else text

mutual

/-- A value on one line, its parts separated by one space. -/
def writeValue : Value → String
  | .scalar text => writeText text
  | .list items => "(" ++ writeItems items ++ " )"
  | .option name value => writeText name ++ " = " ++ writeValue value

def writeItems : List Value → String
  | [] => ""
  | item :: rest => " " ++ writeValue item ++ writeItems rest

end

def writeEntry (entry : Entry) : String :=
  writeText entry.name ++ " = " ++ writeValue entry.value ++ "\n"

/-- One line of a section whose value is a grid: a grid is quoted even where it need not be. -/
def writeGridEntry (entry : Entry) : String :=
  match entry.value with
  | .scalar glyphs => writeText entry.name ++ " = " ++ writeQuoted glyphs ++ "\n"
  | _ => writeEntry entry

/-- A section with the given way to write its entries. -/
def writeSection (line : Entry → String) (sec : Section) : String :=
  "[" ++ writeText sec.name ++ "]\n" ++ String.join (sec.entries.map line)

end DrumMachine.Document
