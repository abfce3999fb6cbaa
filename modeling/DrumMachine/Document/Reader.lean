import DrumMachine.Document.Token
import DrumMachine.Document.Value

/-!
# Reading a document

Sections are put together from tokens one token at a time. What the reader knows between two tokens
is a `Place`: which section it is in, which lists are open around it, and what may come next. A text
inside a list is a scalar or the name of an option, which shows only with the token after it, so
`Place.word` holds it back.
-/

namespace DrumMachine.Document

/-- The greatest number of lists that may be open at once. -/
def maxNesting : Nat := 256

inductive Expected where
  | sectionOpen
  | sectionName
  | sectionClose
  | optionName
  | equals
  | value
  | listItem
deriving DecidableEq, Inhabited, Repr

def Expected.shown : Expected → String
  | .sectionOpen => "`[`"
  | .sectionName => "section name"
  | .sectionClose => "`]`"
  | .optionName => "option name"
  | .equals => "`=`"
  | .value => "value"
  | .listItem => "list item or `)`"

inductive Error where
  | unexpectedToken (line : Nat) (expected : Expected) (found : Token)
  | unterminatedString (line : Nat)
  | unexpectedEnd (expected : Expected)
  | tooDeep (line : Nat)
deriving DecidableEq, Inhabited, Repr

def Error.message : Error → String
  | .unexpectedToken line expected found =>
    s!"line {line}: expected {expected.shown}, found {found.shown}"
  | .unterminatedString line => s!"line {line}: unterminated quoted string"
  | .unexpectedEnd expected => s!"unexpected end of document, expected {expected.shown}"
  | .tooDeep line => s!"line {line}: lists nested deeper than {maxNesting}"

/-- A section still being read, its entries latest first. -/
structure Draft where
  name : String
  entries : List Entry := []
deriving DecidableEq, Inhabited, Repr

namespace Draft

def add (draft : Draft) (name : String) (value : Value) : Draft :=
  ⟨draft.name, ⟨name, value⟩ :: draft.entries⟩

def toSection (draft : Draft) : Section := ⟨draft.name, draft.entries.reverse⟩

end Draft

/-- A list that waits for a list inside it: its items, latest first, and the name for which the
inner list is the value, if there is one. -/
structure Waiting where
  items : List Value
  name? : Option String
deriving DecidableEq, Inhabited, Repr

/-- The innermost open list, its items latest first, with the lists around it from the inside out
and the entry that all of them belong to. -/
structure Nest where
  draft : Draft
  entry : String
  waiting : List Waiting := []
  items : List Value := []
deriving DecidableEq, Inhabited, Repr

namespace Nest

/-- The number of open lists. -/
def depth (nest : Nest) : Nat := nest.waiting.length + 1

def add (nest : Nest) (item : Value) : Nest := { nest with items := item :: nest.items }

def enter (nest : Nest) (name? : Option String) : Nest :=
  { nest with waiting := ⟨nest.items, name?⟩ :: nest.waiting, items := [] }

end Nest

/-- Between which two tokens of a document the reader stands. -/
inductive Place where
  | outside
  | header
  | headerEnd (name : String)
  | entries (draft : Draft)
  | entryEquals (draft : Draft) (name : String)
  | entryValue (draft : Draft) (name : String)
  | items (nest : Nest)
  | word (nest : Nest) (text : String)
  | optionValue (nest : Nest) (name : String)
deriving DecidableEq, Inhabited, Repr

/-- Close the innermost list and hand it to what it is the value of. -/
def Nest.leave (nest : Nest) : Place :=
  let closed := Value.list nest.items.reverse
  match nest.waiting with
  | [] => .entries (nest.draft.add nest.entry closed)
  | ⟨items, name?⟩ :: rest =>
    let item := match name? with
      | none => closed
      | some name => .option name closed
    .items { nest with waiting := rest, items := item :: items }

/-- The reader after part of a document: the sections it completed, latest first, and where it
stands. -/
structure Reader where
  done : List Section := []
  place : Place := .outside
deriving DecidableEq, Inhabited, Repr

namespace Reader

/-- Open a list inside `nest`, unless too many are open. -/
def openList (nest : Nest) (name? : Option String) (line : Nat) : Except Error Place :=
  if nest.depth < maxNesting then .ok (.items (nest.enter name?)) else .error (.tooDeep line)

/-- Where one more item, or the end of the list, leads. -/
def listItem (nest : Nest) (found : Located) : Except Error Place :=
  match found.token with
  | .closeList => .ok nest.leave
  | .openList => openList nest none found.line
  | .text content => .ok (.word nest content)
  | token => .error (.unexpectedToken found.line .listItem token)

/-- Where the next token leads within the current section. -/
def advance (place : Place) (found : Located) : Except Error Place :=
  let unexpected (expected : Expected) : Except Error Place :=
    .error (.unexpectedToken found.line expected found.token)
  match place with
  | .outside => if found.token = .openSection then .ok .header else unexpected .sectionOpen
  | .header =>
    match found.token with
    | .text name => .ok (.headerEnd name)
    | _ => unexpected .sectionName
  | .headerEnd name =>
    if found.token = .closeSection then .ok (.entries ⟨name, []⟩) else unexpected .sectionClose
  | .entries draft =>
    match found.token with
    | .text name => .ok (.entryEquals draft name)
    | .openSection => .ok .header
    | _ => unexpected .optionName
  | .entryEquals draft name =>
    if found.token = .equals then .ok (.entryValue draft name) else unexpected .equals
  | .entryValue draft name =>
    match found.token with
    | .text content => .ok (.entries (draft.add name (.scalar content)))
    | .openList => .ok (.items ⟨draft, name, [], []⟩)
    | _ => unexpected .value
  | .items nest => listItem nest found
  | .word nest text =>
    if found.token = .equals then .ok (.optionValue nest text)
    else listItem (nest.add (.scalar text)) found
  | .optionValue nest name =>
    match found.token with
    | .text content => .ok (.items (nest.add (.option name (.scalar content))))
    | .openList => openList nest (some name) found.line
    | _ => unexpected .value

/-- The sections that are complete once a token other than one of the current section's comes. -/
def completed (reader : Reader) (found : Located) : List Section :=
  match reader.place with
  | .entries draft =>
    if found.token = .openSection then draft.toSection :: reader.done else reader.done
  | _ => reader.done

def feed (reader : Reader) (found : Located) : Except Error Reader :=
  (advance reader.place found).map fun place => ⟨reader.completed found, place⟩

def feedAll (reader : Reader) : List Located → Except Error Reader
  | [] => .ok reader
  | found :: rest =>
    match reader.feed found with
    | .ok next => next.feedAll rest
    | .error error => .error error

def finish (reader : Reader) : Except Error (List Section) :=
  match reader.place with
  | .outside => .ok reader.done.reverse
  | .header => .error (.unexpectedEnd .sectionName)
  | .headerEnd _ => .error (.unexpectedEnd .sectionClose)
  | .entries draft => .ok (draft.toSection :: reader.done).reverse
  | .entryEquals .. => .error (.unexpectedEnd .equals)
  | .entryValue .. | .optionValue .. => .error (.unexpectedEnd .value)
  | .items _ | .word .. => .error (.unexpectedEnd .listItem)

end Reader

def readSections (tokens : List Located) : Except Error (List Section) :=
  match Reader.feedAll {} tokens with
  | .ok reader => reader.finish
  | .error error => .error error

/-- The sections of a document. A quote without an end counts before any other fault. -/
def parse (source : String) : Except Error (List Section) :=
  match tokenize source with
  | .ok tokens => readSections tokens
  | .error line => .error (.unterminatedString line)

end DrumMachine.Document
