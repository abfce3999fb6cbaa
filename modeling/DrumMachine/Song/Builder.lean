import DrumMachine.Document.Reader
import DrumMachine.Song.Basic

/-!
# Building a song from sections

A section declares samples, phrases with their place in the order of play, or the grids of one
phrase, depending on its name. Sections add to the song one after the other; what a faulty section
declares before its fault stays in the song that `Song.add` leaves behind.
-/

namespace DrumMachine

inductive Section.Role where
  | samples
  | arrangement
  | phrase (name : String)
deriving DecidableEq, Repr

namespace Section

/-- The name of sections that declare samples. -/
def samplesName : String := "WHO"

/-- The name of sections that declare phrases and their order. -/
def arrangementName : String := "WHAT"

/-- The entry of such a section that gives the order of play. -/
def outputName : String := "Output"

/-- Any name that is not reserved is that of a phrase. -/
def role (name : String) : Role :=
  if name = samplesName then .samples
  else if name = arrangementName then .arrangement
  else .phrase name

end Section

namespace Song

/-- Which shapes of a value would have been right. -/
inductive Shape where
  | scalar
  | list
  | option
  | scalarOrList
deriving DecidableEq, Repr

def Shape.label : Shape → String
  | .scalar => "scalar"
  | .list => "list"
  | .option => "option"
  | .scalarOrList => "scalar or list"

inductive Fault where
  | unexpectedKind (place key : String) (expected : Shape) (found : Value.Kind)
  | unknownKey (place key : String)
  | unknownBeat (place track : String) (glyph : Char)
  | notImplemented (place track : String) (found : Value.Kind)
deriving DecidableEq, Repr

def Fault.message : Fault → String
  | .unexpectedKind place key expected found =>
    s!"[{place}] {key}: expected {expected.label}, found {found.label}"
  | .unknownKey place key => s!"[{place}] unknown key `{key}`"
  | .unknownBeat place track glyph =>
    s!"[{place}] {track}: unknown beat character {Text.quotedChar glyph}"
  | .notImplemented place track found =>
    s!"[{place}] {track}: beat grids given as {found.label} are not implemented"

/-- What adding something leaves behind: the new state, and the fault that cut it short, if any. -/
structure Outcome (σ : Type) where
  state : σ
  fault? : Option Fault := none

namespace Outcome

variable {σ τ : Type}

/-- Go through the items in order as long as there is no fault. -/
def each {α : Type} (step : σ → α → Outcome σ) : σ → List α → Outcome σ
  | state, [] => ⟨state, none⟩
  | state, item :: rest =>
    match step state item with
    | ⟨next, none⟩ => each step next rest
    | ⟨next, some fault⟩ => ⟨next, some fault⟩

def map (f : σ → τ) (outcome : Outcome σ) : Outcome τ := ⟨f outcome.state, outcome.fault?⟩

end Outcome

def addSampleField (entry : String) (sample : Sample) (field : Value) : Outcome Sample :=
  let place := Section.samplesName
  match field with
  | .option key value =>
    if key = "path" then
      match value with
      | .scalar text => ⟨{ sample with path := text }, none⟩
      | other => ⟨sample, some (.unexpectedKind place key .scalar other.kind)⟩
    else if key = "volume" then
      match value with
      | .scalar text => ⟨{ sample with volume := Text.lenientInt text }, none⟩
      | other => ⟨sample, some (.unexpectedKind place key .scalar other.kind)⟩
    else if key = "stereo" then
      match value with
      | .scalar text => ⟨{ sample with effect := ⟨text, sample.effect.params, none⟩ }, none⟩
      | other => ⟨sample, some (.unexpectedKind place key .scalar other.kind)⟩
    else if key = "params" then
      ⟨{ sample with effect := ⟨sample.effect.name, some value, none⟩ }, none⟩
    else ⟨sample, some (.unknownKey place key)⟩
  | other => ⟨sample, some (.unexpectedKind place entry .option other.kind)⟩

def addSample (song : Song) (entry : Entry) : Outcome Song :=
  match entry.value with
  | .list fields =>
    let sample := (song.samples.get? entry.name).getD {}
    (Outcome.each (addSampleField entry.name) sample fields).map fun sample =>
      { song with samples := song.samples.insert entry.name sample }
  | other => ⟨song, some (.unexpectedKind Section.samplesName entry.name .list other.kind)⟩

/-- More names at the end of the order of play, up to the first item that is no scalar. -/
def addOutput (song : Song) (items : List Value) : Outcome Song :=
  let isName (item : Value) : Bool := item.scalar?.isSome
  { state := { song with output := song.output ++ (items.takeWhile isName).filterMap Value.scalar? }
    fault? := (items.find? fun item => !isName item).map fun other =>
      .unexpectedKind Section.arrangementName Section.outputName .scalar other.kind }

def addPhraseField (entry : String) (phrase : Phrase) (field : Value) : Outcome Phrase :=
  let place := Section.arrangementName
  match field with
  | .option key value =>
    if key = "bpm" then
      match value with
      | .scalar text => ⟨{ phrase with bpm := Text.lenientInt text }, none⟩
      | other => ⟨phrase, some (.unexpectedKind place key .scalar other.kind)⟩
    else ⟨phrase, some (.unknownKey place key)⟩
  | other => ⟨phrase, some (.unexpectedKind place entry .option other.kind)⟩

/-- One entry of an arrangement: the order of play, or a phrase's declaration. -/
def addArrangement (song : Song) (entry : Entry) : Outcome Song :=
  if entry.name = Section.outputName then
    match entry.value with
    | .scalar name => ⟨{ song with output := song.output ++ [name] }, none⟩
    | .list items => addOutput song items
    | other =>
      ⟨song, some (.unexpectedKind Section.arrangementName entry.name .scalarOrList other.kind)⟩
  else
    match entry.value with
    | .list fields =>
      let phrase := (song.phrases.get? entry.name).getD {}
      (Outcome.each (addPhraseField entry.name) phrase fields).map fun phrase =>
        { song with phrases := song.phrases.insert entry.name phrase }
    | other => ⟨song, some (.unexpectedKind Section.arrangementName entry.name .list other.kind)⟩

/-- One track's grid, played after what the phrase already has for that track. -/
def addGrid (name : String) (phrase : Phrase) (entry : Entry) : Outcome Phrase :=
  match entry.value with
  | .scalar glyphs =>
    match Grid.read glyphs with
    | .ok beats =>
      let grids := phrase.beats.alter entry.name fun grid => grid.getD [] ++ beats
      ⟨{ phrase with beats := grids }, none⟩
    | .error glyph => ⟨phrase, some (.unknownBeat name entry.name glyph)⟩
  | other => ⟨phrase, some (.notImplemented name entry.name other.kind)⟩

def add (song : Song) (sec : Section) : Outcome Song :=
  match Section.role sec.name with
  | .samples => Outcome.each addSample song sec.entries
  | .arrangement => Outcome.each addArrangement song sec.entries
  | .phrase name =>
    let phrase := (song.phrases.get? name).getD {}
    (Outcome.each (addGrid name) phrase sec.entries).map fun phrase =>
      { song with phrases := song.phrases.insert name phrase }

/-- Add sections in order up to the first faulty one. -/
def addAll (song : Song) (sections : List Section) : Outcome Song := Outcome.each add song sections

/-- The song with the section added, unless the section is faulty. -/
def add? (song : Song) (sec : Section) : Except Fault Song :=
  match song.add sec with
  | ⟨next, none⟩ => .ok next
  | ⟨_, some fault⟩ => .error fault

def build (sections : List Section) : Except Fault Song :=
  match addAll {} sections with
  | ⟨song, none⟩ => .ok song
  | ⟨_, some fault⟩ => .error fault

inductive CompileError where
  | document (error : Document.Error)
  | invalid (fault : Fault)
deriving DecidableEq, Repr

def CompileError.message : CompileError → String
  | .document error => error.message
  | .invalid fault => fault.message

def compile (source : String) : Except CompileError Song :=
  match Document.parse source with
  | .error error => .error (.document error)
  | .ok sections =>
    match build sections with
    | .ok song => .ok song
    | .error fault => .error (.invalid fault)

end Song

end DrumMachine
