import DrumMachine.Export

/-!
# Command-line arguments

Arguments are words: options with their values, and operands. A word is understood by the options of
the command that it is given to, one word after the other, so the first word that asks for help,
asks for the version or is misused decides.
-/

namespace DrumMachine.Cli

/-! ### Words -/

inductive Word where
  | long (name : String) (value? : Option String)
  | short (letters : List Char)
  | endOfOptions
  | plain (text : String)
deriving DecidableEq, Repr

/-- The text before the first equals sign and the text after it. -/
def cutAtEquals (cs : List Char) : String × Option String :=
  match cs.dropWhile (· ≠ '=') with
  | [] => (String.ofList cs, none)
  | _ :: value => (String.ofList (cs.takeWhile (· ≠ '=')), some (String.ofList value))

/-- The form of an argument; a single dash is a plain word. -/
def Word.ofArgument (argument : String) : Word :=
  match argument.toList with
  | ['-', '-'] => .endOfOptions
  | '-' :: '-' :: cs =>
    let (name, value?) := cutAtEquals cs
    .long name value?
  | '-' :: c :: cs => .short (c :: cs)
  | _ => .plain argument

/-! ### Options -/

inductive OptionKind where
  | flag
  | path
  | choice (names : List String)
  | help
  | version
deriving DecidableEq, Repr

structure OptionForm where
  name : String
  letter? : Option Char := none
  kind : OptionKind := .flag
deriving DecidableEq, Repr

namespace OptionForm

def takesValue (form : OptionForm) : Bool :=
  match form.kind with
  | .path | .choice _ => true
  | .flag | .help | .version => false

def accepts (form : OptionForm) (value : String) : Bool :=
  match form.kind with
  | .path => !value.isEmpty
  | .choice names => names.contains value
  | .flag | .help | .version => false

end OptionForm

inductive Stop where
  | help
  | version
  | unknownOption (text : String)
  | unexpectedOperand (text : String)
  | unknownCommand (text : String)
  | unwantedValue (name : String)
  | missingValue (name : String)
  | badValue (name value : String)
  | repeated (name : String)
  | missingOperand
  | missingCommand
deriving DecidableEq, Repr

/-- The words understood so far: options with their values, operands, the option that waits for its
value, and whether all further words are operands. -/
structure Given where
  settings : List (String × String) := []
  operands : List String := []
  pending? : Option OptionForm := none
  onlyOperands : Bool := false
deriving DecidableEq, Repr

namespace Given

def has (given : Given) (name : String) : Bool := (given.settings.lookup name).isSome

def value? (given : Given) (name : String) : Option String := given.settings.lookup name

/-- Record an option, which can be given once. -/
def set (given : Given) (form : OptionForm) (value : String) : Except Stop Given :=
  if form.takesValue && !form.accepts value then .error (.badValue form.name value)
  else if given.has form.name then .error (.repeated form.name)
  else .ok { given with settings := (form.name, value) :: given.settings, pending? := none }

def raise (given : Given) (form : OptionForm) : Except Stop Given :=
  match form.kind with
  | .help => .error .help
  | .version => .error .version
  | .flag | .path | .choice _ => given.set form ""

def takeLong (forms : List OptionForm) (given : Given) (name : String) (value? : Option String) :
    Except Stop Given :=
  match forms.find? (·.name == name) with
  | none => .error (.unknownOption ("--" ++ name))
  | some form =>
    match form.takesValue, value? with
    | true, some value => given.set form value
    | true, none => .ok { given with pending? := some form }
    | false, none => given.raise form
    | false, some _ => .error (.unwantedValue name)

/-- Options given by their letters; what follows an option that takes a value is the value, with or
without an equals sign between. -/
def takeShort (forms : List OptionForm) : Given → List Char → Except Stop Given
  | given, [] => .ok given
  | given, c :: rest =>
    match forms.find? (·.letter? == some c) with
    | none => .error (.unknownOption ("-" ++ c.toString))
    | some form =>
      if form.takesValue then
        match rest with
        | [] => .ok { given with pending? := some form }
        | '=' :: value => given.set form (String.ofList value)
        | value => given.set form (String.ofList value)
      else
        match given.raise form with
        | .ok given => takeShort forms given rest
        | .error stop => .error stop

/-- An operand, of which a command takes a number; each is a path. -/
def takeOperand (most : Nat) (given : Given) (text : String) : Except Stop Given :=
  if most ≤ given.operands.length then .error (.unexpectedOperand text)
  else if text.isEmpty then .error (.badValue "input" text)
  else .ok { given with operands := given.operands ++ [text] }

def take (forms : List OptionForm) (most : Nat) (given : Given) (argument : String) :
    Except Stop Given :=
  if given.onlyOperands then given.takeOperand most argument
  else
    match given.pending?, Word.ofArgument argument with
    | some form, .plain text => given.set form text
    | some form, _ => .error (.missingValue form.name)
    | none, .long name value? => given.takeLong forms name value?
    | none, .short letters => takeShort forms given letters
    | none, .endOfOptions => .ok { given with onlyOperands := true }
    | none, .plain text => given.takeOperand most text

/-- No option waits for its value. -/
def finish (given : Given) : Except Stop Given :=
  match given.pending? with
  | some form => .error (.missingValue form.name)
  | none => .ok given

def operand (given : Given) : Except Stop String :=
  match given.operands with
  | [text] => .ok text
  | _ => .error .missingOperand

end Given

/-! ### Commands -/

/-- What a command line changes in how a song is rendered. -/
structure RenderChanges where
  output? : Option String := none
  split : Bool := false
  encoding? : Option Wave.Encoding := none
  serial : Bool := false
deriving DecidableEq, Repr

def RenderChanges.apply (changes : RenderChanges) (options : RenderOptions) : RenderOptions where
  output := changes.output?.getD options.output
  mode := if changes.split then .split else options.mode
  parallel := options.parallel && !changes.serial
  encoding := changes.encoding?.getD options.encoding

inductive Command where
  | render (input : String) (changes : RenderChanges)
  | check (input : String)
  | format (input : String)
  | fingerprint (input : String) (output? : Option String)
  | demo (directory : String)
deriving DecidableEq, Repr

structure CommandForm where
  name : String
  options : List OptionForm := []
  operands : Nat := 1
  command : Given → Except Stop Command

def helpOption : OptionForm := ⟨"help", some 'h', .help⟩

def outputOption : OptionForm := ⟨"output", some 'w', .path⟩

def encodingOption : OptionForm :=
  ⟨"encoding", none, .choice ([.float32, .int16].map Wave.Encoding.name)⟩

/-- The directory of the demo unless another is given. -/
def demoDirectory : String := "demo"

def commandForms : List CommandForm :=
  [{ name := "render"
     options := [helpOption, outputOption, ⟨"split", none, .flag⟩, encodingOption,
       ⟨"serial", none, .flag⟩]
     command := fun given => do
       return .render (← given.operand) {
         output? := given.value? "output"
         split := given.has "split"
         encoding? := (given.value? "encoding").bind Wave.Encoding.ofName?
         serial := given.has "serial" } },
   { name := "check"
     options := [helpOption]
     command := fun given => do return .check (← given.operand) },
   { name := "fmt"
     options := [helpOption]
     command := fun given => do return .format (← given.operand) },
   { name := "fingerprint"
     options := [helpOption, outputOption]
     command := fun given => do
       return .fingerprint (← given.operand) (given.value? "output") },
   { name := "demo"
     options := [helpOption, ⟨"dir", none, .path⟩]
     operands := 0
     command := fun given => .ok (.demo ((given.value? "dir").getD demoDirectory)) }]

structure Invocation where
  command : Command
  logDirectory? : Option String := none
deriving DecidableEq, Repr

def globalOptions : List OptionForm :=
  [helpOption, ⟨"version", some 'V', .version⟩, ⟨"log-dir", none, .path⟩]

def helpOn : List String → Stop
  | [] => .help
  | [name] =>
    if name = "help" || commandForms.any (·.name == name) then .help else .unknownCommand name
  | _ :: name :: _ => .unknownCommand name

/-- The command of a name with the arguments after it. -/
def readCommand (before : Given) (name : String) (arguments : List String) :
    Except Stop Invocation := do
  if name = "help" then throw (helpOn arguments)
  match commandForms.find? (·.name == name) with
  | none => throw (.unknownCommand name)
  | some form =>
    let given ← arguments.foldlM (Given.take form.options form.operands) {}
    let command ← form.command (← given.finish)
    return ⟨command, before.value? "log-dir"⟩

/-- All arguments: options, then a command. -/
def readFrom : Given → List String → Except Stop Invocation
  | given, [] => do
    let _ ← given.finish
    throw .missingCommand
  | given, argument :: rest =>
    match given.onlyOperands, given.pending?, Word.ofArgument argument with
    | false, none, .plain name => readCommand given name rest
    | _, _, _ => do readFrom (← given.take globalOptions 0 argument) rest

def read (arguments : List String) : Except Stop Invocation := readFrom {} arguments

end DrumMachine.Cli
