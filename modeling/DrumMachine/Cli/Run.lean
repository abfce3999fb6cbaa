import DrumMachine.Cli.Arguments
import DrumMachine.Cli.SessionLog
import DrumMachine.Demo.Project
import DrumMachine.Engine

/-!
# Running commands

From arguments to what the program prints and the status it ends with: 0 if all went well, 1 if a
command failed, 2 if the arguments make no command, and 101 if the session's log cannot be started.
-/

namespace DrumMachine.Cli

/-- What the program runs in: its current directory, the configuration file that its environment
names, the moment it started, and its standard input. -/
structure Surroundings (m : Type → Type) where
  environment : Config.Environment
  started : Nat
  readInput : m (Except FileError ByteArray)

structure Outcome where
  status : Nat := 0
  out : String := ""
  err : String := ""
deriving DecidableEq, Inhabited, Repr

inductive CommandError where
  | engine (error : Engine.Error)
  | failure (failure : Failure)
deriving DecidableEq, Repr

def CommandError.message : CommandError → String
  | .engine error => error.message
  | .failure error => error.headline

namespace Outcome

def success (out : String) : Outcome := { out }

def failed (message : String) : Outcome := { status := 1, err := "Error: " ++ message ++ "\n" }

def ofResult : Except CommandError String → Outcome
  | .ok out => success out
  | .error error => failed error.message

end Outcome

/-! ### Texts -/

def versionText : String := "jakbeat 0.1.0\n"

def usageText : String :=
  String.join (["Usage: jakbeat [--log-dir PATH] COMMAND",
    "  render INPUT [-w PATH] [--split] [--encoding float32|int16] [--serial]",
    "  check INPUT",
    "  fmt INPUT",
    "  fingerprint INPUT [-w PATH]",
    "  demo [--dir PATH]"].map (· ++ "\n"))

def Stop.message : Stop → String
  | .help | .version => ""
  | .unknownOption text => s!"error: unexpected argument '{text}'\n"
  | .unexpectedOperand text => s!"error: unexpected argument '{text}'\n"
  | .unknownCommand text => s!"error: unrecognized command '{text}'\n"
  | .unwantedValue name => s!"error: --{name} takes no value\n"
  | .missingValue name => s!"error: --{name} needs a value\n"
  | .badValue name value => s!"error: invalid value '{value}' for {name}\n"
  | .repeated name => s!"error: --{name} is given more than once\n"
  | .missingOperand => "error: the input is missing\n"
  | .missingCommand => "error: the command is missing\n"

def Stop.outcome : Stop → Outcome
  | .help => .success usageText
  | .version => .success versionText
  | stop => { status := 2, err := stop.message ++ usageText }

def lines (texts : List String) : String := String.join (texts.map (· ++ "\n"))

/-- What a song declares, and the phrases that it plays without declaring them. -/
def describe (song : Song) : String :=
  let counts := s!"{song.samples.size} samples, {song.phrases.size} phrases, " ++
    s!"{song.output.length} output steps, {song.totalSamples} frames"
  lines (counts :: song.dangling.map fun name =>
    s!"warning: output references undeclared phrase `{name}`")

/-! ### Commands -/

variable {m : Type → Type} [Monad m] [Disk m]

def readEngine (surroundings : Surroundings m) : m (Except CommandError Engine) := do
  match ← surroundings.readInput with
  | .error error => return .error (.failure ⟨.readInput, .file error⟩)
  | .ok bytes =>
    match String.fromUTF8? bytes with
    | none => return .error (.failure ⟨.readInput, .file .notText⟩)
    | some source =>
      return (Engine.ofDocument source surroundings.environment.directory).mapError .engine

/-- An engine for the song in a file, or in the standard input if the path is a single dash. -/
def openEngine (surroundings : Surroundings m) (input : String) :
    m (Except CommandError Engine) := do
  if input = "-" then readEngine surroundings
  else return (← Engine.ofFile input).mapError .engine

def renderFiles (engine : Engine) (options : RenderOptions) : m (Except CommandError String) := do
  match ← engine.render options with
  | .ok summary => return .ok (lines summary.files)
  | .error error => return .error (.engine error)

def deliverReport (report : Report) : Option String → m (Except CommandError String)
  | none => return .ok (report.write ++ "\n")
  | some path => do return ((← report.save path).map fun () => "").mapError .failure

def reportOn (engine : Engine) (output? : Option String) : m (Except CommandError String) := do
  match ← engine.fingerprint with
  | .ok report => deliverReport report output?
  | .error error => return .error (.engine error)

def runDemo (config : Config) (directory : String) : m (Except CommandError String) := do
  match ← Demo.writeProject directory with
  | .error failure => return .error (.failure failure)
  | .ok document =>
    match ← Engine.ofFile document with
    | .error error => return .error (.engine error)
    | .ok engine =>
      renderFiles engine { config.render.options with output := Path.join directory "demo.wav" }

def withEngine (surroundings : Surroundings m) (input : String)
    (use : Engine → m (Except CommandError String)) : m (Except CommandError String) := do
  match ← openEngine surroundings input with
  | .error error => return .error error
  | .ok engine => use engine

/-- Carry out a command; the answer is what it prints. -/
def runCommand (surroundings : Surroundings m) (config : Config) :
    Command → m (Except CommandError String)
  | .render input changes =>
    withEngine surroundings input fun engine =>
      renderFiles engine (changes.apply config.render.options)
  | .check input => withEngine surroundings input fun engine => return .ok (describe engine.song)
  | .format input => withEngine surroundings input fun engine => return .ok engine.document
  | .fingerprint input output? =>
    withEngine surroundings input fun engine => reportOn engine output?
  | .demo directory => runDemo config directory

/-! ### The program -/

/-- Start the session's log, then carry out the command. -/
def runSession (surroundings : Surroundings m) (config : Config) (command : Command) :
    m Outcome := do
  match ← SessionLog.start config.diagnostics surroundings.started with
  | .ok () => return .ofResult (← runCommand surroundings config command)
  | .error ⟨.startLog path, cause⟩ =>
    return { status := 101, err := (Failure.mk (.startLog path) cause).message ++ "\n" }
  | .error failure => return .failed failure.headline

/-- The configuration with what the command line says about it. -/
def Invocation.configure (invocation : Invocation) (config : Config) : Config :=
  match invocation.logDirectory? with
  | some logDirectory =>
    { config with diagnostics := { config.diagnostics with logDirectory } }
  | none => config

def run (surroundings : Surroundings m) (arguments : List String) : m Outcome := do
  match read arguments with
  | .error stop => return stop.outcome
  | .ok invocation =>
    match ← Config.loadOrDefault surroundings.environment with
    | .error failure => return .failed failure.headline
    | .ok config => runSession surroundings (invocation.configure config) invocation.command

end DrumMachine.Cli
