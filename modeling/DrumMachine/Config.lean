import DrumMachine.Export
import DrumMachine.Toml.Reader

/-!
# Configuration

Defaults for rendering and for the session log, read from a TOML file. What the file leaves out
keeps its default, and keys that are not known are ignored.
-/

namespace DrumMachine

structure RenderConfig where
  output : String := "test.wav"
  split : Bool := false
  parallel : Bool := true
  encoding : Wave.Encoding := .float32
deriving DecidableEq, Inhabited, Repr

structure DiagnosticsConfig where
  logDirectory : String := "logs"
  filter : String := "info,jakbeat_core=debug"
  filePrefix : String := "jakbeat"
deriving DecidableEq, Inhabited, Repr

structure Config where
  render : RenderConfig := {}
  diagnostics : DiagnosticsConfig := {}
deriving DecidableEq, Inhabited, Repr

def RenderConfig.options (config : RenderConfig) : RenderOptions where
  output := config.output
  mode := if config.split then .split else .unified
  parallel := config.parallel
  encoding := config.encoding

namespace Config

/-! ### Values of settings -/

/-- The settings of a group by name: a table's entries, or an array's items in the order of the
names. A time is a group without settings. -/
def group? (names : List String) : TomlValue → Option (String → Option TomlValue)
  | .table _ entries => some fun name => entries.lookup name
  | .array items => some fun name => (names.zip items).lookup name
  | .tables items => some fun name => (names.zip items.reverse).lookup name
  | .time _ => some fun _ => none
  | _ => none

/-- A setting's value, or its default if there is none; a value of the wrong kind is an error. -/
def setting? {α : Type} (read : TomlValue → Option α) (fallback : α) (value? : Option TomlValue) :
    Option α :=
  match value? with
  | none => some fallback
  | some value => read value

def text? : TomlValue → Option String
  | .string text => some text
  | _ => none

def boolean? : TomlValue → Option Bool
  | .boolean value => some value
  | _ => none

/-- Nothing but an empty pair of brackets or braces. -/
def isBare : TomlValue → Bool
  | .array items => items.isEmpty
  | .table _ entries => entries.isEmpty
  | .tables items => items.isEmpty
  | _ => false

/-- An encoding by its name, or as the only key of a table, with nothing in it. -/
def encoding? : TomlValue → Option Wave.Encoding
  | .string name => Wave.Encoding.ofName? name
  | .table _ [(name, content)] => if isBare content then Wave.Encoding.ofName? name else none
  | _ => none

def render? (value : TomlValue) : Option RenderConfig := do
  let get ← group? ["output", "split", "parallel", "encoding"] value
  let default : RenderConfig := {}
  return {
    output := ← setting? text? default.output (get "output")
    split := ← setting? boolean? default.split (get "split")
    parallel := ← setting? boolean? default.parallel (get "parallel")
    encoding := ← setting? encoding? default.encoding (get "encoding") }

def diagnostics? (value : TomlValue) : Option DiagnosticsConfig := do
  let get ← group? ["log_dir", "rust_log_filter", "trace_file_prefix"] value
  let default : DiagnosticsConfig := {}
  return {
    logDirectory := ← setting? text? default.logDirectory (get "log_dir")
    filter := ← setting? text? default.filter (get "rust_log_filter")
    filePrefix := ← setting? text? default.filePrefix (get "trace_file_prefix") }

def ofText? (source : String) : Option Config := do
  let entries ← Toml.parse source
  return {
    render := ← setting? render? {} (entries.lookup "render")
    diagnostics := ← setting? diagnostics? {} (entries.lookup "diagnostics") }

/-! ### Finding the file -/

def fileName : String := "jakbeat.config.toml"

def pathVariable : String := "JAKBEAT_CONFIG_PATH"

/-- Where the program runs: its current directory, and the configuration file that its environment
names. -/
structure Environment where
  directory : String
  configPath? : Option String := none
deriving Inhabited

/-- The places to look for a configuration file, in order. -/
def candidates (environment : Environment) : List String :=
  environment.configPath?.toList ++
    [Path.join environment.directory fileName,
      Path.join (Path.join environment.directory "..") fileName]

variable {m : Type → Type} [Monad m] [Disk m]

def firstFile : List String → m (Option String)
  | [] => return none
  | path :: rest => do if ← Disk.isFile path then return some path else firstFile rest

def ofFile (path : String) : m (Except Failure Config) := do
  match ← Disk.readText path with
  | .error error => return .error ⟨.readConfig path, .file error⟩
  | .ok source =>
    match ofText? source with
    | some config => return .ok config
    | none => return .error ⟨.parseConfig path, .malformed⟩

/-- The configuration that applies; without a file that is an error. -/
def load (environment : Environment) : m (Except Failure Config) := do
  match ← firstFile (candidates environment) with
  | some path => ofFile path
  | none => return .error ⟨.locateConfig fileName, .malformed⟩

/-- The configuration that applies, which is the default without a file. -/
def loadOrDefault (environment : Environment) : m (Except Failure Config) := do
  match ← firstFile (candidates environment) with
  | some path => ofFile path
  | none => return .ok {}

end Config

end DrumMachine
