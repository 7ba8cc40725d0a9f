import ModuleGraph.Graph.Basic
import ModuleGraph.Text.Case
import ModuleGraph.Text.Numeral
import ModuleGraph.Text.Quoted

/-!
# Settings

Settings are read from the environment. A variable that is not set has its default, and so has a
number that is set to white space.

## Main definitions

- `Environment` — the variables that are set
- `Settings`, `Settings.read` — the settings, and how they are read
- `SettingsError` — a variable that should be a whole number is none
- `LevelError`, `Settings.threshold` — the level below which records are not shown
- `SizeError`, `Settings.checkSize` — a graph beyond the limits
-/

namespace ModuleGraph

/-- The variables that are set. -/
abbrev Environment := List (String × Text)

structure Settings where
  programName : Text
  maxNodes : Int
  maxConnections : Int
  historyLimit : Int
  host : Text
  port : Int
  logLevel : Text
  deriving DecidableEq, Repr

/-- A variable that should be a whole number is none. -/
structure SettingsError where
  key : String
  value : Text
  deriving DecidableEq, Repr

def SettingsError.message (error : SettingsError) : String :=
  error.key ++ " must be an integer, got " ++ error.value.quoted

/-- A level is named by a word that is taken for something else. -/
inductive LevelError where
  | messageFormat
  | styleTable
  deriving DecidableEq, Repr

def LevelError.message : LevelError → String
  | messageFormat => "Unknown level: '%(levelname)s:%(name)s:%(message)s'"
  | styleTable => "Level not an integer or a valid string"

namespace Settings

/-- The settings of an empty environment. -/
def default : Settings where
  programName := "my_program"
  maxNodes := 500
  maxConnections := 2000
  historyLimit := 100
  host := "0.0.0.0"
  port := 3001
  logLevel := "INFO"

/-- The variables that settings are read from. -/
def variableNames : List String :=
  ["ANCHORFLOW_PROGRAM_NAME", "ANCHORFLOW_MAX_NODES", "ANCHORFLOW_MAX_CONNECTIONS",
    "ANCHORFLOW_HISTORY_LIMIT", "ANCHORFLOW_HOST", "ANCHORFLOW_PORT", "ANCHORFLOW_LOG_LEVEL"]

def readText (environment : Environment) (key : String) (fallback : Text) : Text :=
  (environment.lookup key).getD fallback

/-- The whole number of a variable. -/
def readNumber (environment : Environment) (key : String) (fallback : Int) :
    Except SettingsError Int :=
  match environment.lookup key with
  | none => .ok fallback
  | some value =>
    if value.trimBlanks.isEmpty then .ok fallback
    else
      match value.wholeNumber? with
      | some number => .ok number
      | none => .error ⟨key, value⟩

def read (environment : Environment) : Except SettingsError Settings := do
  let maxNodes ← readNumber environment "ANCHORFLOW_MAX_NODES" default.maxNodes
  let maxConnections ← readNumber environment "ANCHORFLOW_MAX_CONNECTIONS" default.maxConnections
  let historyLimit ← readNumber environment "ANCHORFLOW_HISTORY_LIMIT" default.historyLimit
  let port ← readNumber environment "ANCHORFLOW_PORT" default.port
  return {
    programName := readText environment "ANCHORFLOW_PROGRAM_NAME" default.programName
    maxNodes
    maxConnections
    historyLimit
    host := readText environment "ANCHORFLOW_HOST" default.host
    port
    logLevel := (readText environment "ANCHORFLOW_LOG_LEVEL" default.logLevel).upper }

/-- What the name of a level denotes: a weight, or something that is no level. -/
def levels : List (Text × Except LevelError Nat) :=
  [("CRITICAL", .ok 50), ("FATAL", .ok 50), ("ERROR", .ok 40), ("WARNING", .ok 30),
    ("WARN", .ok 30), ("INFO", .ok 20), ("DEBUG", .ok 10), ("NOTSET", .ok 0),
    ("BASIC_FORMAT", .error .messageFormat), ("_STYLES", .error .styleTable)]

/-- The level below which records are not shown; a name that denotes nothing is that of
information. -/
def threshold (settings : Settings) : Except LevelError Nat :=
  (levels.lookup settings.logLevel).getD (.ok 20)

end Settings

/-! ### Limits -/

/-- A graph is beyond a limit. -/
inductive SizeError where
  | nodes (count : Nat) (limit : Int)
  | connections (count : Nat) (limit : Int)
  deriving DecidableEq, Repr

def SizeError.message : SizeError → String
  | nodes count limit => s!"Graph has {count} nodes, the limit is {limit}"
  | connections count limit => s!"Graph has {count} connections, the limit is {limit}"

/-- Refuses a graph beyond the limits. -/
def Settings.checkSize {L : Type} (settings : Settings) (graph : Graph L) : Except SizeError Unit :=
  if (graph.nodes.length : Int) > settings.maxNodes then
    .error (.nodes graph.nodes.length settings.maxNodes)
  else if (graph.connections.length : Int) > settings.maxConnections then
    .error (.connections graph.connections.length settings.maxConnections)
  else
    .ok ()

end ModuleGraph
