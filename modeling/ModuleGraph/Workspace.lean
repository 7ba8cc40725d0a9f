import ModuleGraph.Schedule.Attempt
import ModuleGraph.Source.Manifest
import ModuleGraph.Source.TestSuite

/-!
# Workspaces

A graph is compiled to a workspace: the crate of the program, its test suite and the manifests.

## Main definitions

- `ModuleSource`, `Workspace` — the texts of a workspace
- `FileMap` — texts by path, where a path keeps its place when its text is replaced
- `Workspace.files` — the files of a workspace
- `emit` — the workspace of a schedule
- `programNameOf` — the name of a program, from the one asked for
- `compile` — the workspace of a graph
- `compileLog` — the records of compiling a graph
- `Graph.attemptCompile` — the same for a graph whose labels may be of no use
-/

namespace ModuleGraph

/-- The module of an instruction. -/
structure ModuleSource (L : Type) where
  nodeId : L
  moduleName : String
  source : Text
  deriving DecidableEq, Repr

/-- The texts of a workspace, and the summary of the program. -/
structure Workspace (L : Type) where
  programName : String
  crateRoot : Text
  modules : List (ModuleSource L)
  tests : Text
  crateManifest : Text
  workspaceManifest : Text
  flow : ProgramFlow L
  deriving DecidableEq, Repr

variable {L : Type}

/-! ### Files -/

/-- Texts by path. -/
abbrev FileMap := List (String × Text)

/-- The map with a text at a path. A path that the map has already keeps its place. -/
def FileMap.insert (files : FileMap) (path : String) (text : Text) : FileMap :=
  if files.any (·.1 == path) then
    files.map fun file => if file.1 = path then (path, text) else file
  else
    files ++ [(path, text)]

/-- The map that holds the given texts, inserted in order. -/
def FileMap.ofList (files : List (String × Text)) : FileMap :=
  files.foldl (fun map file => FileMap.insert map file.1 file.2) []

namespace Workspace

/-- The directory of the program crate. -/
def crateDir (workspace : Workspace L) : String := "programs/" ++ workspace.programName

/-- The path of a module of the program crate. -/
def modulePath (workspace : Workspace L) (name : String) : String :=
  workspace.crateDir ++ "/src/" ++ name ++ ".rs"

/-- The texts of a workspace and the paths that they are written to, in order. -/
def entries (workspace : Workspace L) : List (String × Text) :=
  [("Anchor.toml", workspace.workspaceManifest),
      (workspace.crateDir ++ "/Cargo.toml", workspace.crateManifest),
      (workspace.modulePath "lib", workspace.crateRoot)] ++
    workspace.modules.map (fun m => (workspace.modulePath m.moduleName, m.source)) ++
    [("tests/" ++ workspace.programName ++ ".ts", workspace.tests)]

def files (workspace : Workspace L) : FileMap := FileMap.ofList workspace.entries

end Workspace

/-! ### Compiling -/

def emit (schedule : Schedule L) : Workspace L where
  programName := schedule.programName
  crateRoot := Source.Script.text .standard (Source.crateScript schedule)
  modules := schedule.instructions.map fun instruction =>
    ⟨instruction.nodeId, instruction.moduleName,
      Source.Script.text .standard (Source.instructionScript instruction)⟩
  tests := Source.Script.text .narrow (Source.suiteScript schedule)
  crateManifest := Source.crateManifest schedule.programName
  workspaceManifest := Source.workspaceManifest schedule.programName
  flow := schedule.flow

/-- The name of a program that was given none. -/
def defaultProgramName : String := "my_program"

/-- The name of a program, from the one asked for. -/
def programNameOf (requested : Option Text) : String :=
  Naming.orElse (Naming.moduleName (requested.getD [])) defaultProgramName

variable [Label L]

/-- The workspace of a graph, for a program of the name asked for. -/
def compile (nodes : List (Node L)) (connections : List (Connection L)) (requested : Option Text) :
    Workspace L :=
  emit (buildSchedule (programNameOf requested) nodes connections)

/-- The record of a schedule that is about to be written. -/
def Schedule.summary (schedule : Schedule L) : Log.Record :=
  let name := schedule.programName
  let modules := schedule.instructions.length
  let accounts := schedule.accounts.length
  ⟨.compiler, .debug,
    s!"Generating '{name}': {modules} instruction module(s), {accounts} account(s)"⟩

/-- The records of compiling a graph. -/
def compileLog (nodes : List (Node L)) (connections : List (Connection L))
    (requested : Option Text) : Log :=
  scheduleLog nodes connections ++
    [(buildSchedule (programNameOf requested) nodes connections).summary]

/-- The workspace of a graph, for a program of the name asked for. What is asked for has to be a
text, unless it says nothing. -/
def Graph.attemptCompile (graph : Graph L) (requested : Option L) : Attempt (Workspace L) :=
  let schedule := buildSchedule (programNameOf (requested.bind Label.text?)) graph.nodes
    graph.connections
  .require (requested.all fun name => Label.isText name || Label.isEmpty name) .notAName
    (checkSchedule graph (.done (emit schedule) [schedule.summary]))

end ModuleGraph
