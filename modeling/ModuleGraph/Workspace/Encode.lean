import ModuleGraph.Json.Value
import ModuleGraph.Workspace

/-!
# Writing workspaces

## Main definitions

- `ProgramFlow.encode` — the JSON value of the summary of a program
- `Workspace.encode` — the JSON value of a workspace
- `FileMap.encode` — the JSON value of texts by path
-/

namespace ModuleGraph

variable {L : Type} [Label L]

def Transfer.encode (transfer : Transfer L) : Json :=
  .object
    [("from", .string transfer.source),
      ("to", .string transfer.target),
      ("dataType", Label.toJson transfer.dataType),
      ("required", .bool transfer.required)]

def ProgramFlow.encode (flow : ProgramFlow L) : Json :=
  .object
    [("entryPoints", .texts flow.entryPoints),
      ("executionOrder", .texts flow.executionOrder),
      ("dataFlow", .array (flow.dataFlow.map Transfer.encode))]

def ModuleSource.encode (module : ModuleSource L) : Json :=
  .object
    [("nodeId", Label.toJson module.nodeId),
      ("moduleName", .string module.moduleName),
      ("source", .string module.source)]

/-- The members of the JSON value of a workspace. -/
def Workspace.members (workspace : Workspace L) : List (Text × Json) :=
  [("programName", .string workspace.programName),
    ("lib", .string workspace.crateRoot),
    ("instructions", .array (workspace.modules.map ModuleSource.encode)),
    ("tests", .string workspace.tests),
    ("cargoToml", .string workspace.crateManifest),
    ("anchorToml", .string workspace.workspaceManifest),
    ("programFlow", workspace.flow.encode)]

def Workspace.encode (workspace : Workspace L) : Json := .object workspace.members

def FileMap.encode (files : FileMap) : Json :=
  .object (files.map fun (path, text) => (Text.ofString path, .string text))

end ModuleGraph
