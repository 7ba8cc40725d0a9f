import ModuleGraph.Text.Basic

/-!
# Usage and help

## Main definitions

- `usage` — how the program is called
- `help` — what the program does and what its options mean
-/

namespace ModuleGraph.CommandLine

def programTitle : Text := "anchorflow-compile"

def usageLines : List String :=
  ["usage: anchorflow-compile [-h] [--out DIR] [--program-name NAME] [--print]",
    "                          [--analyze] [--strict]",
    "                          graph.json"]

/-- The lines that say what the program does and what its options mean. -/
def manualLines : List String :=
  ["",
    "Compile an AnchorFlow JSON graph to an Anchor workspace.",
    "",
    "positional arguments:",
    "  graph.json           Path to the graph JSON file to compile.",
    "",
    "options:",
    "  -h, --help           show this help message and exit",
    "  --out DIR            Output directory for the generated workspace (default:",
    "                       anchor_out/).",
    "  --program-name NAME  Program name; overrides the graph's programName.",
    "  --print              Print lib.rs to stdout instead of writing files.",
    "  --analyze            Print the flow analysis as JSON instead of generating",
    "                       code.",
    "  --strict             Treat dangling connection endpoints as errors rather",
    "                       than warnings.",
    "",
    "compile_from_json.py — CLI for the AnchorFlow graph compiler",
    "============================================================",
    "Compiles a serialised module graph into an Anchor workspace.",
    "",
    "Usage",
    "-----",
    "    anchorflow-compile <graph.json> [options]",
    "    python -m anchorflow.compile_from_json <graph.json> [options]",
    "",
    "Options",
    "-------",
    "    --out           <dir>   Output directory (default: ./anchor_out/)",
    "    --program-name  <name>  Program / crate name (default: the graph's",
    "                            \"programName\", then ANCHORFLOW_PROGRAM_NAME)",
    "    --print                 Print lib.rs to stdout instead of writing files",
    "    --analyze               Print the flow analysis as JSON and exit",
    "    --strict                Treat dangling connection endpoints as errors",
    "",
    "Examples",
    "--------",
    "    # Write the workspace tree under ./build/vault:",
    "    anchorflow-compile graphs/vault.json --out build/vault --program-name vault",
    "",
    "    # Inspect execution order, cycles and isolated modules:",
    "    anchorflow-compile graphs/vault.json --analyze"]

/-- A text of the given lines, each with its line end. -/
def asText (lines : List Text) : Text := lines.flatMap (· ++ "\n")

def usage : Text := asText (usageLines.map Text.ofString)

/-- What the program does and what its options mean. -/
def help : Text := asText ((usageLines ++ manualLines).map Text.ofString)

end ModuleGraph.CommandLine
