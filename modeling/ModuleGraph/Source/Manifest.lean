import ModuleGraph.Source.Program

/-!
# Manifests

## Main definitions

- `crateManifest` — the manifest of the program crate
- `workspaceManifest` — the manifest of the workspace
-/

namespace ModuleGraph.Source

/-- The version of the framework that generated programs are built with. -/
def frameworkVersion : String := "0.29.0"

/-- The text made of the given lines, each with its line end. -/
def ofLines (lines : List String) : Text := String.join (lines.map (· ++ "\n"))

def crateManifest (program : String) : Text :=
  ofLines
    ["[package]",
      "name = \"" ++ program ++ "\"",
      "version = \"0.1.0\"",
      "description = \"Created with AnchorFlow\"",
      "edition = \"2021\"",
      "",
      "[lib]",
      "crate-type = [\"cdylib\", \"lib\"]",
      "name = \"" ++ program ++ "\"",
      "",
      "[features]",
      "no-entrypoint = []",
      "no-idl = []",
      "no-log-ix-name = []",
      "cpi = [\"no-entrypoint\"]",
      "default = []",
      "",
      "[dependencies]",
      "anchor-lang = \"" ++ frameworkVersion ++ "\""]

def workspaceManifest (program : String) : Text :=
  ofLines
    ["[features]",
      "seeds = false",
      "skip-lint = false",
      "",
      "[programs.localnet]",
      program ++ " = \"" ++ programId ++ "\"",
      "",
      "[registry]",
      "url = \"https://api.apr.dev\"",
      "",
      "[provider]",
      "cluster = \"Localnet\"",
      "wallet = \"~/.config/solana/id.json\"",
      "",
      "[scripts]",
      "test = \"yarn run ts-mocha -p ./tsconfig.json -t 1000000 tests/**/*.ts\""]

end ModuleGraph.Source
