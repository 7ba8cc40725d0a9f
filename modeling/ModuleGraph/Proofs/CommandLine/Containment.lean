import ModuleGraph.Proofs.CommandLine.Targets

/-!
# Generated paths

A workspace has its files at a few places: two manifests, the root of the crate, a file for each
module, and the test suite. The names in these paths are identifiers, so that every path leads
downwards, whatever texts the program and its nodes are called by, and the check of the paths before
anything is written refuses none of them.

## Main definitions

- `StaysBelow` — a path that leads from a directory to what is below it
- `IsWorkspacePath` — the places of the files of a workspace

## Main statements

- `isWorkspacePath_of_mem_files` — the files of a workspace are at these places
- `generated_paths_contained` — the paths of a compiled workspace
-/

namespace ModuleGraph.CommandLine

open Naming (IsIdentifier)

/-- A path that is relative, and whose names between slashes all say something and are neither that
of the directory itself nor that of the one above. -/
def StaysBelow (path : String) : Prop :=
  (FilePath.ofString path).root = "" ∧
    ∀ name ∈ path.splitOn "/", name ≠ "" ∧ name ≠ "." ∧ name ≠ ".."

/-- The places of the files of a workspace with the given program and modules. -/
def IsWorkspacePath (program : String) (modules : List String) (path : String) : Prop :=
  path = "Anchor.toml" ∨
  path = "programs/" ++ program ++ "/Cargo.toml" ∨
  path = "programs/" ++ program ++ "/src/lib.rs" ∨
  (∃ module ∈ modules, path = "programs/" ++ program ++ "/src/" ++ module ++ ".rs") ∨
  path = "tests/" ++ program ++ ".ts"

theorem Spells.staysBelow {path : String} {names : List String} (h : Spells path names) :
    StaysBelow path := by
  refine ⟨by rw [h.ofString_eq], fun name hname => ?_⟩
  rw [h.splitOn_eq] at hname
  have hdown := h.down name hname
  exact ⟨hdown.notEmpty, hdown.notHere, hdown.notUp⟩

theorem isWorkspacePath_of_mem_files {L : Type} {workspace : Workspace L} {path : String}
    (h : path ∈ workspace.files.map (·.1)) :
    IsWorkspacePath workspace.programName (workspace.modules.map (·.moduleName)) path := by
  have hentry : path ∈ workspace.entries.map (·.1) := FileMap.mem_paths_ofList.1 h
  simp only [Workspace.entries, List.map_append, List.map_cons, List.map_nil, List.map_map,
    List.mem_append, List.mem_cons, List.mem_map, List.not_mem_nil, or_false] at hentry
  obtain ((hpath | hpath | hpath) | ⟨module, hmodule, hpath⟩) | hpath := hentry
  · exact .inl hpath
  · exact .inr (.inl hpath)
  · refine .inr (.inr (.inl ?_))
    rw [hpath, Workspace.modulePath, Workspace.crateDir]
    simp [String.append_assoc]
  · exact .inr (.inr (.inr (.inl ⟨_, List.mem_map_of_mem hmodule, hpath.symm⟩)))
  · exact .inr (.inr (.inr (.inr hpath)))

theorem checkTargets_ne_outside {out : FilePath} {paths : List String}
    (h : ∀ path ∈ paths, ∃ names, Spells path names) (path : String) :
    checkTargets out paths ≠ .error (.outside path) := by
  rw [checkTargets_eq h]
  split
  · rintro ⟨⟩
  · rintro ⟨⟩

theorem checkTargets_of_noNul {out : FilePath} {paths : List String}
    (h : ∀ path ∈ paths, ∃ names, Spells path names) (hout : out.holdsNul = false) :
    checkTargets out paths = .ok () := by
  rw [checkTargets_eq h, hout, Bool.false_and]
  rfl

/-- **Generated paths stay below the output directory.** Whatever the nodes and the program are
called, the names of the program and of its modules are identifiers. Every file of the compiled
workspace has a path that stays below where it begins, at one of the places of the files of a
workspace. So the check before anything is written refuses no path as leading out, and finds nothing
else wrong with an output directory that can be named. -/
theorem generated_paths_contained (nodes : List (Node Text)) (connections : List (Connection Text))
    (requested : Option Text) :
    let workspace := compile nodes connections requested
    let schedule := buildSchedule (programNameOf requested) nodes connections
    let modules := schedule.instructions.map (·.moduleName)
    let paths := workspace.files.map (·.1)
    (IsIdentifier workspace.programName ∧ ∀ module ∈ modules, IsIdentifier module) ∧
    (∀ path ∈ paths, StaysBelow path ∧ IsWorkspacePath workspace.programName modules path) ∧
    ∀ out : FilePath, (∀ path, checkTargets out paths ≠ .error (.outside path)) ∧
      (out.holdsNul = false → checkTargets out paths = .ok ()) := by
  intro workspace schedule modules paths
  have hspells : ∀ path ∈ paths, ∃ names, Spells path names :=
    spells_compile nodes connections requested
  refine ⟨⟨isIdentifier_programNameOf requested, ?_⟩, ?_, ?_⟩
  · intro module hmodule
    obtain ⟨instruction, hinstruction, rfl⟩ := List.mem_map.1 hmodule
    exact isIdentifier_of_mem_instructions hinstruction
  · intro path hpath
    obtain ⟨names, hnames⟩ := hspells path hpath
    have hplace := isWorkspacePath_of_mem_files hpath
    have hmodules : workspace.modules.map (·.moduleName) = modules := List.map_map
    rw [hmodules] at hplace
    exact ⟨hnames.staysBelow, hplace⟩
  · exact fun out => ⟨checkTargets_ne_outside hspells, checkTargets_of_noNul hspells⟩

/-- Nodes that are called by paths, two of them alike, and one by nothing that a name could keep. -/
def pathLike : List (Node Text) :=
  [⟨"a", "token", "../../etc/Passwd", [], []⟩, ⟨"b", "nft", "/ETC/passwd", [], []⟩,
    ⟨"c", "defi", "..", [], []⟩]

theorem generated_paths_contained_pathLike :
    let workspace := compile pathLike [] (some "../..//9")
    let paths := workspace.files.map (·.1)
    let modules := ["etcpasswd", "etcpasswd_2", "instruction"]
    ("programs/_9/src/etcpasswd_2.rs" ∈ paths ∧
      StaysBelow "programs/_9/src/etcpasswd_2.rs" ∧
      IsWorkspacePath "_9" modules "programs/_9/src/etcpasswd_2.rs") ∧
    (⟨"", [upName, "out"]⟩ : FilePath).holdsNul = false ∧
    checkTargets ⟨"", [upName, "out"]⟩ paths = .ok () := by
  intro workspace paths modules
  obtain ⟨-, hpaths, htargets⟩ := generated_paths_contained pathLike [] (some "../..//9")
  have hmodules : (buildSchedule (programNameOf (some "../..//9")) pathLike []).instructions.map
      (·.moduleName) = modules := by decide +kernel
  have hprogram : workspace.programName = "_9" := by decide +kernel
  have hpath : "programs/_9/src/etcpasswd_2.rs" ∈ paths := by decide +kernel
  have hout : (⟨"", [upName, "out"]⟩ : FilePath).holdsNul = false := by decide +kernel
  have hplace := hpaths _ hpath
  rw [hmodules] at hplace
  exact ⟨⟨hpath, hplace.1, hprogram ▸ hplace.2⟩, hout, (htargets _).2 hout⟩

end ModuleGraph.CommandLine
