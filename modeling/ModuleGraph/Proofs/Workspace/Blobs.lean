import ModuleGraph.Proofs.Schedule.ModuleNames
import ModuleGraph.Proofs.Workspace.FileMap

/-!
# The texts of a workspace in its files

The texts of a workspace are inserted into a map of files by their paths. Different places in a
workspace have different paths, and modules of different names have different places. Only a module
that is called `lib` has the place of another text: it comes behind the root of the crate, and takes
its place.

## Main definitions

- `Place`, `Workspace.path` — where in a workspace a file stands, and its path
- `Workspace.blobs` — the texts of a workspace by their places

## Main statements

- `path_injective` — different places have different paths
- `lookup_module`, `lookup_crateRoot` — the texts of the modules and of the root of the crate
- `length_files` — how many files there are
- `files_hold_texts` — what the files of a compiled workspace hold
-/

namespace ModuleGraph

variable {L : Type}

/-! ### Places -/

/-- Where in a workspace a file stands. -/
inductive Place where
  | manifest
  | crateManifest
  | module (name : String)
  | suite
  deriving DecidableEq

/-- The place of the root of the crate. -/
def Place.root : Place := .module "lib"

/-- The text of a module and its place. -/
def ModuleSource.blob (module : ModuleSource L) : Place × Text :=
  (.module module.moduleName, module.source)

namespace Workspace

/-- The path of a place. -/
def path (workspace : Workspace L) : Place → String
  | .manifest => "Anchor.toml"
  | .crateManifest => workspace.crateDir ++ "/Cargo.toml"
  | .module name => workspace.modulePath name
  | .suite => "tests/" ++ workspace.programName ++ ".ts"

/-- The texts that every workspace begins with. -/
def firstBlobs (workspace : Workspace L) : List (Place × Text) :=
  [(.manifest, workspace.workspaceManifest), (.crateManifest, workspace.crateManifest),
    (.root, workspace.crateRoot)]

/-- The texts of a workspace by their places. -/
def blobs (workspace : Workspace L) : List (Place × Text) :=
  workspace.firstBlobs ++ (workspace.modules.map (·.blob) ++ [(.suite, workspace.tests)])

variable (workspace : Workspace L)

/-- Different places have different paths. -/
theorem path_injective : Function.Injective workspace.path := by
  intro first second h
  have hchars := congrArg String.toList h
  cases first <;> cases second <;> simp [path, modulePath, crateDir] at hchars ⊢
  -- only the names of two modules are left to compare
  exact String.toList_inj.1 hchars

theorem entries_eq :
    workspace.entries = workspace.blobs.map fun blob => (workspace.path blob.1, blob.2) := by
  simp only [entries, blobs, List.map_append, List.map_map, List.append_assoc]
  rfl

/-! ### The text at a path -/

/-- The last text of a place is at its path. -/
theorem lookup_path (before : List (Place × Text)) {after : List (Place × Text)} {place : Place}
    {text : Text}
    (hblobs : workspace.blobs = before ++ (place, text) :: after)
    (hlast : place ∉ after.map (·.1)) :
    workspace.files.lookup (workspace.path place) = some text := by
  have hafter : workspace.path place ∉
      (after.map fun blob => (workspace.path blob.1, blob.2)).map (·.1) := by
    intro hpath
    rw [List.map_map, List.mem_map] at hpath
    obtain ⟨blob, hblob, hsame⟩ := hpath
    exact hlast (List.mem_map.2 ⟨blob, hblob, workspace.path_injective hsame⟩)
  rw [files, entries_eq, hblobs, List.map_append, List.map_cons]
  exact FileMap.lookup_ofList_of_last _ _ hafter

theorem lookup_manifest :
    workspace.files.lookup (workspace.path .manifest) = some workspace.workspaceManifest := by
  apply workspace.lookup_path [] rfl
  simp [Place.root, ModuleSource.blob]

theorem lookup_crateManifest :
    workspace.files.lookup (workspace.path .crateManifest) = some workspace.crateManifest := by
  apply workspace.lookup_path [(.manifest, workspace.workspaceManifest)] rfl
  simp [Place.root, ModuleSource.blob]

theorem lookup_suite : workspace.files.lookup (workspace.path .suite) = some workspace.tests := by
  have hblobs : workspace.blobs =
      (workspace.firstBlobs ++ workspace.modules.map (·.blob)) ++ [(.suite, workspace.tests)] :=
    (List.append_assoc _ _ _).symm
  exact workspace.lookup_path _ hblobs List.not_mem_nil

variable {workspace}

theorem module_mem_places_iff {modules : List (ModuleSource L)} {tests : Text} {name : String} :
    Place.module name ∈ (modules.map ModuleSource.blob ++ [(Place.suite, tests)]).map Prod.fst ↔
      name ∈ modules.map (·.moduleName) := by
  simp [ModuleSource.blob]

/-- The text of a module is in the files, if no two modules have one name. -/
theorem lookup_module (hnames : (workspace.modules.map (·.moduleName)).Nodup)
    {module : ModuleSource L} (h : module ∈ workspace.modules) :
    workspace.files.lookup (workspace.modulePath module.moduleName) = some module.source := by
  obtain ⟨before, after, hmodules⟩ := List.append_of_mem h
  rw [hmodules, List.map_append, List.map_cons, List.nodup_append, List.nodup_cons] at hnames
  have hblobs : workspace.blobs = (workspace.firstBlobs ++ before.map (·.blob)) ++
      (.module module.moduleName, module.source) ::
        (after.map (·.blob) ++ [(.suite, workspace.tests)]) := by
    simp [blobs, hmodules, ModuleSource.blob]
  exact workspace.lookup_path _ hblobs (mt module_mem_places_iff.1 hnames.2.1.1)

theorem modulePath_lib (workspace : Workspace L) :
    workspace.modulePath "lib" = "programs/" ++ workspace.programName ++ "/src/lib.rs" := by
  rw [modulePath, crateDir]
  simp [String.append_assoc]

/-- The root of the crate is in the files, unless a module has its place. -/
theorem lookup_crateRoot (h : "lib" ∉ workspace.modules.map (·.moduleName)) :
    workspace.files.lookup (workspace.modulePath "lib") = some workspace.crateRoot := by
  show workspace.files.lookup (workspace.path .root) = some workspace.crateRoot
  exact workspace.lookup_path
    [(.manifest, workspace.workspaceManifest), (.crateManifest, workspace.crateManifest)] rfl
    (mt module_mem_places_iff.1 h)

/-! ### The number of files -/

/-- Modules have places of their own, but for one that has that of the root. -/
theorem eraseDups_places {names : List String} (h : names.Nodup) :
    ([Place.manifest, .crateManifest, .root] ++
        (names.map Place.module ++ [Place.suite])).eraseDups =
      [Place.manifest, .crateManifest, .root] ++
        ((names.filter (· != "lib")).map Place.module ++ [Place.suite]) := by
  have hfirst : [Place.manifest, .crateManifest, .root].eraseDups =
      [Place.manifest, .crateManifest, .root] := eraseDups_of_nodup (by decide)
  have hothers : (names.map Place.module ++ [Place.suite]).removeAll
        [Place.manifest, .crateManifest, .root] =
      (names.filter (· != "lib")).map Place.module ++ [Place.suite] := by
    simp [List.removeAll, List.filter_map, Function.comp_def, Place.root, bne, beq_eq_decide]
  have hinjective : Function.Injective Place.module := fun _ _ => Place.module.inj
  have hdistinct : ((names.filter (· != "lib")).map Place.module ++ [Place.suite]).Nodup := by
    have hmodules : ((names.filter (· != "lib")).map Place.module).Nodup :=
      (h.filter _).map hinjective
    exact hmodules.append (List.nodup_singleton _) (by simp)
  rw [List.eraseDups_append, hfirst, hothers, eraseDups_of_nodup hdistinct]

theorem map_fst_blobs :
    workspace.blobs.map (·.1) =
      [Place.manifest, .crateManifest, .root] ++
        ((workspace.modules.map (·.moduleName)).map Place.module ++ [.suite]) := by
  simp only [blobs, List.map_append, List.map_map]
  rfl

theorem map_fst_files (workspace : Workspace L) :
    workspace.files.map (·.1) = (workspace.blobs.map (·.1)).eraseDups.map workspace.path := by
  rw [← eraseDups_map_of_injective workspace.path_injective, files, FileMap.map_fst_ofList,
    entries_eq, List.map_map, List.map_map]
  rfl

theorem length_files (hnames : (workspace.modules.map (·.moduleName)).Nodup) :
    workspace.files.length = 4 + workspace.modules.countP (·.moduleName != "lib") := by
  have hlength := congrArg List.length workspace.map_fst_files
  rw [map_fst_blobs, eraseDups_places hnames] at hlength
  simp only [List.length_append, List.length_map, List.length_cons, List.length_nil,
    List.filter_map, ← List.countP_eq_length_filter] at hlength
  rw [hlength]
  simp only [Function.comp_def]
  omega

end Workspace

/-! ### Compiled workspaces -/

/-- A node that is called like the root of the crate. -/
def libNamed : List (Node Text) := [⟨"n1", "token", "lib", [], []⟩]

/-- The root of the crate is lost, and five texts are in four files. -/
theorem crateRoot_lost_libNamed :
    let workspace := compile libNamed [] none
    workspace.programName = "my_program" ∧
    workspace.files.lookup "programs/my_program/src/lib.rs" ≠ some workspace.crateRoot ∧
    workspace.files.length ≠ 4 + workspace.modules.length := by
  decide +kernel

/-- **The files of a workspace hold its texts, but for the root of the crate if a module is called
like it.** Whatever a graph and a program are called, the manifests, the test suite and the text of
every module are found in the files by their paths. There are four files beside those of the modules
that are not called `lib`. The root of the crate is in the files, and every text has a file of its
own, exactly if no module is called `lib`. -/
theorem files_hold_texts (nodes : List (Node Text)) (connections : List (Connection Text))
    (requested : Option Text) :
    let workspace := compile nodes connections requested
    let program := workspace.programName
    let files := workspace.files
    files.lookup "Anchor.toml" = some workspace.workspaceManifest ∧
    files.lookup ("programs/" ++ program ++ "/Cargo.toml") = some workspace.crateManifest ∧
    files.lookup ("tests/" ++ program ++ ".ts") = some workspace.tests ∧
    (∀ module ∈ workspace.modules,
      files.lookup ("programs/" ++ program ++ "/src/" ++ module.moduleName ++ ".rs") =
        some module.source) ∧
    files.length = 4 + workspace.modules.countP (·.moduleName != "lib") ∧
    (files.lookup ("programs/" ++ program ++ "/src/lib.rs") = some workspace.crateRoot ∧
        files.length = 4 + workspace.modules.length ↔
      ∀ module ∈ workspace.modules, module.moduleName ≠ "lib") := by
  intro workspace program files
  have hnames : (workspace.modules.map (·.moduleName)).Nodup :=
    nodup_map_moduleName nodes connections requested
  have hlength := workspace.length_files hnames
  refine ⟨workspace.lookup_manifest, workspace.lookup_crateManifest, workspace.lookup_suite,
    fun _ => Workspace.lookup_module hnames, hlength, ?_⟩
  have hall : workspace.modules.countP (·.moduleName != "lib") = workspace.modules.length ↔
      ∀ module ∈ workspace.modules, module.moduleName ≠ "lib" := by
    simp [List.countP_eq_length]
  constructor
  · rintro ⟨-, hfiles⟩
    exact hall.1 (Nat.add_left_cancel (hlength.symm.trans hfiles))
  · intro hnone
    have hfree : "lib" ∉ workspace.modules.map (·.moduleName) := by simpa using hnone
    refine ⟨?_, by rw [hlength, hall.2 hnone]⟩
    rw [← workspace.modulePath_lib]
    exact Workspace.lookup_crateRoot hfree

/-- The text of the module that is called `lib` is in the place of the root of the crate. -/
theorem files_hold_texts_libNamed :
    let workspace := compile libNamed [] none
    ∃ module ∈ workspace.modules, module.moduleName = "lib" ∧
      workspace.files.lookup "programs/my_program/src/lib.rs" = some module.source ∧
      workspace.files.length = 4 := by
  intro workspace
  have hmodule : ∃ module ∈ workspace.modules, module.moduleName = "lib" := by decide +kernel
  obtain ⟨module, hmem, hname⟩ := hmodule
  have hnone : workspace.modules.countP (·.moduleName != "lib") = 0 := by decide +kernel
  obtain ⟨-, -, -, hmodules, hlength, -⟩ := files_hold_texts libNamed [] none
  have hpath : "programs/" ++ workspace.programName ++ "/src/" ++ "lib" ++ ".rs" =
      "programs/my_program/src/lib.rs" := by decide +kernel
  refine ⟨module, hmem, hname, ?_, hlength.trans (by rw [hnone])⟩
  rw [← hpath, ← hname]
  exact hmodules module hmem

end ModuleGraph
