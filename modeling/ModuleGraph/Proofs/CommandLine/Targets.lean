import Mathlib.Data.List.Nodup
import ModuleGraph.CommandLine.Run
import ModuleGraph.Proofs.CommandLine.FilePath
import ModuleGraph.Proofs.Schedule.ModuleNames
import ModuleGraph.Proofs.Workspace.FileMap

/-!
# Targets of a workspace

Whatever a graph and a program are called, the files of the workspace lead downwards: none of them
is refused, the delivery of a workspace is planned for every directory that can be written to, and
no two files are written to the same place.

## Main definitions

- `NamesFile` — a text that names a file downwards

## Main statements

- `namesFile_compile`, `spells_compile` — the paths of a compiled workspace lead downwards to files
- `deliver_files` — the plan to deliver a compiled workspace
- `nodup_below` — the places of its files
-/

namespace ModuleGraph

namespace CommandLine

open Naming (IsPlain isModuleChar)

/-! ### Names -/

section Names

variable {name : String}

theorem leadsDown_of_isPlain (h : IsPlain name) (hname : name ≠ "") : LeadsDown name := by
  have hapart : ∀ c, isModuleChar c = false → c ∉ name.toList := by
    intro c hc hmem
    rw [h c hmem] at hc
    cases hc
  refine ⟨hname, ?_, ?_, hapart _ (by decide), hapart _ (by decide)⟩
  · rintro rfl
    exact absurd h (by decide)
  · rintro rfl
    exact absurd h (by decide)

/-- A plain name with an extension behind it is one, too, even if the name is empty. -/
theorem leadsDown_append (h : IsPlain name) {extension : String} (hlong : 2 < extension.length)
    (hextension : LeadsDown extension) : LeadsDown (name ++ extension) := by
  have hlength : 2 < (name ++ extension).length := by
    rw [String.length_append]
    omega
  have hshort : ∀ short : String, short.length ≤ 2 → name ++ extension ≠ short := by
    rintro short hle rfl
    omega
  have hapart : ∀ c, isModuleChar c = false → c ∉ extension.toList →
      c ∉ (name ++ extension).toList := by
    intro c hc hextension hmem
    rw [String.toList_append, List.mem_append] at hmem
    rcases hmem with hname | hmem
    · rw [h c hname] at hc
      cases hc
    · exact hextension hmem
  exact ⟨hshort _ (by decide), hshort _ (by decide), hshort _ (by decide),
    hapart _ (by decide) hextension.noSlash, hapart _ (by decide) hextension.noNul⟩

end Names

/-! ### Workspaces -/

section Workspaces

variable {L : Type} {workspace : Workspace L}

theorem spells_modulePath (hprogram : LeadsDown workspace.programName) {name : String}
    (hname : IsPlain name) :
    Spells (workspace.modulePath name)
      ["programs", workspace.programName, "src", name ++ ".rs"] where
  nonempty := by simp
  down := by
    have hprograms : LeadsDown "programs" := leadsDown_of_isPlain (by decide) (by decide)
    have hsource : LeadsDown "src" := leadsDown_of_isPlain (by decide) (by decide)
    have hfile : LeadsDown (name ++ ".rs") :=
      leadsDown_append hname (by decide) (by constructor <;> decide)
    simpa using ⟨hprograms, hprogram, hsource, hfile⟩
  text := by simp [Workspace.modulePath, Workspace.crateDir, List.intercalate]

theorem spells_manifest : Spells "Anchor.toml" ["Anchor.toml"] := by
  have hfile : LeadsDown "Anchor.toml" := by constructor <;> decide
  exact ⟨by simp, by simpa using hfile, by simp⟩

theorem spells_manifestPath (hprogram : LeadsDown workspace.programName) :
    Spells (workspace.crateDir ++ "/Cargo.toml")
      ["programs", workspace.programName, "Cargo.toml"] where
  nonempty := by simp
  down := by
    have hprograms : LeadsDown "programs" := leadsDown_of_isPlain (by decide) (by decide)
    have hfile : LeadsDown "Cargo.toml" := by constructor <;> decide
    simpa using ⟨hprograms, hprogram, hfile⟩
  text := by simp [Workspace.crateDir, List.intercalate]

theorem spells_suitePath (hprogram : IsPlain workspace.programName) :
    Spells ("tests/" ++ workspace.programName ++ ".ts")
      ["tests", workspace.programName ++ ".ts"] where
  nonempty := by simp
  down := by
    have htests : LeadsDown "tests" := leadsDown_of_isPlain (by decide) (by decide)
    have hfile : LeadsDown (workspace.programName ++ ".ts") :=
      leadsDown_append hprogram (by decide) (by constructor <;> decide)
    simpa using ⟨htests, hfile⟩
  text := by simp [List.intercalate]

/-- A text that names a file downwards: the names of the directories are plain, and that of the file
has an extension. -/
structure NamesFile (path : String) (above : List String) (file : String) : Prop where
  spells : Spells path (above ++ [file])
  plain : ∀ name ∈ above, IsPlain name
  extension : '.' ∈ file.toList

/-- No directory on the way to a file is called like a file. -/
theorem NamesFile.not_mem {path other file otherFile : String} {above otherAbove : List String}
    (h : NamesFile path above file) (hother : NamesFile other otherAbove otherFile) :
    otherFile ∉ above := by
  intro hmem
  have hdot := h.plain otherFile hmem '.' hother.extension
  exact absurd hdot (by decide)

/-- The paths of a workspace with plain names are those of files downwards. -/
theorem namesFile_files (hplain : IsPlain workspace.programName)
    (hname : workspace.programName ≠ "")
    (hmodules : ∀ module ∈ workspace.modules, IsPlain module.moduleName) :
    ∀ path ∈ workspace.files.map (·.1), ∃ above file, NamesFile path above file := by
  have hprogram : LeadsDown workspace.programName := leadsDown_of_isPlain hplain hname
  have hprograms : IsPlain "programs" := by decide
  have hsource : IsPlain "src" := by decide
  have hmodule : ∀ {name}, IsPlain name → NamesFile (workspace.modulePath name)
      ["programs", workspace.programName, "src"] (name ++ ".rs") := fun hname =>
    ⟨spells_modulePath hprogram hname, by simpa using ⟨hprograms, hplain, hsource⟩, by simp⟩
  intro path hpath
  have hentry : path ∈ workspace.entries.map (·.1) := FileMap.mem_paths_ofList.1 hpath
  simp only [Workspace.entries, List.map_append, List.map_cons, List.map_nil, List.map_map,
    List.mem_append, List.mem_cons, List.mem_map, List.not_mem_nil, or_false] at hentry
  obtain ((rfl | rfl | rfl) | ⟨module, hmem, rfl⟩) | rfl := hentry
  · exact ⟨[], _, spells_manifest, by simp, by decide⟩
  · exact ⟨["programs", workspace.programName], _, spells_manifestPath hprogram,
      by simpa using ⟨hprograms, hplain⟩, by decide⟩
  · exact ⟨_, _, hmodule (by decide)⟩
  · exact ⟨_, _, hmodule (hmodules module hmem)⟩
  · exact ⟨["tests"], _, spells_suitePath hplain, by decide, by simp⟩

variable [Label L] (out : FilePath) (nodes : List (Node L)) (connections : List (Connection L))
  (requested : Option Text)

theorem namesFile_compile :
    ∀ path ∈ (compile nodes connections requested).files.map (·.1),
      ∃ above file, NamesFile path above file :=
  have hprogram := isIdentifier_programNameOf requested
  namesFile_files hprogram.isPlain hprogram.ne_empty
    fun _ hmodule => (isIdentifier_of_mem_modules hmodule).isPlain

theorem spells_compile :
    ∀ path ∈ (compile nodes connections requested).files.map (·.1), ∃ names, Spells path names := by
  intro path hpath
  obtain ⟨above, file, h⟩ := namesFile_compile nodes connections requested path hpath
  exact ⟨above ++ [file], h.spells⟩

/-- A compiled workspace is delivered below any directory that a path can name. -/
theorem deliver_files :
    let files := (compile nodes connections requested).files
    deliver out files =
      if out.holdsNul && !files.isEmpty then .only (.crashed (.file .nulCharacter))
      else ⟨.silent (.exit 0), some ⟨out, files⟩⟩ := by
  intro files
  have hfiles : ∀ path ∈ files.map (·.1), ∃ names, Spells path names :=
    spells_compile nodes connections requested
  rw [deliver, checkTargets_eq hfiles, List.isEmpty_map]
  cases out.holdsNul && !files.isEmpty <;> rfl

/-- The files of a compiled workspace have different places. -/
theorem nodup_below : ((compile nodes connections requested).files.map (out.below ·.1)).Nodup := by
  have hfiles := spells_compile nodes connections requested
  have hpaths : ((compile nodes connections requested).files.map (·.1)).Nodup :=
    FileMap.nodup_ofList _
  have hplaces : (compile nodes connections requested).files.map (out.below ·.1) =
      ((compile nodes connections requested).files.map (·.1)).map out.below := by
    rw [List.map_map]
    rfl
  rw [hplaces]
  refine List.Nodup.map_on (fun path hpath other hother hplace => ?_) hpaths
  obtain ⟨names, hnames⟩ := hfiles path hpath
  obtain ⟨otherNames, hotherNames⟩ := hfiles other hother
  exact eq_of_below_eq hnames hotherNames hplace

end Workspaces

end CommandLine

end ModuleGraph
