import ModuleGraph.Proofs.CommandLine.Entries
import ModuleGraph.Proofs.CommandLine.Targets

/-!
# Output directories

The files of a workspace do not lead through one another, so that only what the output directory
holds already, and the way to it, can be in the way of them. Nothing is in their way where the
directory is empty or not there, and none on the way to it is a file.

## Main statements

- `onWay_iff` — the way to a file below a directory
- `not_onWay_below` — no file below a directory is on the way to another
- `takes_target_of_empty` — an output directory that is empty
-/

namespace ModuleGraph.CommandLine

variable {out : FilePath} {path other file otherFile : String} {above otherAbove : List String}
  {place : Location}

/-- The way to a file below a directory is the way to the directory, and then down along the names
of the directories above the file. -/
theorem onWay_iff (h : NamesFile path above file) :
    out.OnWay path place ↔
      out.LeadsThrough place ∨ ∃ names, names ≠ [] ∧ names <+: above ∧
        place = { out.location with names := out.location.names ++ names } := by
  rw [FilePath.OnWay, h.spells.splitOn_eq, List.dropLast_concat]

/-- A file below a directory is not on the way to another, unless it is on the way to the
directory. -/
theorem not_onWay_below (h : NamesFile path above file)
    (hother : NamesFile other otherAbove otherFile) (hout : ¬ out.LeadsThrough (out.below other)) :
    ¬ out.OnWay path (out.below other) := by
  rw [onWay_iff h]
  rintro (hthrough | ⟨names, -, hnames, hplace⟩)
  · exact hout hthrough
  · rw [FilePath.below, hother.spells.splitOn_eq] at hplace
    have hsame : otherAbove ++ [otherFile] = names :=
      List.append_cancel_left (congrArg Location.names hplace)
    refine h.not_mem hother (hnames.subset ?_)
    rw [← hsame]
    simp

/-- Nothing is in the way of a file below a directory that is empty or not there, if none on the way
to the directory is a file. -/
theorem takes_target_of_empty {tree : FileTree} (h : NamesFile path above file)
    (hdown : ∀ name ∈ out.names, LeadsDown name)
    (hopen : ∀ place, out.LeadsThrough place → ∀ contents, tree.entry place ≠ .file contents)
    (hempty : ∀ names, names ≠ [] →
      tree.entry { out.location with names := out.location.names ++ names } = .nothing) :
    tree.Takes (out.append (.ofString path)) := by
  have hplace : (out.append (.ofString path)).location =
      { out.location with names := out.location.names ++ (above ++ [file]) } :=
    location_append h.spells
  constructor
  · rw [holdsNul_append h.spells, FilePath.holdsNul, List.any_eq_false]
    intro name hname
    simpa using (hdown name hname).noNul
  · intro place hway contents
    rw [FilePath.leadsThrough_parent_append h.spells] at hway
    rcases (onWay_iff h).1 hway with hbefore | ⟨names, hnames, -, rfl⟩
    · exact hopen place hbefore contents
    · rw [hempty names hnames]
      exact Entry.noConfusion
  · rw [FilePath.leadsThrough_parent_append h.spells, location_append_eq_below h.spells]
    refine not_onWay_below h h ?_
    rintro ⟨names, hnames, hbelow⟩
    have hshorter : names.length ≤ out.names.length := hnames.length_le
    have hlength := congrArg (·.names.length) hbelow
    -- a path downwards leads as far down as it has names
    rw [← location_append_eq_below h.spells, hplace, FilePath.location, FilePath.location,
      Location.foldl_step hdown, Location.foldl_step fun name hname =>
        hdown name (hnames.subset hname)] at hlength
    simp only [List.length_append, List.length_singleton] at hlength
    have horigin : (FilePath.mk out.root names).origin = out.origin := rfl
    rw [horigin] at hlength
    omega
  · rw [hplace, hempty _ (by simp)]
    exact Entry.noConfusion

end ModuleGraph.CommandLine
