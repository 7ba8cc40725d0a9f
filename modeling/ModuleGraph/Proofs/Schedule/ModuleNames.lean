import ModuleGraph.Proofs.Naming

/-!
# The names of modules

Modules are named one after the other. Each name is an identifier, and new among the names of the
modules before it, so that no two modules of a graph have the same name.

## Main statements

- `exists_used_of_mem_assignLabels` — every module is named among names in use
- `isIdentifier_of_mem_instructions`, `isIdentifier_of_mem_modules` — the names are identifiers
- `nodup_moduleNames`, `nodup_map_moduleName` — the names are different
-/

namespace ModuleGraph

open Naming (IsIdentifier)

variable {L : Type} [Label L]

/-! ### One module -/

theorem isIdentifier_moduleLabel (used : List String) (node : Node L) :
    IsIdentifier (moduleLabel used node).text := by
  have hplain : Naming.IsPlain "instruction" := by decide
  have hname : "instruction".toList = 'i' :: "nstruction".toList := by decide
  have hbase : IsIdentifier
      (Naming.orElse (Naming.moduleName (Label.wording node.name)) "instruction") :=
    Naming.isIdentifier_orElse (hplain.isIdentifier hname (by decide))
  rw [moduleLabel]
  split
  · exact hbase.suffixed _
  · exact hbase

/-- The name of a module is new among the names in use. -/
theorem moduleLabel_not_mem (used : List String) (node : Node L) :
    (moduleLabel used node).text ∉ used := by
  rw [moduleLabel]
  split
  · exact Naming.suffixed_freeSuffix_not_mem used _
  · rename_i hnew
    simpa [ModuleLabel.text] using hnew

/-! ### All modules -/

/-- Every module is named when the names of the modules before it are in use. -/
theorem exists_used_of_mem_assignLabels {used : List String} {nodes : List (Node L)}
    {entry : Node L × ModuleLabel} (h : entry ∈ assignLabels used nodes) :
    ∃ before, used ⊆ before ∧ entry.2 = moduleLabel before entry.1 := by
  induction nodes generalizing used with
  | nil => cases h
  | cons node nodes ih =>
    rcases List.mem_cons.1 h with rfl | hlater
    · exact ⟨used, List.Subset.refl _, rfl⟩
    · obtain ⟨before, hused, hlabel⟩ := ih hlater
      exact ⟨before, List.Subset.trans (List.subset_cons_self _ _) hused, hlabel⟩

theorem nodup_assignLabels (used : List String) (nodes : List (Node L)) :
    ((assignLabels used nodes).map (·.2.text)).Nodup := by
  induction nodes generalizing used with
  | nil => exact List.nodup_nil
  | cons node nodes ih =>
    rw [assignLabels, List.map_cons, List.nodup_cons]
    refine ⟨fun hlater => ?_, ih _⟩
    obtain ⟨entry, hentry, hname⟩ := List.mem_map.1 hlater
    obtain ⟨before, hused, hlabel⟩ := exists_used_of_mem_assignLabels hentry
    rw [hlabel] at hname
    exact moduleLabel_not_mem before entry.1 (hname ▸ hused List.mem_cons_self)

variable {programName : String} {nodes : List (Node L)} {connections : List (Connection L)}

theorem isIdentifier_of_mem_instructions {instruction : Instruction L}
    (h : instruction ∈ (buildSchedule programName nodes connections).instructions) :
    IsIdentifier instruction.moduleName := by
  obtain ⟨entry, hentry, rfl⟩ := List.mem_map.1 h
  obtain ⟨before, -, hlabel⟩ := exists_used_of_mem_assignLabels hentry
  show IsIdentifier entry.2.text
  rw [hlabel]
  exact isIdentifier_moduleLabel before entry.1

/-- The modules of a graph have different names. -/
theorem nodup_moduleNames :
    ((buildSchedule programName nodes connections).instructions.map (·.moduleName)).Nodup := by
  have hnames := nodup_assignLabels [] (behavioral nodes)
  rwa [buildSchedule, scheduleInstructions, List.map_map]

/-- The modules of a compiled graph are named by identifiers. -/
theorem isIdentifier_of_mem_modules {requested : Option Text} {module : ModuleSource L}
    (h : module ∈ (compile nodes connections requested).modules) :
    IsIdentifier module.moduleName := by
  obtain ⟨instruction, hinstruction, rfl⟩ := List.mem_map.1 h
  exact isIdentifier_of_mem_instructions hinstruction

/-- The modules of a compiled graph have different names. -/
theorem nodup_map_moduleName (nodes : List (Node L)) (connections : List (Connection L))
    (requested : Option Text) :
    ((compile nodes connections requested).modules.map (·.moduleName)).Nodup := by
  have hnames : ((buildSchedule (programNameOf requested) nodes connections).instructions.map
      (·.moduleName)).Nodup := nodup_moduleNames
  rwa [compile, emit, List.map_map]

end ModuleGraph
