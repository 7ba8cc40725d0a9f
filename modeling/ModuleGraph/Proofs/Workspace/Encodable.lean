import ModuleGraph.Proofs.Schedule.References
import ModuleGraph.Proofs.Source.Reading
import ModuleGraph.Proofs.Workspace.Blobs

/-!
# Texts that have a form in UTF-8

The source text of a workspace is made of strings, but for the names of the instructions, which it
takes over as they are. So its files have a form in UTF-8 exactly if these names do.

## Main definitions

- `Source.Step.hasHalf`, `Source.Script.hasHalf` — halves in what a script writes

## Main statements

- `Source.hasHalf_text` — a file has a half exactly if its script does
- `Source.hasHalf_instructionScript`, `Source.hasHalf_suiteScript` — where the names come in
- `hasHalf_files_iff` — the files of a compiled workspace
-/

namespace ModuleGraph

/-! ### Texts -/

namespace Text

@[simp] theorem hasHalf_nil : hasHalf [] = false := rfl

@[simp] theorem hasHalf_append (first second : Text) :
    (first ++ second).hasHalf = (first.hasHalf || second.hasHalf) :=
  List.any_append

@[simp] theorem hasHalf_ofString (string : String) : (ofString string).hasHalf = false := by
  simp [hasHalf, ofString, ofChars, Symbol.char?]

@[simp] theorem hasHalf_join {joint : Text} (h : joint.hasHalf = false) (texts : List Text) :
    (join joint texts).hasHalf = texts.any hasHalf := by
  induction texts with
  | nil => rfl
  | cons text texts ih =>
    cases texts with
    | nil => simp [Source.join_singleton]
    | cons other texts =>
      rw [Source.join_cons_cons, hasHalf_append, hasHalf_append, h, ih, List.any_cons]
      simp

end Text

namespace Source

@[simp] theorem hasHalf_literalSymbol (symbol : Symbol) :
    (literalSymbol symbol).hasHalf = symbol.char?.isNone := by
  rw [literalSymbol]
  split_ifs with hslash hquote hend hreturn
  · simp [Text.hasHalf, hslash, Symbol.char?]
  · simp [Text.hasHalf, hquote, Symbol.char?]
  · simp [Text.hasHalf, hend, Symbol.char?]
  · simp [Text.hasHalf, hreturn, Symbol.char?]
  · simp [Text.hasHalf]

@[simp] theorem hasHalf_literal (text : Text) : (literal text).hasHalf = text.hasHalf := by
  have hsymbols : ∀ symbol : Symbol,
      (literalSymbol symbol).any (·.char?.isNone) = symbol.char?.isNone := hasHalf_literalSymbol
  rw [Text.hasHalf, literal, List.any_flatMap, Text.hasHalf]
  simp only [hsymbols]

@[simp] theorem hasHalf_formatLiteral (text : Text) :
    (formatLiteral text).hasHalf = text.hasHalf := by
  have hsymbols : ∀ symbol : Symbol,
      (formatSymbol symbol).any (·.char?.isNone) = symbol.char?.isNone := by
    intro symbol
    rw [formatSymbol]
    split_ifs
    · simp
    · exact hasHalf_literalSymbol symbol
  rw [Text.hasHalf, formatLiteral, List.any_flatMap, Text.hasHalf]
  simp only [hsymbols]

/-! ### Scripts -/

/-- Whether the line that a step writes has a half. -/
def Step.hasHalf : Step → Bool
  | .line text | .comment text => text.hasHalf
  | .push | .pop => false

/-- Whether a line that a script writes has a half. -/
def Script.hasHalf (script : Script) : Bool := script.any Step.hasHalf

section Scripts

@[simp] theorem hasHalf_line (text : Text) : (Step.line text).hasHalf = text.hasHalf := rfl

@[simp] theorem hasHalf_comment (text : Text) : (Step.comment text).hasHalf = text.hasHalf := rfl

@[simp] theorem hasHalf_push : Step.push.hasHalf = false := rfl

@[simp] theorem hasHalf_pop : Step.pop.hasHalf = false := rfl

@[simp] theorem hasHalf_blank : Step.blank.hasHalf = false := by simp [Step.blank]

@[simp] theorem hasHalf_script_nil : Script.hasHalf [] = false := rfl

@[simp] theorem hasHalf_script_cons (step : Step) (script : Script) :
    Script.hasHalf (step :: script) = (step.hasHalf || script.hasHalf) :=
  List.any_cons

@[simp] theorem hasHalf_script_append (first second : Script) :
    Script.hasHalf (first ++ second) = (first.hasHalf || second.hasHalf) :=
  List.any_append

@[simp] theorem hasHalf_script_flatMap {α : Type} (xs : List α) (part : α → Script) :
    Script.hasHalf (xs.flatMap part) = xs.any fun x => (part x).hasHalf :=
  List.any_flatMap

@[simp] theorem hasHalf_script_map {α : Type} (xs : List α) (step : α → Step) :
    Script.hasHalf (xs.map step) = xs.any fun x => (step x).hasHalf :=
  List.any_map

@[simp] theorem hasHalf_script_join (scripts : List Script) :
    Script.hasHalf (.join scripts) = scripts.any Script.hasHalf :=
  List.any_flatten

@[simp] theorem hasHalf_block (opening : Text) (body : Script) (closing : Text) :
    Script.hasHalf (block opening body closing) =
      (opening.hasHalf || (body.hasHalf || closing.hasHalf)) := by
  simp [block]

end Scripts

/-! ### Pages -/

section Pages

variable {style : Style} (hunit : style.unit.hasHalf = false)
  (hmark : style.commentMark.hasHalf = false)

include hunit

theorem hasHalf_indented (depth : Int) (text : Text) :
    (Page.indented style depth text).hasHalf = text.hasHalf := by
  have hspace : (repeated style.unit depth.toNat).hasHalf = false := by
    rw [repeated, Text.hasHalf, List.any_flatten, List.any_eq_false]
    intro unit hmem
    rw [List.eq_of_mem_replicate hmem]
    simpa [Text.hasHalf] using hunit
  rw [Page.indented]
  split
  · rfl
  · rw [Text.hasHalf_append, hspace, Bool.false_or]

include hmark

theorem any_hasHalf_step (page : Page) (step : Step) :
    (page.step style step).written.any Text.hasHalf =
      (page.written.any Text.hasHalf || step.hasHalf) := by
  cases step with
  | line text => simp [Page.step, Page.write, hasHalf_indented hunit, Bool.or_comm]
  | comment text => simp [Page.step, Page.write, hasHalf_indented hunit, hmark, Bool.or_comm]
  | push | pop => simp [Page.step]

theorem any_hasHalf_run (page : Page) (script : Script) :
    (page.run style script).written.any Text.hasHalf =
      (page.written.any Text.hasHalf || script.hasHalf) := by
  induction script generalizing page with
  | nil => simp [Page.run]
  | cons step script ih =>
    have hrun : page.run style (step :: script) = (page.step style step).run style script := rfl
    rw [hrun, ih, any_hasHalf_step hunit hmark, hasHalf_script_cons, Bool.or_assoc]

/-- A file has a half exactly if a line of its script has one. -/
theorem hasHalf_text (script : Script) : (script.text style).hasHalf = script.hasHalf := by
  have hend : Text.hasHalf "\n" = false := by simp
  rw [Script.text, Page.text, Text.hasHalf_append, Text.hasHalf_join hend, hend, Page.lines,
    List.any_reverse, any_hasHalf_run hunit hmark]
  simp [Page.start]

end Pages

/-! ### The files of a workspace -/

variable {L : Type}

@[simp] theorem hasHalf_importLine (accounts : List (BoundAccount L)) :
    (importLine accounts).hasHalf = false := by
  cases accounts <;> simp [importLine]

@[simp] theorem hasHalf_predecessorLine (predecessors : List Text) :
    (predecessorLine predecessors).hasHalf = predecessors.any Text.hasHalf := by
  cases predecessors <;> simp [predecessorLine]

@[simp] theorem hasHalf_logic (category : Category) (accounts : List (BoundAccount L)) :
    (category.logic accounts).hasHalf = false := by
  cases category <;>
    simp [Category.logic, Category.messageLine, Category.authorityCheck, Category.accountCheck]

@[simp] theorem hasHalf_updates (accounts : List (BoundAccount L)) :
    (updates accounts).hasHalf = false := by
  cases accounts <;> simp [updates, accountUpdate]

/-- The module of an instruction takes over its name, and those of its predecessors. -/
@[simp] theorem hasHalf_instructionScript (instruction : Instruction L) :
    (instructionScript instruction).hasHalf =
      (instruction.nodeName.hasHalf || instruction.predecessors.any Text.hasHalf) := by
  simp [instructionScript, entryFunction, announcement, accountsStruct, accountField]

@[simp] theorem hasHalf_recordLine (count : Int) (field : RecordField) :
    (recordLine count field).hasHalf = false := by
  rw [recordLine]
  split <;> simp

@[simp] theorem hasHalf_verbatim (lines : List String) : (verbatim lines).hasHalf = false := by
  simp [verbatim]

@[simp] theorem hasHalf_moduleDeclarations (instructions : List (Instruction L)) :
    (moduleDeclarations instructions).hasHalf = false := by
  cases instructions <;> simp [moduleDeclarations]

@[simp] theorem hasHalf_crateScript (schedule : Schedule L) :
    (crateScript schedule).hasHalf = false := by
  simp [crateScript, programBlock, flowValidation, accountScript, errorCodes]

@[simp] theorem hasHalf_inQuotes (text : Text) : (inQuotes text).hasHalf = text.hasHalf := by
  simp [inQuotes]

@[simp] theorem hasHalf_callTail (accounts : List Text) :
    (callTail accounts).hasHalf = accounts.any Text.hasHalf := by
  simp [callTail]

@[simp] theorem hasHalf_testCase (instruction : Instruction L) :
    (testCase instruction).hasHalf = instruction.nodeName.hasHalf := by
  simp [testCase, testAttempt, testFailure, authorityAccount, systemAccount]

@[simp] theorem hasHalf_integrationTest (order : List Text) :
    (integrationTest order).hasHalf = order.any Text.hasHalf := by
  simp [integrationTest, executionWalk, executionLoop, orderLiteral, Function.comp_def]

@[simp] theorem hasHalf_suiteScript (schedule : Schedule L) :
    (suiteScript schedule).hasHalf =
      (schedule.instructions.any (·.nodeName.hasHalf) ||
        (schedule.hasConnections && schedule.flow.executionOrder.any Text.hasHalf)) := by
  have hintegration : (integrationPart schedule).hasHalf =
      (schedule.hasConnections && schedule.flow.executionOrder.any Text.hasHalf) := by
    rw [integrationPart]
    cases schedule.hasConnections <;> simp
  simp [suiteScript, suiteImports, suiteSetup, hintegration]

@[simp] theorem hasHalf_ofLines (lines : List String) : (ofLines lines).hasHalf = false :=
  Text.hasHalf_ofString _

@[simp] theorem hasHalf_crateManifest (program : String) :
    (crateManifest program).hasHalf = false := by
  rw [crateManifest, hasHalf_ofLines]

@[simp] theorem hasHalf_workspaceManifest (program : String) :
    (workspaceManifest program).hasHalf = false := by
  rw [workspaceManifest, hasHalf_ofLines]

end Source

open Source

section Files

variable {schedule : Schedule L}

theorem hasHalf_source (instruction : Instruction L) :
    (Script.text .standard (instructionScript instruction)).hasHalf =
      (instruction.nodeName.hasHalf || instruction.predecessors.any Text.hasHalf) := by
  rw [hasHalf_text (by simp [Style.standard]) (by simp [Style.standard]),
    hasHalf_instructionScript]

theorem hasHalf_crateRoot (schedule : Schedule L) : (emit schedule).crateRoot.hasHalf = false := by
  show (Script.text .standard (crateScript schedule)).hasHalf = false
  rw [hasHalf_text (by simp [Style.standard]) (by simp [Style.standard]), hasHalf_crateScript]

/-- If the names of the instructions have no halves, then nothing that a workspace holds has one,
since a schedule refers to no other names. -/
theorem hasHalf_of_mem_entries (hclosed : schedule.Closed)
    (hnames : ∀ instruction ∈ schedule.instructions, instruction.nodeName.hasHalf = false)
    {file : String × Text} (hfile : file ∈ (emit schedule).entries) : file.2.hasHalf = false := by
  have hall : ∀ name ∈ schedule.instructions.map (·.nodeName), name.hasHalf = false :=
    List.forall_mem_map.2 hnames
  have hsubset : ∀ names : List Text, names ⊆ schedule.instructions.map (·.nodeName) →
      names.any Text.hasHalf = false := fun names hsubset =>
    List.any_eq_false.2 fun name hname => Bool.eq_false_iff.1 (hall name (hsubset hname))
  have hinstructions : schedule.instructions.any (·.nodeName.hasHalf) = false := by
    rw [← hsubset _ (List.Subset.refl _), List.any_map]
    rfl
  simp only [Workspace.entries, emit, List.mem_append, List.mem_cons, List.not_mem_nil, or_false,
    List.map_map, List.mem_map] at hfile
  obtain ((rfl | rfl | rfl) | ⟨instruction, hinstruction, rfl⟩) | rfl := hfile
  · dsimp only
    rw [hasHalf_workspaceManifest]
  · dsimp only
    rw [hasHalf_crateManifest]
  · exact hasHalf_crateRoot schedule
  · dsimp only [Function.comp_apply]
    rw [hasHalf_source, hnames instruction hinstruction,
      hsubset _ (hclosed.predecessors instruction hinstruction)]
    rfl
  · dsimp only
    rw [hasHalf_text (by simp [Style.narrow]) (by simp [Style.narrow, Style.standard]),
      hasHalf_suiteScript, hinstructions, hsubset _ hclosed.executionOrder]
    simp

end Files

variable [Label L] (nodes : List (Node L)) (connections : List (Connection L))
  (requested : Option Text)

/-- The text of every instruction is in the files, whatever its module is called. -/
theorem exists_source_mem_files {instruction : Instruction L}
    (h : instruction ∈
      (buildSchedule (programNameOf requested) nodes connections).instructions) :
    ∃ path, (path, Script.text .standard (instructionScript instruction)) ∈
      (compile nodes connections requested).files := by
  have hmodule : (⟨instruction.nodeId, instruction.moduleName,
      Script.text .standard (instructionScript instruction)⟩ : ModuleSource L) ∈
        (compile nodes connections requested).modules := List.mem_map_of_mem h
  exact ⟨_, FileMap.mem_of_lookup
    (Workspace.lookup_module (nodup_map_moduleName nodes connections requested) hmodule)⟩

/-- The files of a compiled workspace have a form in UTF-8 exactly if the names of the nodes do that
are no accounts. -/
theorem hasHalf_files_iff :
    (∀ file ∈ (compile nodes connections requested).files, file.2.hasHalf = false) ↔
      ∀ node ∈ nodes, node.isAccount = false → (Label.wording node.name).hasHalf = false := by
  rw [← forall_nodeName_iff (·.hasHalf = false)]
  constructor
  · intro hfiles instruction hinstruction
    obtain ⟨path, hmem⟩ := exists_source_mem_files nodes connections requested hinstruction
    have hsource := hfiles _ hmem
    rw [hasHalf_source, Bool.or_eq_false_iff] at hsource
    exact hsource.1
  · intro hnames file hfile
    exact hasHalf_of_mem_entries (closed_buildSchedule _ nodes connections) hnames
      (FileMap.mem_of_mem_ofList hfile)

end ModuleGraph
