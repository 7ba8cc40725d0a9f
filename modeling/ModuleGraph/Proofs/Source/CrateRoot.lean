import ModuleGraph.Proofs.Schedule.ModuleNames
import ModuleGraph.Proofs.Source.Declarations

/-!
# The names at the root of the crate

The root of the crate declares the modules, the program, the data records and two names of its own.
Only the modules are told apart, so that the names are different exactly if the program and the data
records happen to be called otherwise.

## Main statements

- `declares_crateScript` — the names that the root of the crate declares
- `nodup_rootNames_iff` — when these names are different
- `crateRoot_names_nodup_iff` — when the root of a compiled graph declares each name once
-/

namespace ModuleGraph

namespace Source

variable {L : Type}

open Script (declares_nil declares_flatMap declares_margin declares_blank declares_word
  declares_block)

/-! ### Numbers in comments -/

theorem lineEnd_not_mem_connectionsText (count : Int) :
    lineEnd ∉ (connectionsText count : Text) := by
  rw [lineEnd_mem_ofString, connectionsText, String.toList_append, List.mem_append]
  refine not_or_intro (lineEnd_not_mem_integer count) ?_
  split <;> decide

/-! ### The parts of the root -/

theorem declares_moduleDeclarations {instructions : List (Instruction L)}
    (h : ∀ instruction ∈ instructions, IsWord instruction.moduleName) :
    Script.Declares 0 (moduleDeclarations instructions) (instructions.map (·.moduleName)) := by
  have hmark : (("pub mod " : String) : Text) ∈ declarationMarks := by decide
  have hlines : Script.Declares 0
      (instructions.map fun instruction => .line ("pub mod " ++ instruction.moduleName ++ ";"))
      (instructions.map (·.moduleName)) := by
    rw [List.map_eq_flatMap, List.map_eq_flatMap]
    exact declares_flatMap fun instruction hinstruction =>
      declares_word hmark (h instruction hinstruction) (by decide) rfl
  cases instructions with
  | nil => exact declares_nil 0
  | cons first others =>
    have hparts := Script.Declares.join (.cons hlines (.cons declares_blank .nil))
    rwa [List.flatten_cons, List.flatten_cons, List.flatten_nil, List.append_nil,
      List.append_nil] at hparts

theorem declares_programBlock {schedule : Schedule L} (hprogram : IsWord schedule.programName)
    (hmodules : ∀ instruction ∈ schedule.instructions, IsWord instruction.moduleName) :
    Script.Declares 0 (programBlock schedule) [schedule.programName] := by
  have hattribute : Script.Declares 0 [.line "#[program]"] [] := declares_margin (by decide)
  have hmark : (("pub mod " : String) : Text) ∈ declarationMarks := by decide
  have hopening : Script.Declares 0 [.line ("pub mod " ++ schedule.programName ++ " \x7b")]
      [schedule.programName] := declares_word hmark hprogram (by decide) rfl
  have hvalidation : ∀ step ∈ flowValidation, step.isLine = true := by
    simp (disch := exact rfl) only [flowValidation, verbatim, List.map_cons, List.map_nil,
      ofString_of_chars]
    decide
  refine hattribute.append (declares_block hopening ?_)
  show ∀ step ∈ _ ++ (_ ++ (_ ++ (_ ++ []))), Step.isLine step = true
  simp only [List.forall_mem_append, List.forall_mem_map]
  refine ⟨by decide, fun instruction hinstruction => ?_, by decide, hvalidation, by decide⟩
  exact Step.isLine_line.2
    ((hmodules _ hinstruction).lineEnd_not_mem_line (by decide) (by decide))

theorem isLine_recordLine (count : Int) {field : RecordField} (h : field ∈ recordFields) :
    (recordLine count field).isLine = true := by
  have hdeclarations : ∀ field ∈ recordFields, lineEnd ∉
      (("pub " ++ field.name ++ ": " ++ field.type ++ "," : String) : Text) := by decide
  have hdeclaration := hdeclarations field h
  rw [recordLine]
  split
  · rw [Step.isLine_line]
    simp only [List.mem_append, not_or]
    exact ⟨⟨hdeclaration, by decide⟩, lineEnd_not_mem_connectionsText count⟩
  · exact Step.isLine_line.2 hdeclaration

theorem declares_accountScript {account : Account L} (h : IsWord account.typeName) :
    Script.Declares 0 (accountScript account) [account.typeName] := by
  have hattribute : Script.Declares 0 [.line "#[account]"] [] := declares_margin (by decide)
  have hmark : (("pub struct " : String) : Text) ∈ declarationMarks := by decide
  have hrecord : Script.Declares 0 [.line ("pub struct " ++ account.typeName ++ " \x7b")]
      [account.typeName] := declares_word hmark h (by decide) rfl
  have hfields : ∀ step ∈ recordFields.map (recordLine account.connectionCount),
      step.isLine = true :=
    List.forall_mem_map.2 fun _ => isLine_recordLine account.connectionCount
  have hmethods : Script.Declares 0 [.line ("impl " ++ account.typeName ++ " \x7b")] [] :=
    declares_margin (List.forall_mem_singleton.2
      (Step.isLine_line.2 (h.lineEnd_not_mem_line (by decide) (by decide))))
  exact .join (.cons hattribute (.cons (declares_block hrecord hfields)
    (.cons declares_blank (.cons (declares_block hmethods (by decide)) .nil))))

/-- The names that the root of the crate declares. -/
theorem declares_crateScript {schedule : Schedule L} (hprogram : IsWord schedule.programName)
    (hmodules : ∀ instruction ∈ schedule.instructions, IsWord instruction.moduleName)
    (haccounts : ∀ account ∈ schedule.accounts, IsWord account.typeName) :
    Script.Declares 0 (crateScript schedule)
      (schedule.instructions.map (·.moduleName) ++ schedule.programName ::
        (schedule.accounts.map (·.typeName) ++ ["Initialize", "ErrorCode"])) := by
  have hpreamble : Script.Declares 0
      [.line "use anchor_lang::prelude::*;", .blank,
        .line ("declare_id!(\"" ++ programId ++ "\");"), .blank] [] := by
    simp (disch := exact rfl) only [programId, ofString_of_chars]
    exact declares_margin (by decide)
  have hrecords : Script.Declares 0
      (schedule.accounts.flatMap fun account => Script.join [accountScript account, [.blank]])
      (schedule.accounts.map (·.typeName)) := by
    rw [List.map_eq_flatMap]
    refine declares_flatMap fun account haccount => ?_
    have hrecord := declares_accountScript (haccounts account haccount)
    exact .join (.cons hrecord (.cons declares_blank .nil))
  have hinitialize : Script.Declares 0
      [.line "#[derive(Accounts)]", .line "pub struct Initialize \x7b\x7d", .blank]
      ["Initialize"] :=
    declares_margin (by decide)
  have herrors : Script.Declares 0 errorCodes ["ErrorCode"] := by
    simp (disch := exact rfl) only [errorCodes, verbatim, List.map_cons, List.map_nil,
      ofString_of_chars]
    exact declares_margin (by decide)
  have hroot := Script.Declares.join (.cons hpreamble
    (.cons (declares_moduleDeclarations hmodules)
      (.cons (declares_programBlock hprogram hmodules)
        (.cons declares_blank (.cons hrecords (.cons hinitialize (.cons herrors .nil)))))))
  rw [List.flatten_cons, List.nil_append] at hroot
  exact hroot

end Source

/-! ### Names made from texts -/

theorem isWord_of_isPlain {name : String} (h : Naming.IsPlain name) : Source.IsWord name := by
  intro c hc
  rw [Naming.isTypeChar, h c hc, Bool.true_or]

theorem isWord_typeName (text : Text) : Source.IsWord (Naming.typeName text) :=
  (Naming.isMadeOf_typeName text).allowed

theorem isWord_accountType {L : Type} [Label L] (node : Node L) :
    Source.IsWord (accountType node) := by
  rw [accountType, Naming.orElse]
  split
  · decide
  · exact isWord_typeName _

/-! ### The names at the root -/

/-- The types of the data records of a graph. -/
def accountTypes (nodes : List (Node Text)) : List String :=
  (nodes.filter (·.isAccount)).map accountType

theorem declaredNames_emit {L : Type} {schedule : Schedule L}
    (hprogram : Source.IsWord schedule.programName)
    (hmodules : ∀ instruction ∈ schedule.instructions, Source.IsWord instruction.moduleName)
    (haccounts : ∀ account ∈ schedule.accounts, Source.IsWord account.typeName) :
    Source.declaredNames (emit schedule).crateRoot =
      (emit schedule).modules.map (·.moduleName) ++ schedule.programName ::
        (schedule.accounts.map (·.typeName) ++ ["Initialize", "ErrorCode"]) := by
  have hnames : (emit schedule).modules.map (·.moduleName) =
      schedule.instructions.map (·.moduleName) := by
    rw [emit, List.map_map]
    rfl
  rw [hnames]
  exact (Source.declares_crateScript hprogram hmodules haccounts).text

theorem declaredNames_crateRoot (nodes : List (Node Text)) (connections : List (Connection Text))
    (requested : Option Text) :
    Source.declaredNames (compile nodes connections requested).crateRoot =
      (compile nodes connections requested).modules.map (·.moduleName) ++
        programNameOf requested :: (accountTypes nodes ++ ["Initialize", "ErrorCode"]) := by
  have htypes : (scheduleAccounts nodes (resolved nodes connections)).map (·.typeName) =
      accountTypes nodes := by
    rw [scheduleAccounts, List.map_map]
    rfl
  rw [compile, ← htypes]
  refine declaredNames_emit ?_ ?_ ?_
  · exact isWord_of_isPlain (isIdentifier_programNameOf requested).isPlain
  · intro instruction hinstruction
    exact isWord_of_isPlain (isIdentifier_of_mem_instructions hinstruction).isPlain
  · intro account haccount
    obtain ⟨node, -, rfl⟩ := List.mem_map.1 haccount
    exact isWord_accountType node

theorem nodup_rootNames_iff {modules types : List String} {programName : String}
    (hmodules : modules.Nodup) (hplain : ∀ name ∈ programName :: modules, Naming.IsPlain name) :
    (modules ++ programName :: (types ++ ["Initialize", "ErrorCode"])).Nodup ↔
      programName ∉ modules ∧ types.Nodup ∧
      ∀ type ∈ types, type ∉ modules ∧ type ≠ programName ∧
        type ≠ "Initialize" ∧ type ≠ "ErrorCode" := by
  -- names of modules and programs have no capital letter
  have hinitialize : "Initialize" ∉ programName :: modules := fun h =>
    absurd (hplain _ h) (by decide)
  have herrors : "ErrorCode" ∉ programName :: modules := fun h => absurd (hplain _ h) (by decide)
  rw [List.mem_cons, not_or] at hinitialize herrors
  have hown : ["Initialize", "ErrorCode"].Nodup := by decide
  simp only [List.nodup_append, List.nodup_cons, List.mem_append, List.mem_cons, List.not_mem_nil,
    or_false, not_or, forall_eq_or_imp, forall_eq, hmodules, hown, true_and]
  constructor
  · rintro ⟨⟨⟨hprogram, -⟩, htypes, htaken⟩, hnew⟩
    refine ⟨fun h => (hnew _ h).1 rfl, htypes, fun type htype => ⟨?_, ?_, htaken type htype⟩⟩
    · intro hmodule
      exact (hnew type hmodule).2 type (.inl htype) rfl
    · rintro rfl
      exact hprogram htype
  · rintro ⟨hprogram, htypes, hnew⟩
    refine ⟨⟨⟨fun h => (hnew _ h).2.1 rfl, Ne.symm hinitialize.1, Ne.symm herrors.1⟩, htypes,
      fun type htype => (hnew type htype).2.2⟩, fun name hname => ⟨?_, ?_⟩⟩
    · rintro rfl
      exact hprogram hname
    · rintro other (hother | rfl | rfl) rfl
      · exact (hnew _ hother).1 hname
      · exact hinitialize.2 hname
      · exact herrors.2 hname

/-- A node that is called like the program. -/
def programNamed : List (Node Text) := [⟨"n1", "token", "My Program", [], []⟩]

/-- The module of the node and the program have one name. -/
theorem crateRoot_names_clash_programNamed :
    ¬ (Source.declaredNames (compile programNamed [] none).crateRoot).Nodup := by
  rw [declaredNames_crateRoot]
  decide +kernel

/-- **When the root of the crate declares each name once.** The root declares the modules, the
program, the data records, `Initialize` and `ErrorCode`. The modules always have different names.
All names are different exactly if no module is called like the program, the data records have
different types, and none of these is called like a module, the program or the other two. -/
theorem crateRoot_names_nodup_iff (nodes : List (Node Text)) (connections : List (Connection Text))
    (requested : Option Text) :
    let workspace := compile nodes connections requested
    let modules := workspace.modules.map (·.moduleName)
    let types := accountTypes nodes
    let declared := Source.declaredNames workspace.crateRoot
    declared = modules ++ workspace.programName :: (types ++ ["Initialize", "ErrorCode"]) ∧
    modules.Nodup ∧
    (declared.Nodup ↔ workspace.programName ∉ modules ∧ types.Nodup ∧
      ∀ type ∈ types, type ∉ modules ∧ type ≠ workspace.programName ∧
        type ≠ "Initialize" ∧ type ≠ "ErrorCode") := by
  intro workspace modules types declared
  have hdeclared : declared =
      modules ++ workspace.programName :: (types ++ ["Initialize", "ErrorCode"]) :=
    declaredNames_crateRoot nodes connections requested
  have hmodules : modules.Nodup := nodup_map_moduleName nodes connections requested
  refine ⟨hdeclared, hmodules, ?_⟩
  rw [hdeclared]
  refine nodup_rootNames_iff hmodules fun name hname => ?_
  rcases List.mem_cons.1 hname with rfl | hname
  · exact (isIdentifier_programNameOf requested).isPlain
  · obtain ⟨module, hmodule, rfl⟩ := List.mem_map.1 hname
    exact (isIdentifier_of_mem_modules hmodule).isPlain

/-- A graph with an instruction and a data record. -/
def vault : List (Node Text) :=
  [⟨"n1", "token", "Deposit", [], []⟩, ⟨"n2", "account", "Vault", [], []⟩]

theorem crateRoot_names_nodup_vault :
    (Source.declaredNames (compile vault [] none).crateRoot).Nodup := by
  have hprogram : (compile vault [] none).programName ∉
      (compile vault [] none).modules.map (·.moduleName) := by decide +kernel
  refine (crateRoot_names_nodup_iff vault [] none).2.2.2 ⟨hprogram, ?_, ?_⟩
  · decide +kernel
  · decide +kernel

end ModuleGraph
