import ModuleGraph.Proofs.Schedule.ModuleScope
import ModuleGraph.Proofs.Source.Regions

/-!
# The brackets of the program crate

The sources of a compiled graph are well bracketed, whatever the nodes are called. Names stand in
code only as words, which have no bracket and no quote; the free text of a node stands in literals
only, and stays there since it is escaped.

## Main statements

- `bracketed_instructionScript` — the module of an instruction
- `bracketed_crateScript` — the root of the crate
- `sources_wellBracketed` — the sources of a compiled graph
-/

namespace ModuleGraph

namespace Source

variable {L : Type} {start : Region} {text met others : Text}

open Script (Bracketed bracketed_nil bracketed_flatMap bracketed_join bracketed_steps
  bracketed_line)

/-! ### Lines -/

theorem Scans.word (h : Scans start text .code met) {name : String} (hname : IsWord name) :
    Scans start (text ++ name) .code met := by
  have hwhole := h.append (scans_word hname)
  rwa [List.append_nil] at hwhole

/-- A line with one name in it. -/
theorem bracketed_word {before after : Text} (hbefore : Scans .code before .code met)
    {name : String} (hname : IsWord name) (hafter : Scans .code after .code others)
    (hnested : Nested (met ++ others)) : Bracketed .standard [.line (before ++ name ++ after)] :=
  bracketed_line ((hbefore.word hname).append hafter) rfl hnested

/-- A line with free text in a literal. -/
theorem bracketed_message {before after : Text} (hbefore : Scans .code before .literal met)
    (content : Text) (hafter : Scans .literal after .code others)
    (hnested : Nested (met ++ others)) :
    Bracketed .standard [.line (before ++ formatLiteral content ++ after)] := by
  have hwhole := (hbefore.append (scans_formatLiteral content)).append hafter
  rw [List.append_nil] at hwhole
  exact bracketed_line hwhole rfl hnested

/-- A block in braces. -/
theorem bracketed_braces {opening : Text} {body : Script}
    (hopening : Scans .code opening .code (met ++ [leftBrace])) (hmet : Nested met)
    (hbody : Bracketed .standard body) : Bracketed .standard (block opening body "\x7d") := by
  have hclosing : Scans .code "\x7d" .code [rightBrace] := by decide
  have hpair : (leftBrace, rightBrace) ∈ bracketPairs := by decide
  exact hbody.block hopening hmet hclosing .nil hpair

/-! ### Instructions -/

theorem scans_join {names : List String} (h : ∀ name ∈ names, IsWord name) :
    Scans .code (Text.join ", " (names.map Text.ofString)) .code [] := by
  induction names with
  | nil => exact ⟨rfl, rfl⟩
  | cons name names ih =>
    obtain ⟨hname, hnames⟩ := List.forall_mem_cons.1 h
    cases names with
    | nil =>
      rw [List.map_singleton, join_singleton]
      exact scans_word hname
    | cons next names =>
      have hjoint : Scans .code ", " .code [] := by decide
      rw [List.map_cons, List.map_cons, join_cons_cons]
      exact ((scans_word hname).append hjoint).append (ih hnames)

theorem bracketed_importLine {accounts : List (BoundAccount L)}
    (h : ∀ account ∈ accounts, IsWord account.typeName) :
    Bracketed .standard [importLine accounts] := by
  cases accounts with
  | nil =>
    show Bracketed .standard [.line "use crate::ErrorCode;"]
    decide
  | cons account accounts =>
    have hnames : ∀ name ∈ "ErrorCode" :: (account :: accounts).map (·.typeName), IsWord name := by
      rw [List.forall_mem_cons, List.forall_mem_map]
      exact ⟨by decide, h⟩
    have hbefore : Scans .code "use crate::\x7b" .code [leftBrace] := by decide
    have hafter : Scans .code "\x7d;" .code [rightBrace] := by decide
    have hline := (hbefore.append (scans_join hnames)).append hafter
    rw [← ofString_intercalate] at hline
    exact bracketed_line hline rfl (by decide)

theorem bracketed_predecessorLine (predecessors : List Text) :
    Bracketed .standard [predecessorLine predecessors] := by
  cases predecessors with
  | nil => decide
  | cons name names =>
    have hbefore : Scans .code "msg!(\"Connected to instructions: " .literal ['('] := by decide
    have hafter : Scans .literal "\");" .code [')'] := by decide
    exact bracketed_message hbefore _ hafter (by decide)

theorem bracketed_announcement (instruction : Instruction L) :
    Bracketed .standard (announcement instruction) := by
  have hbefore : Scans .code "msg!(\"Executing " .literal ['('] := by decide
  have hafter : Scans .literal "\");" .code [')'] := by decide
  have hname : Bracketed .standard
      [.line ("msg!(\"Executing " ++ formatLiteral instruction.nodeName ++ "\");")] :=
    bracketed_message hbefore instruction.nodeName hafter (by decide)
  have hcomment : Bracketed .standard [.blank, .comment "Validate incoming connections"] := by
    decide
  have hblank : Bracketed .standard [.blank] := by decide
  exact (hname.append hcomment).append
    ((bracketed_predecessorLine instruction.predecessors).append hblank)

theorem bracketed_accountCheck {account : BoundAccount L} (h : IsWord account.fieldName) :
    Bracketed .standard [Category.accountCheck account] := by
  have hbefore : Scans .code "require!(ctx.accounts." .code ['('] := by decide
  have hafter : Scans .code
      ".authority == ctx.accounts.authority.key(), ErrorCode::Unauthorized);" .code
      ['(', ')', ')'] := by
    simp (disch := exact rfl) only [ofString_of_chars]
    decide
  exact bracketed_word hbefore h hafter (by decide)

theorem bracketed_logic (category : Category) {accounts : List (BoundAccount L)}
    (h : ∀ account ∈ accounts, IsWord account.fieldName) :
    Bracketed .standard (category.logic accounts) := by
  have hsteps : ∀ category : Category, Bracketed .standard
      [.comment category.comment, Category.authorityCheck, category.messageLine] := by
    intro category
    cases category <;>
    · simp (disch := exact rfl) only [Category.comment, Category.authorityCheck,
        Category.messageLine, Category.message, ofString_of_chars]
      decide
  cases category with
  -- this logic alone has a line for every account
  | validator =>
    refine (hsteps .validator).append (bracketed_steps ?_)
    exact List.forall_mem_map.2 fun account haccount => bracketed_accountCheck (h account haccount)
  -- this logic alone does not check the authority
  | start =>
    show Bracketed .standard [.comment Category.start.comment, Category.start.messageLine]
    decide
  | token | nft | defi | governance | custom => exact hsteps _

theorem bracketed_accountUpdate {account : BoundAccount L} (h : IsWord account.fieldName) :
    Bracketed .standard (accountUpdate account) := by
  have hbefore : Scans .code "ctx.accounts." .code [] := by decide
  have hafter : Scans .code ".data += 1;" .code [] := by decide
  have hmessage : Scans .code "msg!(\"Updated " .literal ['('] := by decide
  have hend : Scans .literal " data\");" .code [')'] := by decide
  exact (bracketed_word hbefore h hafter .nil).append
    (bracketed_message hmessage account.typeName hend (by decide))

theorem bracketed_updates {accounts : List (BoundAccount L)}
    (h : ∀ account ∈ accounts, IsWord account.fieldName) :
    Bracketed .standard (updates accounts) := by
  have hupdates : Bracketed .standard (accounts.flatMap accountUpdate) :=
    bracketed_flatMap fun account haccount => bracketed_accountUpdate (h account haccount)
  cases accounts with
  | nil => exact bracketed_nil
  | cons account accounts =>
    have hcomment : Bracketed .standard [.blank, .comment "Update connected accounts"] := by decide
    exact bracketed_join (List.forall_mem_cons.2 ⟨hcomment, List.forall_mem_singleton.2 hupdates⟩)

/-- The brackets of a result type are closed before the block opens. -/
def entryBrackets : Text := ['(', ')', '(', ')']

theorem scans_entryLine {instruction : Instruction L} (h : HasWords instruction) :
    Scans .code (entryLine instruction) .code (entryBrackets ++ [leftBrace]) := by
  have hmark : Scans .code "pub fn " .code [] := by decide
  have hcontext : Scans .code "(ctx: Context<" .code ['('] := by decide
  have hresult : Scans .code ">) -> Result<()> \x7b" .code [')', '(', ')', leftBrace] := by decide
  rw [entryLine_eq]
  exact (hmark.word h.module).append ((hcontext.word h.type).append hresult)

theorem bracketed_entryFunction {instruction : Instruction L} (h : HasWords instruction) :
    Bracketed .standard (entryFunction instruction) := by
  have hend : Bracketed .standard [.blank, .line "Ok(())"] := by decide
  refine bracketed_braces (scans_entryLine h) (by decide) (bracketed_join ?_)
  simp only [List.forall_mem_cons]
  exact ⟨bracketed_announcement instruction, bracketed_logic _ h.fields,
    bracketed_updates h.fields, hend, List.forall_mem_nil _⟩

theorem bracketed_accountField {account : BoundAccount L} (hfield : IsWord account.fieldName)
    (htype : IsWord account.typeName) : Bracketed .standard (accountField account) := by
  have hattribute : Scans .code "#[account(mut, constraint = " .code ['[', '('] := by decide
  have hauthority : Scans .code ".authority == authority.key())]" .code ['(', ')', ')', ']'] := by
    decide
  have hmark : Scans .code "pub " .code [] := by decide
  have hcolon : Scans .code ": Account<'info, " .code [] := by decide
  have hend : Scans .code ">," .code [] := by decide
  exact (bracketed_word hattribute hfield hauthority (by decide)).append
    (bracketed_word ((hmark.word hfield).append hcolon) htype hend .nil)

theorem bracketed_accountsStruct {instruction : Instruction L} (h : HasWords instruction) :
    Bracketed .standard (accountsStruct instruction) := by
  have hattribute : Bracketed .standard [.line "#[derive(Accounts)]"] := by decide
  have hmark : Scans .code "pub struct " .code [] := by decide
  have hopening : Scans .code "<'info> \x7b" .code [leftBrace] := by decide
  have hfields : Bracketed .standard (instruction.boundAccounts.flatMap accountField) :=
    bracketed_flatMap fun account haccount =>
      bracketed_accountField (h.fields account haccount) (h.types account haccount).1
  have hown : Bracketed .standard
      [.line "#[account(mut)]", .line "pub authority: Signer<'info>,",
        .line "pub system_program: Program<'info, System>,"] := by
    simp (disch := exact rfl) only [ofString_of_chars]
    decide
  refine hattribute.append (bracketed_braces ((hmark.word h.type).append hopening) .nil ?_)
  exact bracketed_join (List.forall_mem_cons.2 ⟨hfields, List.forall_mem_singleton.2 hown⟩)

theorem bracketed_instructionScript {instruction : Instruction L} (h : HasWords instruction) :
    Bracketed .standard (instructionScript instruction) := by
  have hprelude : Bracketed .standard [.line "use anchor_lang::prelude::*;"] := by decide
  have hblank : Bracketed .standard [.blank] := by decide
  have himports := bracketed_importLine fun account haccount => (h.types account haccount).1
  refine bracketed_join ?_
  simp only [List.forall_mem_cons]
  exact ⟨hprelude.append (himports.append hblank), bracketed_entryFunction h, hblank,
    bracketed_accountsStruct h, List.forall_mem_nil _⟩

/-! ### The root of the crate -/

theorem bracketed_recordLine (count : Int) {field : RecordField} (h : field ∈ recordFields) :
    Bracketed .standard [recordLine count field] := by
  have hdeclarations : ∀ field ∈ recordFields, Scans .code
      (("pub " ++ field.name ++ ": " ++ field.type ++ "," : String) : Text) .code [] := by decide
  have hdeclaration := hdeclarations field h
  rw [recordLine]
  split
  · have hcomment : Scans .code " // " .comment [] := by decide
    have hcount := scans_comment (lineEnd_not_mem_connectionsText count)
    exact bracketed_line ((hdeclaration.append hcomment).append hcount) rfl .nil
  · exact bracketed_line hdeclaration rfl .nil

theorem bracketed_accountScript {account : Account L} (h : IsWord account.typeName) :
    Bracketed .standard (accountScript account) := by
  have hattribute : Bracketed .standard [.line "#[account]"] := by decide
  have hblank : Bracketed .standard [.blank] := by decide
  have hrecord : Scans .code "pub struct " .code [] := by decide
  have hmethods : Scans .code "impl " .code [] := by decide
  have hopening : Scans .code " \x7b" .code [leftBrace] := by decide
  have hfields : Bracketed .standard (recordFields.map (recordLine account.connectionCount)) :=
    bracketed_steps (List.forall_mem_map.2 fun _ => bracketed_recordLine account.connectionCount)
  have hsize : Bracketed .standard [.line ("pub const LEN: usize = " ++ recordSize ++ ";")] := by
    decide
  refine bracketed_join ?_
  simp only [List.forall_mem_cons]
  exact ⟨hattribute, bracketed_braces ((hrecord.word h).append hopening) .nil hfields, hblank,
    bracketed_braces ((hmethods.word h).append hopening) .nil hsize, List.forall_mem_nil _⟩

theorem bracketed_moduleDeclarations {instructions : List (Instruction L)}
    (h : ∀ instruction ∈ instructions, IsWord instruction.moduleName) :
    Bracketed .standard (moduleDeclarations instructions) := by
  have hmark : Scans .code "pub mod " .code [] := by decide
  have hend : Scans .code ";" .code [] := by decide
  have hblank : Bracketed .standard [.blank] := by decide
  have hlines : Bracketed .standard (instructions.map fun instruction =>
      .line ("pub mod " ++ instruction.moduleName ++ ";")) :=
    bracketed_steps (List.forall_mem_map.2 fun instruction hinstruction =>
      bracketed_word hmark (h instruction hinstruction) hend .nil)
  cases instructions with
  | nil => exact bracketed_nil
  | cons first others =>
    exact bracketed_join (List.forall_mem_cons.2 ⟨hlines, List.forall_mem_singleton.2 hblank⟩)

theorem bracketed_programBlock {schedule : Schedule L} (hprogram : IsWord schedule.programName)
    (hmodules : ∀ instruction ∈ schedule.instructions, IsWord instruction.moduleName) :
    Bracketed .standard (programBlock schedule) := by
  have hattribute : Bracketed .standard [.line "#[program]"] := by decide
  have hmark : Scans .code "pub mod " .code [] := by decide
  have hopening : Scans .code " \x7b" .code [leftBrace] := by decide
  have huse : Scans .code "pub use " .code [] := by decide
  have hall : Scans .code "::*;" .code [] := by decide
  have hsuper : Bracketed .standard [.line "use super::*;"] := by decide
  have hblank : Bracketed .standard [.blank] := by decide
  have hvalidation : Bracketed .standard flowValidation := by
    simp (disch := exact rfl) only [flowValidation, verbatim, List.map_cons, List.map_nil,
      ofString_of_chars]
    decide
  have hexports : Bracketed .standard (schedule.instructions.map fun instruction =>
      .line ("pub use " ++ instruction.moduleName ++ "::*;")) :=
    bracketed_steps (List.forall_mem_map.2 fun instruction hinstruction =>
      bracketed_word huse (hmodules instruction hinstruction) hall .nil)
  refine hattribute.append (bracketed_braces ((hmark.word hprogram).append hopening) .nil ?_)
  refine bracketed_join ?_
  simp only [List.forall_mem_cons]
  exact ⟨hsuper, hexports, hblank, hvalidation, List.forall_mem_nil _⟩

theorem bracketed_crateScript {schedule : Schedule L} (hprogram : IsWord schedule.programName)
    (hmodules : ∀ instruction ∈ schedule.instructions, IsWord instruction.moduleName)
    (haccounts : ∀ account ∈ schedule.accounts, IsWord account.typeName) :
    Bracketed .standard (crateScript schedule) := by
  have hpreamble : Bracketed .standard
      [.line "use anchor_lang::prelude::*;", .blank,
        .line ("declare_id!(\"" ++ programId ++ "\");"), .blank] := by
    simp (disch := exact rfl) only [programId, ofString_of_chars]
    decide
  have hblank : Bracketed .standard [.blank] := by decide
  have hrecords : Bracketed .standard
      (schedule.accounts.flatMap fun account => Script.join [accountScript account, [.blank]]) :=
    bracketed_flatMap fun account haccount => bracketed_join (List.forall_mem_cons.2
      ⟨bracketed_accountScript (haccounts account haccount), List.forall_mem_singleton.2 hblank⟩)
  have hinitialize : Bracketed .standard
      [.line "#[derive(Accounts)]", .line "pub struct Initialize \x7b\x7d", .blank] := by decide
  have herrors : Bracketed .standard errorCodes := by
    simp (disch := exact rfl) only [errorCodes, verbatim, List.map_cons, List.map_nil,
      ofString_of_chars]
    decide
  refine bracketed_join ?_
  simp only [List.forall_mem_cons]
  exact ⟨hpreamble, bracketed_moduleDeclarations hmodules,
    bracketed_programBlock hprogram hmodules, hblank, hrecords, hinitialize, herrors,
    List.forall_mem_nil _⟩

end Source

/-- **The sources of a compiled graph are well bracketed.** In the root of the crate and in the
module of every instruction, a scanner that skips literals and comments ends outside literals, and
meets brackets that are balanced and properly nested. -/
theorem sources_wellBracketed (nodes : List (Node Text)) (connections : List (Connection Text))
    (requested : Option Text) :
    let workspace := compile nodes connections requested
    Source.WellBracketed workspace.crateRoot ∧
      ∀ module ∈ workspace.modules, Source.WellBracketed module.source := by
  intro workspace
  have hspaced : Source.Style.standard.IsSpaced := by decide
  constructor
  · refine (Source.bracketed_crateScript ?_ ?_ ?_).text hspaced
    · exact isWord_of_isPlain (isIdentifier_programNameOf requested).isPlain
    · exact fun instruction hinstruction => (hasWords_of_mem hinstruction).module
    · refine List.forall_mem_map.2 fun node _ => ?_
      exact isWord_accountType node
  · refine List.forall_mem_map.2 fun instruction hinstruction => ?_
    exact (Source.bracketed_instructionScript (hasWords_of_mem hinstruction)).text hspaced

/-- An instruction that is called like the end of its own message. -/
theorem sources_wellBracketed_messageEnd :
    let graph := wiredAccount "Vault" "\"); \x7d // \x7b"
    ∃ module ∈ (compile graph.nodes graph.connections none).modules,
      module.nodeId = ("s" : Text) ∧ Source.WellBracketed module.source := by
  intro graph
  obtain ⟨instruction, hinstruction, hid⟩ : ∃ instruction ∈ (buildSchedule (programNameOf none)
      graph.nodes graph.connections).instructions, instruction.nodeId = ("s" : Text) :=
    exists_instruction_of_mem (by decide)
  obtain ⟨-, hmodules⟩ := sources_wellBracketed graph.nodes graph.connections none
  exact ⟨_, List.mem_map_of_mem hinstruction, hid,
    hmodules _ (List.mem_map_of_mem hinstruction)⟩

end ModuleGraph
