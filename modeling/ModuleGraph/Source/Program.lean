import ModuleGraph.Source.Category

/-!
# The program crate

The crate has a module for every instruction, with its entry function and the accounts that it
takes, and a root that declares the modules, the program, the data records and the error codes.

## Main definitions

- `instructionScript` — the module of an instruction
- `accountScript` — the declaration of a data record
- `crateScript` — the root of the crate
-/

namespace ModuleGraph.Source

variable {L : Type}

/-! ### Instructions -/

/-- The line that brings the error codes and the bound accounts into scope. -/
def importLine (accounts : List (BoundAccount L)) : Step :=
  match accounts with
  | [] => .line "use crate::ErrorCode;"
  | _ =>
    .line ("use crate::\x7b" ++ ", ".intercalate ("ErrorCode" :: accounts.map (·.typeName)) ++
      "\x7d;")

/-- The line that tells which instructions come before. -/
def predecessorLine (predecessors : List Text) : Step :=
  match predecessors with
  | [] => .line "msg!(\"Entry point instruction\");"
  | _ =>
    .line ("msg!(\"Connected to instructions: " ++ formatLiteral (Text.join ", " predecessors) ++
      "\");")

/-- The updates of the bound accounts, under a comment of their own. -/
def updates (accounts : List (BoundAccount L)) : Script :=
  match accounts with
  | [] => []
  | _ => .join [[.blank, .comment "Update connected accounts"], accounts.flatMap accountUpdate]

/-- What an instruction says before it does anything. -/
def announcement (instruction : Instruction L) : Script :=
  [.line ("msg!(\"Executing " ++ formatLiteral instruction.nodeName ++ "\");"),
    .blank,
    .comment "Validate incoming connections",
    predecessorLine instruction.predecessors,
    .blank]

/-- The opening line of the entry function of an instruction. -/
def entryLine (instruction : Instruction L) : String :=
  "pub fn " ++ instruction.moduleName ++ "(ctx: Context<" ++ instruction.typeName ++
    ">) -> Result<()> \x7b"

def entryFunction (instruction : Instruction L) : Script :=
  block (entryLine instruction)
    (.join
      [announcement instruction,
        (Category.ofName instruction.category).logic instruction.boundAccounts,
        updates instruction.boundAccounts,
        [.blank, .line "Ok(())"]])
    "\x7d"

/-- The field of a bound account, with the constraint on its authority. -/
def accountField (account : BoundAccount L) : Script :=
  [.line ("#[account(mut, constraint = " ++ account.fieldName ++
      ".authority == authority.key())]"),
    .line ("pub " ++ account.fieldName ++ ": Account<'info, " ++ account.typeName ++ ">,")]

/-- The accounts that an instruction takes. -/
def accountsStruct (instruction : Instruction L) : Script :=
  .line "#[derive(Accounts)]" ::
    block ("pub struct " ++ instruction.typeName ++ "<'info> \x7b")
      (.join
        [instruction.boundAccounts.flatMap accountField,
          [.line "#[account(mut)]",
            .line "pub authority: Signer<'info>,",
            .line "pub system_program: Program<'info, System>,"]])
      "\x7d"

/-- The module of an instruction. -/
def instructionScript (instruction : Instruction L) : Script :=
  .join
    [[.line "use anchor_lang::prelude::*;", importLine instruction.boundAccounts, .blank],
      entryFunction instruction, [.blank], accountsStruct instruction]

/-! ### Data records -/

/-- A field of every data record: its name, its type and its size in bytes. -/
structure RecordField where
  name : String
  type : String
  size : Nat

/-- The bytes before the fields of a record. -/
def discriminatorSize : Nat := 8

/-- The field that is told how many wires the record has. -/
def countField : RecordField := ⟨"connected_instructions", "u8", 1⟩

def recordFields : List RecordField :=
  [⟨"authority", "Pubkey", 32⟩, ⟨"data", "u64", 8⟩, ⟨"bump", "u8", 1⟩, countField]

/-- The size of a data record as a sum. -/
def recordSize : String :=
  " + ".intercalate ((discriminatorSize :: recordFields.map (·.size)).map toString)

/-- A number of connections, in words. -/
def connectionsText (count : Int) : String :=
  toString count ++ (if count = 1 then " connection" else " connections")

/-- The line of a field of a record with the given number of wires. -/
def recordLine (count : Int) (field : RecordField) : Step :=
  let declaration := "pub " ++ field.name ++ ": " ++ field.type ++ ","
  if field.name = countField.name then .line (declaration ++ " // " ++ connectionsText count)
  else .line declaration

/-- The declaration of a data record. -/
def accountScript (account : Account L) : Script :=
  .join
    [[.line "#[account]"],
      block ("pub struct " ++ account.typeName ++ " \x7b")
        (recordFields.map (recordLine account.connectionCount)) "\x7d",
      [.blank],
      block ("impl " ++ account.typeName ++ " \x7b")
        [.line ("pub const LEN: usize = " ++ recordSize ++ ";")] "\x7d"]

/-! ### The root of the crate -/

/-- The identifier that stands for the address of the program until it is deployed. -/
def programId : String := "Fg6PaFpoGXkYsidMpWTK6W2BeZ7FEfcYkg476zPFsLnS"

/-- Lines that are written as they stand. -/
def verbatim (lines : List String) : Script := lines.map fun (line : String) => .line line

/-- The function that reports a sequence of instructions. -/
def flowValidation : Script :=
  verbatim
    ["pub fn validate_program_flow(instruction_sequence: &[String]) -> Result<()> \x7b",
      "    // Validate execution order based on connections",
      "    for (i, instruction) in instruction_sequence.iter().enumerate() \x7b",
      "        msg!(\"Validating instruction \x7b\x7d: \x7b\x7d\", i, instruction);",
      "    \x7d",
      "    Ok(())",
      "\x7d"]

def errorCodes : Script :=
  verbatim
    ["#[error_code]",
      "pub enum ErrorCode \x7b",
      "    #[msg(\"Invalid program flow\")]",
      "    InvalidProgramFlow,",
      "    #[msg(\"Missing required connection\")]",
      "    MissingConnection,",
      "    #[msg(\"Unauthorized access\")]",
      "    Unauthorized,",
      "\x7d"]

def moduleDeclarations (instructions : List (Instruction L)) : Script :=
  match instructions with
  | [] => []
  | _ =>
    .join [instructions.map fun i => .line ("pub mod " ++ i.moduleName ++ ";"), [.blank]]

/-- The program, which offers the entry functions of all modules. -/
def programBlock (schedule : Schedule L) : Script :=
  .line "#[program]" ::
    block ("pub mod " ++ schedule.programName ++ " \x7b")
      (.join
        [[.line "use super::*;"],
          schedule.instructions.map fun i => .line ("pub use " ++ i.moduleName ++ "::*;"),
          [.blank],
          flowValidation])
      "\x7d"

/-- The root of the crate. -/
def crateScript (schedule : Schedule L) : Script :=
  .join
    [[.line "use anchor_lang::prelude::*;",
        .blank,
        .line ("declare_id!(\"" ++ programId ++ "\");"),
        .blank],
      moduleDeclarations schedule.instructions,
      programBlock schedule,
      [.blank],
      schedule.accounts.flatMap fun account => Script.join [accountScript account, [.blank]],
      [.line "#[derive(Accounts)]", .line "pub struct Initialize \x7b\x7d", .blank],
      errorCodes]

end ModuleGraph.Source
