import ModuleGraph.Naming
import ModuleGraph.Schedule.Basic
import ModuleGraph.Source.Literal
import ModuleGraph.Source.Script

/-!
# The test suite

The test suite calls every instruction once. If the graph has connections it also walks through the
instructions in the order of the program flow.

## Main definitions

- `testCase` — the test of one instruction
- `integrationTest` — the test of the whole flow
- `suiteScript` — the file of the test suite
-/

namespace ModuleGraph.Source

variable {L : Type}

/-- A text between double quotes. -/
def inQuotes (text : Text) : Text := "\"" ++ text ++ "\""

/-- The accounts that a call passes, each with its value, and the request that sends it. -/
def callTail (accounts : List Text) : Script :=
  .join [[.push], block ".accounts(\x7b" (accounts.map .line) "\x7d)", [.line ".rpc();", .pop]]

/-- The account of the caller. -/
def authorityAccount : Text := "authority: provider.wallet.publicKey,"

/-- The account of the system program. -/
def systemAccount : Text := "systemProgram: anchor.web3.SystemProgram.programId,"

/-- What the test of an instruction tries. -/
def testAttempt (name : Text) (method : String) : Script :=
  .join
    [[.line ("const tx = await program.methods." ++ method ++ "()")],
      callTail [authorityAccount, systemAccount],
      [.blank,
        .line ("console.log(\"" ++ name ++ " transaction signature:\", tx);"),
        .blank,
        .comment "Validate program flow",
        .line ("const flowValidation = await program.methods.validateProgramFlow([" ++
          inQuotes name ++ "])")],
      callTail [authorityAccount],
      [.blank, .line "console.log(\"Flow validation signature:\", flowValidation);"]]

/-- What the test of an instruction does when the attempt fails. -/
def testFailure (name : Text) : Script :=
  [.line ("console.error(\"" ++ name ++ " test failed:\", error);"), .line "throw error;"]

def testCase (instruction : Instruction L) : Script :=
  let name := literal instruction.nodeName
  let method := Naming.camelCase instruction.moduleName
  block
    ("it(\"" ++ name ++ " (" ++ toString instruction.connectionCount ++
      " connections)\", async () => \x7b")
    (.join
      [[.comment ("Test " ++ name ++ " instruction with connection validation"),
          .line "try \x7b", .push],
        testAttempt name method,
        [.pop, .line "\x7d catch (error) \x7b", .push],
        testFailure name,
        [.pop, .line "\x7d"]])
    "\x7d);"

/-- The names of the instructions in order, as a list of literals. -/
def orderLiteral (names : List Text) : Text :=
  "[" ++ Text.join ", " (names.map fun name => inQuotes (literal name)) ++ "]"

/-- The loop over the instructions in order. -/
def executionLoop : Script :=
  block "for (const instructionName of executionOrder) \x7b"
    [.line "console.log(`Executing: $\x7binstructionName\x7d`);"] "\x7d"

/-- The walk through the instructions in order. -/
def executionWalk (order : List Text) : Script :=
  .join
    [[.line "console.log(\"Testing instruction connections\");",
        .blank,
        .comment "Execute instructions in dependency order",
        .line ("const executionOrder = " ++ orderLiteral order ++ ";"),
        .blank],
      executionLoop,
      [.blank, .line "console.log(\"All connected instructions executed successfully\");"]]

def integrationTest (order : List Text) : Script :=
  block "describe(\"Integration Tests\", () => \x7b"
    (block "it(\"should execute connected instructions in sequence\", async () => \x7b"
      (executionWalk order) "\x7d);")
    "\x7d);"

/-- The test of the whole flow, if there is anything to flow. -/
def integrationPart (schedule : Schedule L) : Script :=
  if schedule.hasConnections then .blank :: integrationTest schedule.flow.executionOrder else []

/-- The lines that import what the test suite needs. -/
def suiteImports (program type : String) : Script :=
  [.line "import * as anchor from \"@coral-xyz/anchor\";",
    .line "import \x7b Program \x7d from \"@coral-xyz/anchor\";",
    .line ("import \x7b " ++ type ++ " \x7d from \"../target/types/" ++ program ++ "\";"),
    .line "import \x7b expect \x7d from \"chai\";"]

/-- What the test suite does before its tests. -/
def suiteSetup (program type : String) : Script :=
  .join
    [[.line "const provider = anchor.AnchorProvider.env();",
        .line "anchor.setProvider(provider);",
        .line ("const program = anchor.workspace." ++ type ++ " as Program<" ++ type ++ ">;"),
        .blank],
      block "before(async () => \x7b"
        [.line ("console.log(\"Starting " ++ program ++ " tests\");"),
          .line "console.log(\"Program ID:\", program.programId.toString());"]
        "\x7d);"]

/-- The file of the test suite. -/
def suiteScript (schedule : Schedule L) : Script :=
  let program := schedule.programName
  let type := Naming.pascalCase program
  .join
    [suiteImports program type,
      [.blank],
      block ("describe(\"" ++ program ++ "\", () => \x7b")
        (.join
          [suiteSetup program type,
            schedule.instructions.flatMap fun instruction => .blank :: testCase instruction,
            integrationPart schedule])
        "\x7d);"]

end ModuleGraph.Source
