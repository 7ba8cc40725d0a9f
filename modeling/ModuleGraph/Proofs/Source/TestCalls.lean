import ModuleGraph.Proofs.CamelCase
import ModuleGraph.Proofs.Source.CrateRoot
import ModuleGraph.Proofs.Source.Reading

/-!
# The methods that the tests call

The test of an instruction calls one method of the program for its effect, on a line that keeps the
transaction. Read in order, these lines name the methods of the instructions in order, whatever the
names of the nodes are, which stand on other lines.

## Main definitions

- `calledMethods` — the methods that the tests in a text call for their effect

## Main statements

- `tells_testCase` — the test of an instruction calls the method of the instruction
- `calledMethods_tests` — the tests of a compiled graph
-/

namespace ModuleGraph

namespace Source

/-- How a line begins that keeps the transaction of a call. -/
def callMark : Text := "const tx = await program.methods."

/-- The method that a line calls, if it keeps the transaction. -/
def calledMethod? (line : Text) : Option String := (callMark.isPrefixOf? line).map leadingName

/-- The methods that the tests in a text call for their effect. -/
def calledMethods (text : Text) : List String := findings calledMethod? text

variable {L : Type}

/-- A script of the test suite that calls the given methods. -/
abbrev Calls (script : Script) (methods : List String) : Prop :=
  script.Tells .narrow calledMethod? methods

open Script (tells_nil tells_silent tells_line tells_flatMap tells_quiet tells_blank isSilent_line
  isSilent_comment)

theorem isWord_pascalCase {name : String} (h : Naming.IsPlain name) :
    IsWord (Naming.pascalCase name) := by
  intro c hc
  rw [Naming.pascalCase, String.toList_ofList] at hc
  exact Naming.isTypeChar_of_mem_pascalChars h hc

theorem isWord_camelCase {name : String} (h : Naming.IsPlain name) :
    IsWord (Naming.camelCase name) :=
  fun _ => Naming.isTypeChar_of_mem_camelCase h

/-! ### One test -/

/-- The line that closes what a call is given. -/
theorem isSilent_callClosing : (Step.line "\x7d);").isSilent .narrow calledMethod? = true := by
  decide

theorem calls_call {method : String} (h : IsWord method) :
    Calls [.line (callMark ++ method ++ "()")] [method] := by
  have hmark : lineEnd ∉ callMark := by decide
  have hread : calledMethod? (unindented (callMark ++ method ++ "()")) = some method :=
    congrArg some (leadingName_append h rfl)
  exact tells_line (h.lineEnd_not_mem_line hmark (by decide)) hread

/-- What is done with the transaction only shows and checks it. -/
theorem calls_testReport {name : Text} (hname : lineEnd ∉ name) :
    Calls
      [.blank,
        .line ("console.log(\"" ++ name ++ " transaction signature:\", tx);"),
        .blank,
        .comment "Validate program flow",
        .line ("const flowValidation = await program.methods.validateProgramFlow([" ++
          inQuotes name ++ "])")] [] := by
  refine tells_silent ?_
  simp (disch := exact rfl) only [List.forall_mem_cons, ofString_of_chars]
  refine ⟨by decide, isSilent_line ?_ rfl, by decide, by decide, isSilent_line ?_ rfl,
    List.forall_mem_nil _⟩
  · exact lineEnd_not_mem_between (by decide) hname (by decide)
  · exact lineEnd_not_mem_between (by decide)
      (lineEnd_not_mem_between (by decide) hname (by decide)) (by decide)

theorem calls_testAttempt {name : Text} (hname : lineEnd ∉ name) {method : String}
    (h : IsWord method) : Calls (testAttempt name method) [method] := by
  have hfirst : Calls (callTail [authorityAccount, systemAccount]) [] := by
    simp (disch := exact rfl) only [callTail, authorityAccount, systemAccount, List.map_cons,
      List.map_nil, ofString_of_chars]
    exact tells_silent (by decide)
  have hsecond : Calls (callTail [authorityAccount]) [] := tells_silent (by decide)
  have hlast : Calls
      [.blank, .line "console.log(\"Flow validation signature:\", flowValidation);"] [] := by
    simp (disch := exact rfl) only [ofString_of_chars]
    exact tells_silent (by decide)
  exact .join (.cons (calls_call h) (.cons hfirst (.cons (calls_testReport hname)
    (.cons hsecond (.cons hlast .nil)))))

theorem calls_testCase {instruction : Instruction L}
    (h : IsWord (Naming.camelCase instruction.moduleName)) :
    Calls (testCase instruction) [Naming.camelCase instruction.moduleName] := by
  -- the name of the node is free text, but stands in literals only
  have hname : lineEnd ∉ literal instruction.nodeName := lineEnd_not_mem_literal _
  have hcount : lineEnd ∉ (toString instruction.connectionCount : Text) :=
    fun hend => lineEnd_not_mem_integer _ (lineEnd_mem_ofString.1 hend)
  have hopening : Calls
      [.line ("it(\"" ++ literal instruction.nodeName ++ " (" ++
        toString instruction.connectionCount ++ " connections)\", async () => \x7b")] [] := by
    refine tells_quiet ?_ rfl
    simp only [List.mem_append, not_or]
    exact ⟨⟨⟨⟨by decide, hname⟩, by decide⟩, hcount⟩, by decide⟩
  have hbefore : Calls
      [.comment ("Test " ++ literal instruction.nodeName ++
          " instruction with connection validation"),
        .line "try \x7b", .push] [] := by
    refine tells_silent ?_
    simp only [List.forall_mem_cons]
    refine ⟨isSilent_comment (by decide) ?_ rfl, by decide, by decide, List.forall_mem_nil _⟩
    exact lineEnd_not_mem_between (by decide) hname (by decide)
  have hbetween : Calls [.pop, .line "\x7d catch (error) \x7b", .push] [] :=
    tells_silent (by decide)
  have hfailure : Calls (testFailure (literal instruction.nodeName)) [] := by
    refine Script.Tells.append (tells_quiet ?_ rfl) (tells_silent (by decide))
    exact lineEnd_not_mem_between (by decide) hname (by decide)
  have hafter : Calls [.pop, .line "\x7d"] [] := tells_silent (by decide)
  have hbody := Script.Tells.join (.cons hbefore (.cons (calls_testAttempt hname h)
    (.cons hbetween (.cons hfailure (.cons hafter .nil)))))
  exact hopening.block hbody isSilent_callClosing

/-! ### All tests -/

theorem calls_suiteSetup {program type : String} (hprogram : IsWord program) (htype : IsWord type) :
    Calls (suiteSetup program type) [] := by
  have hbefore : Calls
      [.line "const provider = anchor.AnchorProvider.env();",
        .line "anchor.setProvider(provider);",
        .line ("const program = anchor.workspace." ++ type ++ " as Program<" ++ type ++ ">;"),
        .blank] [] := by
    refine tells_silent ?_
    simp (disch := exact rfl) only [List.forall_mem_cons, ofString_of_chars]
    refine ⟨by decide, by decide, isSilent_line ?_ rfl, by decide, List.forall_mem_nil _⟩
    exact htype.lineEnd_not_mem_line (htype.lineEnd_not_mem_line (by decide) (by decide))
      (by decide)
  have hopening : Calls [.line "before(async () => \x7b"] [] := tells_silent (by decide)
  have hmessages : Calls
      [.line ("console.log(\"Starting " ++ program ++ " tests\");"),
        .line "console.log(\"Program ID:\", program.programId.toString());"] [] := by
    simp (disch := exact rfl) only [ofString_of_chars]
    refine .append (tells_quiet ?_ rfl) (tells_silent (by decide))
    exact hprogram.lineEnd_not_mem_line (by decide) (by decide)
  exact .join (.cons hbefore (.cons (hopening.block hmessages isSilent_callClosing) .nil))

theorem lineEnd_not_mem_orderLiteral (order : List Text) : lineEnd ∉ orderLiteral order := by
  refine lineEnd_not_mem_between (by decide) (lineEnd_not_mem_join (by decide) ?_) (by decide)
  intro text htext
  obtain ⟨name, -, rfl⟩ := List.mem_map.1 htext
  exact lineEnd_not_mem_between (by decide) (lineEnd_not_mem_literal name) (by decide)

theorem calls_executionWalk (order : List Text) : Calls (executionWalk order) [] := by
  have hbefore : Calls
      [.line "console.log(\"Testing instruction connections\");",
        .blank,
        .comment "Execute instructions in dependency order",
        .line ("const executionOrder = " ++ orderLiteral order ++ ";"),
        .blank] [] := by
    refine tells_silent ?_
    simp (disch := exact rfl) only [List.forall_mem_cons, ofString_of_chars]
    refine ⟨by decide, by decide, by decide, isSilent_line ?_ rfl, by decide,
      List.forall_mem_nil _⟩
    exact lineEnd_not_mem_between (by decide) (lineEnd_not_mem_orderLiteral order) (by decide)
  have hafter : Calls
      (.join [executionLoop,
        [.blank, .line "console.log(\"All connected instructions executed successfully\");"]])
      [] := by
    simp (disch := exact rfl) only [executionLoop, ofString_of_chars]
    exact tells_silent (by decide)
  exact hbefore.append hafter

theorem calls_integrationPart (schedule : Schedule L) : Calls (integrationPart schedule) [] := by
  rw [integrationPart]
  split
  · have hopening : Calls
        [.line "it(\"should execute connected instructions in sequence\", async () => \x7b"]
        [] := by
      simp (disch := exact rfl) only [ofString_of_chars]
      exact tells_silent (by decide)
    have hsection : Calls [.line "describe(\"Integration Tests\", () => \x7b"] [] :=
      tells_silent (by decide)
    have hwalk := hopening.block (calls_executionWalk schedule.flow.executionOrder)
      isSilent_callClosing
    exact (tells_blank rfl).append (hsection.block hwalk isSilent_callClosing)
  · exact tells_nil

/-- The tests of a test suite call the methods of the instructions, one each. -/
theorem calls_suiteScript {schedule : Schedule L} (hprogram : Naming.IsPlain schedule.programName)
    (hmodules : ∀ instruction ∈ schedule.instructions, Naming.IsPlain instruction.moduleName) :
    Calls (suiteScript schedule)
      (schedule.instructions.map fun instruction => Naming.camelCase instruction.moduleName) := by
  have hwords : IsWord schedule.programName := isWord_of_isPlain hprogram
  have htype : IsWord (Naming.pascalCase schedule.programName) := isWord_pascalCase hprogram
  have himports : Calls
      (suiteImports schedule.programName (Naming.pascalCase schedule.programName)) [] := by
    refine tells_silent ?_
    rw [suiteImports]
    simp (disch := exact rfl) only [List.forall_mem_cons, ofString_of_chars]
    refine ⟨by decide, by decide, isSilent_line ?_ rfl, by decide,
      List.forall_mem_nil _⟩
    exact hwords.lineEnd_not_mem_line (htype.lineEnd_not_mem_line (by decide) (by decide))
      (by decide)
  have hopening : Calls [.line ("describe(\"" ++ schedule.programName ++ "\", () => \x7b")] [] :=
    tells_quiet (hwords.lineEnd_not_mem_line (by decide) (by decide)) rfl
  have htests : Calls
      (schedule.instructions.flatMap fun instruction => .blank :: testCase instruction)
      (schedule.instructions.map fun instruction => Naming.camelCase instruction.moduleName) := by
    rw [List.map_eq_flatMap]
    refine tells_flatMap fun instruction hinstruction => ?_
    exact (tells_blank rfl).append
      (calls_testCase (isWord_camelCase (hmodules instruction hinstruction)))
  have hbody := Script.Tells.join (.cons (calls_suiteSetup hwords htype) (.cons htests
    (.cons (calls_integrationPart schedule) .nil)))
  have hsuite := Script.Tells.join (.cons himports (.cons (tells_blank rfl)
    (.cons (hopening.block hbody isSilent_callClosing) .nil)))
  simp only [List.flatten_cons, List.flatten_nil, List.nil_append, List.append_nil] at hsuite
  exact hsuite

theorem calledMethods_emit {schedule : Schedule L}
    (hprogram : Naming.IsPlain schedule.programName)
    (hmodules : ∀ instruction ∈ schedule.instructions, Naming.IsPlain instruction.moduleName) :
    calledMethods (emit schedule).tests =
      schedule.instructions.map fun instruction => Naming.camelCase instruction.moduleName :=
  (calls_suiteScript hprogram hmodules).text (by decide) rfl

end Source

/-- The tests of a compiled graph call the methods of its instructions, one each. -/
theorem calledMethods_tests (nodes : List (Node Text)) (connections : List (Connection Text))
    (requested : Option Text) :
    Source.calledMethods (compile nodes connections requested).tests =
      (buildSchedule (programNameOf requested) nodes connections).instructions.map
        fun instruction => Naming.camelCase instruction.moduleName :=
  Source.calledMethods_emit (isIdentifier_programNameOf requested).isPlain
    fun _ hinstruction => (isIdentifier_of_mem_instructions hinstruction).isPlain

end ModuleGraph
