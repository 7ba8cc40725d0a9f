import ModuleGraph.Proofs.CaseImages
import ModuleGraph.Proofs.Source.Escapes
import ModuleGraph.Proofs.Source.TestCalls

/-!
# The lines of the test suite

A reader of the test suite ends a line at a line feed, at a carriage return, and at the separators
of lines and of paragraphs. Escapes rid free text of the first two and leave the separators as they
are. So the terminators within the lines of the suite are those of the names that stand there, in
the same order, and the suite is split into its lines if there are none.

## Main definitions

- `isTerminator`, `isSeparator` — the symbols that end a line, and those of them that stay
- `breaks`, `Script.breaks` — the terminators in a text and in the lines of a script

## Main statements

- `breaks_literal`, `breaks_camelCase` — what is put in the lines of the suite
- `breaks_suiteScript` — the terminators in the lines of the suite
- `splitOnP_text` — how a file is split
- `tests_lines_iff` — when the test suite is
-/

namespace ModuleGraph.Source

/-! ### Terminators -/

/-- The separators of lines and of paragraphs. -/
def separators : Text := ['\u2028', '\u2029']

/-- The symbols that end a line. -/
def lineTerminators : Text := [lineEnd, lineReturn] ++ separators

def isSeparator (symbol : Symbol) : Bool := separators.contains symbol

def isTerminator (symbol : Symbol) : Bool := lineTerminators.contains symbol

/-- The symbols in a text that end a line. -/
def breaks (text : Text) : Text := text.filter isTerminator

theorem breaks_append (first second : Text) :
    breaks (first ++ second) = breaks first ++ breaks second :=
  List.filter_append first second

theorem breaks_eq_nil_iff {text : Text} :
    breaks text = [] ↔ ∀ symbol ∈ text, isTerminator symbol = false := by
  simp [breaks, List.filter_eq_nil_iff]

theorem filter_isSeparator_eq_nil_iff {text : Text} :
    text.filter isSeparator = [] ↔ ∀ symbol ∈ text, isSeparator symbol = false := by
  simp [List.filter_eq_nil_iff]

/-- The code points of the terminators. -/
def terminatorCodes : Text.Ranges := [(0x0A, 0x0A), (0x0D, 0x0D), (0x2028, 0x2029)]

theorem isTerminator_char (c : Char) :
    isTerminator (.char c) = Text.inRanges terminatorCodes c := by
  rw [Bool.eq_iff_iff, isTerminator, List.contains_iff_mem]
  have hcode : ∀ d : Char, Symbol.char c = .char d ↔ c.toNat = d.toNat := by
    intro d
    rw [Symbol.char.injEq, Char.toNat_inj]
  simp only [lineTerminators, separators, lineEnd, lineReturn, List.mem_append, List.mem_cons,
    List.not_mem_nil, hcode, Text.inRanges, terminatorCodes, List.any_cons, List.any_nil]
  simp
  omega

theorem breaks_ofChars (cs : List Char) :
    breaks (Text.ofChars cs) = Text.ofChars (cs.filter (Text.inRanges terminatorCodes)) := by
  have hchars : isTerminator ∘ Symbol.char = Text.inRanges terminatorCodes :=
    funext isTerminator_char
  rw [breaks, Text.ofChars, List.filter_map, hchars]
  rfl

/-! ### Fixed texts and names -/

/-- The printable characters of ASCII. -/
def isShown (c : Char) : Bool := 0x20 ≤ c.toNat && c.toNat < 0x7F

/-- A fixed text is checked on the list of its characters, so that it need not be decoded. -/
theorem shown_ofList {cs : List Char} (h : cs.all isShown = true) :
    (String.ofList cs).toList.all isShown = true := by
  rwa [String.toList_ofList]

theorem breaks_shown {string : String} (h : string.toList.all isShown = true) :
    breaks string = [] := by
  rw [Text.ofString, breaks_ofChars, List.filter_eq_nil_iff.2]
  · rfl
  · intro c hc hend
    have hshown := List.all_eq_true.1 h c hc
    obtain ⟨range, hrange, hfirst, hlast⟩ := Text.inRanges_iff.1 hend
    rw [isShown, Bool.and_eq_true, decide_eq_true_eq, decide_eq_true_eq] at hshown
    have hends : ∀ range ∈ terminatorCodes, range.2 < 0x20 ∨ 0x7F < range.1 := by decide
    have hplace := hends range hrange
    omega

theorem isShown_of_isTypeChar {c : Char} (h : Naming.isTypeChar c = true) : isShown c = true :=
  Naming.forall_ascii (p := fun c => Naming.isTypeChar c = true → isShown c = true) (by decide)
    (Naming.lt_of_isTypeChar h) h

theorem breaks_word {name : String} (h : IsWord name) : breaks name = [] :=
  breaks_shown (List.all_eq_true.2 fun c hc => isShown_of_isTypeChar (h c hc))

theorem isWord_natural (number : Nat) : IsWord (toString number) :=
  isWord_of_isPlain (Naming.isPlain_natural number)

theorem breaks_integer (number : Int) : breaks number.repr = [] := by
  cases number with
  | ofNat number => exact breaks_word (isWord_natural number)
  | negSucc number =>
    refine breaks_shown (List.all_eq_true.2 fun c hc => ?_)
    change c ∈ ("-" ++ toString (number + 1)).toList at hc
    rw [String.toList_append] at hc
    rcases List.mem_append.1 hc with hc | hc
    · rw [List.mem_singleton.1 hc]
      decide
    · exact isShown_of_isTypeChar (isWord_natural _ c hc)

/-! ### Free texts -/

theorem breaks_literalSymbol (symbol : Symbol) :
    breaks (literalSymbol symbol) = [symbol].filter isSeparator := by
  rw [literalSymbol]
  split_ifs with hslash hquote hline hreturn
  · rw [hslash]
    decide
  · rw [hquote]
    decide
  · rw [hline]
    decide
  · rw [hreturn]
    decide
  · have hsame : isTerminator symbol = isSeparator symbol := by
      simp [isTerminator, isSeparator, lineTerminators, lineEnd, lineReturn, hline, hreturn]
    rw [breaks, List.filter_singleton, List.filter_singleton, hsame]

/-- Of the terminators in a text, the separators are left in its literal. -/
theorem breaks_literal (text : Text) : breaks (literal text) = text.filter isSeparator := by
  induction text with
  | nil => rfl
  | cons symbol text ih =>
    rw [literal, List.flatMap_cons, breaks_append, breaks_literalSymbol]
    exact (congrArg ([symbol].filter isSeparator ++ ·) ih).trans
      (List.filter_append [symbol] text).symm

/-! ### Names in camel case -/

theorem filter_pascalChars (atStart : Bool) (cs : List Char) :
    (Naming.pascalChars atStart cs).filter (Text.inRanges terminatorCodes) =
      cs.filter (Text.inRanges terminatorCodes) := by
  have hupper := Text.filter_upperChar terminatorCodes (by decide)
  induction cs generalizing atStart with
  | nil => rfl
  | cons c cs ih =>
    rw [Naming.pascalChars]
    split
    · rename_i hline
      rw [ih, hline]
      rfl
    · have hfirst : (if atStart = true then Text.upperChar c else [c]).filter
          (Text.inRanges terminatorCodes) = [c].filter (Text.inRanges terminatorCodes) := by
        split
        · exact hupper c
        · rfl
      rw [List.filter_append, ih, hfirst]
      exact (List.filter_append [c] cs).symm

/-- A name in camel case has the terminators of the name itself. -/
theorem breaks_camelCase (name : String) : breaks (Naming.camelCase name) = breaks name := by
  have hlower := Text.filter_lowerChar terminatorCodes (by decide)
  have hcamel : (Naming.camelCase name).toList.filter (Text.inRanges terminatorCodes) =
      (Naming.pascalChars true name.toList).filter (Text.inRanges terminatorCodes) := by
    rw [Naming.camelCase]
    split
    · rename_i hnil
      rw [hnil]
      rfl
    · rename_i c cs hcons
      rw [hcons, String.toList_ofList]
      split
      · rfl
      · rw [List.filter_append, hlower]
        exact (List.filter_append [c] cs).symm
  rw [Text.ofString, Text.ofString, breaks_ofChars, breaks_ofChars, hcamel, filter_pascalChars]

/-! ### Scripts -/

/-- The symbols that end a line, within the line that a step writes. -/
def Step.breaks (style : Style) : Step → Text
  | .line text => Source.breaks text
  | .comment text => Source.breaks (style.commentMark ++ " " ++ text)
  | .push | .pop => []

/-- The symbols that end a line, within the lines that a script writes. -/
def Script.breaks (style : Style) (script : Script) : Text := script.flatMap (Step.breaks style)

section Scripts

variable {style : Style}

@[simp] theorem breaks_script_nil : Script.breaks style [] = [] := rfl

@[simp] theorem breaks_script_cons (step : Step) (script : Script) :
    Script.breaks style (step :: script) = step.breaks style ++ Script.breaks style script :=
  List.flatMap_cons

@[simp] theorem breaks_script_append (first second : Script) :
    Script.breaks style (first ++ second) =
      Script.breaks style first ++ Script.breaks style second :=
  List.flatMap_append

@[simp] theorem breaks_script_flatMap {α : Type} (xs : List α) (part : α → Script) :
    Script.breaks style (xs.flatMap part) = xs.flatMap fun x => Script.breaks style (part x) :=
  List.flatMap_assoc

@[simp] theorem breaks_join_nil : Script.breaks style (.join []) = [] := rfl

@[simp] theorem breaks_join_cons (script : Script) (scripts : List Script) :
    Script.breaks style (.join (script :: scripts)) =
      Script.breaks style script ++ Script.breaks style (.join scripts) := by
  rw [Script.join, List.flatten_cons, breaks_script_append, Script.join]

@[simp] theorem breaks_block (opening : Text) (body : Script) (closing : Text) :
    Script.breaks style (block opening body closing) =
      breaks opening ++ (Script.breaks style body ++ breaks closing) := by
  simp [block, Step.breaks]

@[simp] theorem breaks_blank : Step.blank.breaks style = [] := rfl

@[simp] theorem breaks_line (text : Text) : (Step.line text).breaks style = breaks text := rfl

@[simp] theorem breaks_push : Step.push.breaks style = [] := rfl

@[simp] theorem breaks_pop : Step.pop.breaks style = [] := rfl

@[simp] theorem breaks_comment (text : Text) :
    (Step.comment text).breaks .narrow = breaks text := by
  have hmark : breaks (Style.narrow.commentMark ++ " ") = [] := by decide
  rw [Step.breaks, breaks_append, hmark, List.nil_append]

theorem flatMap_breaks_contents (script : Script) :
    (Script.contents style script).flatMap breaks = Script.breaks style script := by
  rw [Script.contents, List.flatMap_assoc, Script.breaks]
  apply List.flatMap_congr
  intro step _
  cases step with
  | line text | comment text => exact List.flatMap_singleton _ _
  | push | pop => rfl

end Scripts

/-! ### The test suite -/

variable {L : Type}

theorem breaks_callTail {accounts : List Text} (h : ∀ account ∈ accounts, breaks account = []) :
    Script.breaks .narrow (callTail accounts) = [] := by
  have haccounts : Script.breaks .narrow (accounts.map .line) = [] := by
    rw [Script.breaks, List.flatMap_map]
    exact List.flatMap_eq_nil_iff.2 h
  simp (disch := exact shown_ofList rfl) [callTail, breaks_shown, haccounts]

theorem breaks_testAttempt (name : Text) (method : String) :
    Script.breaks .narrow (testAttempt name method) =
      breaks method ++ (breaks name ++ breaks name) := by
  have hsecond : Script.breaks .narrow (callTail [authorityAccount]) = [] :=
    breaks_callTail (by decide)
  have hfirst : Script.breaks .narrow (callTail [authorityAccount, systemAccount]) = [] :=
    breaks_callTail (by decide)
  simp (disch := exact shown_ofList rfl) [testAttempt, breaks_append, breaks_shown, inQuotes,
    hfirst, hsecond]

theorem breaks_testFailure (name : Text) :
    Script.breaks .narrow (testFailure name) = breaks name := by
  simp (disch := exact shown_ofList rfl) [testFailure, breaks_append, breaks_shown]

/-- The name of the node is on five lines of a test, and that of the module on one. -/
theorem breaks_testCase (instruction : Instruction L) :
    Script.breaks .narrow (testCase instruction) =
      let name := instruction.nodeName.filter isSeparator
      name ++ (name ++ (breaks instruction.moduleName ++ (name ++ (name ++ name)))) := by
  simp (disch := exact shown_ofList rfl) [testCase, breaks_append, breaks_shown, breaks_testAttempt,
    breaks_testFailure, breaks_literal, breaks_camelCase, breaks_integer]

theorem breaks_join {joint : Text} (hjoint : breaks joint = []) (texts : List Text) :
    breaks (Text.join joint texts) = texts.flatMap breaks := by
  induction texts with
  | nil => rfl
  | cons text texts ih =>
    cases texts with
    | nil => rw [join_singleton, List.flatMap_singleton]
    | cons next texts =>
      rw [join_cons_cons, breaks_append, breaks_append, hjoint, List.append_nil, ih]
      rfl

theorem breaks_orderLiteral (names : List Text) :
    breaks (orderLiteral names) = names.flatMap (·.filter isSeparator) := by
  have hjoint : breaks ", " = [] := by decide
  have hnames : (names.map fun name => inQuotes (literal name)).flatMap breaks =
      names.flatMap (·.filter isSeparator) := by
    rw [List.flatMap_map]
    apply List.flatMap_congr
    intro name _
    simp (disch := exact shown_ofList rfl) [inQuotes, breaks_append, breaks_shown, breaks_literal]
  simp (disch := exact shown_ofList rfl) [orderLiteral, breaks_append, breaks_shown,
    breaks_join hjoint, hnames]

theorem breaks_integrationPart (schedule : Schedule L) :
    Script.breaks .narrow (integrationPart schedule) =
      if schedule.hasConnections then
        schedule.flow.executionOrder.flatMap (·.filter isSeparator)
      else [] := by
  rw [integrationPart]
  split
  · simp (disch := exact shown_ofList rfl) [integrationTest, executionWalk, executionLoop,
      breaks_append, breaks_shown, breaks_orderLiteral]
  · rfl

theorem breaks_suiteImports {program type : String} (hprogram : IsWord program)
    (htype : IsWord type) : Script.breaks .narrow (suiteImports program type) = [] := by
  simp (disch := exact shown_ofList rfl) [suiteImports, breaks_append, breaks_shown,
    breaks_word hprogram, breaks_word htype]

theorem breaks_suiteSetup {program type : String} (hprogram : IsWord program)
    (htype : IsWord type) : Script.breaks .narrow (suiteSetup program type) = [] := by
  simp (disch := exact shown_ofList rfl) [suiteSetup, breaks_append, breaks_shown,
    breaks_word hprogram, breaks_word htype]

/-- The terminators within the lines of the suite are those of its tests. -/
theorem breaks_suiteScript {schedule : Schedule L} (h : IsWord schedule.programName)
    (htype : IsWord (Naming.pascalCase schedule.programName)) :
    Script.breaks .narrow (suiteScript schedule) =
      (schedule.instructions.flatMap fun instruction =>
        Script.breaks .narrow (testCase instruction)) ++
        Script.breaks .narrow (integrationPart schedule) := by
  -- the parts would be unfolded to their symbols to see that nothing is put before them
  simp -implicitDefEqProofs (disch := exact shown_ofList rfl) [suiteScript, breaks_append,
    breaks_shown, breaks_word h, breaks_suiteImports h htype, breaks_suiteSetup h htype]

/-! ### Files -/

theorem length_splitOnP (text : Text) :
    (text.splitOnP isTerminator).length = (breaks text).length + 1 := by
  induction text with
  | nil => rfl
  | cons symbol text ih =>
    rw [List.splitOnP_cons_eq_if_modifyHead, breaks, List.filter_cons]
    split
    · rw [List.length_cons, List.length_cons, ih]
      rfl
    · rw [List.length_modifyHead, ih]
      rfl

/-- A terminator within a line makes two pieces of it. -/
theorem splitOnP_text {page : Page} (h : page.lines ≠ []) :
    page.text.splitOnP isTerminator = page.lines.flatMap (·.splitOnP isTerminator) ++ [[]] := by
  have htext : page.text = page.lines.flatMap (· ++ [lineEnd]) := join_append_lineEnd h
  rw [htext]
  induction page.lines with
  | nil => rfl
  | cons line lines ih =>
    rw [List.flatMap_cons, List.append_assoc, List.singleton_append,
      List.splitOnP_append_cons _ _ (by decide), ih, List.flatMap_cons, List.append_assoc]

theorem flatMap_splitOnP_eq_iff {lines : List Text} :
    lines.flatMap (·.splitOnP isTerminator) = lines ↔ lines.flatMap breaks = [] := by
  constructor
  · intro h
    have hlength : (lines.flatMap (·.splitOnP isTerminator)).length =
        (lines.flatMap breaks).length + lines.length := by
      simp [List.length_flatMap, length_splitOnP, List.sum_map_add]
    rw [h] at hlength
    rw [← List.length_eq_zero_iff]
    omega
  · intro h
    have hpieces : ∀ line ∈ lines, line.splitOnP isTerminator = [line] := by
      intro line hline
      have hnone := breaks_eq_nil_iff.1 (List.flatMap_eq_nil_iff.1 h line hline)
      exact List.splitOnP_eq_singleton hnone
    rw [List.flatMap_congr hpieces, List.flatMap_singleton']

theorem breaks_unindented (line : Text) : breaks (unindented line) = breaks line := by
  have hspaces : breaks (line.takeWhile (· == Symbol.char ' ')) = [] := by
    refine breaks_eq_nil_iff.2 fun symbol hsymbol => ?_
    rw [beq_iff_eq.1 (List.mem_takeWhile_imp (p := (· == Symbol.char ' ')) hsymbol)]
    decide
  have hline : breaks (line.takeWhile (· == Symbol.char ' ') ++ unindented line) = breaks line :=
    congrArg breaks List.takeWhile_append_dropWhile
  rw [← hline, breaks_append, hspaces, List.nil_append]

theorem flatMap_breaks_lines_run {style : Style} (h : style.IsSpaced) (script : Script) :
    ((Page.start 0).run style script).lines.flatMap breaks = Script.breaks style script := by
  rw [List.flatMap_def, Script.map_lines_run h breaks_unindented, ← List.flatMap_def,
    flatMap_breaks_contents]

theorem lines_suiteScript_ne_nil (schedule : Schedule L) :
    ((Page.start 0).run .narrow (suiteScript schedule)).lines ≠ [] := by
  have hcontents : Script.contents .narrow (suiteScript schedule) ≠ [] := by
    rw [suiteScript, Script.join, List.flatten_cons, suiteImports, List.cons_append,
      Script.contents_cons, Step.content?, Option.toList_some, List.singleton_append]
    exact List.cons_ne_nil _ _
  intro hnone
  have hspaced : Style.narrow.IsSpaced := by decide
  have hlines := Script.map_lines_run hspaced breaks_unindented (suiteScript schedule)
  rw [hnone, eq_comm, List.map_nil, List.map_eq_nil_iff] at hlines
  exact hcontents hlines

theorem splitOnP_tests (schedule : Schedule L) :
    (emit schedule).tests.splitOnP isTerminator =
      ((Page.start 0).run .narrow (suiteScript schedule)).lines.flatMap
        (·.splitOnP isTerminator) ++ [[]] :=
  splitOnP_text (lines_suiteScript_ne_nil schedule)

/-- The test suite is split into its lines if no terminator is within a line. -/
theorem splitOnP_tests_eq_iff (schedule : Schedule L) :
    (emit schedule).tests.splitOnP isTerminator =
        ((Page.start 0).run .narrow (suiteScript schedule)).lines ++ [[]] ↔
      Script.breaks .narrow (suiteScript schedule) = [] := by
  rw [splitOnP_tests, List.append_left_inj, flatMap_splitOnP_eq_iff,
    flatMap_breaks_lines_run (by decide)]

/-- An instruction with a line separator in its name. -/
def separated : List (Node Text) := [⟨"n1", "token", "A\u2028B", [], []⟩]

/-- The name of the instruction does not stay on its lines. -/
theorem tests_lines_broken_separated :
    let schedule := buildSchedule (programNameOf none) separated []
    Naming.IsIdentifier schedule.programName ∧
      (emit schedule).tests.splitOnP isTerminator ≠
        ((Page.start 0).run .narrow (suiteScript schedule)).lines ++ [[]] := by
  intro schedule
  have hprogram : Naming.IsIdentifier schedule.programName := isIdentifier_programNameOf none
  refine ⟨hprogram, fun hlines => ?_⟩
  rw [splitOnP_tests_eq_iff, breaks_suiteScript (isWord_of_isPlain hprogram.isPlain)
    (isWord_pascalCase hprogram.isPlain), List.append_eq_nil_iff, List.flatMap_eq_nil_iff] at hlines
  obtain ⟨instruction, hinstruction, hname⟩ :
      ∃ instruction ∈ schedule.instructions, instruction.nodeName = ("A\u2028B" : Text) := by
    decide
  have hbreaks := hlines.1 instruction hinstruction
  rw [breaks_testCase, hname] at hbreaks
  exact absurd (List.append_eq_nil_iff.1 hbreaks).1 (by decide)

/-- **When the lines of the test suite stay lines.** A reader that ends a line at every terminator
reads the lines of the suite with those cut that have a terminator within. These are the lines with
the name of an instruction in which there is a separator; line feeds and carriage returns in a name
cut no line. -/
theorem tests_lines_iff (schedule : Schedule L) (h : Naming.IsIdentifier schedule.programName) :
    let page := (Page.start 0).run .narrow (suiteScript schedule)
    let pieces := (emit schedule).tests.splitOnP isTerminator
    pieces = page.lines.flatMap (·.splitOnP isTerminator) ++ [[]] ∧
    (pieces = page.lines ++ [[]] ↔
      (∀ instruction ∈ schedule.instructions,
        (∀ symbol ∈ instruction.nodeName, isSeparator symbol = false) ∧
        ∀ symbol ∈ (instruction.moduleName : Text), isTerminator symbol = false) ∧
      (schedule.hasConnections = true → ∀ name ∈ schedule.flow.executionOrder,
        ∀ symbol ∈ name, isSeparator symbol = false)) := by
  intro page pieces
  refine ⟨splitOnP_tests schedule, ?_⟩
  rw [splitOnP_tests_eq_iff, breaks_suiteScript (isWord_of_isPlain h.isPlain)
    (isWord_pascalCase h.isPlain), List.append_eq_nil_iff, List.flatMap_eq_nil_iff]
  refine and_congr (forall₂_congr fun instruction _ => ?_) ?_
  · rw [breaks_testCase]
    simp only [List.append_eq_nil_iff, filter_isSeparator_eq_nil_iff, breaks_eq_nil_iff]
    tauto
  · rw [breaks_integrationPart]
    split
    · rename_i hflag
      simp only [List.flatMap_eq_nil_iff, filter_isSeparator_eq_nil_iff]
      exact ⟨fun hnames _ => hnames, fun hnames => hnames hflag⟩
    · rename_i hflag
      exact iff_of_true rfl fun hset => absurd hset hflag

/-- An instruction with a line feed in its name. -/
def multiline : List (Node Text) := [⟨"n1", "token", "Line\nTwo", [], []⟩]

theorem tests_lines_iff_multiline :
    let schedule := buildSchedule (programNameOf none) multiline []
    (emit schedule).tests.splitOnP isTerminator =
      ((Page.start 0).run .narrow (suiteScript schedule)).lines ++ [[]] := by
  intro schedule
  obtain ⟨-, hlines⟩ := tests_lines_iff schedule (isIdentifier_programNameOf none)
  exact hlines.2 ⟨by decide, by decide⟩

end ModuleGraph.Source
