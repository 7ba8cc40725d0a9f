import ModuleGraph.Proofs.Naming
import ModuleGraph.Proofs.Source.LineEnds

/-!
# The names that a file declares

A file is read line by line. What stands within braces is moved in, so that the lines at the margin
are those of the top level, and a line at the margin that begins like a declaration declares a name.
The parts of a script are put together without a look at the lines of the others: each leaves the
indentation as it found it, and adds names of its own.

## Main definitions

- `declaredNames` — the names of the modules, structures and enumerations at the top of a text
- `Script.Declares` — a script that adds names to a file

## Main statements

- `Script.Declares.append`, `Script.Declares.join`, `Script.declares_flatMap` — parts of scripts
- `Script.declares_margin`, `Script.declares_inner` — lines at the margin and further in
- `Script.declares_word`, `Script.declares_block` — lines that declare, and blocks behind them
- `Script.Declares.text` — the names in the text of a file
-/

namespace ModuleGraph.Source

/-! ### Fixed texts -/

theorem ofString_append (first second : String) :
    Text.ofString (first ++ second) = Text.ofString first ++ Text.ofString second := by
  rw [Text.ofString, String.toList_append, Text.ofChars, List.map_append]
  rfl

/-- A fixed text is the list of its characters. What is decided about the list is quick to evaluate,
since no string is decoded for it. -/
theorem ofString_of_chars {string : String} {cs : List Char} (h : string = String.ofList cs) :
    Text.ofString string = Text.ofChars cs := by
  rw [h, Text.ofString, String.toList_ofList]

/-! ### Reading a text -/

/-- How a line begins that declares a module, a structure or an enumeration. -/
def declarationMarks : List Text := ["pub mod ", "pub struct ", "pub enum "]

/-- The name that a text begins with. -/
def leadingName (text : Text) : String :=
  String.ofList ((text.takeWhile (·.satisfies Naming.isTypeChar)).filterMap Symbol.char?)

/-- The name that a line declares. -/
def declaredName? (line : Text) : Option String :=
  declarationMarks.findSome? fun mark => (mark.isPrefixOf? line).map leadingName

/-- The names that a text declares at its top level. Items within others are indented, and their
lines declare nothing here. -/
def declaredNames (text : Text) : List String := (text.splitOn lineEnd).filterMap declaredName?

theorem declaredName?_of_mark {mark : Text} (h : mark ∈ declarationMarks) (rest : Text) :
    declaredName? (mark ++ rest) = some (leadingName rest) := by
  rcases List.mem_cons.1 h with rfl | h
  · rfl
  rcases List.mem_cons.1 h with rfl | h
  · rfl
  · cases List.mem_singleton.1 h
    rfl

/-! ### Words -/

/-- A name made of letters, digits and underscores. -/
def IsWord (name : String) : Prop := ∀ c ∈ name.toList, Naming.isTypeChar c = true

instance (name : String) : Decidable (IsWord name) :=
  decidable_of_iff (name.toList.all Naming.isTypeChar = true) List.all_eq_true

theorem leadingName_append {name : String} (h : IsWord name) {rest : Text}
    (hrest : rest.takeWhile (·.satisfies Naming.isTypeChar) = []) :
    leadingName (name ++ rest) = name := by
  have hname : ∀ symbol ∈ (name : Text), symbol.satisfies Naming.isTypeChar = true := by
    intro symbol hsymbol
    obtain ⟨c, hc, rfl⟩ := List.mem_map.1 hsymbol
    exact h c hc
  rw [leadingName, List.takeWhile_append_of_pos hname, hrest, List.append_nil, Text.ofString,
    Text.filterMap_ofChars, String.ofList_toList]

/-- The line that a mark, a word and the rest of the line make. -/
theorem declaredName?_of_word {mark : Text} (hmark : mark ∈ declarationMarks) {name : String}
    (h : IsWord name) {rest : Text}
    (hrest : rest.takeWhile (·.satisfies Naming.isTypeChar) = []) :
    declaredName? (mark ++ name ++ rest) = some name := by
  rw [List.append_assoc, declaredName?_of_mark hmark, leadingName_append h hrest]

theorem lineEnd_mem_ofString {string : String} :
    lineEnd ∈ (string : Text) ↔ '\n' ∈ string.toList :=
  List.mem_map_of_injective fun _ _ => Symbol.char.inj

theorem IsWord.lineEnd_not_mem {name : String} (h : IsWord name) : lineEnd ∉ (name : Text) := by
  intro hend
  exact absurd (h _ (lineEnd_mem_ofString.1 hend)) (by decide)

theorem lineEnd_not_mem_between {before text after : Text} (hbefore : lineEnd ∉ before)
    (h : lineEnd ∉ text) (hafter : lineEnd ∉ after) : lineEnd ∉ before ++ text ++ after := by
  simp only [List.mem_append, not_or]
  exact ⟨⟨hbefore, h⟩, hafter⟩

theorem IsWord.lineEnd_not_mem_line {name : String} (h : IsWord name) {before after : Text}
    (hbefore : lineEnd ∉ before) (hafter : lineEnd ∉ after) :
    lineEnd ∉ before ++ name ++ after :=
  lineEnd_not_mem_between hbefore h.lineEnd_not_mem hafter

/-! ### Numbers -/

theorem lineEnd_not_mem_numeral (number : Nat) : '\n' ∉ (toString number).toList := by
  rw [Nat.toString_eq_ofList_toDigits, String.toList_ofList]
  intro hend
  exact absurd (Nat.isDigit_of_mem_toDigits (by omega) (by omega) hend) (by decide)

theorem lineEnd_not_mem_integer (number : Int) : '\n' ∉ (toString number).toList := by
  cases number with
  | ofNat number => exact lineEnd_not_mem_numeral number
  | negSucc number =>
    show '\n' ∉ ("-" ++ toString (number + 1)).toList
    simpa using lineEnd_not_mem_numeral (number + 1)

/-! ### Lines -/

/-- The text of a page is split back into its lines. A reader that finds nothing in an empty line
does not see the empty piece behind the last line end. -/
theorem Page.filterMap_splitOn_text {α : Type} {read : Text → Option α} (hread : read [] = none)
    {page : Page} (hends : ∀ line ∈ page.lines, lineEnd ∉ line) :
    (page.text.splitOn lineEnd).filterMap read = page.lines.filterMap read := by
  have hpieces : page.text.splitOn lineEnd =
      (Text.join "\n" page.lines).splitOn lineEnd ++ [[]] :=
    List.splitOnP_append_cons _ _ (beq_self_eq_true lineEnd)
  have hlast : [[]].filterMap read = [] := by rw [List.filterMap_cons, hread, List.filterMap_nil]
  rw [hpieces, List.filterMap_append, hlast, List.append_nil]
  cases hlines : page.lines with
  | nil =>
    -- a page without lines has an empty piece before its line end
    exact hlast
  | cons line lines =>
    rw [hlines] at hends
    have hsplit : (Text.join "\n" (line :: lines)).splitOn lineEnd = line :: lines :=
      List.splitOn_intercalate lineEnd hends (List.cons_ne_nil _ _)
    rw [hsplit]

/-! ### Parts of scripts -/

theorem Page.run_append (style : Style) (page : Page) (first second : Script) :
    page.run style (first ++ second) = (page.run style first).run style second :=
  List.foldl_append

/-- Whether a step writes a line, and one only. -/
def Step.isLine : Step → Bool
  | .line text => !text.contains lineEnd
  | .comment _ | .push | .pop => false

theorem Step.isLine_line {text : Text} : (Step.line text).isLine = true ↔ lineEnd ∉ text := by
  simp [isLine]

/-- The name that a step declares at the margin. -/
def Step.declaredName? : Step → Option String
  | .line text => Source.declaredName? text
  | .comment _ | .push | .pop => none

namespace Script

/-- From the given depth and back to it, the script writes lines that declare the given names at the
top level. -/
def Declares (depth : Int) (script : Script) (names : List String) : Prop :=
  ∃ lines : List Text,
    (∀ written, Page.run .standard ⟨written, depth⟩ script = ⟨lines.reverse ++ written, depth⟩) ∧
    (∀ line ∈ lines, lineEnd ∉ line) ∧ lines.filterMap declaredName? = names

variable {depth : Int} {first second script : Script} {names others : List String}

theorem declares_nil (depth : Int) : Declares depth [] [] :=
  ⟨[], fun _ => rfl, by simp, rfl⟩

theorem Declares.append (hfirst : Declares depth first names)
    (hsecond : Declares depth second others) :
    Declares depth (first ++ second) (names ++ others) := by
  obtain ⟨lines, hrun, hends, rfl⟩ := hfirst
  obtain ⟨lines', hrun', hends', rfl⟩ := hsecond
  refine ⟨lines ++ lines', fun written => ?_, ?_, List.filterMap_append⟩
  · rw [Page.run_append, hrun, hrun', List.reverse_append, List.append_assoc]
  · intro line hline
    exact (List.mem_append.1 hline).elim (hends line) (hends' line)

theorem Declares.join {scripts : List Script} {parts : List (List String)}
    (h : List.Forall₂ (Declares depth) scripts parts) :
    Declares depth (.join scripts) parts.flatten := by
  induction h with
  | nil => exact declares_nil depth
  | cons hscript _ ih => exact hscript.append ih

theorem declares_flatMap {α : Type} {xs : List α} {part : α → Script} {named : α → List String}
    (h : ∀ x ∈ xs, Declares depth (part x) (named x)) :
    Declares depth (xs.flatMap part) (xs.flatMap named) := by
  induction xs with
  | nil => exact declares_nil depth
  | cons x xs ih =>
    rw [List.forall_mem_cons] at h
    exact h.1.append (ih h.2)

theorem declares_steps {named : Step → Option String}
    (h : ∀ step ∈ script, Declares depth [step] (named step).toList) :
    Declares depth script (script.filterMap named) := by
  have hparts := declares_flatMap h
  rwa [List.flatMap_singleton', ← List.filterMap_eq_flatMap_toList] at hparts

/-! ### Lines and blocks -/

theorem lineEnd_not_mem_indented {text : Text} (h : lineEnd ∉ text) (depth : Int) :
    lineEnd ∉ Page.indented .standard depth text := by
  rw [← List.count_eq_zero] at h ⊢
  rwa [count_indented (by decide)]

theorem declares_line {text : Text} (h : lineEnd ∉ text) (depth : Int) :
    Declares depth [.line text] (declaredName? (Page.indented .standard depth text)).toList := by
  refine ⟨[Page.indented .standard depth text], fun _ => rfl, ?_, ?_⟩
  · intro line hline
    cases List.mem_singleton.1 hline
    exact lineEnd_not_mem_indented h depth
  · rw [List.filterMap_cons]
    cases declaredName? (Page.indented .standard depth text) <;> rfl

/-- An indented line begins with a space, unless it is empty. -/
theorem declaredName?_indented (hdepth : 0 < depth) (text : Text) :
    declaredName? (Page.indented .standard depth text) = none := by
  rw [Page.indented]
  split
  · rename_i hempty
    rw [List.isEmpty_iff.1 hempty]
    rfl
  · obtain ⟨times, htimes⟩ : ∃ times, depth.toNat = times + 1 := ⟨depth.toNat - 1, by omega⟩
    rw [htimes]
    rfl

theorem exists_line_of_isLine {step : Step} (h : step.isLine = true) :
    ∃ text, step = .line text ∧ lineEnd ∉ text := by
  cases step with
  | line text => exact ⟨text, rfl, Step.isLine_line.1 h⟩
  | comment | push | pop => cases h

/-- Lines at the margin declare names. -/
theorem declares_margin (h : ∀ step ∈ script, step.isLine = true) :
    Declares 0 script (script.filterMap Step.declaredName?) := by
  refine declares_steps fun step hstep => ?_
  obtain ⟨text, rfl, hend⟩ := exists_line_of_isLine (h step hstep)
  have hline : Page.indented .standard 0 text = text := by
    rw [Page.indented]
    split <;> rfl
  have hname := declares_line hend 0
  rwa [hline] at hname

/-- Lines further in declare nothing at the top level. -/
theorem declares_inner (hdepth : 0 < depth) (h : ∀ step ∈ script, step.isLine = true) :
    Declares depth script [] := by
  have hnames : Declares depth script (script.filterMap fun _ => none) := by
    refine declares_steps fun step hstep => ?_
    obtain ⟨text, rfl, hend⟩ := exists_line_of_isLine (h step hstep)
    have hname := declares_line hend depth
    rwa [declaredName?_indented hdepth] at hname
  rwa [List.filterMap_none] at hnames

theorem declares_blank : Declares 0 [.blank] [] := declares_margin (by decide)

/-- A line at the margin that begins with a mark and a word declares the word. -/
theorem declares_word {mark : Text} (hmark : mark ∈ declarationMarks) {name : String}
    (h : IsWord name) {rest : Text} (hend : lineEnd ∉ rest)
    (hrest : rest.takeWhile (·.satisfies Naming.isTypeChar) = []) :
    Declares 0 [.line (mark ++ name ++ rest)] [name] := by
  have hmarks : ∀ mark ∈ declarationMarks, lineEnd ∉ mark := by decide
  have hstep : ∀ step ∈ [Step.line (mark ++ name ++ rest)], step.isLine = true :=
    List.forall_mem_singleton.2
      (Step.isLine_line.2 (h.lineEnd_not_mem_line (hmarks mark hmark) hend))
  have hline := declares_margin hstep
  rwa [List.filterMap_cons, Step.declaredName?, declaredName?_of_word hmark h hrest] at hline

/-- A block at the margin declares what its opening line declares. -/
theorem declares_block {opening : Text} {body : Script}
    (hopening : Declares 0 [.line opening] names)
    (hbody : ∀ step ∈ body, step.isLine = true) :
    Declares 0 (block opening body "\x7d") names := by
  obtain ⟨first, hfirst, hfirstEnds, hname⟩ := hopening
  have hinside : Declares 1 body [] := declares_inner (by decide) hbody
  have hclosing : Declares 0 [.line "\x7d"] [] := declares_margin (by decide)
  obtain ⟨inner, hinner, hinnerEnds, hnone⟩ := hinside
  obtain ⟨last, hlast, hlastEnds, hend⟩ := hclosing
  have hblock : block opening body "\x7d" =
      [Step.line opening] ++ ([Step.push] ++ (body ++ ([Step.pop] ++ [Step.line "\x7d"]))) := by
    simp only [block, Script.join, List.flatten_cons, List.flatten_nil, List.append_nil,
      List.cons_append, List.nil_append]
  have hpush : ∀ written, Page.run .standard ⟨written, 0⟩ [.push] = ⟨written, 1⟩ := fun _ => rfl
  have hpop : ∀ written, Page.run .standard ⟨written, 1⟩ [.pop] = ⟨written, 0⟩ := fun _ => rfl
  refine ⟨first ++ (inner ++ last), fun written => ?_, ?_, ?_⟩
  · simp only [hblock, Page.run_append, hfirst, hpush, hinner, hpop, hlast, List.reverse_append,
      List.append_assoc]
  · simp only [List.forall_mem_append]
    exact ⟨hfirstEnds, hinnerEnds, hlastEnds⟩
  · rw [List.filterMap_append, List.filterMap_append, hname, hnone, hend]
    exact List.append_nil names

/-- The text of a file declares what its script declares. -/
theorem Declares.text (h : Declares 0 script names) :
    declaredNames (Script.text .standard script) = names := by
  obtain ⟨lines, hrun, hends, rfl⟩ := h
  have hlines : ((Page.start 0).run .standard script).lines = lines := by
    rw [Page.start, hrun, Page.lines, List.append_nil, List.reverse_reverse]
  rw [← hlines] at hends
  rw [declaredNames, Script.text, Page.filterMap_splitOn_text rfl hends, hlines]

end Script

end ModuleGraph.Source
