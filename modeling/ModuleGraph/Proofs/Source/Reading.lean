import ModuleGraph.Proofs.Source.Declarations

/-!
# Reading a file without regard to indentation

What matters within a block is read from lines without the spaces that indent them. A reader of such
lines finds in a file what it finds in the lines of the script, wherever in the file they stand, so
that the parts of a script can be read one by one.

## Main definitions

- `findings` — what a reader of lines finds in a text
- `Script.Tells` — a script in which a reader finds the given things

## Main statements

- `Script.Tells.append`, `Script.Tells.join`, `Script.tells_flatMap`, `Script.Tells.block` — parts
  of scripts
- `Script.tells_line`, `Script.tells_silent` — single lines, and lines in which nothing is found
- `Script.Tells.text` — what is found in the text of a file
-/

namespace ModuleGraph.Source

variable {α : Type} {read : Text → Option α} {style : Style}

/-- A line without the spaces that it begins with. -/
def unindented (line : Text) : Text := line.dropWhile (· == ' ')

/-- What a reader finds in the lines of a text. -/
def findings (read : Text → Option α) (text : Text) : List α :=
  (text.splitOn lineEnd).filterMap (read ∘ unindented)

/-- The line that a step writes, without indentation. -/
def Step.content? (style : Style) : Step → Option Text
  | .line text => some text
  | .comment text => some (style.commentMark ++ " " ++ text)
  | .push | .pop => none

/-- Whether a step writes nothing, or one line in which nothing is found. -/
def Step.isSilent (style : Style) (read : Text → Option α) (step : Step) : Bool :=
  (step.content? style).all fun line => !line.contains lineEnd && (read (unindented line)).isNone

/-! ### Indentation -/

/-- The lines of a style are indented by spaces. -/
def Style.IsSpaced (style : Style) : Prop := ∀ symbol ∈ style.unit, symbol = ' '

instance (style : Style) : Decidable style.IsSpaced := List.decidableBAll _ _

theorem unindented_indented (h : style.IsSpaced) (depth : Int) (text : Text) :
    unindented (Page.indented style depth text) = unindented text := by
  have hspaces : ∀ symbol ∈ repeated style.unit depth.toNat, (symbol == (' ' : Symbol)) = true := by
    intro symbol hsymbol
    obtain ⟨unit, hunit, hsymbol⟩ := List.mem_flatten.1 hsymbol
    rw [List.eq_of_mem_replicate hunit] at hsymbol
    exact beq_iff_eq.2 (h symbol hsymbol)
  rw [Page.indented]
  split
  · rfl
  · exact List.dropWhile_append_of_pos hspaces

theorem lineEnd_mem_indented (h : style.IsSpaced) {depth : Int} {text : Text} :
    lineEnd ∈ Page.indented style depth text ↔ lineEnd ∈ text := by
  have hunit : style.unit.count lineEnd = 0 := by
    rw [List.count_eq_zero]
    intro hend
    exact absurd (h lineEnd hend) (by decide)
  rw [← List.count_pos_iff, ← List.count_pos_iff, count_indented hunit]

theorem lines_step (page : Page) (step : Step) :
    (page.step style step).lines =
      page.lines ++ ((step.content? style).map (Page.indented style page.depth)).toList := by
  have hwrite : ∀ text, (page.write style text).lines =
      page.lines ++ [Page.indented style page.depth text] := fun _ => List.reverse_cons
  cases step with
  | line text => exact hwrite text
  | comment text => exact hwrite _
  | push | pop => exact (List.append_nil _).symm

/-! ### Texts within lines -/

theorem lineEnd_not_mem_literalSymbol (symbol : Symbol) : lineEnd ∉ literalSymbol symbol := by
  rw [literalSymbol]
  split
  · decide
  split
  · decide
  split
  · decide
  split
  · decide
  · rename_i hline _
    rw [List.mem_singleton]
    exact Ne.symm hline

theorem lineEnd_not_mem_literal (text : Text) : lineEnd ∉ literal text := by
  intro hend
  obtain ⟨symbol, -, hsymbol⟩ := List.mem_flatMap.1 hend
  exact lineEnd_not_mem_literalSymbol symbol hsymbol

theorem lineEnd_not_mem_formatLiteral (text : Text) : lineEnd ∉ formatLiteral text := by
  intro hend
  obtain ⟨symbol, -, hsymbol⟩ := List.mem_flatMap.1 hend
  rw [formatSymbol] at hsymbol
  split at hsymbol
  · rename_i hbrace
    obtain rfl : lineEnd = symbol := by simpa using hsymbol
    exact absurd hbrace (by decide)
  · exact lineEnd_not_mem_literalSymbol symbol hsymbol

theorem join_singleton (joint text : Text) : Text.join joint [text] = text :=
  List.intercalate_singleton

theorem join_cons_cons (joint first second : Text) (texts : List Text) :
    Text.join joint (first :: second :: texts) =
      first ++ joint ++ Text.join joint (second :: texts) :=
  List.intercalate_cons_cons

/-- Every line of a page is followed by a line end. -/
theorem join_append_lineEnd {lines : List Text} (h : lines ≠ []) :
    Text.join "\n" lines ++ [lineEnd] = lines.flatMap (· ++ [lineEnd]) := by
  induction lines with
  | nil => exact absurd rfl h
  | cons line lines ih =>
    cases lines with
    | nil => rw [join_singleton, List.flatMap_singleton]
    | cons next lines =>
      rw [join_cons_cons, List.append_assoc, ih (List.cons_ne_nil _ _), List.flatMap_cons]
      rfl

theorem lineEnd_not_mem_join {joint : Text} {texts : List Text} (hjoint : lineEnd ∉ joint)
    (h : ∀ text ∈ texts, lineEnd ∉ text) : lineEnd ∉ Text.join joint texts := by
  induction texts with
  | nil => exact List.not_mem_nil
  | cons text texts ih =>
    obtain ⟨htext, htexts⟩ := List.forall_mem_cons.1 h
    cases texts with
    | nil => rwa [join_singleton]
    | cons next texts =>
      rw [join_cons_cons]
      exact lineEnd_not_mem_between htext hjoint (ih htexts)

/-! ### Runs -/

namespace Script

/-- The lines that a script writes, without indentation. -/
def contents (style : Style) (script : Script) : List Text :=
  script.flatMap fun step => (step.content? style).toList

theorem contents_cons (step : Step) (script : Script) :
    contents style (step :: script) = (step.content? style).toList ++ contents style script :=
  List.flatMap_cons

theorem contents_append (first second : Script) :
    contents style (first ++ second) = contents style first ++ contents style second :=
  List.flatMap_append

theorem contents_block (opening closing : Text) (script : Script) :
    contents style (block opening script closing) =
      opening :: (contents style script ++ [closing]) := by
  simp [block, Script.join, contents, Step.content?]

theorem filterMap_lines_run (h : style.IsSpaced) (page : Page) (script : Script) :
    (page.run style script).lines.filterMap (read ∘ unindented) =
      page.lines.filterMap (read ∘ unindented) ++
        (contents style script).filterMap (read ∘ unindented) := by
  induction script generalizing page with
  | nil => exact (List.append_nil _).symm
  | cons step script ih =>
    -- the first step writes its line, and the rest runs on the page that it leaves
    show ((page.step style step).run style script).lines.filterMap _ = _
    rw [ih, lines_step, contents_cons, List.filterMap_append, List.filterMap_append,
      List.append_assoc]
    congr 2
    cases step.content? style with
    | none => rfl
    | some text =>
      show [Page.indented style page.depth text].filterMap _ = [text].filterMap _
      rw [List.filterMap_cons, List.filterMap_cons, Function.comp_apply, Function.comp_apply,
        unindented_indented h]

/-- What does not depend on indentation is the same in the lines of the script and of the page. -/
theorem map_lines_run {β : Type} {view : Text → β} (h : style.IsSpaced)
    (hview : ∀ line, view (unindented line) = view line) (script : Script) :
    ((Page.start 0).run style script).lines.map view = (contents style script).map view := by
  have hread : (some ∘ view) ∘ unindented = some ∘ view := by
    funext line
    exact congrArg some (hview line)
  have hlines : ((Page.start 0).run style script).lines.filterMap ((some ∘ view) ∘ unindented) =
      (contents style script).filterMap ((some ∘ view) ∘ unindented) :=
    filterMap_lines_run h (Page.start 0) script
  rwa [hread, List.filterMap_eq_map] at hlines

theorem lineEnd_not_mem_lines_run (h : style.IsSpaced) {page : Page} {script : Script}
    (hpage : ∀ line ∈ page.lines, lineEnd ∉ line)
    (hscript : ∀ line ∈ contents style script, lineEnd ∉ line) :
    ∀ line ∈ (page.run style script).lines, lineEnd ∉ line := by
  induction script generalizing page with
  | nil => exact hpage
  | cons step script ih =>
    rw [contents_cons, List.forall_mem_append] at hscript
    refine ih ?_ hscript.2
    rw [lines_step, List.forall_mem_append]
    refine ⟨hpage, fun line hline => ?_⟩
    obtain ⟨text, htext, rfl⟩ := Option.map_eq_some_iff.1 (Option.mem_toList.1 hline)
    rw [lineEnd_mem_indented h]
    exact hscript.1 text (Option.mem_toList.2 htext)

/-- A script writes whole lines, in which the reader finds the given things. -/
def Tells (style : Style) (read : Text → Option α) (script : Script) (found : List α) : Prop :=
  (∀ line ∈ contents style script, lineEnd ∉ line) ∧
    (contents style script).filterMap (read ∘ unindented) = found

variable {first second script : Script} {found others : List α} {line : Text}

/-! ### Parts of scripts -/

theorem tells_nil : Tells style read [] [] := ⟨List.forall_mem_nil _, rfl⟩

theorem Tells.append (hfirst : Tells style read first found)
    (hsecond : Tells style read second others) :
    Tells style read (first ++ second) (found ++ others) := by
  obtain ⟨hends, rfl⟩ := hfirst
  obtain ⟨hends', rfl⟩ := hsecond
  rw [Tells, contents, List.flatMap_append, List.filterMap_append, List.forall_mem_append]
  exact ⟨⟨hends, hends'⟩, rfl⟩

theorem Tells.join {scripts : List Script} {parts : List (List α)}
    (h : List.Forall₂ (Tells style read) scripts parts) :
    Tells style read (.join scripts) parts.flatten := by
  induction h with
  | nil => exact tells_nil
  | cons hscript _ ih => exact hscript.append ih

theorem tells_flatMap {β : Type} {xs : List β} {part : β → Script} {said : β → List α}
    (h : ∀ x ∈ xs, Tells style read (part x) (said x)) :
    Tells style read (xs.flatMap part) (xs.flatMap said) := by
  induction xs with
  | nil => exact tells_nil
  | cons x xs ih =>
    rw [List.forall_mem_cons] at h
    exact h.1.append (ih h.2)

/-! ### Lines -/

theorem tells_line {item : α} (hend : lineEnd ∉ line) (hread : read (unindented line) = some item) :
    Tells style read [.line line] [item] := by
  refine ⟨List.forall_mem_singleton.2 hend, ?_⟩
  show [line].filterMap (read ∘ unindented) = [item]
  rw [List.filterMap_cons, Function.comp_apply, hread]
  rfl

theorem tells_step {step : Step} (h : step.isSilent style read = true) :
    Tells style read [step] [] := by
  rw [Step.isSilent, Option.all_eq_true] at h
  rw [Tells, contents, List.flatMap_singleton]
  cases hcontent : step.content? style with
  | none => exact ⟨List.forall_mem_nil _, rfl⟩
  | some line =>
    have hline := h line hcontent
    rw [Bool.and_eq_true, Bool.not_eq_true', Option.isNone_iff_eq_none] at hline
    refine ⟨List.forall_mem_singleton.2 (by simpa using hline.1), ?_⟩
    rw [Option.toList_some, List.filterMap_cons, Function.comp_apply, hline.2, List.filterMap_nil]

theorem tells_silent (h : ∀ step ∈ script, step.isSilent style read = true) :
    Tells style read script [] := by
  have hsteps := tells_flatMap fun step hstep => tells_step (h step hstep)
  rwa [List.flatMap_singleton', List.flatMap_eq_nil_iff.2 fun _ _ => rfl] at hsteps

theorem isSilent_of_content? {step : Step} (hstep : step.content? style = some line)
    (hend : lineEnd ∉ line) (hread : read (unindented line) = none) :
    step.isSilent style read = true := by
  rw [Step.isSilent, hstep, Option.all_some, hread]
  simpa using hend

theorem isSilent_line (hend : lineEnd ∉ line) (hread : read (unindented line) = none) :
    (Step.line line).isSilent style read = true :=
  isSilent_of_content? rfl hend hread

theorem isSilent_comment {text : Text} (hmark : lineEnd ∉ style.commentMark ++ " ")
    (hend : lineEnd ∉ text) (hread : read (unindented (style.commentMark ++ " " ++ text)) = none) :
    (Step.comment text).isSilent style read = true := by
  refine isSilent_of_content? rfl ?_ hread
  rw [List.mem_append]
  exact not_or_intro hmark hend

theorem tells_quiet (hend : lineEnd ∉ line) (hread : read (unindented line) = none) :
    Tells style read [.line line] [] :=
  tells_step (isSilent_line hend hread)

theorem tells_blank (hread : read [] = none) : Tells style read [.blank] [] :=
  tells_quiet List.not_mem_nil hread

theorem Tells.block {opening closing : Text} (hopening : Tells style read [.line opening] found)
    (hbody : Tells style read script others)
    (hclosing : (Step.line closing).isSilent style read = true) :
    Tells style read (block opening script closing) (found ++ others) := by
  have hpush : Tells style read [.push] [] := tells_step rfl
  have hpop : Tells style read [.pop] [] := tells_step rfl
  have hparts := Tells.join (.cons (hopening.append hpush)
    (.cons hbody (.cons (hpop.append (tells_step hclosing)) .nil)))
  rwa [List.append_nil, List.append_nil, List.flatten_cons, List.flatten_cons, List.flatten_cons,
    List.flatten_nil, List.append_nil, List.append_nil] at hparts

/-! ### Files -/

/-- A reader finds in the text of a file what it finds in the lines of the script. -/
theorem Tells.text (hstyle : style.IsSpaced) (hread : read [] = none)
    (h : Tells style read script found) : findings read (Script.text style script) = found := by
  obtain ⟨hends, rfl⟩ := h
  have hwhole : ∀ line ∈ ((Page.start 0).run style script).lines, lineEnd ∉ line :=
    lineEnd_not_mem_lines_run hstyle (List.forall_mem_nil _) hends
  have hempty : (read ∘ unindented) [] = none := hread
  rw [findings, Script.text, Page.filterMap_splitOn_text hempty hwhole, filterMap_lines_run hstyle]
  rfl

end Script

end ModuleGraph.Source
