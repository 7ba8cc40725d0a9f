import Mathlib
import ModuleGraph.Source.TestSuite

/-!
# The line ends of a file

A script writes as many line ends as it has lines, besides those within the lines. Indentation adds
none, so that the count does not depend on where in a file a part of the script stands, and files
with different counts are different.

## Main definitions

- `Step.lineEnds`, `Script.lineEnds` — the line ends that a script writes

## Main statements

- `count_text` — the line ends of a file are those of its script
- `text_suiteScript_inj` — test suites with and without the test of the whole flow differ
-/

namespace ModuleGraph.Source

def lineEnd : Symbol := '\n'

/-- The line ends that a step writes, those within its text included. -/
def Step.lineEnds (style : Style) : Step → Nat
  | .line text => text.count lineEnd + 1
  | .comment text => (style.commentMark ++ " " ++ text).count lineEnd + 1
  | .push => 0
  | .pop => 0

/-- The line ends that a script writes. -/
def Script.lineEnds (style : Style) (script : Script) : Nat :=
  (script.map (Step.lineEnds style)).sum

variable {style : Style}

/-! ### Parts of scripts -/

@[simp] theorem lineEnds_nil : Script.lineEnds style [] = 0 := rfl

@[simp] theorem lineEnds_cons (step : Step) (script : Script) :
    Script.lineEnds style (step :: script) =
      step.lineEnds style + Script.lineEnds style script := by
  rw [Script.lineEnds, List.map_cons, List.sum_cons, Script.lineEnds]

@[simp] theorem lineEnds_append (first second : Script) :
    Script.lineEnds style (first ++ second) =
      Script.lineEnds style first + Script.lineEnds style second := by
  rw [Script.lineEnds, List.map_append, List.sum_append, Script.lineEnds, Script.lineEnds]

@[simp] theorem lineEnds_join_nil : Script.lineEnds style (.join []) = 0 := rfl

@[simp] theorem lineEnds_join_cons (script : Script) (scripts : List Script) :
    Script.lineEnds style (.join (script :: scripts)) =
      Script.lineEnds style script + Script.lineEnds style (.join scripts) := by
  rw [Script.join, List.flatten_cons, lineEnds_append, Script.join]

@[simp] theorem lineEnds_block (opening : Text) (body : Script) (closing : Text) :
    Script.lineEnds style (block opening body closing) =
      (Step.line opening).lineEnds style + Script.lineEnds style body +
        (Step.line closing).lineEnds style := by
  simp only [block, lineEnds_join_cons, lineEnds_join_nil, lineEnds_cons, lineEnds_nil,
    Step.lineEnds]
  omega

/-! ### Pages -/

/-- The line ends of the lines written so far. -/
def Page.lineEnds (page : Page) : Nat :=
  (page.written.map fun line => line.count lineEnd + 1).sum

theorem count_indented (h : style.unit.count lineEnd = 0) (depth : Int) (text : Text) :
    (Page.indented style depth text).count lineEnd = text.count lineEnd := by
  rw [Page.indented]
  split
  · rfl
  · rw [List.count_append, repeated, List.count_flatten, List.map_replicate, h]
    simp

theorem lineEnds_step (h : style.unit.count lineEnd = 0) (page : Page) (step : Step) :
    (page.step style step).lineEnds = page.lineEnds + step.lineEnds style := by
  cases step with
  | line text =>
    show (Page.indented style page.depth text).count lineEnd + 1 + page.lineEnds = _
    rw [count_indented h, Step.lineEnds, Nat.add_comm]
  | comment text =>
    show (Page.indented style page.depth _).count lineEnd + 1 + page.lineEnds = _
    rw [count_indented h, Step.lineEnds, Nat.add_comm]
  | push => rfl
  | pop => rfl

theorem lineEnds_run (h : style.unit.count lineEnd = 0) (page : Page) (script : Script) :
    (page.run style script).lineEnds = page.lineEnds + Script.lineEnds style script := by
  induction script generalizing page with
  | nil => rfl
  | cons step script ih =>
    show ((page.step style step).run style script).lineEnds = _
    rw [ih, lineEnds_step h, lineEnds_cons, Nat.add_assoc]

/-- Every line of a page but the first follows a line end, and the last is followed by one. -/
theorem count_join_lines (lines : List Text) (h : lines ≠ []) :
    (Text.join "\n" lines).count lineEnd + 1 =
      (lines.map fun line => line.count lineEnd + 1).sum := by
  induction lines with
  | nil => exact absurd rfl h
  | cons line lines ih =>
    cases lines with
    | nil => simp [Text.join, List.intercalate]
    | cons next lines =>
      have hrest := ih (List.cons_ne_nil _ _)
      have hend : (("\n" : String) : Text).count lineEnd = 1 := by decide
      rw [Text.join] at hrest ⊢
      rw [List.intercalate_cons_cons, List.count_append, List.count_append, hend, List.map_cons,
        List.sum_cons, ← hrest]
      omega

/-- The line ends of a file are those that its script writes. -/
theorem count_text (h : style.unit.count lineEnd = 0) (script : Script)
    (hscript : Script.lineEnds style script ≠ 0) :
    (Script.text style script).count lineEnd = Script.lineEnds style script := by
  have hrun : ((Page.start 0).run style script).lineEnds = Script.lineEnds style script := by
    rw [lineEnds_run h]
    exact Nat.zero_add _
  have hwritten : ((Page.start 0).run style script).lines ≠ [] := by
    intro hnone
    rw [Page.lines, List.reverse_eq_nil_iff] at hnone
    rw [Page.lineEnds, hnone] at hrun
    exact hscript hrun.symm
  have hend : (("\n" : String) : Text).count lineEnd = 1 := by decide
  rw [Script.text, Page.text, List.count_append, hend, count_join_lines _ hwritten, ← hrun,
    Page.lines, List.map_reverse, List.sum_reverse, Page.lineEnds]

/-! ### Test suites -/

variable {L : Type}

theorem lineEnds_suiteScript (schedule : Schedule L) (flag : Bool) :
    Script.lineEnds style (suiteScript { schedule with hasConnections := flag }) =
      Script.lineEnds style (suiteScript { schedule with hasConnections := false }) +
        Script.lineEnds style (integrationPart { schedule with hasConnections := flag }) := by
  simp only [suiteScript, lineEnds_join_cons, lineEnds_join_nil, lineEnds_block, integrationPart,
    Bool.false_eq_true, if_false, lineEnds_nil]
  omega

theorem lineEnds_suiteScript_pos (schedule : Schedule L) :
    Script.lineEnds style (suiteScript schedule) ≠ 0 := by
  rw [suiteScript, lineEnds_join_cons, suiteImports, lineEnds_cons, Step.lineEnds]
  omega

theorem lineEnds_integrationPart_eq_zero_iff (schedule : Schedule L) :
    Script.lineEnds style (integrationPart schedule) = 0 ↔ schedule.hasConnections = false := by
  rw [integrationPart]
  split
  · rename_i hflag
    rw [lineEnds_cons, Step.blank, Step.lineEnds, hflag]
    simp
  · rename_i hflag
    simp [hflag]

/-- The test of the whole flow shows in the file: suites that are otherwise the same differ if one
has it and the other has it not. -/
theorem text_suiteScript_inj (schedule : Schedule L) (first second : Bool) :
    Script.text .narrow (suiteScript { schedule with hasConnections := first }) =
        Script.text .narrow (suiteScript { schedule with hasConnections := second }) ↔
      first = second := by
  refine ⟨fun h => ?_, fun h => h ▸ rfl⟩
  have hunit : Style.narrow.unit.count lineEnd = 0 := by decide
  have hends := congrArg (List.count lineEnd) h
  rw [count_text hunit _ (lineEnds_suiteScript_pos _),
    count_text hunit _ (lineEnds_suiteScript_pos _), lineEnds_suiteScript schedule first,
    lineEnds_suiteScript schedule second, Nat.add_left_cancel_iff] at hends
  have hpart : ∀ flag, Script.lineEnds .narrow
      (integrationPart { schedule with hasConnections := flag }) = 0 ↔ flag = false :=
    fun flag => lineEnds_integrationPart_eq_zero_iff _
  have hsame : first = false ↔ second = false := by rw [← hpart, ← hpart, hends]
  cases first <;> cases second <;> simp at hsame ⊢

end ModuleGraph.Source
