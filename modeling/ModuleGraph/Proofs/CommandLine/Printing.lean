import ModuleGraph.CommandLine.Run
import ModuleGraph.Proofs.Workspace.Encodable

/-!
# What can be printed

A standard output refuses at most a text that holds half of a surrogate pair. What a run prints is
made of strings, but for the name of the graph: only the line with this name can break the run off,
and it does so before anything is written.

## Main definitions

- `endingAfter` — how a run ends that writes files
- `Plan.gist` — how a plan ends and what it delivers

## Main statements

- `ending_conclude` — the line about the files is always taken
- `gist_announce_of_takes`, `gist_announce_of_refuses` — what lines do to a plan
- `gist_compileDocument`, `gist_compileDocument_of_refuses` — what the name of a graph does to it
- `analysisReport_eq`, `takes_crateRoot` — what is printed on demand
-/

namespace ModuleGraph.CommandLine

variable {stdout : Stdout}

/-! ### Texts -/

theorem takes_of_hasHalf {text : Text} (h : text.hasHalf = false) : stdout.takes text = true := by
  cases stdout with
  | strict => simp [Stdout.takes, h]
  | lenient => rfl

@[simp] theorem takes_ofString (string : String) : stdout.takes (Text.ofString string) = true :=
  takes_of_hasHalf (Text.hasHalf_ofString string)

@[simp] theorem takes_append (first second : Text) :
    stdout.takes (first ++ second) = (stdout.takes first && stdout.takes second) := by
  cases stdout with
  | strict => simp [Stdout.takes]
  | lenient => rfl

@[simp] theorem takes_progress (text : Text) :
    stdout.takes (progress text) = stdout.takes text := by
  simp [progress]

@[simp] theorem takes_asText_singleton (line : Text) :
    stdout.takes (asText [line]) = stdout.takes line := by
  simp [asText]

/-! ### Reports -/

theorem print_of_takes {text : Text} (h : stdout.takes text = true) (report : Report) :
    report.print stdout text = { report with stdout := report.stdout ++ text } := by
  rw [Report.print, if_pos h]

theorem ending_print (report : Report) (text : Text) :
    (report.print stdout text).ending =
      if stdout.takes text then report.ending else .crash .unprintable := by
  rw [Report.print]
  split <;> rfl

theorem takes_summary (delivery : Delivery) : stdout.takes (asText [delivery.summary]) = true := by
  simp [Delivery.summary]

/-- How a run ends that writes files: by the error that stops it, or well if there is none. -/
def endingAfter : Option FileError → Ending
  | none => .exit 0
  | some error => .crash (.file error)

theorem endingAfter_eq_exit_zero_iff {error : Option FileError} :
    endingAfter error = .exit 0 ↔ error = none := by
  cases error <;> simp [endingAfter]

theorem endingAfter_ne_exit_one (error : Option FileError) : endingAfter error ≠ .exit 1 := by
  cases error <;> simp [endingAfter]

/-- What is printed about a delivery that was written does not change how the run ends. -/
theorem ending_conclude {report : Report} (h : report.ending = .exit 0) (delivery : Delivery)
    (error : Option FileError) :
    (report.conclude stdout delivery error).ending = endingAfter error := by
  cases error with
  | some error => rfl
  | none =>
    show (report.print stdout _).ending = _
    rw [print_of_takes (takes_summary delivery)]
    exact h

/-! ### Plans -/

/-- How a plan ends and what it delivers, whatever it says. -/
def Plan.gist (plan : Plan) : Ending × Option Delivery := (plan.report.ending, plan.delivery)

variable {options : Options} {lines : List Text}

/-- Lines that are taken, or kept from the standard output, change only what is said. -/
theorem gist_announce_of_takes (h : options.print = true ∨ lines.all stdout.takes = true)
    (plan : Plan) : (plan.announce stdout options lines).gist = plan.gist := by
  rw [Plan.announce]
  by_cases hprint : options.print = true
  · rw [if_pos hprint]
    rfl
  · rw [if_neg hprint, if_pos (h.resolve_left hprint)]
    rfl

/-- A line that is refused breaks the run off, whatever was planned. -/
theorem gist_announce_of_refuses (hprint : options.print = false)
    (h : lines.all stdout.takes = false) (plan : Plan) :
    (plan.announce stdout options lines).gist = (.crash .unprintable, none) := by
  rw [Plan.announce, hprint, h]
  rfl

/-- The line about a program is always taken. -/
theorem gist_present (workspace : Workspace Text) :
    (present stdout options workspace).gist =
      if options.print then
        (if stdout.takes workspace.crateRoot then .exit 0 else .crash .unprintable, none)
      else
        match options.out with
        | some out => (deliver (.ofString out) workspace.files).gist
        | none => (.crash .unusableOut, none) := by
  have hline : [progress ("program : " ++ workspace.programName)].all stdout.takes = true := by simp
  rw [present, gist_announce_of_takes (.inr hline)]
  split
  · rw [Plan.gist, Plan.only, ending_print]
    rfl
  · cases options.out <;> rfl

/-! ### Documents -/

section Documents

variable {make : Compiler} {settings : Settings} {document : Document}

theorem takes_graphLines (graph : Graph Text) :
    (graphLines graph).all stdout.takes = stdout.takes graph.name := by
  simp [graphLines]

theorem gist_compileDocument (h : options.print = true ∨ stdout.takes document.graph.name = true) :
    (compileDocument stdout make settings options document).gist =
      (present stdout options
        (make document.graph (requestedName settings options document)).workspace).gist := by
  rw [← takes_graphLines] at h
  rw [compileDocument, gist_announce_of_takes h]
  rfl

/-- The name of the graph breaks the run off if it cannot be printed. -/
theorem gist_compileDocument_of_refuses (hprint : options.print = false)
    (hname : stdout.takes document.graph.name = false) :
    (compileDocument stdout make settings options document).gist = (.crash .unprintable, none) := by
  rw [← takes_graphLines] at hname
  rw [compileDocument, gist_announce_of_refuses hprint hname]

end Documents

/-- An analysis is always taken, since whatever is no ASCII stands escaped in it. -/
theorem analysisReport_eq (graph : Graph Text) :
    analysisReport stdout graph =
      { (Report.printed (asText [graph.analyze.encode.pretty])) with
        log := graph.analyze.log graph.connections.length } := by
  have htakes : stdout.takes (asText [graph.analyze.encode.pretty]) = true := by simp
  simp only [analysisReport, print_of_takes htakes]
  simp [Report.record, Report.printed, Report.silent]

theorem takes_crateRoot (graph : Graph Text) (name : Text) :
    stdout.takes (compiler graph name).workspace.crateRoot = true :=
  takes_of_hasHalf (hasHalf_crateRoot _)

end ModuleGraph.CommandLine
