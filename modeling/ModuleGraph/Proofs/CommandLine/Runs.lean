import ModuleGraph.Proofs.CommandLine.Targets
import ModuleGraph.Proofs.CommandLine.Writing
import ModuleGraph.Proofs.Document.Denotation

/-!
# Runs that read a document

A run that reads a document compiles or analyses its graph. What it prints is made of strings but
for the name of the graph, so that at most this name keeps it from delivering the files of the
workspace.

## Main definitions

- `documentOf` — the document of a graph and a JSON value
- `Invocation.Reads` — a run that reads a document
- `Job.workspace` — the workspace that it compiles
- `runOn`, `jobOn` — a run on one file, and what it asks for

## Main statements

- `run_eq` — the run of a document that passes the inspection
- `outcome_oversize`, `outcome_analysis`, `outcome_delivery`, `outcome_unprintable` — what comes of
  it
-/

namespace ModuleGraph

/-! ### Documents -/

/-- The graph of a document, with the name that its JSON value gives to the program. -/
def documentOf (graph : Graph Text) (value : Json) : Document :=
  ⟨graph, (value.field? "programName").bind Json.asText?⟩

theorem Document.load_eq_ok {bytes : ByteArray} {text : Text} {value : Json} {graph : Graph Text}
    (htext : fileText bytes = some text)
    (hvalue : Json.parseUnmarked maxFileDepth text = .ok value)
    (haccepted : (inspect false value).accepted = true) (hgraph : DenotesGraph value graph) :
    load false bytes = ⟨(inspect false value).warnings, .ok (documentOf graph value)⟩ := by
  have hfault : (inspect false value).fault = none := Option.isNone_iff_eq_none.1 haccepted
  have hdecoded : (ofJson value).mapError LoadError.undecodable = .ok (documentOf graph value) := by
    rw [ofJson, decodeGraph_eq_ok hgraph]
    rfl
  rw [load, htext]
  simp only [hvalue, loadJson, hfault, hdecoded]

namespace CommandLine

/-! ### Runs -/

/-- A run that reads a document from its graph file, and does not refuse wires that lead nowhere. -/
structure Invocation.Reads (invocation : Invocation) (job : Job) (value : Json) : Prop where
  asked : readJob invocation.arguments invocation.environment = .ok job
  lenient : job.options.strict = false
  file : ∃ bytes text, invocation.tree.read job.graphFile = .ok bytes ∧
    Document.fileText bytes = some text ∧
    Json.parseUnmarked Document.maxFileDepth text = .ok value

/-- The workspace of a document, compiled under the name that a job asks for. -/
def Job.workspace (job : Job) (document : Document) : Workspace Text :=
  compile document.graph.nodes document.graph.connections
    (some (requestedName job.settings job.options document))

section Runs

variable {invocation : Invocation} {job : Job} {value : Json} {graph : Graph Text}

/-- The run of a document that passes the inspection. -/
theorem run_eq (h : invocation.Reads job value)
    (haccepted : (Document.inspect false value).accepted = true)
    (hgraph : Document.DenotesGraph value graph) :
    run invocation =
      ((handleDocument invocation.stdout compiler job.settings job.options
          (documentOf graph value)).mapReport
        fun report => { report with warnings := (Document.inspect false value).warnings }).carryOut
          invocation.stdout invocation.tree := by
  obtain ⟨bytes, text, hbytes, htext, hvalue⟩ := h.file
  have hload := Document.load_eq_ok htext hvalue haccepted hgraph
  rw [run, runWith, h.asked]
  simp only [Job.plan, hbytes, handleBytes, h.lenient, hload]

/-- A graph beyond the limits is refused. -/
theorem outcome_oversize (h : invocation.Reads job value)
    (haccepted : (Document.inspect false value).accepted = true)
    (hgraph : Document.DenotesGraph value graph) {error : SizeError}
    (hsize : job.settings.checkSize graph = .error error) :
    (run invocation).report.ending = .exit 1 ∧
      (run invocation).report.stderr = asText ["[error] " ++ Text.ofString error.message] := by
  have hsize : job.settings.checkSize (documentOf graph value).graph = .error error := hsize
  rw [run_eq h haccepted hgraph, handleDocument, hsize]
  exact ⟨rfl, rfl⟩

theorem outcome_analysis (h : invocation.Reads job value)
    (haccepted : (Document.inspect false value).accepted = true)
    (hgraph : Document.DenotesGraph value graph) (hsize : job.settings.checkSize graph = .ok ())
    (hanalyze : job.options.analyze = true) :
    (run invocation).report.ending = .exit 0 ∧
      (run invocation).report.stdout = asText [graph.analyze.encode.pretty] := by
  have hsize : job.settings.checkSize (documentOf graph value).graph = .ok () := hsize
  rw [run_eq h haccepted hgraph, handleDocument, hsize]
  simp only [hanalyze, if_true, Plan.mapReport, Plan.only, Plan.carryOut, analysisReport_eq]
  exact ⟨rfl, rfl⟩

/-- A run that is to write files delivers them, if the name of the graph can be printed. -/
theorem outcome_delivery (h : invocation.Reads job value)
    (haccepted : (Document.inspect false value).accepted = true)
    (hgraph : Document.DenotesGraph value graph) (hsize : job.settings.checkSize graph = .ok ())
    (hanalyze : job.options.analyze = false) (hprint : job.options.print = false) {out : String}
    (hout : job.options.out = some out) (hnul : (FilePath.ofString out).holdsNul = false)
    (hname : invocation.stdout.takes graph.name = true) :
    (run invocation).Delivers invocation.tree (.ofString out)
      (job.workspace (documentOf graph value)).files := by
  have hsize : job.settings.checkSize (documentOf graph value).graph = .ok () := hsize
  have hname : invocation.stdout.takes (documentOf graph value).graph.name = true := hname
  have hgist : (compileDocument invocation.stdout compiler job.settings job.options
      (documentOf graph value)).gist =
        (.exit 0, some ⟨.ofString out, (job.workspace (documentOf graph value)).files⟩) := by
    have hworkspace : (compiler (documentOf graph value).graph
        (requestedName job.settings job.options (documentOf graph value))).workspace =
          job.workspace (documentOf graph value) := rfl
    rw [gist_compileDocument (.inr hname), gist_present, hprint, hout, hworkspace]
    dsimp only
    rw [Job.workspace, deliver_files, hnul]
    rfl
  obtain ⟨hending, hdelivery⟩ := Prod.mk.inj hgist
  rw [run_eq h haccepted hgraph, handleDocument, hsize]
  simp only [hanalyze, Bool.false_eq_true, if_false]
  refine delivers_carryOut ?_ ?_ (spells_compile _ _ _) (nodup_below _ _ _ _) _ _
  · exact hending
  · exact hdelivery

/-- A run that is to write files breaks off and leaves everything as it was, if the name of the
graph cannot be printed. -/
theorem outcome_unprintable (h : invocation.Reads job value)
    (haccepted : (Document.inspect false value).accepted = true)
    (hgraph : Document.DenotesGraph value graph) (hsize : job.settings.checkSize graph = .ok ())
    (hanalyze : job.options.analyze = false) (hprint : job.options.print = false)
    (hname : invocation.stdout.takes graph.name = false) :
    (run invocation).report.ending = .crash .unprintable ∧
      (run invocation).tree = invocation.tree := by
  have hsize : job.settings.checkSize (documentOf graph value).graph = .ok () := hsize
  have hname : invocation.stdout.takes (documentOf graph value).graph.name = false := hname
  have hgist : (compileDocument invocation.stdout compiler job.settings job.options
      (documentOf graph value)).gist = (.crash .unprintable, none) :=
    gist_compileDocument_of_refuses hprint hname
  obtain ⟨hending, hdelivery⟩ := Prod.mk.inj hgist
  rw [run_eq h haccepted hgraph, handleDocument, hsize]
  simp only [hanalyze, Bool.false_eq_true, if_false, Plan.mapReport, Plan.carryOut, hdelivery]
  exact ⟨hending, trivial⟩

end Runs

/-! ### A run on one file -/

/-- A run on a file of the given text. -/
def runOn (text : String) (options : List String) : Invocation where
  arguments := "g.json" :: options
  environment := []
  stdout := .strict
  tree := FileTree.empty.addFile ⟨some 0, ["g.json"]⟩ text.toUTF8

/-- What a run on a file asks for with the given options. -/
def jobOn (options : Options) : Job :=
  ⟨⟨"", ["g.json"]⟩, options, .default, thresholdOf .default⟩

theorem reads_runOn {text : String} {arguments : List String} {options : Options} {value : Json}
    (hasked : readArguments ("g.json" :: arguments) = .ok ⟨"g.json", options⟩)
    (hlenient : options.strict = false)
    (hfile : (runOn text arguments).tree.read ⟨"", ["g.json"]⟩ = .ok text.toUTF8)
    (htext : Document.fileText text.toUTF8 = some (Text.ofString text))
    (hparsed : (Json.parseUnmarked Document.maxFileDepth text).toOption = some value) :
    (runOn text arguments).Reads (jobOn options) value where
  asked := by
    have hpath : FilePath.ofString "g.json" = ⟨"", ["g.json"]⟩ := by
      rw [FilePath.ofString, splitOn_slash]
      decide
    have hsettings : Settings.read [] = .ok .default := by decide
    rw [runOn, readJob, hasked]
    simp only [hsettings, hpath]
    rfl
  lenient := hlenient
  file := by
    refine ⟨_, _, hfile, htext, ?_⟩
    cases hparse : Json.parseUnmarked Document.maxFileDepth text with
    | error error =>
      rw [hparse] at hparsed
      cases hparsed
    | ok found =>
      rw [hparse] at hparsed
      exact congrArg Except.ok (Option.some.inj hparsed)

end CommandLine

end ModuleGraph
