import ModuleGraph.CommandLine.FileTree
import ModuleGraph.CommandLine.Options
import ModuleGraph.Document.Load
import ModuleGraph.Flow.Encode
import ModuleGraph.Json.Printer
import ModuleGraph.Settings
import ModuleGraph.Workspace

/-!
# Plans of the command line

The arguments and the settings give a job. With the bytes of its graph file a job gives a plan: what
is said, and the files to be written. A plan has files only if all their paths stay below the output
directory; it touches no file itself. A run that is to print what its standard output refuses breaks
off there and writes nothing.

## Main definitions

- `Stdout` — what a standard output takes
- `Crash`, `Ending`, `Report` — how a run ends, and what it says
- `Delivery`, `Plan` — files to be written, and what a run comes to
- `checkTargets` — refuses a path that leads out of the output directory
- `Compiler`, `compiler` — what makes the workspace of a graph
- `Job`, `readJob` — what the arguments and the settings ask for
- `Job.plan` — the plan of a job
-/

namespace ModuleGraph.CommandLine

/-! ### Reports -/

/-- A standard output. Half of a surrogate pair has no form in UTF-8: a strict output refuses a text
that holds one, and a lenient one takes it all the same. -/
inductive Stdout where
  | strict
  | lenient
  deriving DecidableEq, Repr

def Stdout.takes : Stdout → Text → Bool
  | strict, text => !text.hasHalf
  | lenient, _ => true

/-- What breaks a run off without a report of its own. -/
inductive Crash where
  | settings (error : SettingsError)
  | file (error : FileError)
  | document (error : Document.LoadError)
  /-- What was given for the output directory is not a value. -/
  | unusableOut
  /-- The standard output refuses a text. -/
  | unprintable
  deriving DecidableEq, Repr

def loadMessage : Document.LoadError → Text
  | .notText => "the graph file is not UTF-8 text"
  | .notJson error => error.message
  | .faulty fault => fault.message
  | .undecodable (.missing key) => "missing member '" ++ key ++ "'"
  | .undecodable .shape => "a member of the wrong shape"
  | .undecodable .noGraph => "a value that is no object"

def Crash.message : Crash → Text
  | settings error => error.message
  | file error => error.message
  | document error => loadMessage error
  | unusableOut => "the output directory is not a path"
  | unprintable => "the text to be printed has no form in UTF-8"

/-- How a run ends. -/
inductive Ending where
  | exit (code : Nat)
  | crash (cause : Crash)
  deriving DecidableEq, Repr

/-- What a run says: its texts, the wires that it passes over, and its records. -/
structure Report where
  ending : Ending
  stdout : Text
  stderr : Text
  warnings : List Document.Dangling
  log : Log
  deriving DecidableEq, Repr

namespace Report

/-- The report of a run that says nothing. -/
def silent (ending : Ending) : Report := ⟨ending, [], [], [], []⟩

/-- The report of a run that breaks off. -/
def crashed (cause : Crash) : Report := silent (.crash cause)

/-- The report of a run that prints a text. -/
def printed (text : Text) : Report := { silent (.exit 0) with stdout := text }

/-- The report of a run that ends with an error. -/
def failed (message : Text) : Report :=
  { silent (.exit 1) with stderr := asText ["[error] " ++ message] }

/-- The report of arguments that are refused. -/
def refused (error : UsageError) : Report :=
  { silent (.exit 2) with
    stderr := usage ++ asText [programTitle ++ ": error: " ++ error.message] }

/-- The report with one more text printed, or broken off if the standard output refuses it. -/
def print (report : Report) (stdout : Stdout) (text : Text) : Report :=
  if stdout.takes text then { report with stdout := report.stdout ++ text }
  else { report with ending := .crash .unprintable }

/-- The report with records before those it has already. -/
def record (report : Report) (log : Log) : Report := { report with log := log ++ report.log }

end Report

/-! ### Plans -/

/-- Files to be written below a directory. -/
structure Delivery where
  out : FilePath
  files : FileMap
  deriving DecidableEq, Repr

def Delivery.target (delivery : Delivery) (path : String) : FilePath :=
  delivery.out.append (.ofString path)

/-- What a run comes to: what it says, and what it writes thereafter if it writes anything. -/
structure Plan where
  report : Report
  delivery : Option Delivery
  deriving DecidableEq, Repr

namespace Plan

/-- The plan that writes nothing. -/
def only (report : Report) : Plan := ⟨report, none⟩

/-- The plan with its report changed. -/
def mapReport (change : Report → Report) (plan : Plan) : Plan :=
  { plan with report := change plan.report }

/-- The plan with lines before what it prints already. They go to the standard output, unless it is
kept for the text of the program. A line that the standard output refuses breaks the run off before
anything else is done. -/
def announce (plan : Plan) (stdout : Stdout) (options : Options) (lines : List Text) : Plan :=
  if options.print then
    plan.mapReport fun report => { report with stderr := asText lines ++ report.stderr }
  else if lines.all stdout.takes then
    plan.mapReport fun report => { report with stdout := asText lines ++ report.stdout }
  else .only { Report.crashed .unprintable with stdout := asText (lines.takeWhile stdout.takes) }

end Plan

/-- A line about the progress of a run. -/
def progress (text : Text) : Text := "[compile_from_json] " ++ text

/-! ### Targets -/

/-- Why a path is not written to. -/
inductive Refusal where
  | nulCharacter
  | outside (path : String)
  deriving DecidableEq, Repr

/-- Refuses the first path that leads out of the output directory. -/
def checkTargets (out : FilePath) : List String → Except Refusal Unit
  | [] => .ok ()
  | path :: paths =>
    let target := out.append (.ofString path)
    if target.holdsNul then .error .nulCharacter
    else if target.location.within out.location then checkTargets out paths
    else .error (.outside path)

/-- The plan to write files below a directory. -/
def deliver (out : FilePath) (files : FileMap) : Plan :=
  match checkTargets out (files.map (·.1)) with
  | .ok () => ⟨.silent (.exit 0), some ⟨out, files⟩⟩
  | .error .nulCharacter => .only (.crashed (.file .nulCharacter))
  | .error (.outside path) =>
    .only (.failed ("Refusing to write outside " ++ out.toString ++ ": " ++ path))

/-! ### Compiling -/

/-- What compiling a graph gives, and the records of it. -/
structure Compilation where
  workspace : Workspace Text
  log : Log

/-- What makes the workspace of a graph, for a program of the name asked for. -/
abbrev Compiler := Graph Text → Text → Compilation

/-- The compiler of this library. -/
def compiler : Compiler := fun graph name =>
  ⟨compile graph.nodes graph.connections (some name),
    compileLog graph.nodes graph.connections (some name)⟩

/-- The name that is asked for: that of the arguments, or else of the document, or else of the
settings. An empty name counts as none. -/
def requestedName (settings : Settings) (options : Options) (document : Document) : Text :=
  Text.orElse (options.programName.getD "")
    (Text.orElse (document.programName.getD []) settings.programName)

def graphLines (graph : Graph Text) : List Text :=
  [progress ("graph   : " ++ graph.name),
    progress ("nodes   : " ++ toString graph.nodes.length),
    progress ("edges   : " ++ toString graph.connections.length)]

/-- The plan for a workspace. -/
def present (stdout : Stdout) (options : Options) (workspace : Workspace Text) : Plan :=
  let plan :=
    if options.print then Plan.only ((Report.silent (.exit 0)).print stdout workspace.crateRoot)
    else
      match options.out with
      | some out => deliver (.ofString out) workspace.files
      | none => .only (.crashed .unusableOut)
  plan.announce stdout options [progress ("program : " ++ workspace.programName)]

/-- The plan for compiling a document. -/
def compileDocument (stdout : Stdout) (make : Compiler) (settings : Settings) (options : Options)
    (document : Document) : Plan :=
  let compilation := make document.graph (requestedName settings options document)
  let plan := present stdout options compilation.workspace
  (plan.mapReport (·.record compilation.log)).announce stdout options (graphLines document.graph)

/-! ### Documents -/

/-- The report of analysing a graph. -/
def analysisReport (stdout : Stdout) (graph : Graph Text) : Report :=
  let analysis := graph.analyze
  ((Report.silent (.exit 0)).print stdout (asText [analysis.encode.pretty])).record
    (analysis.log graph.connections.length)

/-- The plan for a document. -/
def handleDocument (stdout : Stdout) (make : Compiler) (settings : Settings) (options : Options)
    (document : Document) : Plan :=
  match settings.checkSize document.graph with
  | .error error => .only (.failed error.message)
  | .ok () =>
    if options.analyze then .only (analysisReport stdout document.graph)
    else compileDocument stdout make settings options document

/-- What is said about a file that holds no graph, if anything is. -/
def complaint? : Document.LoadError → Option Text
  | .notJson error =>
    match error with
    | .malformed .. => some ("Invalid JSON: " ++ error.message)
    | .numeralTooLong _ | .tooDeep => none
  | .faulty fault => some ("Schema validation failed: " ++ fault.message)
  | .notText | .undecodable _ => none

/-- The report of a file that holds no graph. -/
def rejection (error : Document.LoadError) : Report :=
  match complaint? error with
  | some message => .failed message
  | none => .crashed (.document error)

/-- The plan for the bytes of a graph file. -/
def handleBytes (stdout : Stdout) (make : Compiler) (settings : Settings) (options : Options)
    (bytes : ByteArray) : Plan :=
  let loaded := Document.load options.strict bytes
  let plan :=
    match loaded.result with
    | .error error => Plan.only (rejection error)
    | .ok document => handleDocument stdout make settings options document
  plan.mapReport fun report => { report with warnings := loaded.warnings }

/-! ### Jobs -/

/-- What the arguments and the settings ask for. Records below the threshold are not shown. -/
structure Job where
  graphFile : FilePath
  options : Options
  settings : Settings
  threshold : Nat
  deriving DecidableEq, Repr

/-- The level below which records are not shown. A name that is taken for something else is treated
like one that denotes nothing: no run breaks off over it. -/
def thresholdOf (settings : Settings) : Nat := settings.threshold.toOption.getD Log.Level.info.rank

/-- What the arguments and the settings ask for, or what is said if they ask for nothing. -/
def readJob (arguments : List String) (environment : Environment) : Except Report Job :=
  match readArguments arguments with
  | .error .help => .error (.printed help)
  | .error (.refused error) => .error (.refused error)
  | .ok request =>
    match Settings.read environment with
    | .error error => .error (.crashed (.settings error))
    | .ok settings =>
      .ok ⟨.ofString request.graphFile, request.options, settings, thresholdOf settings⟩

/-- The report of a graph file that cannot be read. -/
def unreadable (path : FilePath) (error : FileError) : Report :=
  match error with
  -- these errors alone are not caught
  | .isADirectory | .nameTooLong => .crashed (.file error)
  | _ => .failed ("File not found: " ++ path.toString)

def Job.plan (job : Job) (stdout : Stdout) (make : Compiler)
    (contents : Except FileError ByteArray) : Plan :=
  match contents with
  | .error error => .only (unreadable job.graphFile error)
  | .ok bytes => handleBytes stdout make job.settings job.options bytes

end ModuleGraph.CommandLine
