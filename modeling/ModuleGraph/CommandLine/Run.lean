import ModuleGraph.CommandLine.Plan

/-!
# Runs of the command line

A run plans, and then writes the files of the plan one after the other. The first file that cannot
be written breaks it off.

## Main definitions

- `Invocation`, `Outcome` — what a run is given, and what it leaves
- `writeFiles` — files written one after the other
- `Plan.carryOut` — a plan carried out
- `run` — a run
-/

namespace ModuleGraph.CommandLine

/-- What a run is given: its arguments, the variables that are set, its standard output, and the
files there are. -/
structure Invocation where
  arguments : List String
  environment : Environment
  stdout : Stdout
  tree : FileTree

/-- What a run leaves: what it said, and the files there are now. -/
structure Outcome where
  report : Report
  tree : FileTree

/-! ### Writing -/

/-- Writes a file and makes the directories above it. -/
def writeFile (tree : FileTree) (path : FilePath) (contents : ByteArray) :
    Except FileError FileTree := do
  let tree ← tree.makeDirs path.parent
  tree.write path contents

/-- The files there are after writing, the records of those written, and the error that ended it
early. -/
structure Writing where
  tree : FileTree
  log : Log
  error : Option FileError

def writeRecord (path : FilePath) : Log.Record :=
  ⟨.commandLine, .debug, "Wrote " ++ path.toString⟩

/-- Writes files one after the other, up to the first that cannot be written. -/
def writeFiles (tree : FileTree) : List (FilePath × Text) → Writing
  | [] => ⟨tree, [], none⟩
  | (path, text) :: files =>
    -- the file is made before the text is encoded: one without a form in UTF-8 leaves it empty
    match writeFile tree path (text.bytes?.getD .empty) with
    | .error error => ⟨tree, [], some error⟩
    | .ok tree =>
      if text.hasHalf then ⟨tree, [], some .unencodable⟩
      else
        let rest := writeFiles tree files
        { rest with log := writeRecord path :: rest.log }

namespace Delivery

/-- The files of a delivery, with the paths that they are written to. -/
def targets (delivery : Delivery) : List (FilePath × Text) :=
  delivery.files.map fun (path, text) => (delivery.target path, text)

/-- The line about a delivery that was written. -/
def summary (delivery : Delivery) : Text :=
  progress ("wrote   : " ++ toString delivery.files.length ++ " files under " ++
    delivery.out.toString)

end Delivery

/-! ### Runs -/

/-- What a report becomes once the files of a delivery have been written, as far as they could. -/
def Report.conclude (report : Report) (stdout : Stdout) (delivery : Delivery)
    (error : Option FileError) : Report :=
  match error with
  | some error => { report with ending := .crash (.file error) }
  | none => report.print stdout (asText [delivery.summary])

/-- A plan carried out. -/
def Plan.carryOut (plan : Plan) (stdout : Stdout) (tree : FileTree) : Outcome :=
  match plan.delivery with
  | none => ⟨plan.report, tree⟩
  | some delivery =>
    let writing := writeFiles tree delivery.targets
    let report := { plan.report with log := plan.report.log ++ writing.log }
    ⟨report.conclude stdout delivery writing.error, writing.tree⟩

def runWith (make : Compiler) (invocation : Invocation) : Outcome :=
  match readJob invocation.arguments invocation.environment with
  | .error report => ⟨report, invocation.tree⟩
  | .ok job =>
    let plan := job.plan invocation.stdout make (invocation.tree.read job.graphFile)
    plan.carryOut invocation.stdout invocation.tree

def run (invocation : Invocation) : Outcome := runWith compiler invocation

end ModuleGraph.CommandLine
