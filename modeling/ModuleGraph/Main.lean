import ModuleGraph.CommandLine.Run

/-!
# The program

The files, the environment and the streams of the system. Everything that is decided is decided by
the plan.
-/

namespace ModuleGraph.CommandLine

/-- What an error of the system says about a path. -/
def fileError? : IO.Error → Option FileError
  | .noFileOrDirectory .. => some .notFound
  | .alreadyExists .. => some .occupied
  | .inappropriateType _ code _ => some (if code = 21 then .isADirectory else .notADirectory)
  | .invalidArgument .. => some .nameTooLong
  | _ => none

/-- What an action gives, or what is wrong with its path. -/
def attempt {α : Type} (path : FilePath) (action : IO α) : IO (Except FileError α) := do
  if path.holdsNul then
    return .error .nulCharacter
  try
    return .ok (← action)
  catch error =>
    match fileError? error with
    | some error => return .error error
    | none => throw error

/-- The file at a path. -/
def readBytes (path : FilePath) : IO (Except FileError ByteArray) :=
  attempt path (IO.FS.readBinFile path.toString)

/-- Writes files one after the other, up to the first that cannot be written: the records of those
written, and what is wrong with that one. -/
def writeAll : List (FilePath × Text) → IO (Log × Option FileError)
  | [] => return ([], none)
  | (path, text) :: files => do
    let written ← attempt path do
      IO.FS.createDirAll path.parent.toString
      IO.FS.writeBinFile path.toString (text.bytes?.getD .empty)
    match written with
    | .error error => return ([], some error)
    | .ok () =>
      if text.hasHalf then
        return ([], some .unencodable)
      else
        let (log, error) ← writeAll files
        return (writeRecord path :: log, error)

/-- The variables that are set. -/
def readEnvironment : IO Environment :=
  Settings.variableNames.filterMapM fun key => do
    return (← IO.getEnv key).map fun value => (key, Text.ofString value)

/-- Prints what a run says, and those of its records that weigh enough; the number is its exit
code. -/
def publish (threshold : Nat) (report : Report) : IO UInt32 := do
  for record in report.log do
    if threshold ≤ record.level.rank then
      IO.eprintln (record.level.name ++ ": " ++ record.text.shown)
  IO.print report.stdout.shown
  for wire in report.warnings do
    IO.eprintln ("warning: " ++ wire.warning.shown)
  IO.eprint report.stderr.shown
  match report.ending with
  | .exit code => return code.toUInt32
  | .crash cause =>
    IO.eprintln cause.message.shown
    return 1

/-- Carries out a plan on the files of the system, whose standard output is in UTF-8. -/
def execute (threshold : Nat) (plan : Plan) : IO UInt32 := do
  match plan.delivery with
  | none => publish threshold plan.report
  | some delivery =>
    let (log, error) ← writeAll delivery.targets
    let report := { plan.report with log := plan.report.log ++ log }
    publish threshold (report.conclude .strict delivery error)

end ModuleGraph.CommandLine

open ModuleGraph ModuleGraph.CommandLine in
/-- Compiles a graph file. -/
def main (arguments : List String) : IO UInt32 := do
  match readJob arguments (← readEnvironment) with
  | .error report => publish Log.Level.info.rank report
  | .ok job =>
    let contents ← readBytes job.graphFile
    execute job.threshold (job.plan .strict compiler contents)
