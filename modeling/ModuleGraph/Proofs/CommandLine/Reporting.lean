import ModuleGraph.Proofs.CommandLine.AllOrNothing

/-!
# Reports about graph files

A graph file may hold anything. A run reports what is not JSON, what has a fault and what is beyond
the limits, by a line of its own, and ends with an error. It breaks off without a report where the
bytes are not text, where a numeral is too long or values are nested too deeply, where the name of
the graph cannot be printed before files are written, and, while it writes, where a path is too long
or a text has no form in UTF-8.

## Main definitions

- `Document.Loads` — what a file holds, or why it holds no document
- `ReadsWithinLimits` — bytes that are read as JSON or are reported not to be

## Main statements

- `loads_load` — what loading a file comes to: a document that passes the inspection is decoded
- `isSome_complaint?_iff` — what is said about a file that cannot be loaded
- `run_reports_iff` — exactly the runs that end of their own accord
- `not_reported_strayByte` — a run that breaks off over bytes that are not text
-/

namespace ModuleGraph

/-! ### Loading -/

namespace Document

/-- What a file holds, or why it holds no document: its bytes are no text, or the text is not JSON,
or the inspection finds a fault. A value that passes the inspection has a graph. -/
inductive Loads (strict : Bool) (bytes : ByteArray) : Except LoadError Document → Prop
  | notText (htext : fileText bytes = none) : Loads strict bytes (.error .notText)
  | notJson {text : Text} {error : Json.ReadError} (htext : fileText bytes = some text)
    (hvalue : Json.parseUnmarked maxFileDepth text = .error error) :
    Loads strict bytes (.error (.notJson error))
  | faulty {text : Text} {value : Json} {fault : Fault} (htext : fileText bytes = some text)
    (hvalue : Json.parseUnmarked maxFileDepth text = .ok value)
    (hfault : (inspect strict value).fault = some fault) :
    Loads strict bytes (.error (.faulty fault))
  | read {text : Text} {value : Json} {graph : Graph Text} (htext : fileText bytes = some text)
    (hvalue : Json.parseUnmarked maxFileDepth text = .ok value)
    (hgraph : DenotesGraph value graph) : Loads strict bytes (.ok (documentOf graph value))

/-- A value that passes the inspection denotes a graph, whether the inspection is strict or not. -/
theorem exists_denotesGraph {strict : Bool} {value : Json}
    (h : (inspect strict value).fault = none) :
    ∃ graph : Graph Text, DenotesGraph value graph := by
  have haccepted : (inspect false value).accepted = true := by
    cases strict with
    | false => exact Option.isNone_iff_eq_none.2 h
    | true =>
      rw [inspect_true] at h
      exact (Inspection.accepted_harden_iff.1 (Option.isNone_iff_eq_none.2 h)).1
  obtain ⟨graph, hgraph, -⟩ := accepted_iff.1 haccepted
  exact ⟨graph, hgraph⟩

theorem loads_load (strict : Bool) (bytes : ByteArray) :
    Loads strict bytes (load strict bytes).result := by
  rw [load]
  cases htext : fileText bytes with
  | none => exact .notText htext
  | some text =>
    dsimp only
    cases hvalue : Json.parseUnmarked maxFileDepth text with
    | error error => exact .notJson htext hvalue
    | ok value =>
      simp only [loadJson]
      cases hfault : (inspect strict value).fault with
      | some fault => exact .faulty htext hvalue hfault
      | none =>
        obtain ⟨graph, hgraph⟩ := exists_denotesGraph hfault
        have hdecoded : (ofJson value).mapError LoadError.undecodable =
            .ok (documentOf graph value) := by
          rw [ofJson, decodeGraph_eq_ok hgraph]
          rfl
        rw [hdecoded]
        exact .read htext hvalue hgraph

end Document

namespace CommandLine

/-- Bytes that are text, which is read as JSON or reported not to be: no numeral in it is too long,
and its values are not nested too deeply. -/
def ReadsWithinLimits (bytes : ByteArray) : Prop :=
  ∃ text, Document.fileText bytes = some text ∧
    ∀ error, Json.parseUnmarked Document.maxFileDepth text = .error error →
      ∃ problem line column offset, error = .malformed problem line column offset

theorem readsWithinLimits_of_ok {bytes : ByteArray} {text : Text} {value : Json}
    (htext : Document.fileText bytes = some text)
    (hvalue : Json.parseUnmarked Document.maxFileDepth text = .ok value) :
    ReadsWithinLimits bytes := by
  refine ⟨text, htext, fun error herror => ?_⟩
  rw [hvalue] at herror
  cases herror

theorem readsWithinLimits_iff {bytes : ByteArray} {text : Text} {error : Json.ReadError}
    (htext : Document.fileText bytes = some text)
    (hvalue : Json.parseUnmarked Document.maxFileDepth text = .error error) :
    ReadsWithinLimits bytes ↔
      ∃ problem line column offset, error = .malformed problem line column offset := by
  simp [ReadsWithinLimits, htext, hvalue]

/-- What keeps a file from being loaded is reported exactly if its bytes are text that is read
within the limits. -/
theorem isSome_complaint?_iff {strict : Bool} {bytes : ByteArray} {error : Document.LoadError}
    (h : Document.Loads strict bytes (.error error)) :
    (complaint? error).isSome = true ↔ ReadsWithinLimits bytes := by
  cases h with
  | notText htext => simp [complaint?, ReadsWithinLimits, htext]
  | notJson htext hvalue =>
    rw [readsWithinLimits_iff htext hvalue]
    rename_i error
    cases error <;> simp [complaint?]
  | faulty htext hvalue hfault =>
    exact iff_of_true rfl (readsWithinLimits_of_ok htext hvalue)

/-! ### Runs on a file that can be read -/

section Runs

variable {invocation : Invocation} {job : Job} {bytes : ByteArray}
  (hjob : readJob invocation.arguments invocation.environment = .ok job)
  (hfile : invocation.tree.read job.graphFile = .ok bytes)

include hjob hfile

/-- A run whose file holds no document. -/
theorem run_of_rejected {error : Document.LoadError}
    (hload : (Document.load job.options.strict bytes).result = .error error) :
    run invocation = ⟨{ rejection error with
      warnings := (Document.load job.options.strict bytes).warnings }, invocation.tree⟩ := by
  rw [run, runWith, hjob]
  simp only [Job.plan, hfile, handleBytes, hload, Plan.mapReport, Plan.only, Plan.carryOut]

theorem outcome_of_complaint {error : Document.LoadError} {message : Text}
    (hload : (Document.load job.options.strict bytes).result = .error error)
    (hcomplaint : complaint? error = some message) :
    (run invocation).report.ending = .exit 1 ∧
      (run invocation).report.stderr = asText ["[error] " ++ message] := by
  rw [run_of_rejected hjob hfile hload, rejection, hcomplaint]
  exact ⟨rfl, rfl⟩

theorem ending_of_noComplaint {error : Document.LoadError}
    (hload : (Document.load job.options.strict bytes).result = .error error)
    (hcomplaint : complaint? error = none) :
    (run invocation).report.ending = .crash (.document error) := by
  rw [run_of_rejected hjob hfile hload, rejection, hcomplaint]
  rfl

/-- A run whose file holds no document ends of its own accord exactly if it says why. -/
theorem ending_iff_of_error {error : Document.LoadError}
    (hload : (Document.load job.options.strict bytes).result = .error error) :
    (run invocation).report.ending = .exit 0 ∨ (run invocation).report.ending = .exit 1 ↔
      ReadsWithinLimits bytes := by
  have hloads := Document.loads_load job.options.strict bytes
  rw [hload] at hloads
  rw [← isSome_complaint?_iff hloads]
  cases hcomplaint : complaint? error with
  | none => simp [ending_of_noComplaint hjob hfile hload hcomplaint]
  | some message => simp [(outcome_of_complaint hjob hfile hload hcomplaint).1]

/-- A run whose file holds a document ends of its own accord unless it is to write files, and cannot
print the name of the graph before, or cannot write a file. -/
theorem ending_iff_of_ok {document : Document} {out : String} (hout : job.options.out = some out)
    (hload : (Document.load job.options.strict bytes).result = .ok document)
    (htakes : job.Writes document →
      invocation.tree.TakesAll (.ofString out) (job.workspace document).files) :
    (run invocation).report.ending = .exit 0 ∨ (run invocation).report.ending = .exit 1 ↔
      (job.Writes document →
        invocation.stdout.takes document.graph.name = true ∧ job.Storable out document) := by
  by_cases hwrites : job.Writes document
  · have htaken := htakes hwrites
    have hended := ending_run_of_writes htaken hjob hfile hload hwrites hout
    have hfiles := error_targets_eq_none_iff htaken
    rw [hended, forall_prop_of_true hwrites, ← hfiles]
    cases invocation.stdout.takes document.graph.name with
    | false => simp
    | true => simp [endingAfter_eq_exit_zero_iff, endingAfter_ne_exit_one]
  · refine iff_of_true ?_ fun h => absurd h hwrites
    have hends := ends_of_load hjob hfile hload
    generalize (run invocation).report.ending = ending at hends
    cases hends with
    | oversize => exact .inr rfl
    | shown => exact .inl rfl
    | unprintable h | unplaced h | refused h | written h => exact absurd h hwrites

end Runs

/-- **Reports.** Let a run read its graph file, whatever the bytes are, and let nothing be in the
way of the files that it has to write, if any. It ends of its own accord, well or with an error,
exactly if the bytes are text that is read within the limits of JSON, and, where it has files to
write, the name of the graph can be printed, and the files have paths that are not too long and
texts that have a form in UTF-8. Text that is not JSON and documents with a fault are reported by a
line that says what is wrong. Bytes that are not text are not: the run breaks off. -/
theorem run_reports_iff {invocation : Invocation} {job : Job} {bytes : ByteArray} {out : String}
    (hjob : readJob invocation.arguments invocation.environment = .ok job)
    (hfile : invocation.tree.read job.graphFile = .ok bytes) (hout : job.options.out = some out)
    (htakes : ∀ document, (Document.load job.options.strict bytes).result = .ok document →
      job.Writes document →
        invocation.tree.TakesAll (.ofString out) (job.workspace document).files) :
    let report := (run invocation).report
    (report.ending = .exit 0 ∨ report.ending = .exit 1 ↔
      ReadsWithinLimits bytes ∧
        ∀ document, (Document.load job.options.strict bytes).result = .ok document →
          job.Writes document →
            invocation.stdout.takes document.graph.name = true ∧ job.Storable out document) ∧
    (Document.fileText bytes = none → report.ending = .crash (.document .notText)) ∧
    ∀ text, Document.fileText bytes = some text →
      (∀ problem line column offset,
        Json.parseUnmarked Document.maxFileDepth text =
          .error (.malformed problem line column offset) →
        report.ending = .exit 1 ∧
          report.stderr = asText ["[error] " ++ ("Invalid JSON: " ++
            (Json.ReadError.malformed problem line column offset).message)]) ∧
      (∀ value fault, Json.parseUnmarked Document.maxFileDepth text = .ok value →
        (Document.inspect job.options.strict value).fault = some fault →
        report.ending = .exit 1 ∧
          report.stderr = asText ["[error] " ++
            ("Schema validation failed: " ++ fault.message)]) := by
  intro report
  refine ⟨?_, fun htext => ?_, fun text htext => ⟨?_, ?_⟩⟩
  · cases hload : (Document.load job.options.strict bytes).result with
    | error error => simpa using ending_iff_of_error hjob hfile hload
    | ok document =>
      have hloads := Document.loads_load job.options.strict bytes
      rw [hload] at hloads
      cases hloads with
      | read htext hvalue hgraph =>
        have hwithin := readsWithinLimits_of_ok htext hvalue
        simpa [hwithin] using ending_iff_of_ok hjob hfile hout hload (htakes _ hload)
  · have hload : (Document.load job.options.strict bytes).result = .error .notText := by
      rw [Document.load, htext]
    exact ending_of_noComplaint hjob hfile hload rfl
  · intro problem line column offset hvalue
    have hload : (Document.load job.options.strict bytes).result =
        .error (.notJson (.malformed problem line column offset)) := by
      rw [Document.load, htext]
      simp only [hvalue]
    exact outcome_of_complaint hjob hfile hload rfl
  · intro value fault hvalue hfault
    have hload : (Document.load job.options.strict bytes).result = .error (.faulty fault) := by
      rw [Document.load, htext]
      simp only [hvalue, Document.loadJson, hfault]
    exact outcome_of_complaint hjob hfile hload rfl

/-- A run that writes its files ends of its own accord, and a run on a text that breaks off reports
it. -/
theorem run_reports_iff_namedVault :
    ((run (runOn namedVault [])).report.ending = .exit 0 ∨
      (run (runOn namedVault [])).report.ending = .exit 1) ∧
    (run (runOn "[" [])).report.ending = .exit 1 ∧
    (run (runOn "[" [])).report.stderr =
      asText ["[error] Invalid JSON: Expecting value: line 1 column 2 (char 1)"] := by
  constructor
  · have hdocument : ∀ document,
        (Document.load vaultJob.options.strict namedVault.toUTF8).result = .ok document →
          document = documentOf namedVaultGraph namedVaultDocument := fun document hdocument =>
      Except.ok.inj (hdocument.symm.trans read_namedVault.2)
    obtain ⟨bytes, text, hbytes, htext, hvalue⟩ := reads_namedVault.file
    obtain rfl : namedVault.toUTF8 = bytes := Except.ok.inj (read_namedVault.1.symm.trans hbytes)
    have hreports := run_reports_iff reads_namedVault.asked read_namedVault.1 rfl
      fun document hload _ => by
        rw [hdocument document hload]
        exact takesAll_vault namedVault.toUTF8
    refine hreports.1.2 ⟨readsWithinLimits_of_ok htext hvalue, fun document hload _ => ?_⟩
    rw [hdocument document hload]
    exact ⟨by decide, storable_namedVault⟩
  · have hasked : readJob (runOn "[" []).arguments (runOn "[" []).environment = .ok vaultJob :=
      reads_namedVault.asked
    have hread : (runOn "[" []).tree.read vaultJob.graphFile = .ok "[".toUTF8 :=
      read_graphFileTree _
    have htext : Document.fileText "[".toUTF8 = some (Text.ofString "[") := by decide
    have hvalue : Json.parseUnmarked Document.maxFileDepth (Text.ofString "[") =
        .error (.malformed .expectedValue 1 2 1) := by
      cbv
    have hload : (Document.load vaultJob.options.strict "[".toUTF8).result =
        .error (.notJson (.malformed .expectedValue 1 2 1)) := by
      rw [Document.load, htext]
      simp only [hvalue]
    have hreports := run_reports_iff hasked hread rfl fun document hdocument => by
      rw [hload] at hdocument
      cases hdocument
    obtain ⟨hending, hstderr⟩ := (hreports.2.2 _ htext).1 _ _ _ _ hvalue
    refine ⟨hending, hstderr.trans ?_⟩
    decide

/-- One byte that no text holds. -/
def strayByte : ByteArray := ⟨#[0xFF]⟩

/-- A run on a file of that byte. -/
def strayRun : Invocation := ⟨["g.json"], [], .strict, graphFileTree strayByte⟩

/-- The run breaks off, though nothing out of the ordinary is asked for, and nothing is in the way
of the files of a workspace. -/
theorem not_reported_strayByte :
    readJob strayRun.arguments strayRun.environment = .ok vaultJob ∧
    strayRun.tree.read vaultJob.graphFile = .ok strayByte ∧
    (∀ path above file, NamesFile path above file →
      strayRun.tree.Takes ((FilePath.ofString "anchor_out").append (.ofString path))) ∧
    (run strayRun).report.ending = .crash (.document .notText) ∧
    (run strayRun).report.stderr = [] := by
  have hasked : readJob strayRun.arguments strayRun.environment = .ok vaultJob :=
    reads_namedVault.asked
  have hfile : strayRun.tree.read vaultJob.graphFile = .ok strayByte := read_graphFileTree _
  have hload : (Document.load vaultJob.options.strict strayByte).result = .error .notText := by
    have htext : Document.fileText strayByte = none := by decide
    rw [Document.load, htext]
  refine ⟨hasked, hfile, fun _ _ _ h => takes_graphFileTree strayByte h, ?_⟩
  rw [run_of_rejected hasked hfile hload]
  exact ⟨rfl, rfl⟩

end CommandLine

end ModuleGraph
