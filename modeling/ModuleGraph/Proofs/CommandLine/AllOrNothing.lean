import ModuleGraph.Proofs.CommandLine.Containment
import ModuleGraph.Proofs.CommandLine.OutputDirectory
import ModuleGraph.Proofs.CommandLine.Runs

/-!
# Runs that write everything or nothing

What a run writes is planned as a whole before anything is written. A run that ends with an error of
its own has written nothing, nor has one that prints. One that ends well without printing has
written every file of the workspace, each at the place that its path leads to below the output
directory, and nothing else.

## Main definitions

- `Job.Writes` — a job that writes files for a document
- `Job.Storable` — files that can be written where nothing is in their way
- `Job.Decides`, `Job.Ends` — how a job is planned to end, and how a run ends

## Main statements

- `decides_plan` — the plan of a job, by what is found in its graph file
- `ends_of_load` — how a run ends that loads a document
- `all_or_nothing` — what a run leaves of the files there were
-/

namespace ModuleGraph.CommandLine

/-! ### Decisions -/

namespace Job

/-- A job that writes files for a document: it neither analyses nor prints, and the graph is within
the limits. -/
structure Writes (job : Job) (document : Document) : Prop where
  analyze : job.options.analyze = false
  print : job.options.print = false
  size : job.settings.checkSize document.graph = .ok ()

/-- The files that a job writes for a document can be written where nothing is in their way: no path
is too long, and the names of the nodes that come into the texts have a form in UTF-8. -/
structure Storable (job : Job) (out : String) (document : Document) : Prop where
  fits : ∀ path ∈ (job.workspace document).files.map (·.1),
    ((FilePath.ofString out).append (.ofString path)).Fits
  names : ∀ node ∈ document.graph.nodes, node.isAccount = false → node.name.hasHalf = false

end Job

/-- How a run ends whose targets are refused. -/
def Refusal.ending : Refusal → Ending
  | nulCharacter => .crash (.file .nulCharacter)
  | outside _ => .exit 1

/-- How a job is planned to end, and what it delivers, by what is found in its graph file and what
can be printed. -/
inductive Job.Decides (job : Job) (stdout : Stdout) (make : Compiler) :
    Except FileError ByteArray → Ending → Option Delivery → Prop
  | unread (error : FileError) :
    Decides job stdout make (.error error) (unreadable job.graphFile error).ending none
  | rejected {bytes : ByteArray} {error : Document.LoadError}
    (hload : (Document.load job.options.strict bytes).result = .error error) :
    Decides job stdout make (.ok bytes) (rejection error).ending none
  | oversize {bytes : ByteArray} {document : Document} {error : SizeError}
    (hload : (Document.load job.options.strict bytes).result = .ok document)
    (hsize : job.settings.checkSize document.graph = .error error) :
    Decides job stdout make (.ok bytes) (.exit 1) none
  | analyzed {bytes : ByteArray} {document : Document}
    (hload : (Document.load job.options.strict bytes).result = .ok document)
    (hanalyze : job.options.analyze = true) :
    Decides job stdout make (.ok bytes) (.exit 0) none
  | printed {bytes : ByteArray} {document : Document}
    (hload : (Document.load job.options.strict bytes).result = .ok document)
    (hprint : job.options.print = true) :
    Decides job stdout make (.ok bytes)
      (if stdout.takes (make document.graph
          (requestedName job.settings job.options document)).workspace.crateRoot then .exit 0
        else .crash .unprintable) none
  | unprintable {bytes : ByteArray} {document : Document}
    (hload : (Document.load job.options.strict bytes).result = .ok document)
    (hwrites : job.Writes document) (hname : stdout.takes document.graph.name = false) :
    Decides job stdout make (.ok bytes) (.crash .unprintable) none
  | unplaced {bytes : ByteArray} {document : Document}
    (hload : (Document.load job.options.strict bytes).result = .ok document)
    (hwrites : job.Writes document) (hname : stdout.takes document.graph.name = true)
    (hout : job.options.out = none) :
    Decides job stdout make (.ok bytes) (.crash .unusableOut) none
  | refused {bytes : ByteArray} {document : Document} {out : String} {refusal : Refusal}
    (hload : (Document.load job.options.strict bytes).result = .ok document)
    (hwrites : job.Writes document) (hname : stdout.takes document.graph.name = true)
    (hout : job.options.out = some out)
    (hrefused : checkTargets (.ofString out)
      ((make document.graph (requestedName job.settings job.options document)).workspace.files.map
        (·.1)) = .error refusal) :
    Decides job stdout make (.ok bytes) refusal.ending none
  | delivered {bytes : ByteArray} {document : Document} {out : String}
    (hload : (Document.load job.options.strict bytes).result = .ok document)
    (hwrites : job.Writes document) (hname : stdout.takes document.graph.name = true)
    (hout : job.options.out = some out) :
    Decides job stdout make (.ok bytes) (.exit 0) (some ⟨.ofString out,
      (make document.graph (requestedName job.settings job.options document)).workspace.files⟩)

theorem gist_deliver (out : FilePath) (files : FileMap) :
    (deliver out files).gist =
      match checkTargets out (files.map (·.1)) with
      | .ok () => (.exit 0, some ⟨out, files⟩)
      | .error refusal => (refusal.ending, none) := by
  rw [deliver]
  cases checkTargets out (files.map (·.1)) with
  | ok checked => rfl
  | error refusal => cases refusal <;> rfl

section Plans

variable {job : Job} {stdout : Stdout} {make : Compiler} {bytes : ByteArray} {document : Document}

/-- The plan for a document within the limits that is not to be analysed. -/
theorem decides_compileDocument
    (hload : (Document.load job.options.strict bytes).result = .ok document)
    (hsize : job.settings.checkSize document.graph = .ok ())
    (hanalyze : job.options.analyze = false) :
    let plan := compileDocument stdout make job.settings job.options document
    job.Decides stdout make (.ok bytes) plan.gist.1 plan.gist.2 := by
  dsimp only
  cases hprint : job.options.print with
  | true =>
    rw [gist_compileDocument (.inl hprint), gist_present, if_pos hprint]
    exact .printed hload hprint
  | false =>
    have hwrites : job.Writes document := ⟨hanalyze, hprint, hsize⟩
    cases hname : stdout.takes document.graph.name with
    | false =>
      rw [gist_compileDocument_of_refuses hprint hname]
      exact .unprintable hload hwrites hname
    | true =>
      rw [gist_compileDocument (.inr hname), gist_present, hprint]
      cases hout : job.options.out with
      | none => exact .unplaced hload hwrites hname hout
      | some out =>
        simp only [Bool.false_eq_true, if_false, gist_deliver]
        cases hchecked : checkTargets (.ofString out) ((make document.graph
            (requestedName job.settings job.options document)).workspace.files.map (·.1)) with
        | ok checked => exact .delivered hload hwrites hname hout
        | error refusal => exact .refused hload hwrites hname hout hchecked

theorem decides_plan (job : Job) (stdout : Stdout) (make : Compiler)
    (contents : Except FileError ByteArray) :
    let plan := job.plan stdout make contents
    job.Decides stdout make contents plan.gist.1 plan.gist.2 := by
  cases contents with
  | error error => exact .unread error
  | ok bytes =>
    cases hload : (Document.load job.options.strict bytes).result with
    | error error =>
      simp only [Job.plan, handleBytes, hload]
      exact .rejected hload
    | ok document =>
      have hgist : (job.plan stdout make (.ok bytes)).gist =
          (handleDocument stdout make job.settings job.options document).gist := by
        simp only [Job.plan, handleBytes, hload]
        rfl
      simp only [hgist, handleDocument]
      cases hsize : job.settings.checkSize document.graph with
      | error error => exact .oversize hload hsize
      | ok size =>
        cases hanalyze : job.options.analyze with
        | true =>
          simp only [if_true, analysisReport_eq]
          exact .analyzed hload hanalyze
        | false =>
          simp only [Bool.false_eq_true, if_false]
          exact decides_compileDocument hload hsize hanalyze

end Plans

/-- How a run ends that loads a document: it is not to write files, or the name of the graph cannot
be printed, or it does not know where to write, or the files are refused, or they are written one
after the other. -/
inductive Job.Ends (job : Job) (stdout : Stdout) (tree : FileTree) (document : Document) :
    Ending → Prop
  | oversize {error : SizeError} (hsize : job.settings.checkSize document.graph = .error error) :
    Ends job stdout tree document (.exit 1)
  | shown (hshows : job.options.analyze = true ∨ job.options.print = true) :
    Ends job stdout tree document (.exit 0)
  | unprintable (hwrites : job.Writes document) (hname : stdout.takes document.graph.name = false) :
    Ends job stdout tree document (.crash .unprintable)
  | unplaced (hwrites : job.Writes document) (hout : job.options.out = none) :
    Ends job stdout tree document (.crash .unusableOut)
  | refused {out : String} {refusal : Refusal} (hwrites : job.Writes document)
    (hname : stdout.takes document.graph.name = true) (hout : job.options.out = some out)
    (hrefused : checkTargets (.ofString out) ((job.workspace document).files.map (·.1)) =
      .error refusal) :
    Ends job stdout tree document refusal.ending
  | written {out : String} (hwrites : job.Writes document)
    (hname : stdout.takes document.graph.name = true) (hout : job.options.out = some out) :
    Ends job stdout tree document (endingAfter
      (writeFiles tree (Delivery.targets ⟨.ofString out, (job.workspace document).files⟩)).error)

theorem ending_unreadable_ne (path : FilePath) (error : FileError) :
    (unreadable path error).ending ≠ .exit 0 := by
  cases error <;> simp [unreadable, Report.crashed, Report.failed, Report.silent]

theorem ending_rejection_ne (error : Document.LoadError) : (rejection error).ending ≠ .exit 0 := by
  rw [rejection]
  split <;> simp [Report.crashed, Report.failed, Report.silent]

namespace Job.Decides

variable {job : Job} {stdout : Stdout} {make : Compiler} {contents : Except FileError ByteArray}
  {ending : Ending}

/-- A plan that delivers files is one to write the files for a document, and ends well. -/
theorem of_some {delivery : Delivery}
    (h : job.Decides stdout make contents ending (some delivery)) :
    ending = .exit 0 ∧ ∃ bytes document out, contents = .ok bytes ∧
      (Document.load job.options.strict bytes).result = .ok document ∧ job.Writes document ∧
      stdout.takes document.graph.name = true ∧ job.options.out = some out ∧
      delivery = ⟨.ofString out, (make document.graph
        (requestedName job.settings job.options document)).workspace.files⟩ := by
  cases h with
  | delivered hload hwrites hname hout =>
    exact ⟨rfl, _, _, _, rfl, hload, hwrites, hname, hout, rfl⟩

/-- A plan that delivers nothing ends well only if it analyses or prints. -/
theorem shows_of_none (h : job.Decides stdout make contents ending none)
    (hending : ending = .exit 0) : job.options.analyze = true ∨ job.options.print = true := by
  cases h with
  | unread error => exact absurd hending (ending_unreadable_ne job.graphFile error)
  | rejected hload => exact absurd hending (ending_rejection_ne _)
  | analyzed hload hanalyze => exact .inl hanalyze
  | printed hload hprint => exact .inr hprint
  | @refused _ _ _ refusal => cases refusal <;> cases hending
  | oversize | unprintable | unplaced => cases hending

end Job.Decides

/-! ### Runs -/

section Runs

variable {invocation : Invocation} {job : Job}
  (hjob : readJob invocation.arguments invocation.environment = .ok job)

include hjob

/-- What a run leaves: nothing has changed if its plan delivers nothing, and else files have been
written one after the other. -/
theorem runWith_cases (make : Compiler) :
    let contents := invocation.tree.read job.graphFile
    (∃ ending, job.Decides invocation.stdout make contents ending none ∧
      (runWith make invocation).report.ending = ending ∧
      (runWith make invocation).tree = invocation.tree) ∨
    ∃ delivery, job.Decides invocation.stdout make contents (.exit 0) (some delivery) ∧
      (runWith make invocation).report.ending =
        endingAfter (writeFiles invocation.tree delivery.targets).error ∧
      (runWith make invocation).tree = (writeFiles invocation.tree delivery.targets).tree := by
  intro contents
  have hdecides := decides_plan job invocation.stdout make contents
  have hrun : runWith make invocation = (job.plan invocation.stdout make contents).carryOut
      invocation.stdout invocation.tree := by
    rw [runWith, hjob]
  rw [hrun, Plan.carryOut]
  simp only [Plan.gist] at hdecides
  cases hdelivery : (job.plan invocation.stdout make contents).delivery with
  | none =>
    rw [hdelivery] at hdecides
    exact .inl ⟨_, hdecides, rfl, rfl⟩
  | some delivery =>
    rw [hdelivery] at hdecides
    have hending := hdecides.of_some.1
    rw [hending] at hdecides
    refine .inr ⟨delivery, hdecides, ?_, rfl⟩
    apply ending_conclude
    exact hending

theorem tree_of_exit_one {make : Compiler}
    (hending : (runWith make invocation).report.ending = .exit 1) :
    (runWith make invocation).tree = invocation.tree := by
  obtain ⟨_, -, -, htree⟩ | ⟨delivery, -, hdelivered, -⟩ := runWith_cases hjob make
  · exact htree
  · exact absurd (hdelivered.symm.trans hending) (endingAfter_ne_exit_one _)

theorem tree_of_shows (hshows : job.options.analyze = true ∨ job.options.print = true)
    (make : Compiler) : (runWith make invocation).tree = invocation.tree := by
  obtain ⟨_, -, -, htree⟩ | ⟨delivery, hdecides, -, -⟩ := runWith_cases hjob make
  · exact htree
  · obtain ⟨-, _, _, _, -, -, hwrites, -⟩ := hdecides.of_some
    simp [hwrites.analyze, hwrites.print] at hshows

/-- A run that writes files for a document and ends well has written all of them. -/
theorem written_of_exit_zero (hanalyze : job.options.analyze = false)
    (hprint : job.options.print = false) (hending : (run invocation).report.ending = .exit 0) :
    ∃ out bytes document, job.options.out = some out ∧
      invocation.tree.read job.graphFile = .ok bytes ∧
      (Document.load job.options.strict bytes).result = .ok document ∧
      Written invocation.tree (run invocation).tree (.ofString out)
        (job.workspace document).files := by
  rw [run] at hending ⊢
  obtain ⟨ending, hdecides, hended, -⟩ | ⟨delivery, hdecides, hended, htree⟩ :=
    runWith_cases hjob compiler
  · have hshows := hdecides.shows_of_none (hended.symm.trans hending)
    simp [hanalyze, hprint] at hshows
  · obtain ⟨-, bytes, document, out, hbytes, hload, -, -, hout, rfl⟩ := hdecides.of_some
    refine ⟨out, bytes, document, hout, hbytes, hload, ?_⟩
    rw [htree]
    refine written_writeFiles (spells_compile _ _ _) (nodup_below _ _ _ _) ?_
    rw [hended] at hending
    exact endingAfter_eq_exit_zero_iff.1 hending

/-- A run that loads a document. -/
theorem ends_of_load {bytes : ByteArray} {document : Document}
    (hfile : invocation.tree.read job.graphFile = .ok bytes)
    (hload : (Document.load job.options.strict bytes).result = .ok document) :
    job.Ends invocation.stdout invocation.tree document (run invocation).report.ending := by
  have hsame : ∀ other, (Document.load job.options.strict bytes).result = .ok other →
      other = document := by
    intro other hother
    exact Except.ok.inj (hother.symm.trans hload)
  obtain ⟨_, hdecides, hended, -⟩ | ⟨delivery, hdecides, hended, -⟩ := runWith_cases hjob compiler
  · rw [hfile] at hdecides
    rw [run, hended]
    cases hdecides with
    | rejected hother => rw [hload] at hother; cases hother
    | oversize hother hsize =>
      obtain rfl := hsame _ hother
      exact .oversize hsize
    | analyzed hother hanalyze => exact .shown (.inl hanalyze)
    | printed hother hprint =>
      rw [if_pos (takes_crateRoot _ _)]
      exact .shown (.inr hprint)
    | unprintable hother hwrites hname =>
      obtain rfl := hsame _ hother
      exact .unprintable hwrites hname
    | unplaced hother hwrites hname hout =>
      obtain rfl := hsame _ hother
      exact .unplaced hwrites hout
    | refused hother hwrites hname hout hrefused =>
      obtain rfl := hsame _ hother
      exact .refused hwrites hname hout hrefused
  · obtain ⟨-, _, other, out, hbytes, hother, hwrites, hname, hout, rfl⟩ := hdecides.of_some
    obtain rfl : bytes = _ := Except.ok.inj (hfile.symm.trans hbytes)
    obtain rfl := hsame _ hother
    rw [run, hended]
    exact .written hwrites hname hout

end Runs

/-! ### Runs that write files -/

/-- Nothing is in the way of files below a directory. -/
def FileTree.TakesAll (tree : FileTree) (out : FilePath) (files : FileMap) : Prop :=
  ∀ path ∈ files.map (·.1), tree.Takes (out.append (.ofString path))

section Writing

variable {invocation : Invocation} {job : Job} {bytes : ByteArray} {document : Document}
  {out : String}

theorem manifest_mem_files (workspace : Workspace Text) :
    ("Anchor.toml", workspace.workspaceManifest) ∈ workspace.files :=
  FileMap.mem_of_lookup workspace.lookup_manifest

theorem workspaceManifest_workspace (job : Job) (document : Document) :
    (job.workspace document).workspaceManifest = Source.workspaceManifest
      (programNameOf (some (requestedName job.settings job.options document))) := by
  have hprogram : ∀ name nodes connections,
      (buildSchedule (L := Text) name nodes connections).programName = name := fun _ _ _ => rfl
  rw [Job.workspace, compile, emit, hprogram]

theorem forall_targets_iff {out : FilePath} {files : FileMap} {p : FilePath → Text → Prop} :
    (∀ file ∈ Delivery.targets ⟨out, files⟩, p file.1 file.2) ↔
      ∀ file ∈ files, p (out.append (.ofString file.1)) file.2 :=
  List.forall_mem_map

theorem storable_iff :
    job.Storable out document ↔
      ∀ file ∈ Delivery.targets ⟨.ofString out, (job.workspace document).files⟩,
        file.1.Fits ∧ file.2.hasHalf = false := by
  have hnames : (∀ file ∈ (job.workspace document).files, file.2.hasHalf = false) ↔
      ∀ node ∈ document.graph.nodes, node.isAccount = false → node.name.hasHalf = false :=
    hasHalf_files_iff document.graph.nodes document.graph.connections _
  have hfiles := @forall_targets_iff (.ofString out) (job.workspace document).files
    fun path text => path.Fits ∧ text.hasHalf = false
  rw [hfiles, forall₂_and, hnames]
  constructor
  · rintro ⟨hfits, hnames⟩
    exact ⟨fun file hfile => hfits file.1 (List.mem_map_of_mem hfile), hnames⟩
  · rintro ⟨hfits, hnames⟩
    refine ⟨fun path hpath => ?_, hnames⟩
    obtain ⟨file, hfile, rfl⟩ := List.mem_map.1 hpath
    exact hfits file hfile

variable (htakes : invocation.tree.TakesAll (.ofString out) (job.workspace document).files)

include htakes

/-- Where nothing is in the way of the files, none of them is refused. -/
theorem checkTargets_of_takes :
    checkTargets (.ofString out) ((job.workspace document).files.map (·.1)) = .ok () := by
  have hspells := spells_compile document.graph.nodes document.graph.connections
    (some (requestedName job.settings job.options document))
  refine checkTargets_of_noNul hspells ?_
  have hmanifest :=
    List.mem_map_of_mem (f := Prod.fst) (manifest_mem_files (job.workspace document))
  obtain ⟨names, hnames⟩ := hspells _ hmanifest
  rw [← holdsNul_append hnames]
  exact (htakes _ hmanifest).noNul

/-- Where nothing is in the way of the files, they are all written if they can be. -/
theorem error_targets_eq_none_iff :
    (writeFiles invocation.tree
      (Delivery.targets ⟨.ofString out, (job.workspace document).files⟩)).error = none ↔
        job.Storable out document := by
  have hpaths : (Delivery.targets ⟨.ofString out, (job.workspace document).files⟩).map (·.1) =
      ((job.workspace document).files.map (·.1)).map
        fun path => (FilePath.ofString out).append (.ofString path) := by
    simp [Delivery.targets, Delivery.target]
  have hnames := namesFile_compile document.graph.nodes document.graph.connections
    (some (requestedName job.settings job.options document))
  rw [storable_iff]
  refine error_writeFiles_eq_none_iff ?_ ?_ <;> rw [hpaths]
  · exact List.forall_mem_map.2 htakes
  · refine List.forall_mem_map.2 fun path hpath => List.forall_mem_map.2 fun other hother => ?_
    obtain ⟨above, file, hfile⟩ := hnames path hpath
    obtain ⟨otherAbove, otherFile, hotherFile⟩ := hnames other hother
    have hapart := (htakes other hother).apart
    rw [FilePath.leadsThrough_parent_append hotherFile.spells,
      location_append_eq_below hotherFile.spells] at hapart
    rw [FilePath.leadsThrough_parent_append hfile.spells,
      location_append_eq_below hotherFile.spells]
    exact not_onWay_below hfile hotherFile fun hthrough => hapart (.inl hthrough)

/-- How a run ends that writes files where nothing is in their way. -/
theorem ending_run_of_writes
    (hjob : readJob invocation.arguments invocation.environment = .ok job)
    (hfile : invocation.tree.read job.graphFile = .ok bytes)
    (hload : (Document.load job.options.strict bytes).result = .ok document)
    (hwrites : job.Writes document) (hout : job.options.out = some out) :
    (run invocation).report.ending =
      if invocation.stdout.takes document.graph.name then
        endingAfter (writeFiles invocation.tree
          (Delivery.targets ⟨.ofString out, (job.workspace document).files⟩)).error
      else .crash .unprintable := by
  have hends := ends_of_load hjob hfile hload
  generalize (run invocation).report.ending = ending at hends
  cases hends with
  | oversize hsize =>
    rw [hwrites.size] at hsize
    cases hsize
  | shown hshows => simp [hwrites.analyze, hwrites.print] at hshows
  | unprintable _ hname => rw [hname]; rfl
  | unplaced _ hnone =>
    rw [hout] at hnone
    cases hnone
  | refused _ _ hother hrefused =>
    obtain rfl := Option.some.inj (hout.symm.trans hother)
    cases hrefused.symm.trans (checkTargets_of_takes htakes)
  | written _ hname hother =>
    obtain rfl := Option.some.inj (hout.symm.trans hother)
    rw [if_pos hname]

end Writing

/-- **All or nothing.** A run that ends with an error of its own leaves the files as they were, and
so does one that is to analyse or to print, whatever makes the workspace. If one that is to do
neither ends well, it has read a document. Every file of the workspace of this document is then at
the place that its path leads to below the output directory, and holds its text; the directories on
the way to the files have been made, and nothing else has changed. -/
theorem all_or_nothing {invocation : Invocation} {job : Job}
    (hjob : readJob invocation.arguments invocation.environment = .ok job) :
    (∀ make, (runWith make invocation).report.ending = .exit 1 →
      (runWith make invocation).tree = invocation.tree) ∧
    (job.options.analyze = true ∨ job.options.print = true → ∀ make,
      (runWith make invocation).tree = invocation.tree) ∧
    (job.options.analyze = false → job.options.print = false →
      (run invocation).report.ending = .exit 0 →
      ∃ out bytes document, job.options.out = some out ∧
        invocation.tree.read job.graphFile = .ok bytes ∧
        (Document.load job.options.strict bytes).result = .ok document ∧
        Written invocation.tree (run invocation).tree (.ofString out)
          (job.workspace document).files) :=
  ⟨fun _ hending => tree_of_exit_one hjob hending, tree_of_shows hjob,
    written_of_exit_zero hjob⟩

/-! ### A run on one file -/

/-- A tree that holds a graph file and nothing else. -/
def graphFileTree (contents : ByteArray) : FileTree :=
  FileTree.empty.addFile ⟨some 0, ["g.json"]⟩ contents

theorem read_graphFileTree (contents : ByteArray) :
    (graphFileTree contents).read ⟨"", ["g.json"]⟩ = .ok contents :=
  rfl

theorem entry_graphFileTree (contents : ByteArray) (place : Location) :
    (graphFileTree contents).entry place =
      if place = ⟨some 0, ["g.json"]⟩ then .file contents
      else if place.names.isEmpty then .directory else .nothing := by
  have hempty : ∀ place : Location, FileTree.empty.entry place =
      if place.names.isEmpty then .directory else .nothing := by
    intro place
    simp [FileTree.entry, FileTree.empty, FileTree.isDirectory]
  rw [graphFileTree, FileTree.entry_addFile, hempty]
  rintro above ⟨-, name, hname⟩
  have hnames : above.names = [] := by
    have hlength := hname.length_le
    simpa using hlength
  simp [hempty, hnames]

theorem spells_anchorOut : Spells "anchor_out" ["anchor_out"] := by
  have hdown : LeadsDown "anchor_out" := by constructor <;> decide
  exact ⟨by simp, by simpa using hdown, by simp⟩

/-- Nothing is in the way of the files of a workspace in such a tree. -/
theorem takes_graphFileTree (contents : ByteArray) {path file : String} {above : List String}
    (h : NamesFile path above file) :
    (graphFileTree contents).Takes ((FilePath.ofString "anchor_out").append (.ofString path)) := by
  rw [spells_anchorOut.ofString_eq]
  refine takes_target_of_empty h spells_anchorOut.down ?_ ?_
  · intro place hplace contents
    have hplace : (FilePath.mk "" ([] ++ ["anchor_out"])).LeadsThrough place := hplace
    rcases FilePath.leadsThrough_concat.1 hplace with hplace | rfl
    · rw [FilePath.leadsThrough_nil.1 hplace, entry_graphFileTree]
      exact Entry.noConfusion
    · rw [entry_graphFileTree]
      exact Entry.noConfusion
  · intro names hnames
    have hplace : (FilePath.mk "" ["anchor_out"]).location = ⟨some 0, ["anchor_out"]⟩ := by decide
    rw [entry_graphFileTree, hplace]
    simp

/-- One node, and the name of the program. -/
def namedVault : String :=
  "\x7b\"programName\":\"Vault\",\"nodes\":[\x7b\"id\":\"a\",\"type\":\"token\",\"name\":\"Mint\"\x7d],\"connections\":[]\x7d"

/-- The document in that text. -/
def namedVaultDocument : Json :=
  .object [("programName", .string "Vault"), ("nodes", .array [.object
      [("id", .string "a"), ("type", .string "token"), ("name", .string "Mint")]]),
    ("connections", .array [])]

/-- The graph of that document. -/
def namedVaultGraph : Graph Text := ⟨untitled, [⟨"a", "token", "Mint", [], []⟩], []⟩

/-- The manifest of its workspace. -/
def vaultManifest : String :=
  String.join (["[features]", "seeds = false", "skip-lint = false", "", "[programs.localnet]",
    "vault = \"Fg6PaFpoGXkYsidMpWTK6W2BeZ7FEfcYkg476zPFsLnS\"", "", "[registry]",
    "url = \"https://api.apr.dev\"", "", "[provider]", "cluster = \"Localnet\"",
    "wallet = \"~/.config/solana/id.json\"", "", "[scripts]",
    "test = \"yarn run ts-mocha -p ./tsconfig.json -t 1000000 tests/**/*.ts\""].map (· ++ "\n"))

/-- What a run on that document asks for. -/
def vaultJob : Job := jobOn { Options.default with graphFile := some "g.json" }

theorem reads_namedVault : (runOn namedVault []).Reads vaultJob namedVaultDocument :=
  reads_runOn (by decide) rfl (read_graphFileTree _) (by decide) (by cbv)

theorem accepted_namedVault : (Document.inspect false namedVaultDocument).accepted = true := by
  decide

theorem eq_namedVaultGraph {graph : Graph Text}
    (h : Document.DenotesGraph namedVaultDocument graph) : graph = namedVaultGraph := by
  have hdecoded : (Document.decodeGraph namedVaultDocument).toOption = some namedVaultGraph := by
    decide
  rw [Document.decodeGraph_eq_ok h] at hdecoded
  exact Option.some.inj hdecoded

theorem read_namedVault :
    (runOn namedVault []).tree.read vaultJob.graphFile = .ok namedVault.toUTF8 ∧
    (Document.load vaultJob.options.strict namedVault.toUTF8).result =
      .ok (documentOf namedVaultGraph namedVaultDocument) := by
  have hread : (runOn namedVault []).tree.read vaultJob.graphFile = .ok namedVault.toUTF8 :=
    read_graphFileTree _
  obtain ⟨graph, hgraph, -, -⟩ := Document.accepted_iff.1 accepted_namedVault
  obtain rfl := eq_namedVaultGraph hgraph
  obtain ⟨bytes, text, hbytes, htext, hvalue⟩ := reads_namedVault.file
  obtain rfl : namedVault.toUTF8 = bytes := Except.ok.inj (hread.symm.trans hbytes)
  have hload := Document.load_eq_ok htext hvalue accepted_namedVault hgraph
  exact ⟨hread, congrArg Document.Loaded.result hload⟩

theorem takesAll_vault (contents : ByteArray) :
    (graphFileTree contents).TakesAll (.ofString "anchor_out")
      (vaultJob.workspace (documentOf namedVaultGraph namedVaultDocument)).files := by
  intro path hpath
  obtain ⟨above, file, h⟩ := namesFile_compile _ _ _ path hpath
  exact takes_graphFileTree contents h

theorem storable_namedVault :
    vaultJob.Storable "anchor_out" (documentOf namedVaultGraph namedVaultDocument) where
  fits := by
    simp only [FilePath.fits_iff, FilePath.ofString, splitOn_slash]
    decide
  names := by decide

theorem ending_namedVault : (run (runOn namedVault [])).report.ending = .exit 0 := by
  have hwrites : vaultJob.Writes (documentOf namedVaultGraph namedVaultDocument) :=
    ⟨rfl, rfl, by decide⟩
  have htakes : (runOn namedVault []).tree.TakesAll (.ofString "anchor_out")
      (vaultJob.workspace (documentOf namedVaultGraph namedVaultDocument)).files :=
    takesAll_vault namedVault.toUTF8
  have hname : (runOn namedVault []).stdout.takes
      (documentOf namedVaultGraph namedVaultDocument).graph.name = true := by decide
  rw [ending_run_of_writes htakes reads_namedVault.asked read_namedVault.1 read_namedVault.2
    hwrites rfl, if_pos hname, (error_targets_eq_none_iff htakes).2 storable_namedVault]
  rfl

theorem vaultManifest_mem_files : ("Anchor.toml", Text.ofString vaultManifest) ∈
    (vaultJob.workspace (documentOf namedVaultGraph namedVaultDocument)).files := by
  have hprogram : programNameOf (some (requestedName vaultJob.settings vaultJob.options
      (documentOf namedVaultGraph namedVaultDocument))) = "vault" := by decide
  have hline : "vault" ++ " = \"" ++ Source.programId ++ "\"" =
      "vault = \"Fg6PaFpoGXkYsidMpWTK6W2BeZ7FEfcYkg476zPFsLnS\"" := by simp [Source.programId]
  have hmanifest := manifest_mem_files
    (vaultJob.workspace (documentOf namedVaultGraph namedVaultDocument))
  rw [workspaceManifest_workspace, hprogram, Source.workspaceManifest, hline] at hmanifest
  exact hmanifest

theorem below_anchorOut (path : String) :
    (FilePath.ofString "anchor_out").below path = ⟨some 0, "anchor_out" :: path.splitOn "/"⟩ := by
  rw [spells_anchorOut.ofString_eq]
  rfl

theorem below_manifest :
    (FilePath.ofString "anchor_out").below "Anchor.toml" =
      ⟨some 0, ["anchor_out", "Anchor.toml"]⟩ := by
  rw [below_anchorOut, spells_manifest.splitOn_eq]

/-- The run writes the manifest of the workspace, and leaves the graph file as it was. -/
theorem all_or_nothing_namedVault :
    readJob (runOn namedVault []).arguments (runOn namedVault []).environment = .ok vaultJob ∧
    (run (runOn namedVault [])).report.ending = .exit 0 ∧
    (run (runOn namedVault [])).tree.entry ⟨some 0, ["anchor_out", "Anchor.toml"]⟩ =
      .file vaultManifest.toUTF8 ∧
    (run (runOn namedVault [])).tree.entry ⟨some 0, ["g.json"]⟩ = .file namedVault.toUTF8 := by
  obtain ⟨-, -, hwritten⟩ := all_or_nothing reads_namedVault.asked
  obtain ⟨out, bytes, document, hout, hread, hload, hfiles⟩ :=
    hwritten rfl rfl ending_namedVault
  obtain rfl : "anchor_out" = out := Option.some.inj hout
  obtain rfl : namedVault.toUTF8 = bytes := Except.ok.inj (read_namedVault.1.symm.trans hread)
  obtain rfl := Except.ok.inj (read_namedVault.2.symm.trans hload)
  refine ⟨reads_namedVault.asked, ending_namedVault, ?_, ?_⟩
  · obtain ⟨bytes, hbytes, hfile⟩ := hfiles.file _ _ vaultManifest_mem_files
    rw [Text.bytes?_ofString] at hbytes
    obtain rfl := Option.some.inj hbytes
    rwa [below_manifest] at hfile
  · have hgraphFile : (runOn namedVault []).tree.entry ⟨some 0, ["g.json"]⟩ =
        .file namedVault.toUTF8 := rfl
    refine hfiles.entry_of_file hgraphFile fun hplace => ?_
    obtain ⟨file, -, hbelow⟩ := List.mem_map.1 hplace
    rw [below_anchorOut] at hbelow
    simp at hbelow

end ModuleGraph.CommandLine
