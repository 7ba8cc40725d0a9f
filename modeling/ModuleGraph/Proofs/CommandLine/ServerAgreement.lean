import ModuleGraph.Proofs.Api.Bodies
import ModuleGraph.Proofs.Api.Sending
import ModuleGraph.Proofs.Attempts
import ModuleGraph.Proofs.CommandLine.AllOrNothing

/-!
# The command line and the server

A document is compiled and analysed to the same effect on the command line and by the server, though
each reads it in its own way, looks for the name of the program in its own places, and has its own
words for what goes wrong.

## Main definitions

- `nameGiven?` — the name that the arguments or the document give to the program
- `Brings` — a request that brings a document along

## Main statements

- `answerTo_generate`, `answerTo_analyze` — what the server answers
- `analysis_not_sent_halfIdentified` — an analysis that is printed and cannot be sent
- `command_line_agrees_with_server` — both agree, up to what cannot be sent
-/

namespace ModuleGraph

/-- Texts by path are told from their JSON value. -/
theorem FileMap.encode_injective : Function.Injective FileMap.encode := by
  have hfile : Function.Injective fun file : String × Text =>
      (Text.ofString file.1, Json.string file.2) := by
    rintro ⟨path, text⟩ ⟨other, otherText⟩ hsame
    obtain ⟨hpath, htext⟩ := Prod.mk.inj hsame
    exact Prod.ext (Text.ofString_injective hpath) (Json.string.inj htext)
  intro files others hsame
  exact hfile.list_map (Json.object.inj hsame)

namespace CommandLine

open Api (given? generateGraph analyzeGraph answerTo handle payloadJson TypedNodes)

/-! ### Names of programs -/

/-- The name that the arguments give to the program, or else the document, if one of them gives a
name that says anything. -/
def nameGiven? (options : Options) (document : Json) : Option Text :=
  given? (options.programName.map Text.ofString) <|>
    given? ((document.field? "programName").bind Json.asText?)

theorem orElse_getD (name : Option Text) (fallback : Text) :
    Text.orElse (name.getD []) fallback = (given? name).getD fallback := by
  cases name with
  | none => rfl
  | some text => cases text <;> rfl

theorem given?_given? (name : Option Text) : given? (given? name) = given? name := by
  rw [given?, given?, Option.filter_filter]
  simp

/-- The server, asked for the name that is given here, comes to the name that the run asks for. -/
theorem requestedName_eq (settings : Settings) (options : Options) (graph : Graph Text)
    (value : Json) :
    requestedName settings options (documentOf graph value) =
      (given? (nameGiven? options value)).getD settings.programName := by
  have hoption : Text.ofString (options.programName.getD "") =
      (options.programName.map Text.ofString).getD [] := by
    cases options.programName <;> rfl
  rw [requestedName, hoption, orElse_getD, orElse_getD, nameGiven?]
  -- the name of the document counts only if the arguments give none
  cases hgiven : given? (options.programName.map Text.ofString) with
  | none => simp [documentOf, given?_given?]
  | some name =>
    have hsame : given? (some name) = some name := by rw [← hgiven, given?_given?]
    simp [hsame]

/-! ### Answers -/

/-- A request that brings a document along as its graph. -/
structure Brings (request : Api.Request) (route : Api.Route) (body document : Json) : Prop where
  route : request.LeadsTo route
  payload : payloadJson request.payload = .ok body
  graph : body.field? "graph" = some document

section Answers

variable {environment : Environment} {settings : Settings}
  (hsettings : Settings.read environment = .ok settings) (catalog : Catalog Text)
  (editor : Editor Text) {graph : Graph Text} {request : Api.Request} {body document : Json}

include hsettings

/-- The answer to a request that brings a graph to be compiled, and a name or none. -/
theorem answerTo_generate (h : Brings request .generate body document)
    (hgraph : Document.DenotesGraph document graph) (htyped : TypedNodes document)
    {name : Option Text} (hname : body.field? "programName" = name.map .string) :
    answerTo environment catalog editor request =
      .ok (match settings.checkSize graph with
        | .error error => ⟨413, .detail error.message⟩
        | .ok _ => ⟨200, .workspace (compile graph.nodes graph.connections
            (some ((given? name).getD settings.programName)))⟩) := by
  have hbody : Api.generateBody [.key "body"] body = .value ⟨some graph, name⟩ :=
    Api.generateBody_eq_value h.graph hgraph htyped hname
  rw [answerTo, Api.dispatch_of_leadsTo h.route, Api.handleRoute,
    Api.withBody_eq_proceed h.payload hbody, Api.onGraph_eq, generateGraph, Api.withinLimits,
    hsettings]
  simp only [Option.getD_some]
  cases hsize : settings.checkSize graph with
  | error error => rfl
  | ok _ =>
    simp only [Graph.attemptCompile_text]
    rfl

/-- The answer to a request that brings a graph to be analysed. -/
theorem answerTo_analyze (h : Brings request .analyze body document)
    (hgraph : Document.DenotesGraph document graph) (htyped : TypedNodes document) :
    answerTo environment catalog editor request =
      .ok (match settings.checkSize graph with
        | .error error => ⟨413, .detail error.message⟩
        | .ok _ => ⟨200, .analysis graph.analyze⟩) := by
  have hbody : Api.analyzeBody [.key "body"] body = .value (some graph) :=
    Api.analyzeBody_eq_value h.graph hgraph htyped
  rw [answerTo, Api.dispatch_of_leadsTo h.route, Api.handleRoute,
    Api.withBody_eq_proceed h.payload hbody, Api.onGraph_eq, analyzeGraph, Api.withinLimits,
    hsettings]
  simp only [Option.getD_some]
  cases hsize : settings.checkSize graph with
  | error error => rfl
  | ok _ =>
    simp only [Graph.attemptAnalysis_text]
    rfl

end Answers

/-! ### Agreement -/

/-- A run that reads a document within the limits ends with no error of its own. -/
theorem ending_of_size {invocation : Invocation} {job : Job} {value : Json} {graph : Graph Text}
    (h : invocation.Reads job value) (haccepted : (Document.inspect false value).accepted = true)
    (hgraph : Document.DenotesGraph value graph) (hsize : job.settings.checkSize graph = .ok ()) :
    (run invocation).report.ending ≠ .exit 1 := by
  obtain ⟨bytes, text, hbytes, htext, hvalue⟩ := h.file
  have hload : (Document.load job.options.strict bytes).result = .ok (documentOf graph value) := by
    rw [h.lenient, Document.load_eq_ok htext hvalue haccepted hgraph]
  have hends := ends_of_load h.asked hbytes hload
  generalize (run invocation).report.ending = ending at hends
  cases hends with
  | oversize hlarge => cases hsize.symm.trans hlarge
  | @refused _ refusal _ _ _ hrefused =>
    cases refusal with
    | nulCharacter => simp [Refusal.ending]
    | outside path => exact absurd hrefused (checkTargets_ne_outside (spells_compile _ _ _) path)
  | written => exact endingAfter_ne_exit_one _
  | shown | unprintable | unplaced => simp

/-- A run that refuses a graph beyond the limits. -/
def Outcome.RefusesSize (outcome : Outcome) : Prop :=
  outcome.report.ending = .exit 1 ∧ ∃ error : SizeError,
    outcome.report.stderr = asText ["[error] " ++ Text.ofString error.message]

/-! ### Two documents -/

/-- A request that brings a document along, and a name for the program. -/
def bringing (path : String) (document : Json) (name : Text) : Api.Request :=
  ⟨"POST", path,
    some (.json (.object [("graph", document), ("programName", .string name)]))⟩

theorem brings_bringing {path : String} {route : Api.Route} {document : Json} {name : Text}
    (hroute : (bringing path document name).LeadsTo route) :
    Brings (bringing path document name) route
      (.object [("graph", document), ("programName", .string name)]) document :=
  ⟨hroute, rfl, rfl⟩

/-- One node, whose identifier is half of a surrogate pair. -/
def halfIdentified : String :=
  "\x7b\"nodes\":[\x7b\"id\":\"\\ud800\",\"type\":\"token\",\"name\":\"A\"\x7d],\"connections\":[]\x7d"

/-- The document in that text. -/
def halfIdentifiedDocument : Json :=
  .object [("nodes", .array [.object
      [("id", .string [.ofUnit 0xD800]), ("type", .string "token"), ("name", .string "A")]]),
    ("connections", .array [])]

/-- The graph of that document. -/
def halfIdentifiedGraph : Graph Text := ⟨untitled, [⟨[.ofUnit 0xD800], "token", "A", [], []⟩], []⟩

/-- A run analyses the document, and the server cannot send the analysis that it prints. -/
theorem analysis_not_sent_halfIdentified :
    (Document.inspect false halfIdentifiedDocument).accepted = true ∧
    TypedNodes halfIdentifiedDocument ∧
    (bringing "/api/analyze" halfIdentifiedDocument "").LeadsTo .analyze ∧
    (run (runOn halfIdentified ["--analyze"])).report.ending = .exit 0 ∧
    ¬ ∃ response body,
      (handle [] .builtIn (.start (.empty : Graph Text) 100)
        (bringing "/api/analyze" halfIdentifiedDocument "")).response = .ok response ∧
      response.content.encode? = some body ∧
      (run (runOn halfIdentified ["--analyze"])).report.stdout = asText [body.pretty] := by
  have hreads : (runOn halfIdentified ["--analyze"]).Reads
      (jobOn { Options.default with graphFile := some "g.json", analyze := true })
      halfIdentifiedDocument :=
    reads_runOn (by decide) rfl (by decide) (by decide) (by cbv)
  have haccepted : (Document.inspect false halfIdentifiedDocument).accepted = true := by
    decide
  have htyped : TypedNodes halfIdentifiedDocument := by decide
  have hroute : (bringing "/api/analyze" halfIdentifiedDocument "").LeadsTo .analyze :=
    ⟨by decide, by decide⟩
  have hsettings : Settings.read [] = .ok .default := by decide
  have hsize : Settings.default.checkSize halfIdentifiedGraph = .ok () := by decide
  obtain ⟨graph, hgraph, -, -⟩ := Document.accepted_iff.1 haccepted
  obtain rfl : graph = halfIdentifiedGraph := by
    have hdecoded : (Document.decodeGraph halfIdentifiedDocument).toOption =
        some halfIdentifiedGraph := by decide
    rw [Document.decodeGraph_eq_ok hgraph] at hdecoded
    exact Option.some.inj hdecoded
  have hanswer := answerTo_analyze hsettings .builtIn (.start .empty 100) (brings_bringing hroute)
    hgraph htyped
  simp only [hsize] at hanswer
  have hanswered := Api.answered_of_made hroute (by decide) hanswer (by simp)
  have hhalf : (⟨200, .analysis halfIdentifiedGraph.analyze⟩ : Api.Response Text).holdsHalf =
      true := by
    decide
  have hunsent := Api.Response.sent_of_holdsHalf rfl hhalf
  refine ⟨haccepted, htyped, hroute, (outcome_analysis hreads haccepted hgraph hsize rfl).1, ?_⟩
  rintro ⟨response, body, hresponse, -⟩
  rw [hanswered.response, hunsent] at hresponse
  cases hresponse

/-- **The command line and the server agree.** Let a run read a document that passes the inspection
and gives every node its kind under `type`, and let two requests bring the same document to a server
with the same settings, one with the name that the arguments or the document give to the program.
The run refuses the graph for its size exactly if the server does. If neither does, a run that
analyses prints the very object that the server answers with. A run that is to write files delivers
the very texts that the server answers with, each at the place that its path leads to below the
output directory, as far as they can be written, unless the name of the graph cannot be printed:
then it breaks off before anything is written. -/
theorem command_line_agrees_with_server {invocation : Invocation} {job : Job} {value : Json}
    (hreads : invocation.Reads job value)
    (haccepted : (Document.inspect false value).accepted = true) (htyped : TypedNodes value)
    {environment : Environment} (hsettings : Settings.read environment = .ok job.settings)
    (catalog : Catalog Text) (editor : Editor Text) {compiling analysing : Api.Request}
    {compileBody analyzeBody : Json} (hcompiling : Brings compiling .generate compileBody value)
    (hname : compileBody.field? "programName" = (nameGiven? job.options value).map .string)
    (hanalysing : Brings analysing .analyze analyzeBody value) :
    ∃ (graph : Graph Text) (compiled analysed : Api.Response Text),
      Document.DenotesGraph value graph ∧
      Api.Answered environment catalog editor compiling compiled ∧
      Api.Answered environment catalog editor analysing analysed ∧
      ((run invocation).RefusesSize ↔ compiled.status = 413) ∧
      (compiled.status ≠ 413 →
        compiled.status = 200 ∧ analysed.status = 200 ∧
        (job.options.analyze = true → ∃ body,
          analysed.content.encode? = some body ∧
          (run invocation).report.stdout = asText [body.pretty]) ∧
        (job.options.analyze = false → job.options.print = false →
          ∀ out, job.options.out = some out → (FilePath.ofString out).holdsNul = false →
          ∃ files : FileMap, compiled.content.encode?.bind (·.field? "files") = some files.encode ∧
            (invocation.stdout.takes graph.name = true →
              (run invocation).Delivers invocation.tree (.ofString out) files) ∧
            (invocation.stdout.takes graph.name = false →
              (run invocation).report.ending = .crash .unprintable ∧
                (run invocation).tree = invocation.tree))) := by
  obtain ⟨graph, hgraph, -, -⟩ := Document.accepted_iff.1 haccepted
  have hcompiled := answerTo_generate hsettings catalog editor hcompiling hgraph htyped hname
  have hanalysed := answerTo_analyze hsettings catalog editor hanalysing hgraph htyped
  cases hsize : job.settings.checkSize graph with
  | error error =>
    simp only [hsize] at hcompiled hanalysed
    have hrefused : (run invocation).RefusesSize :=
      have houtcome := outcome_oversize hreads haccepted hgraph hsize
      ⟨houtcome.1, error, houtcome.2⟩
    exact ⟨graph, _, _, hgraph,
      Api.answered_of_made hcompiling.route (by decide) hcompiled (by simp),
      Api.answered_of_made hanalysing.route (by decide) hanalysed (by simp),
      iff_of_true hrefused rfl, fun hstatus => absurd rfl hstatus⟩
  | ok size =>
    simp only [hsize] at hcompiled hanalysed
    have hgoes : ¬ (run invocation).RefusesSize := fun hrefused =>
      ending_of_size hreads haccepted hgraph hsize hrefused.1
    refine ⟨graph, _, _, hgraph,
      Api.answered_of_made hcompiling.route (by decide) hcompiled (by simp),
      Api.answered_of_made hanalysing.route (by decide) hanalysed (by simp),
      iff_of_false hgoes (by simp), fun _ => ⟨rfl, rfl, ?_, ?_⟩⟩
    · intro hanalyze
      exact ⟨_, rfl, (outcome_analysis hreads haccepted hgraph hsize hanalyze).2⟩
    · intro hanalyze hprint out hout hnul
      refine ⟨(job.workspace (documentOf graph value)).files, ?_,
        outcome_delivery hreads haccepted hgraph hsize hanalyze hprint hout hnul,
        outcome_unprintable hreads haccepted hgraph hsize hanalyze hprint⟩
      rw [Job.workspace, requestedName_eq]
      rfl

/-- The manifest that the server answers with is the one that the run writes. -/
theorem command_line_agrees_with_server_namedVault :
    (Document.inspect false namedVaultDocument).accepted = true ∧
    TypedNodes namedVaultDocument ∧
    ∃ compiled : Api.Response Text,
      Api.Answered [] .builtIn (.start .empty 100)
        (bringing "/api/generate" namedVaultDocument "Vault") compiled ∧
      compiled.status = 200 ∧
      ∃ files : FileMap, compiled.content.encode?.bind (·.field? "files") = some files.encode ∧
        ("Anchor.toml", Text.ofString vaultManifest) ∈ files ∧
        (run (runOn namedVault [])).tree.contents? ⟨some 0, ["anchor_out", "Anchor.toml"]⟩ =
          some vaultManifest.toUTF8 := by
  have htyped : TypedNodes namedVaultDocument := by decide
  have hsettings : Settings.read [] = .ok .default := by decide
  have hcompiling : (bringing "/api/generate" namedVaultDocument "Vault").LeadsTo
      .generate := ⟨by decide, by decide⟩
  have hanalysing : (bringing "/api/analyze" namedVaultDocument "Vault").LeadsTo
      .analyze := ⟨by decide, by decide⟩
  have hgiven : nameGiven? vaultJob.options namedVaultDocument = some (Text.ofString "Vault") := by
    decide
  have hname : (nameGiven? vaultJob.options namedVaultDocument).map Json.string =
      some (.string "Vault") := by rw [hgiven]; rfl
  obtain ⟨graph, compiled, analysed, hgraph, hcompiled, -, hrefuses, hgoes⟩ :=
    command_line_agrees_with_server reads_namedVault accepted_namedVault htyped hsettings .builtIn
      (.start .empty 100) (brings_bringing hcompiling) hname.symm (brings_bringing hanalysing)
  obtain rfl : graph = namedVaultGraph := eq_namedVaultGraph hgraph
  have hstatus : compiled.status ≠ 413 := by
    intro hlarge
    have hended := (hrefuses.2 hlarge).1
    rw [ending_namedVault] at hended
    cases hended
  obtain ⟨hcompiledStatus, -, -, hwrites⟩ := hgoes hstatus
  have hout : (FilePath.ofString "anchor_out").holdsNul = false := by
    rw [spells_anchorOut.ofString_eq]
    decide
  obtain ⟨files, hfiles, hdelivers, -⟩ := hwrites rfl rfl "anchor_out" rfl hout
  -- the answer that is made holds the files of the workspace, and no others
  have hmade := answerTo_generate hsettings .builtIn (.start .empty 100)
    (brings_bringing hcompiling) hgraph htyped hname.symm
  have hanswer : compiled =
      ⟨200, .workspace (vaultJob.workspace (documentOf namedVaultGraph namedVaultDocument))⟩ := by
    have hsize : Settings.default.checkSize namedVaultGraph = .ok () := by decide
    rw [hcompiled.made] at hmade
    rw [Except.ok.inj hmade, hsize, Job.workspace, requestedName_eq]
    rfl
  obtain rfl : files =
      (vaultJob.workspace (documentOf namedVaultGraph namedVaultDocument)).files := by
    rw [hanswer] at hfiles
    exact FileMap.encode_injective (Option.some.inj hfiles).symm
  have hdelivered := (hdelivers (by decide)).found ending_namedVault _ _ vaultManifest_mem_files
  obtain ⟨bytes, hbytes, hfile⟩ := hdelivered
  rw [Text.bytes?_ofString] at hbytes
  obtain rfl := Option.some.inj hbytes
  rw [below_manifest] at hfile
  exact ⟨accepted_namedVault, htyped, compiled, hcompiled, hcompiledStatus, _, hfiles,
    vaultManifest_mem_files, hfile⟩

end CommandLine

end ModuleGraph
