import ModuleGraph.Proofs.Graph.Lookup
import ModuleGraph.Proofs.Source.LineEnds
import ModuleGraph.Workspace

/-!
# Connections that do not resolve

A connection whose ends do not exist leaves no trace in the analysis of a graph, and neither does a
node behind an earlier one with its identifier. In the workspace of a graph such a connection shows
at one place only: a graph is taken to have connections even if none of them resolves, and then the
test suite walks through the instructions.

## Main definitions

- `resolvable` — the connections that resolve

## Main statements

- `analyze_congr` — the analysis is made from the identifiers of the nodes and the wires
- `buildSchedule_congr` — the plan is made from the nodes and the wires, but for one mark
- `dangling_connections_inert` — what connections that do not resolve can change
-/

namespace ModuleGraph

variable {L : Type}

/-! ### The connections that resolve -/

section Resolvable

variable [BEq L]

/-- The connections that resolve, in order. -/
def resolvable (nodes : List (Node L)) (connections : List (Connection L)) : List (Connection L) :=
  connections.filter fun connection => (resolve? nodes connection).isSome

theorem resolved_resolvable (nodes : List (Node L)) (connections : List (Connection L)) :
    resolved nodes (resolvable nodes connections) = resolved nodes connections := by
  rw [resolved, resolvable, List.filterMap_filter, resolved]
  apply List.filterMap_congr
  intro connection _
  cases resolve? nodes connection <;> rfl

/-- The same connections resolve to the same wires, whatever stands between them. -/
theorem resolved_eq_of_resolvable {nodes : List (Node L)}
    {connections connections' : List (Connection L)}
    (h : resolvable nodes connections = resolvable nodes connections') :
    resolved nodes connections = resolved nodes connections' := by
  rw [← resolved_resolvable, h, resolved_resolvable]

theorem resolvable_eq_nil_iff (nodes : List (Node L)) (connections : List (Connection L)) :
    resolvable nodes connections = [] ↔ resolved nodes connections = [] := by
  rw [resolvable, resolved, List.filter_eq_nil_iff, List.filterMap_eq_nil_iff]
  simp only [Option.not_isSome_iff_eq_none]

end Resolvable

variable [Label L]

/-! ### The analysis -/

/-- The analysis of a graph is made from the identifiers of its nodes and from its wires. -/
theorem analyze_congr {nodes nodes' : List (Node L)}
    {connections connections' : List (Connection L)}
    (hids : distinctIds nodes = distinctIds nodes')
    (hwires : resolved nodes connections = resolved nodes' connections') :
    analyze nodes connections = analyze nodes' connections' := by
  have htable : dependencies nodes connections = dependencies nodes' connections' := by
    rw [dependencies, dependencies, hids, hwires]
  have hisolated : isolatedIds nodes connections = isolatedIds nodes' connections' := by
    rw [isolatedIds, isolatedIds, hids, hwires]
  rw [analyze, analyze, htable, hids, hisolated]

theorem analyze_firstNodes (nodes : List (Node L)) (connections : List (Connection L)) :
    analyze nodes connections = analyze (indexNodes nodes) (resolvable nodes connections) := by
  have hresolve : resolve? (indexNodes nodes) = resolve? nodes :=
    funext (resolve?_indexNodes nodes)
  apply analyze_congr (distinctIds_indexNodes nodes).symm
  rw [← resolved_resolvable nodes connections, resolved, resolved, hresolve]

/-! ### The workspace -/

section Workspaces

variable {nodes : List (Node L)} {connections connections' : List (Connection L)}

/-- The plan of a graph is made from its nodes and its wires, but for the mark that it has
connections. -/
theorem buildSchedule_congr (h : resolved nodes connections = resolved nodes connections')
    (programName : String) :
    buildSchedule programName nodes connections =
      { buildSchedule programName nodes connections' with
        hasConnections := !connections.isEmpty } := by
  have htable : dependencies nodes connections = dependencies nodes connections' := by
    rw [dependencies, dependencies, h]
  have hflow : programFlow nodes connections = programFlow nodes connections' := by
    rw [programFlow, programFlow, h, htable]
  rw [buildSchedule, buildSchedule, h, hflow]

omit [Label L] in
theorem crateScript_hasConnections (schedule : Schedule L) (flag : Bool) :
    Source.crateScript { schedule with hasConnections := flag } = Source.crateScript schedule :=
  rfl

omit [Label L] in
/-- Only the test suite tells whether a schedule has connections. -/
theorem emit_hasConnections (schedule : Schedule L) (flag : Bool) :
    emit { schedule with hasConnections := flag } =
      { emit schedule with tests := (emit { schedule with hasConnections := flag }).tests } := by
  rw [emit, emit, crateScript_hasConnections]

theorem compile_congr (h : resolved nodes connections = resolved nodes connections')
    (requested : Option Text) :
    compile nodes connections requested =
      { compile nodes connections' requested with
        tests := (compile nodes connections requested).tests } := by
  have hschedule := buildSchedule_congr h (programNameOf requested)
  have hcompile : compile nodes connections requested =
      emit { buildSchedule (programNameOf requested) nodes connections' with
        hasConnections := !connections.isEmpty } := congrArg emit hschedule
  rw [hcompile]
  exact emit_hasConnections _ _

theorem tests_eq_iff (h : resolved nodes connections = resolved nodes connections')
    (requested : Option Text) :
    (compile nodes connections requested).tests = (compile nodes connections' requested).tests ↔
      (connections = [] ↔ connections' = []) := by
  have hschedule := buildSchedule_congr h (programNameOf requested)
  have hsuites := Source.text_suiteScript_inj
    (buildSchedule (programNameOf requested) nodes connections') (!connections.isEmpty)
    (!connections'.isEmpty)
  rw [compile, hschedule]
  refine Iff.trans hsuites ?_
  rw [Bool.not_inj_iff, Bool.eq_iff_iff, List.isEmpty_iff, List.isEmpty_iff]

end Workspaces

/-! ### What they change -/

/-- **Connections that do not resolve are inert.** The analysis of a graph is that of its first node
for every identifier and the connections that resolve. The workspace is that of the connections
that resolve, but for the test suite, and the suite is the same unless there are connections and
none of them resolves. So connections that do not resolve can be added and left out anywhere: the
analysis stays, and the workspace up to the suite, which tells at most whether there are any
connections. -/
theorem dangling_connections_inert (nodes : List (Node L)) (connections : List (Connection L))
    (requested : Option Text) :
    let workspace := compile nodes connections requested
    let reduced := compile nodes (resolvable nodes connections) requested
    analyze nodes connections = analyze (indexNodes nodes) (resolvable nodes connections) ∧
    workspace = { reduced with tests := workspace.tests } ∧
    (workspace.tests = reduced.tests ↔ ¬ (connections ≠ [] ∧ resolved nodes connections = [])) ∧
    ∀ connections', resolvable nodes connections' = resolvable nodes connections →
      let workspace' := compile nodes connections' requested
      analyze nodes connections' = analyze nodes connections ∧
      workspace' = { workspace with tests := workspace'.tests } ∧
      (workspace'.tests = workspace.tests ↔ (connections' = [] ↔ connections = [])) := by
  intro workspace reduced
  have hwires := (resolved_resolvable nodes connections).symm
  refine ⟨analyze_firstNodes nodes connections, compile_congr hwires requested, ?_, ?_⟩
  · rw [tests_eq_iff hwires requested, resolvable_eq_nil_iff]
    by_cases hnone : connections = []
    · simp [hnone, resolved]
    · simp [hnone]
  · intro connections' h workspace'
    have hwires' := resolved_eq_of_resolvable h
    exact ⟨analyze_congr rfl hwires', compile_congr hwires' requested,
      tests_eq_iff hwires' requested⟩

/-- A mint that feeds a burn, and an account behind the mint's identifier. -/
def shadowed : List (Node Text) :=
  [⟨"m", "token", "Mint", [], [⟨"o", "Out", "data"⟩]⟩,
    ⟨"b", "defi", "Burn", [⟨"i", "In", "data"⟩], []⟩,
    ⟨"m", "account", "Shadow", [⟨"i", "In", "data"⟩], []⟩]

/-- The wire from the mint to the burn. -/
def mintToBurn : Connection Text := ⟨⟨"m", "o", "b", "i"⟩, "c1"⟩

/-- A connection into the account, which the mint hides. -/
def mintToShadow : Connection Text := ⟨⟨"m", "o", "m", "i"⟩, "c2"⟩

/-- A connection from a node that is not there. -/
def goneToBurn : Connection Text := ⟨⟨"x", "o", "b", "i"⟩, "c3"⟩

theorem dangling_connections_inert_shadowed :
    analyze shadowed [mintToShadow, mintToBurn] = analyze shadowed [mintToBurn, goneToBurn] ∧
    (compile shadowed [mintToShadow, mintToBurn] (some "Mesh")).tests =
      (compile shadowed [mintToBurn, goneToBurn] (some "Mesh")).tests ∧
    (compile shadowed [goneToBurn] (some "Mesh")).tests ≠
      (compile shadowed [] (some "Mesh")).tests ∧
    (compile shadowed [goneToBurn] (some "Mesh")).crateRoot =
      (compile shadowed [] (some "Mesh")).crateRoot := by
  have hwired := dangling_connections_inert shadowed [mintToBurn, goneToBurn] (some "Mesh")
  obtain ⟨hanalysis, -, htests⟩ := hwired.2.2.2 [mintToShadow, mintToBurn] (by decide)
  have hloose := dangling_connections_inert shadowed [] (some "Mesh")
  obtain ⟨-, hworkspace, hsuite⟩ := hloose.2.2.2 [goneToBurn] (by decide)
  refine ⟨hanalysis, htests.2 (by simp), fun h => ?_, by rw [hworkspace]⟩
  have hempty := (hsuite.1 h).2 rfl
  cases hempty

end ModuleGraph
