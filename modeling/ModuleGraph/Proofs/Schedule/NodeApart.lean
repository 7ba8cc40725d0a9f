import ModuleGraph.Proofs.Flow.Coherence
import ModuleGraph.Proofs.Flow.Stability
import ModuleGraph.Proofs.Schedule.Numbering

/-!
# A node without wires

A node may be added behind the others before any connection names it. What the analysis and the
workspace of the graph say of the other nodes stays as it was: the new node is listed last, depends
on nothing, and if it is an instruction, its module is the last one.

## Main definitions

- `Node.StandsApart` — a node with a new identifier that no connection names

## Main statements

- `walk_concat_standsApart` — the walks finish the node at once and close no cycle with it
- `analyze_concat` — the analysis with the node behind the others
- `programFlow_concat` — the summary of the program
- `exists_buildSchedule_concat_account`, `exists_buildSchedule_concat_instruction` — the plan
- `node_apart_appended` — what all of this leaves of the analysis and of the workspace
-/

namespace ModuleGraph

variable {L : Type} [Label L]

/-- The identifier of the node is that of no other, and no connection names it. -/
structure Node.StandsApart (node : Node L) (nodes : List (Node L))
    (connections : List (Connection L)) : Prop where
  new : ∀ other ∈ nodes, other.id ≠ node.id
  unnamed : ∀ connection ∈ connections,
    connection.sourceNode ≠ node.id ∧ connection.targetNode ≠ node.id

open Label (wording)

variable {nodes : List (Node L)} {connections : List (Connection L)} {node : Node L}

theorem behavioral_append (nodes more : List (Node L)) :
    behavioral (nodes ++ more) = behavioral nodes ++ behavioral more :=
  List.filter_append nodes more

variable [LawfulBEq L]

/-! ### Look-ups -/

namespace Node.StandsApart

variable (h : node.StandsApart nodes connections)
include h

theorem findNode?_eq_none : findNode? nodes node.id = none := by
  simpa [findNode?_eq_none_iff] using h.new

theorem touches_eq_false :
    ∀ connection ∈ connections, connection.touches node.id = false := by
  intro connection hconnection
  simpa [Connection.touches] using h.unnamed connection hconnection

theorem not_mem_distinctIds : node.id ∉ distinctIds nodes := by
  rw [mem_distinctIds]
  rintro ⟨other, hother, hid⟩
  exact h.new other hother hid

theorem resolved_concat : resolved (nodes ++ [node]) connections = resolved nodes connections :=
  resolved_addNode h.findNode?_eq_none h.touches_eq_false

omit [LawfulBEq L] in
/-- No wire reaches the node. -/
theorem ne_of_mem_resolved {wire : Resolved L} (hwire : wire ∈ resolved nodes connections) :
    wire.sourceNode.id ≠ node.id ∧ wire.targetNode.id ≠ node.id :=
  ⟨h.new _ (sourceNode_mem hwire), h.new _ (targetNode_mem hwire)⟩

end Node.StandsApart

/-! ### The analysis -/

omit [LawfulBEq L] in
/-- An entry without dependencies at the end of a table changes nothing that the table lists. -/
theorem Dependencies.of_concat_nil (table : Dependencies L) (last id : L) :
    Dependencies.of (table ++ [(last, [])]) id = table.of id := by
  rw [Dependencies.of, Dependencies.of, List.lookup_append]
  cases table.lookup id with
  | some sources => rfl
  | none =>
    rw [Option.none_or, List.lookup_cons]
    cases id == last <;> rfl

/-- The walks come to the node last, finish it at once and close no cycle with it. -/
theorem walk_concat_standsApart (h : node.StandsApart nodes connections) :
    walk (dependencies (nodes ++ [node]) connections) (distinctIds (nodes ++ [node])) =
      (walk (dependencies nodes connections) (distinctIds nodes)).finish node.id := by
  have hnew : node.id ∉ (walk (dependencies nodes connections) (distinctIds nodes)).finished := by
    rw [← List.mem_reverse, ← executionOrder_eq, mem_executionOrder_dependencies]
    exact h.not_mem_distinctIds
  have hnone : (dependencies nodes connections).of node.id = [] := by
    rw [of_dependencies, sourcesInto_eq_nil_iff]
    exact fun wire hwire => (h.ne_of_mem_resolved hwire).2
  rw [dependencies_addNode h.findNode?_eq_none h.touches_eq_false,
    distinctIds_concat h.findNode?_eq_none, walk_congr (Dependencies.of_concat_nil _ _),
    walk_concat, visitRoot_settled hnew]
  rw [hnone]
  exact List.nil_subset _

theorem executionOrder_concat (h : node.StandsApart nodes connections) :
    executionOrder (dependencies (nodes ++ [node]) connections) (distinctIds (nodes ++ [node])) =
      executionOrder (dependencies nodes connections) (distinctIds nodes) ++ [node.id] := by
  rw [executionOrder_eq, walk_concat_standsApart h, Findings.finish, List.reverse_cons,
    ← executionOrder_eq]

theorem isolatedIds_concat (h : node.StandsApart nodes connections) :
    isolatedIds (nodes ++ [node]) connections = isolatedIds nodes connections ++ [node.id] := by
  have hisolated : ∀ id ∈ [node.id],
      (!(resolved nodes connections).any fun wire => wire.reaches id) = true := by
    intro id hid
    cases List.mem_singleton.1 hid
    simpa [Resolved.reaches] using fun wire hwire => h.ne_of_mem_resolved hwire
  rw [isolatedIds, h.resolved_concat, distinctIds_concat h.findNode?_eq_none, List.filter_append,
    List.filter_eq_self.2 hisolated, isolatedIds]

theorem analyze_concat (h : node.StandsApart nodes connections) :
    analyze (nodes ++ [node]) connections =
      { analyze nodes connections with
        dependencies := dependencies nodes connections ++ [(node.id, [])]
        executionOrder := (analyze nodes connections).executionOrder ++ [node.id]
        isolated := isolatedIds nodes connections ++ [node.id] } := by
  have hcycles : cycles (dependencies (nodes ++ [node]) connections)
      (distinctIds (nodes ++ [node])) =
        cycles (dependencies nodes connections) (distinctIds nodes) := by
    rw [cycles, walk_concat_standsApart h]
    rfl
  rw [analyze, executionOrder_concat h, hcycles, isolatedIds_concat h,
    dependencies_addNode h.findNode?_eq_none h.touches_eq_false]
  rfl

/-! ### The instructions -/

omit [LawfulBEq L] in
/-- One more instruction is labelled when all others have their labels. -/
theorem exists_scheduleInstructions_concat (wires : List (Resolved L)) (nodes : List (Node L))
    (haccount : node.isAccount = false) :
    ∃ label, scheduleInstructions (nodes ++ [node]) wires =
      scheduleInstructions nodes wires ++ [scheduleInstruction wires node label] := by
  have hlast : behavioral [node] = [node] := by simp [behavioral, haccount]
  obtain ⟨rest, hlabels⟩ := assignLabels_append [] (behavioral nodes) [node]
  -- what is labelled behind the others is the new node
  have hrest : rest.map Prod.fst = [node] := by
    have hnodes := congrArg (List.map Prod.fst) hlabels
    rw [List.map_append, map_fst_assignLabels, map_fst_assignLabels] at hnodes
    exact List.append_cancel_left hnodes
  obtain ⟨⟨_, label⟩, rfl, rfl⟩ := List.map_eq_singleton_iff.1 hrest
  refine ⟨label, ?_⟩
  rw [scheduleInstructions, behavioral_append, hlast, ← hlabels, List.map_append]
  rfl

/-! ### The summary -/

theorem entryPoints_concat (h : node.StandsApart nodes connections) :
    entryPoints (nodes ++ [node]) (resolved nodes connections) =
      entryPoints nodes (resolved nodes connections) ++
        (behavioral [node]).map fun node => wording node.name := by
  have hentry : ∀ other ∈ behavioral [node],
      (!(resolved nodes connections).any (·.targetNode.id == other.id)) = true := by
    intro other hother
    cases List.mem_singleton.1 (List.mem_filter.1 hother).1
    simpa using fun wire hwire => (h.ne_of_mem_resolved hwire).2
  rw [entryPoints, behavioral_append, List.filter_append, List.map_append,
    List.filter_eq_self.2 hentry, entryPoints]

theorem orderedInstructions_concat (h : node.StandsApart nodes connections) {order : List L}
    (horder : order ⊆ distinctIds nodes) :
    orderedInstructions (nodes ++ [node]) (order ++ [node.id]) =
      orderedInstructions nodes order ++ behavioral [node] := by
  have hold : order.filterMap (findNode? (nodes ++ [node])) =
      order.filterMap (findNode? nodes) := by
    refine List.filterMap_congr fun id hid => ?_
    obtain ⟨found, hfound⟩ := Option.isSome_iff_exists.1 (isSome_findNode? (horder hid))
    rw [hfound, findNode?_append hfound]
  have hlast : findNode? (nodes ++ [node]) node.id = some node :=
    findNode?_concat h.findNode?_eq_none
  rw [orderedInstructions, List.filterMap_append, hold, List.filterMap_cons_some hlast,
    List.filterMap_nil, behavioral_append, orderedInstructions]

/-- The summary of a program names the node last, if it is an instruction. -/
theorem programFlow_concat (h : node.StandsApart nodes connections) :
    let flow := programFlow nodes connections
    let names := (behavioral [node]).map fun node => wording node.name
    programFlow (nodes ++ [node]) connections =
      { flow with
        entryPoints := flow.entryPoints ++ names
        executionOrder := flow.executionOrder ++ names } := by
  intro flow names
  have horder : executionOrder (dependencies nodes connections) (distinctIds nodes) ⊆
      distinctIds nodes := fun _ => mem_executionOrder_dependencies.1
  rw [programFlow, h.resolved_concat, entryPoints_concat h, executionOrder_concat h,
    orderedInstructions_concat h horder, List.map_append]
  rfl

/-! ### The plan -/

section Plan

variable (programName : String)

theorem exists_buildSchedule_concat_account (h : node.StandsApart nodes connections)
    (haccount : node.isAccount = true) :
    let schedule := buildSchedule programName nodes connections
    ∃ account, account.nodeId = node.id ∧
      buildSchedule programName (nodes ++ [node]) connections =
        { schedule with accounts := schedule.accounts ++ [account] } := by
  have hnone : behavioral [node] = [] := by simp [behavioral, haccount]
  have hlast : [node].filter (·.isAccount) = [node] := by simp [haccount]
  have hinstructions (wires : List (Resolved L)) :
      scheduleInstructions (nodes ++ [node]) wires = scheduleInstructions nodes wires := by
    rw [scheduleInstructions, behavioral_append, hnone, List.append_nil, scheduleInstructions]
  refine ⟨⟨node.id, wording node.name, accountType node,
    connectionCount (resolved nodes connections) node.id⟩, rfl, ?_⟩
  rw [buildSchedule, h.resolved_concat, programFlow_concat h, hnone, hinstructions,
    scheduleAccounts, List.filter_append, List.map_append, hlast]
  simp only [List.map_nil, List.append_nil]
  rfl

theorem exists_buildSchedule_concat_instruction (h : node.StandsApart nodes connections)
    (haccount : node.isAccount = false) :
    let schedule := buildSchedule programName nodes connections
    ∃ instruction, instruction.nodeId = node.id ∧
      buildSchedule programName (nodes ++ [node]) connections =
        { schedule with
          instructions := schedule.instructions ++ [instruction]
          flow :=
            { schedule.flow with
              entryPoints := schedule.flow.entryPoints ++ [wording node.name]
              executionOrder := schedule.flow.executionOrder ++ [wording node.name] } } := by
  have hlast : behavioral [node] = [node] := by simp [behavioral, haccount]
  have hnone : [node].filter (·.isAccount) = [] := by simp [haccount]
  have haccounts (wires : List (Resolved L)) :
      scheduleAccounts (nodes ++ [node]) wires = scheduleAccounts nodes wires := by
    rw [scheduleAccounts, List.filter_append, hnone, List.append_nil, scheduleAccounts]
  obtain ⟨label, hinstructions⟩ :=
    exists_scheduleInstructions_concat (resolved nodes connections) nodes haccount
  refine ⟨scheduleInstruction (resolved nodes connections) node label, rfl, ?_⟩
  rw [buildSchedule, h.resolved_concat, programFlow_concat h, hlast, hinstructions, haccounts]
  rfl

end Plan

/-! ### The workspace -/

section Workspaces

omit [Label L] [LawfulBEq L]

variable {schedule more : Schedule L}

theorem suiteScript_accounts (schedule : Schedule L) (accounts : List (Account L)) :
    Source.suiteScript { schedule with accounts := accounts } = Source.suiteScript schedule :=
  rfl

/-- Of a workspace, only the root of the crate shows the accounts. -/
theorem emit_of_accounts {accounts : List (Account L)}
    (h : more = { schedule with accounts := accounts }) :
    emit more = { emit schedule with crateRoot := (emit more).crateRoot } := by
  subst h
  rw [emit, emit, suiteScript_accounts]

/-- With one more instruction, a workspace has one more module. -/
theorem exists_emit_of_instruction {instruction : Instruction L} {flow : ProgramFlow L}
    (h : more = { schedule with
      instructions := schedule.instructions ++ [instruction]
      flow := flow }) :
    ∃ module : ModuleSource L, module.nodeId = instruction.nodeId ∧
      module.moduleName = instruction.moduleName ∧
      emit more = { emit schedule with
        crateRoot := (emit more).crateRoot
        modules := (emit schedule).modules ++ [module]
        tests := (emit more).tests
        flow := flow } := by
  subst h
  refine ⟨⟨instruction.nodeId, instruction.moduleName,
    Source.Script.text .standard (Source.instructionScript instruction)⟩, rfl, rfl, ?_⟩
  simp only [emit, List.map_append, List.map_singleton]

end Workspaces

/-- **A node without wires leaves the others as they are.** With a node behind the others whose
identifier is new and which no connection names, the analysis has the same cycles; the node is
listed last, depends on nothing and is isolated. If it is an account, the plan has one more account,
and the workspace differs at most in the root of the crate. If it is an instruction, the plan and
the workspace have one more instruction behind the others, which are the same as before; it is named
last among the entry points and in the execution order; and beyond that the workspace differs at
most in the root of the crate and the test suite. -/
theorem node_apart_appended {nodes : List (Node Text)} {connections : List (Connection Text)}
    {node : Node Text} (requested : Option Text) (h : node.StandsApart nodes connections) :
    let analysis := analyze nodes connections
    let schedule := buildSchedule (programNameOf requested) nodes connections
    let schedule' := buildSchedule (programNameOf requested) (nodes ++ [node]) connections
    let workspace := compile nodes connections requested
    let workspace' := compile (nodes ++ [node]) connections requested
    analyze (nodes ++ [node]) connections =
      { dependencies := analysis.dependencies ++ [(node.id, [])]
        executionOrder := analysis.executionOrder ++ [node.id]
        cycles := analysis.cycles
        isolated := analysis.isolated ++ [node.id] } ∧
    (node.isAccount = true →
      (∃ account, account.nodeId = node.id ∧
        schedule' = { schedule with accounts := schedule.accounts ++ [account] }) ∧
      workspace' = { workspace with crateRoot := workspace'.crateRoot }) ∧
    (node.isAccount = false →
      let flow := { workspace.flow with
        entryPoints := workspace.flow.entryPoints ++ [node.name]
        executionOrder := workspace.flow.executionOrder ++ [node.name] }
      ∃ instruction module,
        instruction.nodeId = node.id ∧ module.nodeId = node.id ∧
        module.moduleName = instruction.moduleName ∧
        schedule' = { schedule with
          instructions := schedule.instructions ++ [instruction]
          flow := flow } ∧
        workspace' = { workspace with
          crateRoot := workspace'.crateRoot
          modules := workspace.modules ++ [module]
          tests := workspace'.tests
          flow := flow }) := by
  intro analysis schedule schedule' workspace workspace'
  refine ⟨analyze_concat h, fun haccount => ?_, fun haccount => ?_⟩
  · obtain ⟨account, hid, hschedule⟩ :=
      exists_buildSchedule_concat_account (programNameOf requested) h haccount
    exact ⟨⟨account, hid, hschedule⟩, emit_of_accounts hschedule⟩
  · obtain ⟨instruction, hid, hschedule⟩ :=
      exists_buildSchedule_concat_instruction (programNameOf requested) h haccount
    obtain ⟨module, hmodule, hname, hworkspace⟩ := exists_emit_of_instruction hschedule
    exact ⟨instruction, module, hid, hmodule.trans hid, hname, hschedule, hworkspace⟩

/-- A mint and a burn feed each other, and a wire comes from a node that is not there. -/
def mintAndBurn : Graph Text where
  name := "pair"
  nodes :=
    [⟨"mint", "token", "Mint", [⟨"in", "In", "any"⟩], [⟨"out", "Out", "any"⟩]⟩,
      ⟨"burn", "token", "Burn", [⟨"in", "In", "any"⟩], [⟨"out", "Out", "any"⟩]⟩]
  connections :=
    [⟨⟨"mint", "out", "burn", "in"⟩, "c1"⟩, ⟨⟨"burn", "out", "mint", "in"⟩, "c2"⟩,
      ⟨⟨"ghost", "out", "burn", "in"⟩, "c3"⟩]

/-- An instruction that has the name of another is added, or an account. -/
theorem node_apart_appended_mintAgain :
    let again : Node Text := ⟨"again", "token", "Mint", [], []⟩
    let vault : Node Text := ⟨"vault", "account", "Vault", [], []⟩
    let nodes := mintAndBurn.nodes
    let connections := mintAndBurn.connections
    again.StandsApart nodes connections ∧ vault.StandsApart nodes connections ∧
    (analyze (nodes ++ [again]) connections).cycles = [[("mint" : Text), ("burn" : Text)]] ∧
    (compile (nodes ++ [again]) connections none).flow.entryPoints = [("Mint" : Text)] ∧
    (compile nodes connections none).modules <+:
      (compile (nodes ++ [again]) connections none).modules ∧
    (compile (nodes ++ [vault]) connections none).modules =
      (compile nodes connections none).modules := by
  intro again vault nodes connections
  have hagain : again.StandsApart nodes connections := ⟨by decide, by decide⟩
  have hvault : vault.StandsApart nodes connections := ⟨by decide, by decide⟩
  obtain ⟨hanalysis, -, hinstruction⟩ := node_apart_appended none hagain
  obtain ⟨-, haccount, -⟩ := node_apart_appended none hvault
  obtain ⟨_, module, -, -, -, -, hworkspace⟩ := hinstruction (by decide)
  obtain ⟨-, hrecord⟩ := haccount (by decide)
  have hcycles : (analyze nodes connections).cycles = [[("mint" : Text), ("burn" : Text)]] := by
    cbv
  have hentries : (compile nodes connections none).flow.entryPoints = [] := by decide
  refine ⟨hagain, hvault, ?_, ?_, ?_, ?_⟩
  · rw [hanalysis, hcycles]
  · rw [hworkspace, hentries]
    rfl
  · rw [hworkspace]
    exact List.prefix_append _ _
  · rw [hrecord]

end ModuleGraph
