import Mathlib
import ModuleGraph.Proofs.Flow.DependencyTable
import ModuleGraph.Workspace

/-!
# The program and the analysis of a graph

The summary of a program and the predecessors of its instructions are made from the wires of the
graph. They say the same as the analysis of the graph, put into the names of instructions.

## Main definitions

- `nameOf?`, `namesAccount` — the name, and whether it is an account, of the first node with an
  identifier

## Main statements

- `map_name_behavioral` — the names of the instructions among nodes, read off their identifiers
- `executionOrder_programFlow` — the execution order names that of the analysis
- `entryPoints_eq` — the entry points are the instructions without dependencies
- `predecessorNames_eq` — the predecessors of an instruction are among its dependencies
- `compile_agrees_with_analyze` — all of this together
-/

namespace ModuleGraph

variable {L : Type} [Label L]

open Label (wording)

/-- The name of the first node with an identifier. -/
def nameOf? (nodes : List (Node L)) (id : L) : Option Text :=
  (findNode? nodes id).map fun node => wording node.name

/-- Whether the first node with an identifier is an account. -/
def namesAccount (nodes : List (Node L)) (id : L) : Bool :=
  (findNode? nodes id).any (·.isAccount)

variable {nodes : List (Node L)} {connections : List (Connection L)} {wire : Resolved L} {id : L}

/-! ### Names and identifiers -/

theorem nameOf?_of_findNode? {node : Node L} (h : findNode? nodes id = some node) :
    nameOf? nodes id = some (wording node.name) := by
  rw [nameOf?, h, Option.map_some]

theorem namesAccount_of_findNode? {node : Node L} (h : findNode? nodes id = some node) :
    namesAccount nodes id = node.isAccount := by
  rw [namesAccount, h, Option.any_some]

/-- The names of the instructions among nodes can be read off the identifiers of the nodes. -/
theorem map_name_behavioral {found : List (Node L)}
    (h : ∀ node ∈ found, findNode? nodes node.id = some node) :
    (behavioral found).map (fun node => some (wording node.name)) =
      ((found.map (·.id)).filter fun id => !namesAccount nodes id).map (nameOf? nodes) := by
  have hkind : ∀ node ∈ found, (!namesAccount nodes node.id) = !node.isAccount := fun node hnode =>
    congrArg _ (namesAccount_of_findNode? (h node hnode))
  rw [List.filter_map, List.map_map, behavioral]
  simp only [Function.comp_def]
  rw [List.filter_congr hkind]
  apply List.map_congr_left
  intro node hnode
  exact (nameOf?_of_findNode? (h node (List.mem_filter.1 hnode).1)).symm

variable [LawfulBEq L]

theorem isSome_findNode? (h : id ∈ distinctIds nodes) : (findNode? nodes id).isSome = true := by
  obtain ⟨node, hnode, rfl⟩ := mem_distinctIds.1 h
  rw [findNode?, List.find?_isSome]
  exact ⟨node, hnode, BEq.rfl⟩

/-- Nodes looked up by identifiers have these identifiers. -/
theorem map_id_filterMap_findNode? {ids : List L} (h : ∀ id ∈ ids, id ∈ distinctIds nodes) :
    (ids.filterMap (findNode? nodes)).map (·.id) = ids := by
  induction ids with
  | nil => rfl
  | cons id ids ih =>
    obtain ⟨hid, hids⟩ := List.forall_mem_cons.1 h
    obtain ⟨node, hnode⟩ := Option.isSome_iff_exists.1 (isSome_findNode? hid)
    rw [List.filterMap_cons_some hnode, List.map_cons, ih hids, eq_of_beq (beq_of_findNode? hnode)]

/-! ### The summary of the program -/

theorem executionOrder_programFlow (nodes : List (Node L)) (connections : List (Connection L)) :
    (programFlow nodes connections).executionOrder.map some =
      ((analyze nodes connections).executionOrder.filter fun id => !namesAccount nodes id).map
        (nameOf? nodes) := by
  have hfound : ∀ node ∈ (analyze nodes connections).executionOrder.filterMap (findNode? nodes),
      findNode? nodes node.id = some node := by
    intro node hnode
    obtain ⟨id, -, hid⟩ := List.mem_filterMap.1 hnode
    exact findNode?_id hid
  have hids : ∀ id ∈ (analyze nodes connections).executionOrder, id ∈ distinctIds nodes :=
    fun id => mem_executionOrder_dependencies.1
  have hnames := map_name_behavioral hfound
  rw [map_id_filterMap_findNode? hids] at hnames
  rw [← hnames, programFlow, List.map_map]
  rfl

theorem entryPoints_eq (nodes : List (Node L)) (connections : List (Connection L)) :
    entryPoints nodes (resolved nodes connections) =
      (nodes.filter fun node =>
        !node.isAccount && (dependencies nodes connections).lookup node.id == some []).map
          fun node => wording node.name := by
  rw [entryPoints, behavioral, List.filter_filter]
  congr 1
  apply List.filter_congr
  intro node hnode
  rw [lookup_dependencies connections (mem_distinctIds.2 ⟨node, hnode, rfl⟩), Bool.and_comm]
  congr 1
  rw [Bool.eq_iff_iff, beq_iff_eq, Option.some.injEq, sourcesInto_eq_nil_iff]
  simp

/-! ### Predecessors -/

theorem predecessorNames_eq (nodes : List (Node L)) (connections : List (Connection L)) (id : L) :
    (predecessorNames (incoming (resolved nodes connections) id)).map some =
      (((sourcesInto (resolved nodes connections) id).filter fun id =>
        !namesAccount nodes id).map (nameOf? nodes)).eraseDups := by
  have hfound : ∀ node ∈ (incoming (resolved nodes connections) id).map (·.sourceNode),
      findNode? nodes node.id = some node := by
    intro node hnode
    obtain ⟨wire, hwire, rfl⟩ := List.mem_map.1 hnode
    exact findNode?_sourceNode (List.mem_filter.1 hwire).1
  have hnames := map_name_behavioral hfound
  rw [behavioral, List.filter_map, List.map_map, List.map_map] at hnames
  rw [predecessorNames, ← eraseDups_map_of_injective fun _ _ => Option.some.inj, sourcesInto,
    ← eraseDups_filter, eraseDups_map_eraseDups, List.map_map]
  exact congrArg List.eraseDups hnames

omit [LawfulBEq L] in
theorem map_fst_assignLabels (used : List String) (nodes : List (Node L)) :
    (assignLabels used nodes).map Prod.fst = nodes := by
  induction nodes generalizing used with
  | nil => rfl
  | cons node nodes ih => rw [assignLabels, List.map_cons, ih]

omit [LawfulBEq L] in
/-- What instructions take from their nodes alone can be read off the nodes. -/
theorem map_scheduleInstructions {α : Type} {f : Instruction L → α} {g : Node L → α}
    {wires : List (Resolved L)} (h : ∀ node label, f (scheduleInstruction wires node label) = g node)
    (nodes : List (Node L)) :
    (scheduleInstructions nodes wires).map f = (behavioral nodes).map g := by
  rw [scheduleInstructions, List.map_map]
  conv_rhs => rw [← map_fst_assignLabels [] (behavioral nodes), List.map_map]
  exact List.map_congr_left fun entry _ => h entry.1 entry.2

omit [LawfulBEq L] in
theorem map_nodeId_scheduleInstructions (nodes : List (Node L)) (wires : List (Resolved L)) :
    (scheduleInstructions nodes wires).map (·.nodeId) = (behavioral nodes).map (·.id) :=
  map_scheduleInstructions (fun _ _ => rfl) nodes

omit [LawfulBEq L] in
/-- An instruction is made from a node that is no account. -/
theorem exists_of_mem_scheduleInstructions {wires : List (Resolved L)}
    {instruction : Instruction L} (h : instruction ∈ scheduleInstructions nodes wires) :
    ∃ node ∈ behavioral nodes, instruction.nodeId = node.id ∧
      instruction.predecessors = predecessorNames (incoming wires node.id) := by
  obtain ⟨⟨node, label⟩, hlabelled, rfl⟩ := List.mem_map.1 h
  have hnode := List.mem_map_of_mem (f := Prod.fst) hlabelled
  rw [map_fst_assignLabels] at hnode
  exact ⟨node, hnode, rfl, rfl⟩

/-! ### Agreement -/

/-- **The program of a graph agrees with its analysis**, whatever the name asked for. Its execution
order names the identifiers of that of the analysis, accounts left out. Its entry points are the
instructions for which the analysis lists no dependencies. The predecessors of an instruction are
the names, each once, of the dependencies that the analysis lists for it, accounts left out. -/
theorem compile_agrees_with_analyze (nodes : List (Node Text))
    (connections : List (Connection Text)) (requested : Option Text) :
    let analysis := analyze nodes connections
    let flow := (compile nodes connections requested).flow
    let schedule := buildSchedule (programNameOf requested) nodes connections
    flow.executionOrder.map some =
      (analysis.executionOrder.filter fun id => !namesAccount nodes id).map (nameOf? nodes) ∧
    flow.entryPoints =
      (nodes.filter fun node =>
        !node.isAccount && analysis.dependencies.lookup node.id == some []).map (·.name) ∧
    ∀ instruction ∈ schedule.instructions, ∃ sources,
      analysis.dependencies.lookup instruction.nodeId = some sources ∧
      instruction.predecessors.map some =
        ((sources.filter fun id => !namesAccount nodes id).map (nameOf? nodes)).eraseDups := by
  refine ⟨executionOrder_programFlow nodes connections, entryPoints_eq nodes connections, ?_⟩
  intro instruction hinstruction
  obtain ⟨node, hnode, hid, hpredecessors⟩ := exists_of_mem_scheduleInstructions hinstruction
  have hlisted : instruction.nodeId ∈ distinctIds nodes :=
    mem_distinctIds.2 ⟨node, (List.mem_filter.1 hnode).1, hid.symm⟩
  refine ⟨_, lookup_dependencies connections hlisted, ?_⟩
  rw [hpredecessors, ← hid]
  exact predecessorNames_eq nodes connections instruction.nodeId

/-- A vault and a mint feed a burn, the mint by two wires; the burn feeds the mint and what does not
exist; a second node has the identifier of the mint. -/
def meshed : Graph Text where
  name := "meshed"
  nodes :=
    [⟨"v", "account", "Vault", [], [⟨"o", "Out", "data"⟩]⟩,
      ⟨"m", "token", "Mint", [⟨"i", "In", "data"⟩], [⟨"o", "Out", "data"⟩]⟩,
      ⟨"b", "defi", "Burn", [⟨"i", "In", "data"⟩, ⟨"j", "Also", "data"⟩, ⟨"k", "Key", "data"⟩],
        [⟨"o", "Out", "data"⟩]⟩,
      ⟨"m", "account", "Shadow", [], []⟩,
      ⟨"s", "start", "Start", [], []⟩]
  connections :=
    [⟨⟨"m", "o", "b", "i"⟩, "c1"⟩, ⟨⟨"m", "o", "b", "j"⟩, "c2"⟩, ⟨⟨"v", "o", "b", "k"⟩, "c3"⟩,
      ⟨⟨"b", "o", "m", "i"⟩, "c4"⟩, ⟨⟨"b", "o", "x", "i"⟩, "c5"⟩]

theorem compile_agrees_with_analyze_meshed :
    let flow := (compile meshed.nodes meshed.connections (some "Mesh")).flow
    let schedule := buildSchedule (programNameOf (some "Mesh")) meshed.nodes meshed.connections
    flow.executionOrder.map some = [some ("Burn" : Text), some ("Mint" : Text),
      some ("Start" : Text)] ∧
    flow.entryPoints = [("Start" : Text)] ∧
    ∃ instruction ∈ schedule.instructions, instruction.nodeId = "b" ∧
      instruction.predecessors.map some = [some ("Mint" : Text)] := by
  intro flow schedule
  obtain ⟨horder, hentries, hpredecessors⟩ :=
    compile_agrees_with_analyze meshed.nodes meshed.connections (some "Mesh")
  refine ⟨horder.trans (by cbv), hentries.trans (by cbv), ?_⟩
  have hids : schedule.instructions.map (·.nodeId) = (behavioral meshed.nodes).map (·.id) :=
    map_nodeId_scheduleInstructions _ _
  have hburn : ("b" : Text) ∈ schedule.instructions.map (·.nodeId) := by
    rw [hids]
    decide
  obtain ⟨instruction, hinstruction, hid⟩ := List.mem_map.1 hburn
  obtain ⟨sources, hsources, hnames⟩ := hpredecessors instruction hinstruction
  have hlisted : (analyze meshed.nodes meshed.connections).dependencies.lookup ("b" : Text) =
      some [("m" : Text), ("v" : Text)] := by cbv
  rw [hid, hlisted] at hsources
  cases hsources
  exact ⟨instruction, hinstruction, hid, hnames.trans (by cbv)⟩

end ModuleGraph
