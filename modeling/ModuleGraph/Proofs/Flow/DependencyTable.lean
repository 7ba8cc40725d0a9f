import ModuleGraph.Proofs.Distinct
import ModuleGraph.Proofs.Flow.ExecutionOrder
import ModuleGraph.Proofs.Graph.Lookup

/-!
# The table of dependencies of a graph

The table is built wire by wire. Read as a whole, it lists every identifier of a node with the
sources of the wires into it, each once, in the order of the wires.

## Main definitions

- `sourcesInto` — the identifiers at the sources of the wires into a node

## Main statements

- `dependencies_eq`, `lookup_dependencies` — what the table of a graph lists
- `dependencies_addNode` — the table after a node is added that no connection names
- `mem_executionOrder_dependencies`, `executionOrder_perm_distinctIds` — the execution order of a
  graph lists its nodes, each once, and no others
-/

namespace ModuleGraph

variable {L : Type} [BEq L]

/-- The identifiers at the sources of the wires into a node, each once. -/
def sourcesInto (wires : List (Resolved L)) (id : L) : List L :=
  ((wires.filter (·.targetNode.id == id)).map (·.sourceNode.id)).eraseDups

/-! ### The table, wire by wire -/

theorem add_map (ids : List L) (sources : L → List L) (target source : L) :
    Dependencies.add (ids.map fun id => (id, sources id)) target source =
      ids.map fun id => (id,
        if id == target && !(sources id).contains source then sources id ++ [source]
        else sources id) := by
  rw [Dependencies.add, List.map_map]
  congr 1
  funext id
  simp only [Function.comp_apply]
  split <;> rfl

variable [LawfulBEq L] {nodes : List (Node L)} {connections : List (Connection L)}
variable {wire : Resolved L} {id : L}

theorem sourcesInto_concat (wires : List (Resolved L)) (wire : Resolved L) (id : L) :
    sourcesInto (wires ++ [wire]) id =
      if id == wire.targetNode.id && !(sourcesInto wires id).contains wire.sourceNode.id then
        sourcesInto wires id ++ [wire.sourceNode.id]
      else sourcesInto wires id := by
  by_cases htarget : id = wire.targetNode.id
  · subst htarget
    by_cases hsource : wire.sourceNode.id ∈ sourcesInto wires wire.targetNode.id
    · have hlisted := List.mem_eraseDups.1 hsource
      simp [sourcesInto, eraseDups_concat, hlisted]
    · have hunlisted := mt List.mem_eraseDups.2 hsource
      simp [sourcesInto, eraseDups_concat, hunlisted]
  · simp [sourcesInto, htarget, Ne.symm htarget]

theorem foldl_add_map (ids : List L) (wires : List (Resolved L)) :
    wires.foldl (fun table wire => Dependencies.add table wire.targetNode.id wire.sourceNode.id)
        (ids.map fun id => (id, [])) =
      ids.map fun id => (id, sourcesInto wires id) := by
  induction wires using List.reverseRecOn with
  | nil => rfl
  | append_singleton wires wire ih =>
    rw [List.foldl_append, ih]
    simp only [List.foldl_cons, List.foldl_nil, add_map, sourcesInto_concat]

theorem dependencies_eq (nodes : List (Node L)) (connections : List (Connection L)) :
    dependencies nodes connections =
      (distinctIds nodes).map fun id => (id, sourcesInto (resolved nodes connections) id) :=
  foldl_add_map (distinctIds nodes) (resolved nodes connections)

/-! ### What the table lists -/

theorem mem_sourcesInto {wires : List (Resolved L)} {source : L} :
    source ∈ sourcesInto wires id ↔
      ∃ wire ∈ wires, wire.targetNode.id = id ∧ wire.sourceNode.id = source := by
  simp [sourcesInto, and_assoc]

theorem sourcesInto_eq_nil_iff {wires : List (Resolved L)} :
    sourcesInto wires id = [] ↔ ∀ wire ∈ wires, wire.targetNode.id ≠ id := by
  simp only [List.eq_nil_iff_forall_not_mem, mem_sourcesInto]
  constructor
  · exact fun h wire hwire htarget => h _ ⟨wire, hwire, htarget, rfl⟩
  · exact fun h source ⟨wire, hwire, htarget, _⟩ => h wire hwire htarget

theorem mem_distinctIds : id ∈ distinctIds nodes ↔ ∃ node ∈ nodes, node.id = id := by
  simp [distinctIds]

theorem id_sourceNode_mem (h : wire ∈ resolved nodes connections) :
    wire.sourceNode.id ∈ distinctIds nodes :=
  mem_distinctIds.2 ⟨_, sourceNode_mem h, rfl⟩

theorem id_targetNode_mem (h : wire ∈ resolved nodes connections) :
    wire.targetNode.id ∈ distinctIds nodes :=
  mem_distinctIds.2 ⟨_, targetNode_mem h, rfl⟩

theorem lookup_map_key {α : Type} (ids : List L) (value : L → α) (id : L) :
    (ids.map fun id => (id, value id)).lookup id = if id ∈ ids then some (value id) else none := by
  induction ids with
  | nil => rfl
  | cons first ids ih =>
    rw [List.map_cons, List.lookup_cons]
    by_cases hfirst : id = first
    · simp [hfirst]
    · simp [beq_eq_false_iff_ne.2 hfirst, hfirst, ih]

theorem lookup_dependencies (connections : List (Connection L)) (h : id ∈ distinctIds nodes) :
    (dependencies nodes connections).lookup id =
      some (sourcesInto (resolved nodes connections) id) := by
  rw [dependencies_eq, lookup_map_key, if_pos h]

theorem of_dependencies (nodes : List (Node L)) (connections : List (Connection L)) (id : L) :
    (dependencies nodes connections).of id = sourcesInto (resolved nodes connections) id := by
  rw [Dependencies.of, dependencies_eq, lookup_map_key]
  split
  · rfl
  · rename_i hid
    -- no wire ends at what is no node
    have hnone : sourcesInto (resolved nodes connections) id = [] := by
      rw [sourcesInto_eq_nil_iff]
      rintro wire hwire rfl
      exact hid (id_targetNode_mem hwire)
    rw [hnone, Option.getD_none]

/-! ### A node is added -/

theorem distinctIds_concat {node : Node L} (h : findNode? nodes node.id = none) :
    distinctIds (nodes ++ [node]) = distinctIds nodes ++ [node.id] := by
  have hnew : node.id ∉ nodes.map (·.id) := by simpa using findNode?_eq_none_iff.1 h
  rw [distinctIds, List.map_append, List.map_singleton, eraseDups_concat, if_neg hnew]
  rfl

theorem resolved_addNode {node : Node L} (h : findNode? nodes node.id = none)
    (huntouched : ∀ connection ∈ connections, connection.touches node.id = false) :
    resolved (nodes ++ [node]) connections = resolved nodes connections := by
  have hremoved : (nodes ++ [node]).filter (·.id != node.id) = nodes := by
    have hother : ∀ other ∈ nodes, (other.id != node.id) = true := by
      simpa [bne] using findNode?_eq_none_iff.1 h
    rw [List.filter_append, List.filter_eq_self.2 hother]
    simp
  refine List.filterMap_congr fun connection hconnection => ?_
  -- the old nodes are what is left when the new one is removed
  rw [← resolve?_filter_id _ (huntouched connection hconnection), hremoved]

theorem dependencies_addNode {node : Node L} (h : findNode? nodes node.id = none)
    (huntouched : ∀ connection ∈ connections, connection.touches node.id = false) :
    dependencies (nodes ++ [node]) connections =
      dependencies nodes connections ++ [(node.id, [])] := by
  have hnone : sourcesInto (resolved nodes connections) node.id = [] := by
    rw [sourcesInto_eq_nil_iff]
    intro wire hwire htarget
    have hfound := findNode?_targetNode hwire
    rw [htarget, h] at hfound
    cases hfound
  rw [dependencies_eq, dependencies_eq, resolved_addNode h huntouched, distinctIds_concat h,
    List.map_append, List.map_singleton, hnone]

/-! ### The execution order of a graph -/

theorem mem_distinctIds_of_mem_of {dependency : L}
    (h : dependency ∈ (dependencies nodes connections).of id) : dependency ∈ distinctIds nodes := by
  rw [of_dependencies, mem_sourcesInto] at h
  obtain ⟨wire, hwire, -, rfl⟩ := h
  exact id_sourceNode_mem hwire

theorem mem_executionOrder_dependencies :
    id ∈ executionOrder (dependencies nodes connections) (distinctIds nodes) ↔
      id ∈ distinctIds nodes := by
  rw [mem_executionOrder_iff]
  constructor
  · exact fun h => h.mem_of_closed (List.Subset.refl _) fun _ _ _ => mem_distinctIds_of_mem_of
  · exact .root

/-- The execution order of a graph lists its identifiers, each once, in some order. -/
theorem executionOrder_perm_distinctIds (nodes : List (Node L))
    (connections : List (Connection L)) :
    (executionOrder (dependencies nodes connections) (distinctIds nodes)).Perm
      (distinctIds nodes) :=
  (List.perm_ext_iff_of_nodup (nodup_executionOrder _ _) (nodup_eraseDups _)).2
    fun _ => mem_executionOrder_dependencies

end ModuleGraph
