import Mathlib.Data.List.Basic
import ModuleGraph.Graph.Resolution

/-!
# Looking up nodes and ends

What is found among the nodes of a graph, and what of it survives when nodes come and go.

## Main statements

- `findNode?_id`, `Node.output?_id`, `Node.input?_id` — what is found is found under its own
  identifier, however that was spelled
- `findNode?_sourceNode`, `findNode?_targetNode` — the nodes at the ends of wires are found
- `findNode?_filter_id`, `findNode?_append`, `findNode?_concat` — what is found after nodes are
  removed or added
- `resolve?_eq_some_iff` — the four look-ups behind the ends of a connection
- `resolve?_filter_id`, `resolve?_append` — the ends after nodes are removed or added
- `firstNodes_induction` — induction on a list of nodes, shadowed nodes left out
- `findNode?_indexNodes`, `resolve?_indexNodes` — the first nodes are all that look-ups see
-/

namespace ModuleGraph

variable {L : Type} [BEq L]

theorem resolve?_eq_some_iff {nodes : List (Node L)} {connection : Connection L}
    {wire : Resolved L} :
    resolve? nodes connection = some wire ↔
      findNode? nodes connection.sourceNode = some wire.sourceNode ∧
      findNode? nodes connection.targetNode = some wire.targetNode ∧
      wire.sourceNode.output? connection.sourcePort = some wire.sourcePort ∧
      wire.targetNode.input? connection.targetPort = some wire.targetPort ∧
      wire.connection = connection := by
  obtain ⟨connection', source, sourcePort, target, targetPort⟩ := wire
  simp only [resolve?, Option.bind_eq_bind, Option.bind_eq_some_iff, Option.pure_def,
    Option.some.injEq, Resolved.mk.injEq]
  constructor
  · rintro ⟨_, hsource, _, htarget, _, hsourcePort, _, htargetPort, rfl, rfl, rfl, rfl, rfl⟩
    exact ⟨hsource, htarget, hsourcePort, htargetPort, rfl⟩
  · rintro ⟨hsource, htarget, hsourcePort, htargetPort, rfl⟩
    exact ⟨_, hsource, _, htarget, _, hsourcePort, _, htargetPort, rfl, rfl, rfl, rfl, rfl⟩

/-- A connection resolves if each of its ends does. -/
theorem isSome_resolve? (nodes : List (Node L)) (connection : Connection L) :
    (resolve? nodes connection).isSome =
      (((findNode? nodes connection.sourceNode).bind (·.output? connection.sourcePort)).isSome &&
        ((findNode? nodes connection.targetNode).bind
          (·.input? connection.targetPort)).isSome) := by
  rw [resolve?]
  cases findNode? nodes connection.sourceNode with
  | none => rfl
  | some source =>
    cases findNode? nodes connection.targetNode with
    | none => simp
    | some target =>
      simp only [Option.bind_eq_bind, Option.bind_some]
      cases source.output? connection.sourcePort <;>
        cases target.input? connection.targetPort <;> rfl

theorem mem_of_findNode? {nodes : List (Node L)} {id : L} {node : Node L}
    (h : findNode? nodes id = some node) : node ∈ nodes :=
  List.mem_of_find?_eq_some h

theorem beq_of_findNode? {nodes : List (Node L)} {id : L} {node : Node L}
    (h : findNode? nodes id = some node) : (node.id == id) = true :=
  List.find?_some (p := fun node : Node L => node.id == id) h

theorem Node.beq_of_output? {node : Node L} {id : L} {port : Port L}
    (h : node.output? id = some port) : (port.id == id) = true :=
  List.find?_some (p := fun port : Port L => port.id == id) h

theorem Node.beq_of_input? {node : Node L} {id : L} {port : Port L}
    (h : node.input? id = some port) : (port.id == id) = true :=
  List.find?_some (p := fun port : Port L => port.id == id) h

theorem findNode?_cons (node : Node L) (nodes : List (Node L)) (id : L) :
    findNode? (node :: nodes) id = if node.id == id then some node else findNode? nodes id := by
  rw [findNode?, List.find?_cons, findNode?]
  cases node.id == id <;> rfl

theorem findNode?_eq_none_iff {nodes : List (Node L)} {id : L} :
    findNode? nodes id = none ↔ ∀ node ∈ nodes, (node.id == id) = false := by
  simp [findNode?]

/-- What is found is found among more nodes, too. -/
theorem findNode?_append {nodes : List (Node L)} {id : L} {node : Node L}
    (h : findNode? nodes id = some node) (more : List (Node L)) :
    findNode? (nodes ++ more) id = some node := by
  rw [findNode?, List.find?_append]
  rw [findNode?] at h
  rw [h, Option.some_or]

theorem resolve?_append {nodes : List (Node L)} {connection : Connection L} {wire : Resolved L}
    (h : resolve? nodes connection = some wire) (more : List (Node L)) :
    resolve? (nodes ++ more) connection = some wire := by
  obtain ⟨hsource, htarget, hports⟩ := resolve?_eq_some_iff.1 h
  exact resolve?_eq_some_iff.2
    ⟨findNode?_append hsource more, findNode?_append htarget more, hports⟩

variable [EquivBEq L]

/-- Items are found under every spelling of a key. -/
theorem find?_key_congr {α : Type} (key : α → L) (items : List α) {id id' : L}
    (h : (id == id') = true) :
    items.find? (fun item => key item == id) = items.find? (fun item => key item == id') := by
  have hkeys : (fun item => key item == id) = fun item => key item == id' := by
    funext item
    exact BEq.congr_right h
  rw [hkeys]

theorem findNode?_congr (nodes : List (Node L)) {id id' : L} (h : (id == id') = true) :
    findNode? nodes id = findNode? nodes id' :=
  find?_key_congr Node.id nodes h

/-- A node that is added is found, if its identifier is new. -/
theorem findNode?_concat {nodes : List (Node L)} {node : Node L}
    (h : findNode? nodes node.id = none) : findNode? (nodes ++ [node]) node.id = some node := by
  rw [findNode?] at h ⊢
  rw [List.find?_append, h, Option.none_or]
  exact List.find?_cons_of_pos BEq.rfl

/-- What is found under a key is found under its own. -/
theorem find?_own_key {α : Type} (key : α → L) {items : List α} {id : L} {found : α}
    (h : items.find? (fun item => key item == id) = some found) :
    items.find? (fun item => key item == key found) = some found := by
  have hkey : (key found == id) = true :=
    List.find?_some (p := fun item => key item == id) h
  rw [find?_key_congr key items hkey, h]

theorem findNode?_id {nodes : List (Node L)} {id : L} {node : Node L}
    (h : findNode? nodes id = some node) : findNode? nodes node.id = some node :=
  find?_own_key Node.id h

theorem Node.output?_id {node : Node L} {id : L} {port : Port L}
    (h : node.output? id = some port) : node.output? port.id = some port :=
  find?_own_key Port.id h

theorem Node.input?_id {node : Node L} {id : L} {port : Port L}
    (h : node.input? id = some port) : node.input? port.id = some port :=
  find?_own_key Port.id h

/-! ### The ends of wires -/

section Wires

variable {nodes : List (Node L)} {connections : List (Connection L)} {wire : Resolved L}

theorem findNode?_sourceNode (h : wire ∈ resolved nodes connections) :
    findNode? nodes wire.sourceNode.id = some wire.sourceNode := by
  obtain ⟨_, _, hwire⟩ := List.mem_filterMap.1 h
  exact findNode?_id (resolve?_eq_some_iff.1 hwire).1

theorem findNode?_targetNode (h : wire ∈ resolved nodes connections) :
    findNode? nodes wire.targetNode.id = some wire.targetNode := by
  obtain ⟨_, _, hwire⟩ := List.mem_filterMap.1 h
  exact findNode?_id (resolve?_eq_some_iff.1 hwire).2.1

theorem sourceNode_mem (h : wire ∈ resolved nodes connections) : wire.sourceNode ∈ nodes :=
  mem_of_findNode? (findNode?_sourceNode h)

theorem targetNode_mem (h : wire ∈ resolved nodes connections) : wire.targetNode ∈ nodes :=
  mem_of_findNode? (findNode?_targetNode h)

end Wires

/-! ### After nodes are removed -/

/-- Removing the nodes of one identifier leaves what is found under any other. -/
theorem findNode?_filter_id (nodes : List (Node L)) {id removed : L}
    (h : (id == removed) = false) :
    findNode? (nodes.filter (·.id != removed)) id = findNode? nodes id := by
  rw [findNode?, findNode?, List.find?_filter]
  congr 1
  funext node
  cases hid : node.id == id with
  | true =>
    have hkept : (node.id == removed) = false := (BEq.congr_left hid).trans h
    simp [bne, hkept]
  | false => simp

/-- Removing the nodes of one identifier leaves the ends of the connections that do not name it. -/
theorem resolve?_filter_id (nodes : List (Node L)) {connection : Connection L} {removed : L}
    (h : connection.touches removed = false) :
    resolve? (nodes.filter (·.id != removed)) connection = resolve? nodes connection := by
  rw [Connection.touches, Bool.or_eq_false_iff] at h
  rw [resolve?, resolve?, findNode?_filter_id nodes h.1, findNode?_filter_id nodes h.2]

/-! ### Among the first nodes -/

omit [EquivBEq L] in
theorem distinctIds_cons (node : Node L) (nodes : List (Node L)) :
    distinctIds (node :: nodes) = node.id :: distinctIds (nodes.filter (·.id != node.id)) := by
  rw [distinctIds, List.map_cons, List.eraseDups_cons, List.filter_map, distinctIds]
  rfl

omit [EquivBEq L] in
/-- What holds of a list of nodes if it holds of those that the first one does not shadow, holds of
every list. -/
theorem firstNodes_induction {motive : List (Node L) → Prop} (nil : motive [])
    (cons : ∀ node nodes, motive (nodes.filter (·.id != node.id)) → motive (node :: nodes))
    (nodes : List (Node L)) : motive nodes := by
  induction hlength : nodes.length using Nat.strongRecOn generalizing nodes with
  | ind length ih =>
    cases nodes with
    | nil => exact nil
    | cons node nodes =>
      have hshorter := List.length_filter_le (·.id != node.id) nodes
      rw [List.length_cons] at hlength
      exact cons node nodes (ih _ (by omega) _ rfl)

omit [EquivBEq L] in
theorem exists_of_mem_distinctIds {nodes : List (Node L)} {id : L} (h : id ∈ distinctIds nodes) :
    ∃ node ∈ nodes, node.id = id := by
  induction nodes using firstNodes_induction with
  | nil => cases h
  | cons first nodes ih =>
    rw [distinctIds_cons, List.mem_cons] at h
    obtain rfl | hrest := h
    · exact ⟨first, List.mem_cons_self, rfl⟩
    · obtain ⟨node, hnode, hid⟩ := ih hrest
      exact ⟨node, List.mem_cons_of_mem _ (List.mem_filter.1 hnode).1, hid⟩

/-- The first node of a list, then the first nodes of those that it does not shadow. -/
theorem indexNodes_cons (node : Node L) (nodes : List (Node L)) :
    indexNodes (node :: nodes) = node :: indexNodes (nodes.filter (·.id != node.id)) := by
  have hfirst : findNode? (node :: nodes) node.id = some node := by
    rw [findNode?_cons, if_pos BEq.rfl]
  rw [indexNodes, distinctIds_cons, List.filterMap_cons_some hfirst, indexNodes]
  congr 1
  apply List.filterMap_congr
  intro id hid
  obtain ⟨other, hother, rfl⟩ := exists_of_mem_distinctIds hid
  have hne : (other.id == node.id) = false := by simpa [bne] using (List.mem_filter.1 hother).2
  rw [findNode?_filter_id nodes hne, findNode?_cons, BEq.comm, hne]
  rfl

theorem findNode?_indexNodes (nodes : List (Node L)) (id : L) :
    findNode? (indexNodes nodes) id = findNode? nodes id := by
  induction nodes using firstNodes_induction with
  | nil => rfl
  | cons node nodes ih =>
    rw [indexNodes_cons, findNode?_cons, findNode?_cons, ih]
    cases hid : node.id == id with
    | true => rfl
    | false => rw [findNode?_filter_id nodes (BEq.comm.trans hid)]

theorem resolve?_indexNodes (nodes : List (Node L)) (connection : Connection L) :
    resolve? (indexNodes nodes) connection = resolve? nodes connection := by
  rw [resolve?, resolve?, findNode?_indexNodes, findNode?_indexNodes]

omit [EquivBEq L] in
theorem mem_of_mem_indexNodes {nodes : List (Node L)} {node : Node L}
    (h : node ∈ indexNodes nodes) : node ∈ nodes := by
  obtain ⟨id, -, hid⟩ := List.mem_filterMap.1 h
  exact mem_of_findNode? hid

theorem distinctIds_indexNodes (nodes : List (Node L)) :
    distinctIds (indexNodes nodes) = distinctIds nodes := by
  induction nodes using firstNodes_induction with
  | nil => rfl
  | cons node nodes ih =>
    have hunshadowed : (indexNodes (nodes.filter (·.id != node.id))).filter (·.id != node.id) =
        indexNodes (nodes.filter (·.id != node.id)) :=
      List.filter_eq_self.2 fun _ hnode => (List.mem_filter.1 (mem_of_mem_indexNodes hnode)).2
    rw [indexNodes_cons, distinctIds_cons, distinctIds_cons, hunshadowed, ih]

end ModuleGraph
