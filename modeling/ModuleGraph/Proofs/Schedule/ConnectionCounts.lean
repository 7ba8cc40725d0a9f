import Mathlib
import ModuleGraph.Proofs.Flow.Coherence
import ModuleGraph.Proofs.Schedule.Agreement

/-!
# Counts of connections

Every instruction and every account of a plan is told how many wires have an end at its node. A wire
is told to the nodes at its two ends, and one that runs from a node to itself to one node only. So
the counts add up to twice the number of wires, less those that run from a node to itself. A unit is
told of no wire iff the analysis lists its node as isolated.

## Main definitions

- `Resolved.isLoop` — a wire from a node to itself

## Main statements

- `countP_reaches` — how many of the nodes a wire is told to
- `sum_countP_reaches` — how many wires are told to all nodes together
- `connectionCount_eq_zero_iff` — what is told of no wire is isolated
- `connection_counts_add_up` — the counts in the plan of a graph
-/

namespace ModuleGraph

section Counting

variable {α : Type} (p : α → Bool)

theorem countP_cons_toNat (item : α) (items : List α) :
    (item :: items).countP p = items.countP p + (p item).toNat := by
  rw [List.countP_cons]
  cases p item <;> rfl

/-- The number of items that satisfy `p`, one by one. -/
theorem sum_map_toNat (items : List α) :
    (items.map fun item => (p item).toNat).sum = items.countP p := by
  induction items with
  | nil => rfl
  | cons item items ih =>
    rw [List.map_cons, List.sum_cons, ih, countP_cons_toNat, Nat.add_comm]

end Counting

variable {L : Type} [Label L]

/-- Whether a wire runs from a node to itself. -/
def Resolved.isLoop (wire : Resolved L) : Bool := wire.sourceNode.id == wire.targetNode.id

variable [LawfulBEq L] {nodes : List (Node L)} {connections : List (Connection L)}

/-! ### The ends of wires -/

/-- A wire reaches two of the nodes, or one if it is a loop. -/
theorem countP_reaches {ids : List L} (hids : ids.Nodup) {wire : Resolved L}
    (hsource : wire.sourceNode.id ∈ ids) (htarget : wire.targetNode.id ∈ ids) :
    ids.countP wire.reaches + wire.isLoop.toNat = 2 := by
  have hends : (ids.filter wire.reaches).Perm
      [wire.sourceNode.id, wire.targetNode.id].eraseDups := by
    refine (List.perm_ext_iff_of_nodup (hids.filter _) (nodup_eraseDups _)).2 fun id => ?_
    simp only [List.mem_filter, Resolved.reaches, Bool.or_eq_true, beq_iff_eq, List.mem_eraseDups,
      List.mem_cons, List.not_mem_nil, or_false]
    constructor
    · rintro ⟨-, rfl | rfl⟩
      · exact .inl rfl
      · exact .inr rfl
    · rintro (rfl | rfl)
      · exact ⟨hsource, .inl rfl⟩
      · exact ⟨htarget, .inr rfl⟩
  rw [List.countP_eq_length_filter, hends.length_eq, Resolved.isLoop]
  by_cases hloop : wire.sourceNode.id = wire.targetNode.id
  · simp [hloop, List.eraseDups_cons]
  · have hother : (wire.targetNode.id == wire.sourceNode.id) = false :=
      beq_eq_false_iff_ne.2 (Ne.symm hloop)
    simp [hloop, hother, List.eraseDups_cons]

/-- The ends of wires at each of the nodes, counted node by node. -/
theorem sum_countP_reaches {ids : List L} (hids : ids.Nodup) {wires : List (Resolved L)}
    (hends : ∀ wire ∈ wires, wire.sourceNode.id ∈ ids ∧ wire.targetNode.id ∈ ids) :
    (ids.map fun id => wires.countP (·.reaches id)).sum + wires.countP (·.isLoop) =
      2 * wires.length := by
  induction wires with
  | nil => simp
  | cons wire wires ih =>
    obtain ⟨⟨hsource, htarget⟩, hrest⟩ := List.forall_mem_cons.1 hends
    have hwire := countP_reaches hids hsource htarget
    have hwires := ih hrest
    simp only [countP_cons_toNat, List.sum_map_add, sum_map_toNat, List.length_cons]
    omega

/-! ### The count of a node -/

omit [LawfulBEq L] in
theorem connectionCount_eq (nodes : List (Node L)) (connections : List (Connection L)) (id : L) :
    connectionCount (resolved nodes connections) id =
      (resolved nodes connections).countP (·.reaches id) := by
  refine List.countP_congr fun wire hwire => ?_
  obtain ⟨connection, -, hresolve⟩ := List.mem_filterMap.1 hwire
  obtain ⟨-, -, -, -, rfl⟩ := resolve?_eq_some_iff.1 hresolve
  rw [reaches_eq_touches hresolve]

/-- No wire is counted for a node iff the analysis lists it as isolated. -/
theorem connectionCount_eq_zero_iff {node : Node L} (h : node ∈ nodes) :
    connectionCount (resolved nodes connections) node.id = 0 ↔
      node.id ∈ isolatedIds nodes connections := by
  have hlisted : node.id ∈ distinctIds nodes := mem_distinctIds.2 ⟨node, h, rfl⟩
  rw [connectionCount_eq, List.countP_eq_zero, mem_isolatedIds, and_iff_right hlisted]
  simp [Resolved.reaches]

/-- The counts of nodes with different identifiers. -/
theorem sum_connectionCount (connections : List (Connection L)) (h : (nodes.map (·.id)).Nodup) :
    (nodes.map fun node => connectionCount (resolved nodes connections) node.id).sum +
        (resolved nodes connections).countP (·.isLoop) =
      2 * (resolved nodes connections).length := by
  have hends : ∀ wire ∈ resolved nodes connections,
      wire.sourceNode.id ∈ nodes.map (·.id) ∧ wire.targetNode.id ∈ nodes.map (·.id) :=
    fun wire hwire => ⟨List.mem_map_of_mem (sourceNode_mem hwire),
      List.mem_map_of_mem (targetNode_mem hwire)⟩
  have hsum := sum_countP_reaches h hends
  simpa only [connectionCount_eq, List.map_map, Function.comp_def] using hsum

/-! ### The plan -/

omit [LawfulBEq L] in
/-- The counts in a plan are those of the nodes. -/
theorem sum_connectionCount_buildSchedule (programName : String) (nodes : List (Node L))
    (connections : List (Connection L)) :
    let schedule := buildSchedule programName nodes connections
    (schedule.instructions.map (·.connectionCount)).sum +
        (schedule.accounts.map (·.connectionCount)).sum =
      ((nodes.map fun node => connectionCount (resolved nodes connections) node.id).sum : Nat) := by
  intro schedule
  have hinstructions : schedule.instructions.map (·.connectionCount) = (behavioral nodes).map
      fun node => (connectionCount (resolved nodes connections) node.id : Int) :=
    map_scheduleInstructions (fun _ _ => rfl) nodes
  have haccounts : schedule.accounts.map (·.connectionCount) =
      (nodes.filter (·.isAccount)).map
        fun node => (connectionCount (resolved nodes connections) node.id : Int) := List.map_map
  have hunits : (behavioral nodes ++ nodes.filter (·.isAccount)).Perm nodes :=
    List.perm_append_comm.trans (List.filter_append_perm _ nodes)
  rw [hinstructions, haccounts, ← List.sum_append, ← List.map_append, (hunits.map _).sum_eq,
    Nat.cast_list_sum, List.map_map]
  rfl

/-- **The counts of connections add up.** If no identifier is repeated, the counts of all units of a
plan together are twice the number of wires, less the wires that run from a node to itself. The
summary shows every wire once. A unit has the count zero iff the analysis lists its node as
isolated. -/
theorem connection_counts_add_up (programName : String) (nodes : List (Node Text))
    (connections : List (Connection Text)) :
    let schedule := buildSchedule programName nodes connections
    let wires := resolved nodes connections
    let isolated := (analyze nodes connections).isolated
    ((nodes.map (·.id)).Nodup →
      (schedule.instructions.map (·.connectionCount)).sum +
          (schedule.accounts.map (·.connectionCount)).sum =
        2 * (wires.length : Int) - wires.countP (·.isLoop)) ∧
    schedule.flow.dataFlow.length = wires.length ∧
    (∀ instruction ∈ schedule.instructions,
      instruction.connectionCount = 0 ↔ instruction.nodeId ∈ isolated) ∧
    ∀ account ∈ schedule.accounts,
      account.connectionCount = 0 ↔ account.nodeId ∈ isolated := by
  intro schedule wires isolated
  refine ⟨fun hdistinct => ?_, List.length_map _, fun instruction hinstruction => ?_,
    fun account haccount => ?_⟩
  · have hsum : _ + wires.countP (·.isLoop) = 2 * wires.length :=
      sum_connectionCount connections hdistinct
    rw [sum_connectionCount_buildSchedule]
    omega
  · obtain ⟨⟨node, label⟩, hlabelled, rfl⟩ := List.mem_map.1 hinstruction
    have hnode := List.mem_map_of_mem (f := Prod.fst) hlabelled
    rw [map_fst_assignLabels] at hnode
    exact Int.natCast_eq_zero.trans (connectionCount_eq_zero_iff (List.mem_filter.1 hnode).1)
  · obtain ⟨node, hnode, rfl⟩ := List.mem_map.1 haccount
    exact Int.natCast_eq_zero.trans (connectionCount_eq_zero_iff (List.mem_filter.1 hnode).1)

/-- A mint is wired into a vault twice, and the vault into itself. A rent stands alone, and the one
wire at it comes from a node that is not there. -/
def mintIntoVault : Graph Text where
  name := "vault"
  nodes :=
    [⟨"mint", "token", "Mint", [], [⟨"out", "Out", "any"⟩]⟩,
      ⟨"vault", "account", "Vault", [⟨"in", "In", "any"⟩], [⟨"out", "Out", "any"⟩]⟩,
      ⟨"rent", "token", "Rent", [⟨"in", "In", "any"⟩], []⟩]
  connections :=
    [⟨⟨"vault", "out", "vault", "in"⟩, "c1"⟩, ⟨⟨"mint", "out", "vault", "in"⟩, "c2"⟩,
      ⟨⟨"mint", "out", "vault", "in"⟩, "c3"⟩, ⟨⟨"ghost", "out", "rent", "in"⟩, "c4"⟩]

/-- Of three wires one is a loop, so the counts add up to five. -/
theorem connection_counts_add_up_mintIntoVault :
    let schedule := buildSchedule "vault" mintIntoVault.nodes mintIntoVault.connections
    (mintIntoVault.nodes.map (·.id)).Nodup ∧
    (schedule.instructions.map (·.connectionCount)).sum +
      (schedule.accounts.map (·.connectionCount)).sum = 5 ∧
    schedule.flow.dataFlow.length = 3 ∧
    ∃ instruction ∈ schedule.instructions,
      instruction.connectionCount = 0 ∧
        instruction.nodeId ∈ (analyze mintIntoVault.nodes mintIntoVault.connections).isolated := by
  intro schedule
  obtain ⟨hsum, hflow, hinstructions, -⟩ :=
    connection_counts_add_up "vault" mintIntoVault.nodes mintIntoVault.connections
  have hdistinct : (mintIntoVault.nodes.map (·.id)).Nodup := by decide
  have hwires : (resolved mintIntoVault.nodes mintIntoVault.connections).length = 3 := by decide
  have hloops : (resolved mintIntoVault.nodes mintIntoVault.connections).countP (·.isLoop) = 1 := by
    decide
  have hrent : ∃ instruction ∈ schedule.instructions, instruction.connectionCount = 0 := by decide
  obtain ⟨instruction, hinstruction, hnone⟩ := hrent
  refine ⟨hdistinct, ?_, hflow.trans hwires, instruction, hinstruction, hnone,
    (hinstructions instruction hinstruction).1 hnone⟩
  have htotal := hsum hdistinct
  rw [hwires, hloops] at htotal
  exact htotal

end ModuleGraph
