import ModuleGraph.Proofs.Schedule.ModuleScope

/-!
# The references in a schedule

The parts of a schedule refer to each other: an instruction binds accounts and names the
instructions before it, and the summary of the program names instructions and the ends of wires. The
parts are made from all nodes, but the references from the wires, which end at the first node of an
identifier. They lead to parts of the schedule all the same, since what is first is among all.

## Main definitions

- `Schedule.unitNames` — the names of the instructions and of the accounts
- `Schedule.Closed` — every reference leads to a part of the schedule

## Main statements

- `closed_buildSchedule` — the references in the plan of a graph lead to parts of the plan
- `executionOrder_perm` — without repeated identifiers the execution order names every instruction
- `references_resolve` — all of this, and what it says about the texts of the workspace
-/

namespace ModuleGraph

variable {L : Type}

/-! ### References -/

namespace Schedule

/-- The names of the instructions and of the accounts. -/
def unitNames (schedule : Schedule L) : List Text :=
  schedule.instructions.map (·.nodeName) ++ schedule.accounts.map (·.nodeName)

/-- Every reference in a schedule leads to a part of it. -/
structure Closed (schedule : Schedule L) : Prop where
  /-- What an instruction binds is an account of the schedule, under the same type. -/
  bound : ∀ instruction ∈ schedule.instructions, ∀ bound ∈ instruction.boundAccounts,
    ∃ account ∈ schedule.accounts,
      account.nodeId = bound.nodeId ∧ account.typeName = bound.typeName
  predecessors : ∀ instruction ∈ schedule.instructions,
    instruction.predecessors ⊆ schedule.instructions.map (·.nodeName)
  entryPoints : schedule.flow.entryPoints ⊆ schedule.instructions.map (·.nodeName)
  executionOrder : schedule.flow.executionOrder ⊆ schedule.instructions.map (·.nodeName)
  dataFlow : ∀ transfer ∈ schedule.flow.dataFlow,
    transfer.source ∈ schedule.unitNames ∧ transfer.target ∈ schedule.unitNames

end Schedule

variable [Label L]

open Label (wording)

variable {programName : String} {nodes : List (Node L)} {connections : List (Connection L)}

/-! ### The parts of the plan -/

theorem map_nodeName_instructions (programName : String) (nodes : List (Node L))
    (connections : List (Connection L)) :
    (buildSchedule programName nodes connections).instructions.map (·.nodeName) =
      (behavioral nodes).map fun node => wording node.name :=
  map_scheduleInstructions (fun _ _ => rfl) nodes

theorem mem_behavioral {node : Node L} :
    node ∈ behavioral nodes ↔ node ∈ nodes ∧ node.isAccount = false := by
  rw [behavioral, List.mem_filter, Bool.not_eq_true']

/-- The names of the instructions are those of the nodes that are no accounts. -/
theorem forall_nodeName_iff (P : Text → Prop) :
    (∀ instruction ∈ (buildSchedule programName nodes connections).instructions,
      P instruction.nodeName) ↔
      ∀ node ∈ nodes, node.isAccount = false → P (wording node.name) := by
  rw [← List.forall_mem_map, map_nodeName_instructions, List.forall_mem_map]
  simp only [mem_behavioral, and_imp]

/-- A node that is no account is an instruction of the plan, under its name. -/
theorem name_mem_instructions {node : Node L} (hnode : node ∈ nodes)
    (haccount : node.isAccount = false) :
    wording node.name ∈
      (buildSchedule programName nodes connections).instructions.map (·.nodeName) := by
  rw [map_nodeName_instructions]
  exact List.mem_map_of_mem (mem_behavioral.2 ⟨hnode, haccount⟩)

/-- A node that is an account is an account of the plan. -/
theorem exists_account_of_mem {node : Node L} (hnode : node ∈ nodes)
    (haccount : node.isAccount = true) :
    ∃ account ∈ (buildSchedule programName nodes connections).accounts,
      account.nodeId = node.id ∧ account.nodeName = wording node.name ∧
        account.typeName = accountType node :=
  ⟨_, List.mem_map_of_mem (List.mem_filter.2 ⟨hnode, haccount⟩), rfl, rfl, rfl⟩

theorem name_mem_unitNames {node : Node L} (hnode : node ∈ nodes) :
    wording node.name ∈ (buildSchedule programName nodes connections).unitNames := by
  rw [Schedule.unitNames, List.mem_append]
  cases haccount : node.isAccount with
  | false => exact .inl (name_mem_instructions hnode haccount)
  | true =>
    obtain ⟨account, hmem, -, hname, -⟩ := exists_account_of_mem hnode haccount
    exact .inr (hname ▸ List.mem_map_of_mem hmem)

/-! ### The references of the plan -/

/-- The references in the plan of a graph lead to parts of the plan. -/
theorem closed_buildSchedule (programName : String) (nodes : List (Node L))
    (connections : List (Connection L)) :
    (buildSchedule programName nodes connections).Closed where
  bound := by
    intro instruction hinstruction bound hbound
    obtain ⟨⟨node, label⟩, -, rfl⟩ := List.mem_map.1 hinstruction
    obtain ⟨-, source, hfound, rfl⟩ := find?_of_mem_bindAccounts hbound
    obtain ⟨hwired, haccount⟩ := List.mem_filter.1 (List.mem_of_find?_eq_some hfound)
    obtain ⟨wire, hwire, rfl⟩ := List.mem_map.1 hwired
    obtain ⟨account, hmem, hid, -, htype⟩ :=
      exists_account_of_mem (sourceNode_mem (List.mem_filter.1 hwire).1) haccount
    exact ⟨account, hmem, hid, htype⟩
  predecessors := by
    intro instruction hinstruction name hname
    obtain ⟨node, -, -, hpredecessors⟩ := exists_of_mem_scheduleInstructions hinstruction
    rw [hpredecessors, predecessorNames, List.mem_eraseDups] at hname
    obtain ⟨wire, hwire, rfl⟩ := List.mem_map.1 hname
    obtain ⟨hincoming, haccount⟩ := List.mem_filter.1 hwire
    rw [Bool.not_eq_true'] at haccount
    exact name_mem_instructions (sourceNode_mem (List.mem_filter.1 hincoming).1) haccount
  entryPoints := by
    intro name hname
    obtain ⟨node, hnode, rfl⟩ := List.mem_map.1 hname
    obtain ⟨hmem, haccount⟩ := mem_behavioral.1 (List.mem_filter.1 hnode).1
    exact name_mem_instructions hmem haccount
  executionOrder := by
    intro name hname
    obtain ⟨node, hnode, rfl⟩ := List.mem_map.1 hname
    obtain ⟨hmem, haccount⟩ := mem_behavioral.1 hnode
    obtain ⟨id, -, hfound⟩ := List.mem_filterMap.1 hmem
    exact name_mem_instructions (mem_of_findNode? hfound) haccount
  dataFlow := by
    intro transfer htransfer
    obtain ⟨wire, hwire, rfl⟩ := List.mem_map.1 htransfer
    exact ⟨name_mem_unitNames (sourceNode_mem hwire), name_mem_unitNames (targetNode_mem hwire)⟩

/-! ### Without repeated identifiers -/

section Distinct

variable [LawfulBEq L]

theorem findNode?_of_nodup (h : (nodes.map (·.id)).Nodup) {node : Node L} (hnode : node ∈ nodes) :
    findNode? nodes node.id = some node := by
  obtain ⟨found, hfound⟩ :=
    Option.isSome_iff_exists.1 (isSome_findNode? (mem_distinctIds.2 ⟨node, hnode, rfl⟩))
  have hid : found.id = node.id := eq_of_beq (beq_of_findNode? hfound)
  rw [hfound, List.inj_on_of_nodup_map h (mem_of_findNode? hfound) hnode hid]

theorem indexNodes_of_nodup (h : (nodes.map (·.id)).Nodup) : indexNodes nodes = nodes := by
  rw [indexNodes, distinctIds, eraseDups_of_nodup h, List.filterMap_map]
  calc nodes.filterMap (findNode? nodes ∘ (·.id))
      = nodes.filterMap some := List.filterMap_congr fun _ => findNode?_of_nodup h
    _ = nodes := List.filterMap_some

/-- Without repeated identifiers the execution order names every instruction, each once. -/
theorem executionOrder_perm (programName : String) (connections : List (Connection L))
    (h : (nodes.map (·.id)).Nodup) :
    let schedule := buildSchedule programName nodes connections
    schedule.flow.executionOrder.Perm (schedule.instructions.map (·.nodeName)) := by
  intro schedule
  have hfound := (executionOrder_perm_distinctIds nodes connections).filterMap (findNode? nodes)
  have hindex : (distinctIds nodes).filterMap (findNode? nodes) = nodes := indexNodes_of_nodup h
  rw [hindex] at hfound
  rw [map_nodeName_instructions]
  exact (hfound.filter _).map _

end Distinct

/-! ### All references -/

/-- **The references in a schedule resolve.** The instructions and the accounts of the plan of a
graph are its nodes, each in the order of the nodes, and every reference in the plan leads to one of
these, under the name and the type by which it refers. So what the modules of the workspace import
is declared at the root of the crate. If no identifier is repeated, the execution order names the
instructions, each once, in some order. -/
theorem references_resolve (programName : String) (requested : Option Text)
    (nodes : List (Node Text)) (connections : List (Connection Text)) :
    let schedule := buildSchedule programName nodes connections
    let workspace := compile nodes connections requested
    schedule.instructions.map (fun instruction => (instruction.nodeId, instruction.nodeName)) =
      (nodes.filter (!·.isAccount)).map (fun node => (node.id, node.name)) ∧
    schedule.accounts.map (fun account => (account.nodeId, account.nodeName)) =
      (nodes.filter (·.isAccount)).map (fun node => (node.id, node.name)) ∧
    schedule.Closed ∧
    workspace.modules.map (fun module => Source.importedTypes module.source) =
      schedule.instructions.map (fun instruction =>
        "ErrorCode" :: instruction.boundAccounts.map (·.typeName)) ∧
    (∀ module ∈ workspace.modules,
      Source.importedTypes module.source ⊆ Source.declaredNames workspace.crateRoot) ∧
    ((nodes.map (·.id)).Nodup →
      schedule.flow.executionOrder.Perm (schedule.instructions.map (·.nodeName))) := by
  intro schedule workspace
  have himports : ∀ instruction ∈ schedule.instructions,
      Source.importedTypes (Source.Script.text .standard (Source.instructionScript instruction)) =
        "ErrorCode" :: instruction.boundAccounts.map (·.typeName) :=
    fun _ hinstruction => Source.importedTypes_instructionScript (hasWords_of_mem hinstruction)
  have hclosed : schedule.Closed := closed_buildSchedule programName nodes connections
  refine ⟨map_scheduleInstructions (fun _ _ => rfl) nodes, ?_, hclosed, ?_, ?_,
    executionOrder_perm programName connections⟩
  · exact List.map_map
  · have hmodules : workspace.modules = schedule.instructions.map fun instruction =>
        ⟨instruction.nodeId, instruction.moduleName,
          Source.Script.text .standard (Source.instructionScript instruction)⟩ := rfl
    simp only [hmodules, List.map_map, Function.comp_def]
    exact List.map_congr_left himports
  · intro module hmodule type htype
    obtain ⟨instruction, hinstruction, rfl⟩ := List.mem_map.1 hmodule
    rw [himports instruction hinstruction] at htype
    rw [declaredNames_crateRoot, List.mem_append, List.mem_cons, List.mem_append]
    obtain rfl | htypes := List.mem_cons.1 htype
    · exact .inr (.inr (.inr (by decide)))
    · obtain ⟨bound, hbound, rfl⟩ := List.mem_map.1 htypes
      obtain ⟨account, haccount, -, hsame⟩ := hclosed.bound instruction hinstruction bound hbound
      obtain ⟨node, hnode, rfl⟩ := List.mem_map.1 haccount
      have hdeclared : accountType node ∈ accountTypes nodes := List.mem_map_of_mem hnode
      rw [← hsame]
      exact .inr (.inr (.inl hdeclared))

/-- Two nodes share an identifier, the first one an account; it is wired into an instruction, which
is wired back into it. -/
def twoFaced : Graph Text where
  name := "two-faced"
  nodes := [⟨"x", accountKind, "Vault", [⟨"i", "in", "any"⟩], [⟨"o", "out", "any"⟩]⟩,
    ⟨"x", "token", "Mint", [], []⟩,
    ⟨"s", "token", "Use", [⟨"a", "a", "account"⟩], [⟨"o", "out", "any"⟩]⟩]
  connections := [⟨⟨"x", "o", "s", "a"⟩, "c1"⟩, ⟨⟨"s", "o", "x", "i"⟩, "c2"⟩]

/-- The account is bound and scheduled as such, although an instruction has its identifier. With
identifiers of its own for each, the execution order names all instructions. -/
theorem references_resolve_twoFaced :
    let schedule := buildSchedule "vault" twoFaced.nodes twoFaced.connections
    let graph := wiredAccount "Vault" "Use"
    (∃ instruction ∈ schedule.instructions, ∃ bound ∈ instruction.boundAccounts,
      bound.nodeId = "x" ∧ ∃ account ∈ schedule.accounts,
        account.nodeId = bound.nodeId ∧ account.typeName = bound.typeName) ∧
    (graph.nodes.map (·.id)).Nodup ∧
    (buildSchedule "vault" graph.nodes graph.connections).flow.executionOrder.Perm
      ((buildSchedule "vault" graph.nodes graph.connections).instructions.map (·.nodeName)) := by
  intro schedule graph
  obtain ⟨-, -, hclosed, -⟩ :=
    references_resolve "vault" none twoFaced.nodes twoFaced.connections
  obtain ⟨-, -, -, -, -, hperm⟩ := references_resolve "vault" none graph.nodes graph.connections
  have hdistinct : (graph.nodes.map (·.id)).Nodup := by decide
  have hbinds : ∃ instruction ∈ schedule.instructions, ∃ bound ∈ instruction.boundAccounts,
      bound.nodeId = ("x" : Text) := by decide
  obtain ⟨instruction, hinstruction, bound, hbound, hid⟩ := hbinds
  exact ⟨⟨instruction, hinstruction, bound, hbound, hid,
    hclosed.bound instruction hinstruction bound hbound⟩, hdistinct, hperm hdistinct⟩

end ModuleGraph
