import ModuleGraph.Proofs.Schedule.BoundAccounts
import ModuleGraph.Proofs.Schedule.EntryNames
import ModuleGraph.Proofs.Source.InstructionModule

/-!
# The names in scope in the module of an instruction

The module of an instruction puts names that come from nodes beside names of its own: the fields of
the bound accounts beside `authority` and `system_program`, and their types beside `ErrorCode` and
the type of the instruction. The bound accounts are told apart from each other, and from nothing
else.

## Main statements

- `hasWords_of_mem` — the names in an instruction are words
- `nodup_map_typeName_of_mem` — bound accounts have different types
- `nodup_fields_iff`, `nodup_types_iff` — names that come from nodes beside others
- `moduleScope_nodup_iff` — when the names in a module are different
-/

namespace ModuleGraph

open Source (IsWord HasWords)

/-! ### Words -/

theorem isTypeChar_toLower {c : Char} (h : Naming.isTypeChar c = true) :
    Naming.isTypeChar c.toLower = true :=
  Naming.forall_ascii (p := fun c => Naming.isTypeChar c = true →
    Naming.isTypeChar c.toLower = true) (by decide) (Naming.lt_of_isTypeChar h) h

theorem isWord_boundField {L : Type} [Label L] (node : Node L) : IsWord (boundField node) := by
  intro c hc
  rw [boundField, String.toList_map] at hc
  obtain ⟨d, hd, rfl⟩ := List.mem_map.1 hc
  exact isTypeChar_toLower (isWord_accountType node d hd)

theorem accountType_ne_empty {L : Type} [Label L] (node : Node L) : accountType node ≠ "" := by
  rw [accountType, Naming.orElse]
  split
  · decide
  · assumption

theorem isWord_numeral (suffix : Option Nat) : IsWord (numeral suffix) := by
  cases suffix with
  | none =>
    intro c hc
    cases hc
  | some number => exact isWord_of_isPlain (Naming.isPlain_natural number)

theorem isWord_typeBase (name : Text) : IsWord (typeBase name) := by
  rw [typeBase, Naming.orElse]
  split
  · decide
  · exact isWord_typeName name

/-! ### Bound accounts -/

variable {programName : String} {nodes : List (Node Text)} {connections : List (Connection Text)}
  {instruction : Instruction Text}

theorem exists_node_of_mem_boundAccounts
    (h : instruction ∈ (buildSchedule programName nodes connections).instructions) :
    ∀ account ∈ instruction.boundAccounts, ∃ node, account = bindingOf node := by
  intro account haccount
  rw [boundAccounts_of_mem h] at haccount
  obtain ⟨-, node, -, hnode⟩ := find?_of_mem_bindAccounts haccount
  exact ⟨node, hnode⟩

/-- The names in an instruction are words. -/
theorem hasWords_of_mem
    (h : instruction ∈ (buildSchedule programName nodes connections).instructions) :
    HasWords instruction where
  module := isWord_of_isPlain (isIdentifier_of_mem_instructions h).isPlain
  type := by
    obtain ⟨suffix, -, htype⟩ := exists_suffix_of_mem h
    intro c hc
    rw [htype, String.toList_append] at hc
    exact (List.mem_append.1 hc).elim (isWord_typeBase _ c) (isWord_numeral suffix c)
  fields := by
    intro account haccount
    obtain ⟨node, rfl⟩ := exists_node_of_mem_boundAccounts h account haccount
    exact isWord_boundField node
  types := by
    intro account haccount
    obtain ⟨node, rfl⟩ := exists_node_of_mem_boundAccounts h account haccount
    exact ⟨isWord_accountType node, accountType_ne_empty node⟩

theorem mem_map_fieldName_iff
    (h : instruction ∈ (buildSchedule programName nodes connections).instructions)
    {field : String} : field ∈ instruction.boundAccounts.map (·.fieldName) ↔
      ∃ node ∈ accountSources (incoming (resolved nodes connections) instruction.nodeId),
        boundField node = field := by
  rw [boundAccounts_of_mem h, map_fieldName_bindAccounts]
  simp

theorem nodup_map_fieldName_of_mem
    (h : instruction ∈ (buildSchedule programName nodes connections).instructions) :
    (instruction.boundAccounts.map (·.fieldName)).Nodup := by
  rw [boundAccounts_of_mem h]
  exact nodup_map_fieldName_bindAccounts _

/-- Types that become the same field are bound once, equal types in particular. -/
theorem nodup_map_typeName_of_mem
    (h : instruction ∈ (buildSchedule programName nodes connections).instructions) :
    (instruction.boundAccounts.map (·.typeName)).Nodup := by
  have hfields : instruction.boundAccounts.map (·.fieldName) =
      (instruction.boundAccounts.map (·.typeName)).map (·.map Char.toLower) := by
    rw [List.map_map]
    apply List.map_congr_left
    intro account haccount
    obtain ⟨node, rfl⟩ := exists_node_of_mem_boundAccounts h account haccount
    rfl
  have hnodup := nodup_map_fieldName_of_mem h
  rw [hfields] at hnodup
  exact hnodup.of_map _

/-! ### Names beside others -/

theorem nodup_fields_iff {fields : List String} (h : fields.Nodup) :
    (fields ++ ["authority", "system_program"]).Nodup ↔
      "authority" ∉ fields ∧ "system_program" ∉ fields := by
  have hown : ["authority", "system_program"].Nodup := by decide
  rw [List.nodup_append]
  constructor
  · rintro ⟨-, -, hother⟩
    exact ⟨fun hfield => hother _ hfield _ (by decide) rfl,
      fun hfield => hother _ hfield _ (by decide) rfl⟩
  · rintro ⟨hauthority, hsystem⟩
    refine ⟨h, hown, fun field hfield own hmem => ?_⟩
    rintro rfl
    rcases List.mem_cons.1 hmem with rfl | hmem
    · exact hauthority hfield
    · cases List.mem_singleton.1 hmem
      exact hsystem hfield

theorem nodup_types_iff {types : List String} (h : types.Nodup) (own : String) :
    ("ErrorCode" :: types ++ [own]).Nodup ↔
      own ≠ "ErrorCode" ∧ "ErrorCode" ∉ types ∧ own ∉ types := by
  have hall : ("ErrorCode" :: types ++ [own]).Perm (own :: "ErrorCode" :: types) :=
    List.perm_append_singleton own _
  rw [hall.nodup_iff, List.nodup_cons, List.nodup_cons, List.mem_cons, not_or]
  exact ⟨fun ⟨⟨herror, hown⟩, hnew, _⟩ => ⟨herror, hnew, hown⟩,
    fun ⟨herror, hnew, hown⟩ => ⟨⟨herror, hown⟩, hnew, h⟩⟩

/-! ### Modules -/

/-- An account of one name is wired into an instruction of another. -/
def wiredAccount (account instruction : String) : Graph Text where
  name := "wired account"
  nodes := [outletAccount "a" account,
    ⟨"s", "token", instruction, [⟨"a", "a", "account"⟩], []⟩]
  connections := [⟨⟨"a", "o", "s", "a"⟩, "c1"⟩]

/-- With an account called like the caller, and an instruction likewise, the module has two fields
of one name and two types of one name. -/
theorem moduleScope_clash_authority :
    let graph := wiredAccount "Authority" "Authority"
    ∃ instruction ∈ (buildSchedule (programNameOf none) graph.nodes graph.connections).instructions,
      ¬ (instruction.boundAccounts.map (·.fieldName) ++ ["authority", "system_program"]).Nodup ∧
      ¬ ("ErrorCode" :: instruction.boundAccounts.map (·.typeName) ++
        [instruction.typeName]).Nodup := by
  intro graph
  obtain ⟨instruction, hinstruction, -⟩ : ∃ instruction ∈ (buildSchedule (programNameOf none)
      graph.nodes graph.connections).instructions, instruction.nodeId = ("s" : Text) :=
    exists_instruction_of_mem (by decide)
  have hnames : ∀ instruction ∈ (buildSchedule (programNameOf none) graph.nodes
      graph.connections).instructions,
        instruction.boundAccounts.map (·.fieldName) = ["authority"] ∧
          instruction.boundAccounts.map (·.typeName) = ["Authority"] ∧
            instruction.typeName = "Authority" := by decide +kernel
  obtain ⟨hfields, htypes, hown⟩ := hnames instruction hinstruction
  refine ⟨instruction, hinstruction, ?_⟩
  rw [hfields, htypes, hown]
  decide

/-- **When the names in the module of an instruction are different.** The module imports `ErrorCode`
and the types of the bound accounts, declares its entry function and its own type, and has the
fields of the bound accounts besides `authority` and `system_program`. Bound accounts always have
different fields and different types. All fields are different exactly if no account that is wired
into the instruction has one of the other two; all types are exactly if that of the instruction is
not `ErrorCode`, and no bound account has one of these two types. -/
theorem moduleScope_nodup_iff (nodes : List (Node Text)) (connections : List (Connection Text))
    (requested : Option Text) :
    let workspace := compile nodes connections requested
    ∀ instruction ∈ (buildSchedule (programNameOf requested) nodes connections).instructions,
      let sources := accountSources (incoming (resolved nodes connections) instruction.nodeId)
      let boundFields := instruction.boundAccounts.map (·.fieldName)
      let boundTypes := instruction.boundAccounts.map (·.typeName)
      let fields := boundFields ++ ["authority", "system_program"]
      let types := "ErrorCode" :: boundTypes ++ [instruction.typeName]
      (∃ module ∈ workspace.modules,
        module.nodeId = instruction.nodeId ∧ module.moduleName = instruction.moduleName ∧
        Source.items module.source =
          .imported ("ErrorCode" :: boundTypes) :: .function instruction.moduleName ::
            .type instruction.typeName :: fields.map .field) ∧
      boundFields.Nodup ∧ boundTypes.Nodup ∧
      (fields.Nodup ↔
        ∀ node ∈ sources, boundField node ≠ "authority" ∧ boundField node ≠ "system_program") ∧
      (types.Nodup ↔ instruction.typeName ≠ "ErrorCode" ∧
        ∀ account ∈ instruction.boundAccounts,
          account.typeName ≠ "ErrorCode" ∧ account.typeName ≠ instruction.typeName) := by
  intro workspace instruction hinstruction sources boundFields boundTypes fields types
  have hfields : boundFields.Nodup := nodup_map_fieldName_of_mem hinstruction
  have htypes : boundTypes.Nodup := nodup_map_typeName_of_mem hinstruction
  refine ⟨⟨_, List.mem_map_of_mem hinstruction, rfl, rfl, ?_⟩, hfields, htypes, ?_, ?_⟩
  · exact Source.items_instructionScript (hasWords_of_mem hinstruction)
  · rw [nodup_fields_iff hfields, mem_map_fieldName_iff hinstruction,
      mem_map_fieldName_iff hinstruction]
    constructor
    · rintro ⟨hauthority, hsystem⟩ node hnode
      exact ⟨fun h => hauthority ⟨node, hnode, h⟩, fun h => hsystem ⟨node, hnode, h⟩⟩
    · intro hothers
      exact ⟨fun ⟨node, hnode, h⟩ => (hothers node hnode).1 h,
        fun ⟨node, hnode, h⟩ => (hothers node hnode).2 h⟩
  · rw [nodup_types_iff htypes]
    refine and_congr_right fun _ => ?_
    constructor
    · rintro ⟨herror, hown⟩ account haccount
      have htype : account.typeName ∈ boundTypes := List.mem_map_of_mem haccount
      exact ⟨ne_of_mem_of_not_mem htype herror, ne_of_mem_of_not_mem htype hown⟩
    · intro hothers
      rw [List.mem_map, List.mem_map]
      exact ⟨fun ⟨account, haccount, h⟩ => (hothers account haccount).1 h,
        fun ⟨account, haccount, h⟩ => (hothers account haccount).2 h⟩

theorem moduleScope_nodup_vault :
    let graph := wiredAccount "Vault" "Use"
    ∃ instruction ∈ (buildSchedule (programNameOf none) graph.nodes graph.connections).instructions,
      (instruction.boundAccounts.map (·.fieldName) ++ ["authority", "system_program"]).Nodup ∧
      ("ErrorCode" :: instruction.boundAccounts.map (·.typeName) ++
        [instruction.typeName]).Nodup := by
  intro graph
  obtain ⟨instruction, hinstruction, hid⟩ : ∃ instruction ∈ (buildSchedule (programNameOf none)
      graph.nodes graph.connections).instructions, instruction.nodeId = ("s" : Text) :=
    exists_instruction_of_mem (by decide)
  obtain ⟨-, -, -, hfields, htypes⟩ :=
    moduleScope_nodup_iff graph.nodes graph.connections none instruction hinstruction
  refine ⟨instruction, hinstruction, hfields.2 ?_, htypes.2 ?_⟩
  · have hsources : accountSources (incoming (resolved graph.nodes graph.connections)
        ("s" : Text)) = [outletAccount "a" "Vault"] := by decide
    have hvault : boundField (outletAccount "a" "Vault") = "vault" :=
      boundField_outletAccount "Vault" (by decide) (by decide)
    rw [hid, hsources, List.forall_mem_singleton, hvault]
    decide
  · have hnames : ∀ instruction ∈ (buildSchedule (programNameOf none) graph.nodes
        graph.connections).instructions, instruction.typeName = "Use" ∧
          ∀ account ∈ instruction.boundAccounts, account.typeName = "Vault" := by decide
    obtain ⟨hown, hbound⟩ := hnames instruction hinstruction
    rw [hown]
    refine ⟨by decide, fun account haccount => ?_⟩
    rw [hbound account haccount]
    decide

end ModuleGraph
