import ModuleGraph.Proofs.Schedule.Agreement

/-!
# The accounts that an instruction binds

An instruction binds the account nodes that are wired into it, each once, however many wires there
are. What tells them apart is the field that holds them: of account nodes with one field only the
first is bound, whether the others are the same node or not. The bound accounts are all that are
wired exactly if different ones have different fields.

## Main definitions

- `boundField` — the field that holds the data record of an account node
- `accountSources` — the account nodes at the sources of wires, one for every wire

## Main statements

- `map_fieldName_bindAccounts`, `find?_of_mem_bindAccounts` — which accounts are bound: the first
  of every field
- `map_nodeId_bindAccounts_sublist` — no account is bound twice, or before an earlier one
- `boundAccounts_complete_iff` — when every account that is wired is bound
-/

namespace ModuleGraph

variable {L : Type} [Label L]

/-- The field that holds the data record of an account node. -/
def boundField (node : Node L) : String := (accountType node).map Char.toLower

/-- The data record of an account node as an instruction binds it. -/
def bindingOf (node : Node L) : BoundAccount L := ⟨node.id, accountType node, boundField node⟩

/-- The account nodes at the sources of wires, one for every wire. -/
def accountSources (wires : List (Resolved L)) : List (Node L) :=
  (wires.map (·.sourceNode)).filter (·.isAccount)

variable {fields : List String} {wire : Resolved L} {wires : List (Resolved L)}

/-! ### One wire -/

theorem accountSources_cons_of_account (h : wire.sourceNode.isAccount = true) :
    accountSources (wire :: wires) = wire.sourceNode :: accountSources wires := by
  rw [accountSources, List.map_cons, List.filter_cons_of_pos h, accountSources]

theorem accountSources_cons_of_not_account (h : ¬wire.sourceNode.isAccount = true) :
    accountSources (wire :: wires) = accountSources wires := by
  rw [accountSources, List.map_cons, List.filter_cons_of_neg h, accountSources]

theorem bindAccounts_cons_of_new (haccount : wire.sourceNode.isAccount = true)
    (hnew : boundField wire.sourceNode ∉ fields) :
    bindAccounts fields (wire :: wires) =
      bindingOf wire.sourceNode :: bindAccounts (boundField wire.sourceNode :: fields) wires := by
  have hfield : fields.contains (boundField wire.sourceNode) = false := by simpa using hnew
  have hbinds : (wire.sourceNode.isAccount &&
      !fields.contains (boundAccount wire).fieldName) = true := by
    show (wire.sourceNode.isAccount && !fields.contains (boundField wire.sourceNode)) = true
    rw [haccount, hfield]
    rfl
  rw [bindAccounts, if_pos hbinds]
  rfl

theorem bindAccounts_cons_of_not_account (h : ¬wire.sourceNode.isAccount = true) :
    bindAccounts fields (wire :: wires) = bindAccounts fields wires := by
  rw [bindAccounts, Bool.eq_false_iff.2 h]
  rfl

theorem bindAccounts_cons_of_mem (h : boundField wire.sourceNode ∈ fields) :
    bindAccounts fields (wire :: wires) = bindAccounts fields wires := by
  have hfield : fields.contains (boundAccount wire).fieldName = true := List.contains_iff_mem.2 h
  rw [bindAccounts, hfield, Bool.not_true, Bool.and_false]
  rfl

/-! ### All wires -/

theorem map_fieldName_bindAccounts (fields : List String) (wires : List (Resolved L)) :
    (bindAccounts fields wires).map (·.fieldName) =
      ((accountSources wires).map boundField).eraseDups.filter (!fields.contains ·) := by
  induction wires generalizing fields with
  | nil => rfl
  | cons wire wires ih =>
    by_cases haccount : wire.sourceNode.isAccount = true
    · rw [accountSources_cons_of_account haccount, List.map_cons, List.eraseDups_cons,
        eraseDups_filter]
      -- the filter drops the field either way: as one in use, or as the one just bound
      by_cases hfield : boundField wire.sourceNode ∈ fields
      · rw [bindAccounts_cons_of_mem hfield, ih, List.filter_cons_of_neg (by simpa using hfield),
          List.filter_filter]
        apply List.filter_congr
        intro field _
        by_cases hsame : field = boundField wire.sourceNode <;> simp [hsame, hfield]
      · rw [bindAccounts_cons_of_new haccount hfield, List.map_cons, ih,
          List.filter_cons_of_pos (by simpa using hfield), List.filter_filter]
        congr 1
        apply List.filter_congr
        intro field _
        rw [List.contains_cons, Bool.not_or, Bool.and_comm]
    · rw [bindAccounts_cons_of_not_account haccount, ih,
        accountSources_cons_of_not_account haccount]

/-- A bound account is the first with its field. -/
theorem find?_of_mem_bindAccounts {account : BoundAccount L}
    (h : account ∈ bindAccounts fields wires) :
    account.fieldName ∉ fields ∧
      ∃ node, (accountSources wires).find? (boundField · == account.fieldName) = some node ∧
        account = bindingOf node := by
  induction wires generalizing fields with
  | nil => cases h
  | cons wire wires ih =>
    by_cases haccount : wire.sourceNode.isAccount = true
    · rw [accountSources_cons_of_account haccount]
      by_cases hfield : boundField wire.sourceNode ∈ fields
      · rw [bindAccounts_cons_of_mem hfield] at h
        obtain ⟨hnew, node, hnode, hbound⟩ := ih h
        have hother : (boundField wire.sourceNode == account.fieldName) = false :=
          beq_eq_false_iff_ne.2 (ne_of_mem_of_not_mem hfield hnew)
        exact ⟨hnew, node, by rw [List.find?_cons, hother]; exact hnode, hbound⟩
      · rw [bindAccounts_cons_of_new haccount hfield, List.mem_cons] at h
        rcases h with rfl | hlater
        · exact ⟨hfield, wire.sourceNode, List.find?_cons_of_pos BEq.rfl, rfl⟩
        · obtain ⟨hnew, node, hnode, hbound⟩ := ih hlater
          rw [List.mem_cons, not_or] at hnew
          have hother : (boundField wire.sourceNode == account.fieldName) = false :=
            beq_eq_false_iff_ne.2 (Ne.symm hnew.1)
          exact ⟨hnew.2, node, by rw [List.find?_cons, hother]; exact hnode, hbound⟩
    · rw [bindAccounts_cons_of_not_account haccount] at h
      rw [accountSources_cons_of_not_account haccount]
      exact ih h

/-- A node whose field is in use is not bound, if nodes with its identifier have its field. -/
theorem nodeId_ne_of_mem_bindAccounts {node : Node L} (hfield : boundField node ∈ fields)
    (hsame : ∀ other ∈ accountSources wires, node.id = other.id →
      boundField node = boundField other)
    {account : BoundAccount L} (h : account ∈ bindAccounts fields wires) :
    account.nodeId ≠ node.id := by
  obtain ⟨hnew, other, hother, rfl⟩ := find?_of_mem_bindAccounts h
  intro hid
  have hfields := hsame other (List.mem_of_find?_eq_some hother) (Eq.symm hid)
  rw [hfields] at hfield
  exact hnew hfield

theorem nodup_map_fieldName_bindAccounts (wires : List (Resolved L)) :
    ((bindAccounts [] wires).map (·.fieldName)).Nodup := by
  rw [map_fieldName_bindAccounts]
  exact (nodup_eraseDups _).filter _

theorem exists_bound_of_mem {node : Node L} (h : node ∈ accountSources wires) :
    ∃ account ∈ bindAccounts [] wires, account.fieldName = boundField node := by
  have hfield : boundField node ∈ (bindAccounts [] wires).map (·.fieldName) := by
    rw [map_fieldName_bindAccounts]
    simpa using ⟨node, h, rfl⟩
  exact List.mem_map.1 hfield

section Identifiers

variable [LawfulBEq L]

/-- Once the field of a node is in use, later wires bind none with its identifier. -/
theorem map_nodeId_bindAccounts_sublist_filter {node : Node L} (hfield : boundField node ∈ fields)
    (hsame : ∀ other ∈ accountSources wires, node.id = other.id →
      boundField node = boundField other)
    {ids : List L} (h : ((bindAccounts fields wires).map (·.nodeId)).Sublist ids) :
    ((bindAccounts fields wires).map (·.nodeId)).Sublist (ids.filter (!· == node.id)) := by
  have hothers : ∀ id ∈ (bindAccounts fields wires).map (·.nodeId), (!id == node.id) = true := by
    intro id hid
    obtain ⟨account, haccount, rfl⟩ := List.mem_map.1 hid
    simpa using nodeId_ne_of_mem_bindAccounts hfield hsame haccount
  have hkept := h.filter (!· == node.id)
  rwa [List.filter_eq_self.2 hothers] at hkept

/-- The bound accounts are some of those that are wired, in the same order. -/
theorem map_nodeId_bindAccounts_sublist (fields : List String)
    (hsame : ∀ first ∈ accountSources wires, ∀ second ∈ accountSources wires,
      first.id = second.id → boundField first = boundField second) :
    ((bindAccounts fields wires).map (·.nodeId)).Sublist
      ((accountSources wires).map (·.id)).eraseDups := by
  induction wires generalizing fields with
  | nil => exact List.Sublist.refl _
  | cons wire wires ih =>
    by_cases haccount : wire.sourceNode.isAccount = true
    · rw [accountSources_cons_of_account haccount] at hsame ⊢
      have hfirst : ∀ other ∈ accountSources wires, wire.sourceNode.id = other.id →
          boundField wire.sourceNode = boundField other := fun other hother =>
        hsame _ List.mem_cons_self other (List.mem_cons_of_mem _ hother)
      have hlater : ∀ fields, ((bindAccounts fields wires).map (·.nodeId)).Sublist
          ((accountSources wires).map (·.id)).eraseDups := fun fields =>
        ih fields fun first hfirst second hsecond =>
          hsame first (List.mem_cons_of_mem _ hfirst) second (List.mem_cons_of_mem _ hsecond)
      rw [List.map_cons, List.eraseDups_cons, eraseDups_filter]
      by_cases hfield : boundField wire.sourceNode ∈ fields
      · rw [bindAccounts_cons_of_mem hfield]
        exact (map_nodeId_bindAccounts_sublist_filter hfield hfirst (hlater _)).cons _
      · rw [bindAccounts_cons_of_new haccount hfield]
        exact (map_nodeId_bindAccounts_sublist_filter List.mem_cons_self hfirst
          (hlater _)).cons_cons _
    · rw [accountSources_cons_of_not_account haccount] at hsame ⊢
      rw [bindAccounts_cons_of_not_account haccount]
      exact ih fields hsame

/-- If all that are wired are bound, then those with one field are one. -/
theorem id_eq_of_all_bound
    (hsame : ∀ first ∈ accountSources wires, ∀ second ∈ accountSources wires,
      first.id = second.id → first = second)
    (hall : (bindAccounts [] wires).map (·.nodeId) =
      ((accountSources wires).map (·.id)).eraseDups)
    {first second : Node L} (hfirst : first ∈ accountSources wires)
    (hsecond : second ∈ accountSources wires) (hfield : boundField first = boundField second) :
    first.id = second.id := by
  have hbound : ∀ node ∈ accountSources wires, bindingOf node ∈ bindAccounts [] wires := by
    intro node hnode
    have hid : node.id ∈ (bindAccounts [] wires).map (·.nodeId) := by
      rw [hall, List.mem_eraseDups]
      exact List.mem_map_of_mem hnode
    obtain ⟨account, haccount, hid⟩ := List.mem_map.1 hid
    obtain ⟨-, other, hother, rfl⟩ := find?_of_mem_bindAccounts haccount
    rwa [hsame other (List.mem_of_find?_eq_some hother) node hnode hid] at haccount
  have heq : bindingOf first = bindingOf second :=
    List.inj_on_of_nodup_map (nodup_map_fieldName_bindAccounts wires) (hbound first hfirst)
      (hbound second hsecond) hfield
  exact congrArg BoundAccount.nodeId heq

/-- If those with one field are one, then all that are wired are bound. -/
theorem subset_map_nodeId_bindAccounts
    (hfields : ∀ first ∈ accountSources wires, ∀ second ∈ accountSources wires,
      boundField first = boundField second → first.id = second.id) :
    ((accountSources wires).map (·.id)).eraseDups ⊆ (bindAccounts [] wires).map (·.nodeId) := by
  intro id hid
  rw [List.mem_eraseDups] at hid
  obtain ⟨node, hnode, rfl⟩ := List.mem_map.1 hid
  obtain ⟨account, haccount, hfield⟩ := exists_bound_of_mem hnode
  obtain ⟨-, other, hother, rfl⟩ := find?_of_mem_bindAccounts haccount
  rw [← hfields other (List.mem_of_find?_eq_some hother) node hnode hfield]
  exact List.mem_map_of_mem haccount

/-- All that are wired are bound exactly if different ones have different fields. -/
theorem map_nodeId_bindAccounts_eq_iff
    (hsame : ∀ first ∈ accountSources wires, ∀ second ∈ accountSources wires,
      first.id = second.id → first = second) :
    (bindAccounts [] wires).map (·.nodeId) = ((accountSources wires).map (·.id)).eraseDups ↔
      ∀ first ∈ accountSources wires, ∀ second ∈ accountSources wires,
        boundField first = boundField second → first.id = second.id := by
  constructor
  · intro hall first hfirst second hsecond hfield
    exact id_eq_of_all_bound hsame hall hfirst hsecond hfield
  · intro hfields
    have hsome := map_nodeId_bindAccounts_sublist []
      fun first hfirst second hsecond hid =>
        congrArg boundField (hsame first hfirst second hsecond hid)
    exact hsome.eq_of_length_le
      ((nodup_eraseDups _).length_le_of_subset (subset_map_nodeId_bindAccounts hfields))

end Identifiers

/-! ### Instructions -/

variable {nodes : List (Node Text)} {connections : List (Connection Text)}

/-- Account nodes at the sources of wires are the first with their identifiers. -/
theorem eq_of_id_eq_of_mem_accountSources {id : Text} {first second : Node Text}
    (hfirst : first ∈ accountSources (incoming (resolved nodes connections) id))
    (hsecond : second ∈ accountSources (incoming (resolved nodes connections) id))
    (h : first.id = second.id) : first = second := by
  have hfound : ∀ node ∈ accountSources (incoming (resolved nodes connections) id),
      findNode? nodes node.id = some node := by
    intro node hnode
    obtain ⟨wire, hwire, rfl⟩ := List.mem_map.1 (List.mem_filter.1 hnode).1
    exact findNode?_sourceNode (List.mem_filter.1 hwire).1
  have hsame := hfound first hfirst
  rw [h, hfound second hsecond] at hsame
  exact (Option.some.inj hsame).symm

theorem boundAccounts_of_mem {programName : String} {instruction : Instruction Text}
    (h : instruction ∈ (buildSchedule programName nodes connections).instructions) :
    instruction.boundAccounts =
      bindAccounts [] (incoming (resolved nodes connections) instruction.nodeId) := by
  obtain ⟨entry, -, rfl⟩ := List.mem_map.1 h
  rfl

theorem exists_instruction_of_mem {programName : String} {id : Text}
    (h : id ∈ (behavioral nodes).map (·.id)) :
    ∃ instruction ∈ (buildSchedule programName nodes connections).instructions,
      instruction.nodeId = id := by
  rw [← map_nodeId_scheduleInstructions nodes (resolved nodes connections)] at h
  exact List.mem_map.1 h

/-- An account that can be wired. -/
def outletAccount (id name : String) : Node Text :=
  ⟨id, accountKind, name, [], [⟨"o", "out", "account"⟩]⟩

theorem boundField_outletAccount {id name field : String} (type : String)
    (htype : accountType (outletAccount id name) = type)
    (hfield : type.toList.map Char.toLower = field.toList) :
    boundField (outletAccount id name) = field := by
  rw [boundField, htype, ← String.toList_inj, String.toList_map, hfield]

/-- Two accounts whose names differ in nothing but case are wired into an instruction. -/
def twoVaults : Graph Text where
  name := "two vaults"
  nodes := [outletAccount "v" "Vault", outletAccount "w" "VAULT",
    ⟨"s", "token", "Use", [⟨"a", "a", "account"⟩, ⟨"b", "b", "account"⟩], []⟩]
  connections := [⟨⟨"v", "o", "s", "a"⟩, "c1"⟩, ⟨⟨"w", "o", "s", "b"⟩, "c2"⟩]

/-- The second one is not bound. -/
theorem boundAccounts_incomplete_twoVaults :
    ∃ instruction ∈ (buildSchedule "vault" twoVaults.nodes twoVaults.connections).instructions,
      instruction.boundAccounts.map (·.nodeId) ≠
        ((accountSources (incoming (resolved twoVaults.nodes twoVaults.connections)
          instruction.nodeId)).map (·.id)).eraseDups := by
  obtain ⟨instruction, hinstruction, hid⟩ : ∃ instruction ∈ (buildSchedule "vault" twoVaults.nodes
      twoVaults.connections).instructions, instruction.nodeId = ("s" : Text) :=
    exists_instruction_of_mem (by decide)
  refine ⟨instruction, hinstruction, fun hall => ?_⟩
  rw [boundAccounts_of_mem hinstruction, hid] at hall
  have hsources : accountSources (incoming (resolved twoVaults.nodes twoVaults.connections)
      ("s" : Text)) = [outletAccount "v" "Vault", outletAccount "w" "VAULT"] := by decide
  have hfirst : boundField (outletAccount "v" "Vault") = "vault" :=
    boundField_outletAccount "Vault" (by decide) (by decide)
  have hsecond : boundField (outletAccount "w" "VAULT") = "vault" :=
    boundField_outletAccount "VAULT" (by decide) (by decide)
  have hsame := (map_nodeId_bindAccounts_eq_iff
    fun first hfirst second hsecond => eq_of_id_eq_of_mem_accountSources hfirst hsecond).1 hall
  rw [hsources] at hsame
  have hid : (outletAccount "v" "Vault").id = (outletAccount "w" "VAULT").id :=
    hsame _ List.mem_cons_self _ (List.mem_cons_of_mem _ List.mem_cons_self)
      (hfirst.trans hsecond.symm)
  exact absurd hid (by decide)

/-- **Which accounts an instruction binds.** Of the account nodes that are wired into it, an
instruction binds the first of every field. The bound accounts stand in the order of the first
wires, and none is bound twice. They are all that are wired exactly if different ones of these have
different fields. -/
theorem boundAccounts_complete_iff (programName : String) (nodes : List (Node Text))
    (connections : List (Connection Text)) :
    ∀ instruction ∈ (buildSchedule programName nodes connections).instructions,
      let sources := accountSources (incoming (resolved nodes connections) instruction.nodeId)
      let ids := (sources.map (·.id)).eraseDups
      let bound := instruction.boundAccounts
      bound.map (·.fieldName) = (sources.map boundField).eraseDups ∧
      (∀ account ∈ bound, ∃ node,
        sources.find? (boundField · == account.fieldName) = some node ∧
          account = bindingOf node) ∧
      (bound.map (·.nodeId)).Sublist ids ∧
      (bound.map (·.nodeId) = ids ↔
        ∀ first ∈ sources, ∀ second ∈ sources,
          boundField first = boundField second → first.id = second.id) := by
  intro instruction hinstruction sources ids bound
  have hbound : bound =
      bindAccounts [] (incoming (resolved nodes connections) instruction.nodeId) :=
    boundAccounts_of_mem hinstruction
  have hsame : ∀ first ∈ sources, ∀ second ∈ sources, first.id = second.id → first = second :=
    fun first hfirst second hsecond => eq_of_id_eq_of_mem_accountSources hfirst hsecond
  rw [hbound]
  refine ⟨?_, ?_, ?_, map_nodeId_bindAccounts_eq_iff hsame⟩
  · rw [map_fieldName_bindAccounts]
    exact List.filter_eq_self.2 fun _ _ => rfl
  · intro account haccount
    exact (find?_of_mem_bindAccounts haccount).2
  · exact map_nodeId_bindAccounts_sublist [] fun first hfirst second hsecond hid =>
      congrArg boundField (hsame first hfirst second hsecond hid)

/-- One account is wired into an instruction twice, with another between. -/
def sharedVault : Graph Text where
  name := "shared vault"
  nodes := [outletAccount "v" "Vault", outletAccount "w" "Safe",
    ⟨"s", "token", "Use", [⟨"a", "a", "account"⟩, ⟨"b", "b", "account"⟩, ⟨"c", "c", "account"⟩],
      []⟩]
  connections := [⟨⟨"v", "o", "s", "a"⟩, "c1"⟩, ⟨⟨"w", "o", "s", "b"⟩, "c2"⟩,
    ⟨⟨"v", "o", "s", "c"⟩, "c3"⟩]

theorem boundAccounts_complete_sharedVault :
    ∃ instruction ∈ (buildSchedule "vault" sharedVault.nodes sharedVault.connections).instructions,
      instruction.boundAccounts.map (·.nodeId) = [("v" : Text), ("w" : Text)] := by
  obtain ⟨instruction, hinstruction, hid⟩ : ∃ instruction ∈ (buildSchedule "vault"
      sharedVault.nodes sharedVault.connections).instructions, instruction.nodeId = ("s" : Text) :=
    exists_instruction_of_mem (by decide)
  obtain ⟨-, -, -, hcomplete⟩ := boundAccounts_complete_iff "vault" sharedVault.nodes
    sharedVault.connections instruction hinstruction
  rw [hid] at hcomplete
  have hsources : accountSources (incoming (resolved sharedVault.nodes sharedVault.connections)
      ("s" : Text)) = [outletAccount "v" "Vault", outletAccount "w" "Safe",
        outletAccount "v" "Vault"] := by decide
  rw [hsources] at hcomplete
  have hvault : boundField (outletAccount "v" "Vault") = "vault" :=
    boundField_outletAccount "Vault" (by decide) (by decide)
  have hsafe : boundField (outletAccount "w" "Safe") = "safe" :=
    boundField_outletAccount "Safe" (by decide) (by decide)
  refine ⟨instruction, hinstruction, (hcomplete.2 ?_).trans (by decide)⟩
  simp [hvault, hsafe]

end ModuleGraph
