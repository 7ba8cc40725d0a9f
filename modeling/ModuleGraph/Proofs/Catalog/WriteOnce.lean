import ModuleGraph.Catalog.Registry
import ModuleGraph.Proofs.FreshId

/-!
# What calls make of the catalog

A call adds a template at the end if its identifier is new, and else leaves the catalog as it is, so
that the template found under an identifier is the first that was ever offered under it. A call that
makes a node takes the next identifiers of the supply, each for one part of the node, and no other
call takes any.

## Main definitions

- `CatalogState.after`, `CatalogState.answers` — the state after calls, and the answers to them
- `CatalogState.registered`, `CatalogState.created` — the templates that calls add, and the nodes
  that they make
- `Node.partIds` — the identifiers of a node and of its ports
- `Template.Shapes` — a node with the ports that a template asks for
- `IdSupply.Stamps` — nodes that take the next identifiers of a supply

## Main statements

- `CatalogState.templates_perform`, `CatalogState.find?_perform`, `CatalogState.stamps_perform` —
  what one call does
- `CatalogState.templates_after`, `CatalogState.find?_after`, `CatalogState.stamps_after` — what
  calls do one after the other
- `catalog_written_once` — the catalog after any calls
-/

namespace ModuleGraph

/-! ### Nodes -/

/-- The identifiers of a node, of its inputs and of its outputs. -/
def Node.partIds {L : Type} (node : Node L) : List L :=
  node.id :: (node.inputs.map (·.id) ++ node.outputs.map (·.id))

/-- Ports with the names and the types that are asked for, in order. -/
def PortSpec.Shape {L : Type} (specs : List (PortSpec L)) (ports : List (Port L)) : Prop :=
  ports.map (fun port => (port.name, port.type)) = specs.map fun spec => (spec.name, spec.type)

/-- A node of the kind of a template, with the ports that the template asks for. -/
structure Template.Shapes {L : Type} (template : Template L) (node : Node L) : Prop where
  kind : node.kind = template.kind
  inputs : PortSpec.Shape template.inputs node.inputs
  outputs : PortSpec.Shape template.outputs node.outputs

section Stamping

variable {L : Type} [Label L]

theorem shape_stampPorts (supply : IdSupply) (specs : List (PortSpec L)) :
    PortSpec.Shape specs (stampPorts supply specs).1 := by
  induction specs generalizing supply with
  | nil => rfl
  | cons spec specs ih =>
    exact congrArg ((spec.name, spec.type) :: ·) (ih (supply.advance 1))

theorem Template.shapes_node (template : Template L) (supply : IdSupply) (name : Option L) :
    template.Shapes (template.node supply name).1 where
  kind := rfl
  inputs := shape_stampPorts _ _
  outputs := shape_stampPorts _ _

theorem partIds_stampNode (supply : IdSupply) (kind name : L) (inputs outputs : List (PortSpec L)) :
    (stampNode supply kind name inputs outputs).1.partIds =
      supply.labels (1 + inputs.length + outputs.length) := by
  have hcount : 1 + inputs.length + outputs.length = inputs.length + outputs.length + 1 := by omega
  rw [Node.partIds, id_stampNode, map_id_ports_stampNode, hcount, IdSupply.labels_succ]

theorem IdSupply.length_labels (supply : IdSupply) (count : Nat) :
    (supply.labels count : List L).length = count := by
  simp [IdSupply.labels]

/-- Nodes that take the next identifiers of a supply, one for each part, and leave another supply
behind. -/
structure IdSupply.Stamps (supply : IdSupply) (nodes : List (Node L)) (last : IdSupply) :
    Prop where
  partIds : nodes.flatMap Node.partIds = supply.labels (nodes.flatMap Node.partIds).length
  last : last = supply.advance (nodes.flatMap Node.partIds).length

theorem IdSupply.stamps_nil (supply : IdSupply) : supply.Stamps ([] : List (Node L)) supply :=
  ⟨rfl, rfl⟩

theorem IdSupply.Stamps.append {supply middle last : IdSupply} {first second : List (Node L)}
    (hfirst : supply.Stamps first middle) (hsecond : middle.Stamps second last) :
    supply.Stamps (first ++ second) last where
  partIds := by
    have hids := hsecond.partIds
    rw [hfirst.last] at hids
    rw [List.flatMap_append, List.length_append, IdSupply.labels_add, ← hfirst.partIds, ← hids]
  last := by
    rw [hsecond.last, hfirst.last, List.flatMap_append, List.length_append, IdSupply.advance,
      IdSupply.advance, IdSupply.advance, Nat.add_assoc]

theorem stamps_stampNode (supply : IdSupply) (kind name : L) (inputs outputs : List (PortSpec L)) :
    supply.Stamps [(stampNode supply kind name inputs outputs).1]
      (stampNode supply kind name inputs outputs).2 := by
  constructor
  · rw [List.flatMap_singleton, partIds_stampNode, IdSupply.length_labels]
  · rw [List.flatMap_singleton, partIds_stampNode, IdSupply.length_labels, snd_stampNode]

end Stamping

/-! ### Calls -/

/-- The template that a call offers to the catalog. -/
def CatalogCall.offered? {L : Type} : CatalogCall L → Option (Template L)
  | .register template => some template
  | _ => none

/-- The node that an answer holds. -/
def CatalogReply.node? {L : Type} : CatalogReply L → Option (Node L)
  | .node made => some made
  | _ => none

namespace CatalogState

/-- The state after calls. -/
def after (state : CatalogState Text) (calls : List (CatalogCall Text)) : CatalogState Text :=
  calls.foldl (fun state call => (state.perform call).2) state

/-- The answers to calls, one after the other. -/
def answers (state : CatalogState Text) :
    List (CatalogCall Text) → List (Except (CatalogError Text) (CatalogReply Text))
  | [] => []
  | call :: calls => (state.perform call).1 :: answers (state.perform call).2 calls

/-- The templates that calls add, in order. -/
def registered (state : CatalogState Text) (calls : List (CatalogCall Text)) :
    List (Template Text) :=
  (calls.zip (state.answers calls)).filterMap fun turn =>
    turn.2.toOption.bind fun _ => turn.1.offered?

/-- The nodes that calls make, in order. -/
def created (state : CatalogState Text) (calls : List (CatalogCall Text)) : List (Node Text) :=
  (state.answers calls).filterMap fun answer => answer.toOption.bind (·.node?)

/-- The identifiers of the templates. -/
def ids (state : CatalogState Text) : List Text := state.catalog.templates.map (·.id)

variable {state : CatalogState Text} {id : Text} {template : Template Text}

theorem find?_eq_none_iff : state.catalog.find? id = none ↔ id ∉ state.ids := by
  simp [Catalog.find?, ids, List.find?_eq_none]

theorem isSome_find?_iff : (state.catalog.find? id).isSome = true ↔ id ∈ state.ids := by
  rw [Option.isSome_iff_ne_none, ne_eq, find?_eq_none_iff, not_not]

/-! ### One call -/

theorem get_eq (state : CatalogState Text) (id : Text) :
    state.catalog.get id =
      match state.catalog.find? id with
      | some template => .ok template
      | none => .error (.unknown id) := by
  rw [Catalog.get, if_pos (Label.isKey_text id)]
  cases state.catalog.find? id <;> rfl

theorem perform_get (state : CatalogState Text) (id : Text) :
    state.perform (.get id) =
      (match state.catalog.find? id with
        | some template => .ok (.template template)
        | none => .error (.unknown id), state) := by
  rw [perform, get_eq]
  cases state.catalog.find? id <;> rfl

theorem perform_create (state : CatalogState Text) (id : Text) (name : Option Text) :
    state.perform (.create id name) =
      match state.catalog.find? id with
      | some template => state.answerNode (template.node state.supply name)
      | none => (.error (.unknown id), state) := by
  rw [perform, Catalog.create, get_eq]
  cases state.catalog.find? id <;> rfl

/-- A template under an identifier that is there already is refused, and nothing changes. -/
theorem perform_register (state : CatalogState Text) (template : Template Text) :
    state.perform (.register template) =
      if template.id ∈ state.ids then (.error (.taken template.id), state)
      else (.ok (.template template),
        { state with catalog := ⟨state.catalog.templates ++ [template]⟩ }) := by
  rw [perform, Catalog.register, if_pos (Label.isKey_text template.id)]
  simp only [isSome_find?_iff]
  by_cases hmem : template.id ∈ state.ids
  · rw [if_pos hmem, if_pos hmem]
  · rw [if_neg hmem, if_neg hmem]

/-- A call that offers no template leaves the catalog as it is. -/
theorem catalog_perform_of_offered? {call : CatalogCall Text} (h : call.offered? = none) :
    (state.perform call).2.catalog = state.catalog := by
  cases call with
  | list | ids | blank kind name | start => rfl
  | get id => rw [perform_get]
  | create id name =>
    rw [perform_create]
    split <;> rfl
  | register template => cases h

/-- The templates behind a call: what is offered stands at the end, if it is taken. -/
theorem templates_perform (state : CatalogState Text) (call : CatalogCall Text) :
    (state.perform call).2.catalog.templates =
      state.catalog.templates ++
        ((state.perform call).1.toOption.bind fun _ => call.offered?).toList := by
  cases hoffered : call.offered? with
  | none =>
    rw [catalog_perform_of_offered? hoffered]
    simp
  | some template =>
    cases call with
    | register offered =>
      rw [perform_register]
      split
      · exact (List.append_nil _).symm
      · exact congrArg (state.catalog.templates ++ ·) (congrArg Option.toList hoffered)
    | _ => cases hoffered

/-- What is found behind a call is what would be found if all that is offered were kept. -/
theorem find?_perform (state : CatalogState Text) (call : CatalogCall Text) (id : Text) :
    (state.perform call).2.catalog.find? id =
      (state.catalog.templates ++ call.offered?.toList).find? (·.id == id) := by
  cases hoffered : call.offered? with
  | none => rw [catalog_perform_of_offered? hoffered, Option.toList_none, List.append_nil]; rfl
  | some template =>
    cases call with
    | register offered =>
      obtain rfl : offered = template := Option.some.inj hoffered
      rw [perform_register]
      split
      · rename_i hmem
        -- what is refused would not be found: another template has its identifier
        rw [List.find?_append, Option.toList_some]
        by_cases hid : offered.id = id
        · obtain ⟨earlier, hearlier⟩ := Option.isSome_iff_exists.1 (isSome_find?_iff.2 (hid ▸ hmem))
          rw [Catalog.find?] at hearlier
          simp [Catalog.find?, hearlier]
        · simp [Catalog.find?, hid]
      · rfl
    | _ => cases hoffered

theorem nodup_ids_perform (h : state.ids.Nodup) (call : CatalogCall Text) :
    (state.perform call).2.ids.Nodup := by
  cases hoffered : call.offered? with
  | none => rwa [ids, catalog_perform_of_offered? hoffered]
  | some template =>
    cases call with
    | register offered =>
      rw [perform_register]
      split
      · exact h
      · rename_i hnew
        rw [ids, List.map_append]
        exact List.concat_eq_append ▸ h.concat hnew
    | _ => cases hoffered

theorem stamps_perform (state : CatalogState Text) (call : CatalogCall Text) :
    state.supply.Stamps ((state.perform call).1.toOption.bind (·.node?)).toList
      (state.perform call).2.supply := by
  cases call with
  | list | ids => exact IdSupply.stamps_nil state.supply
  | get id =>
    rw [perform_get]
    split <;> exact IdSupply.stamps_nil state.supply
  | register template =>
    rw [perform_register]
    split <;> exact IdSupply.stamps_nil state.supply
  | create id name =>
    rw [perform_create]
    split
    · exact stamps_stampNode ..
    · exact IdSupply.stamps_nil state.supply
  | blank kind name =>
    show state.supply.Stamps [(blankNode state.supply kind name).1] _
    rw [perform, blankNode]
    split <;> exact stamps_stampNode ..
  | start => exact stamps_stampNode ..

/-! ### Calls one after the other -/

/-- The catalog behind calls: what they add stands at the end, in order. -/
theorem templates_after (state : CatalogState Text) (calls : List (CatalogCall Text)) :
    (state.after calls).catalog.templates =
      state.catalog.templates ++ state.registered calls := by
  induction calls generalizing state with
  | nil => exact (List.append_nil _).symm
  | cons call calls ih =>
    have hfirst : state.registered (call :: calls) =
        ((state.perform call).1.toOption.bind fun _ => call.offered?).toList ++
          (state.perform call).2.registered calls := by
      rw [registered, answers, List.zip_cons_cons, List.filterMap_cons]
      cases (state.perform call).1.toOption.bind fun _ => call.offered? <;> rfl
    show ((state.perform call).2.after calls).catalog.templates = _
    rw [ih, templates_perform, hfirst, List.append_assoc]

theorem find?_after (state : CatalogState Text) (calls : List (CatalogCall Text)) (id : Text) :
    (state.after calls).catalog.find? id =
      (state.catalog.templates ++ calls.filterMap CatalogCall.offered?).find? (·.id == id) := by
  induction calls generalizing state with
  | nil => rw [List.filterMap_nil, List.append_nil]; rfl
  | cons call calls ih =>
    have hoffered : (call :: calls).filterMap CatalogCall.offered? =
        call.offered?.toList ++ calls.filterMap CatalogCall.offered? := by
      rw [List.filterMap_cons]
      cases call.offered? <;> rfl
    show ((state.perform call).2.after calls).catalog.find? id = _
    rw [ih, List.find?_append, hoffered, ← List.append_assoc, List.find?_append, ← find?_perform]
    rfl

theorem nodup_ids_after (h : state.ids.Nodup) (calls : List (CatalogCall Text)) :
    (state.after calls).ids.Nodup := by
  induction calls generalizing state with
  | nil => exact h
  | cons call calls ih => exact ih (nodup_ids_perform h call)

theorem stamps_after (state : CatalogState Text) (calls : List (CatalogCall Text)) :
    state.supply.Stamps (state.created calls) (state.after calls).supply := by
  induction calls generalizing state with
  | nil => exact IdSupply.stamps_nil state.supply
  | cons call calls ih =>
    have hcreated : state.created (call :: calls) =
        ((state.perform call).1.toOption.bind (·.node?)).toList ++
          (state.perform call).2.created calls := by
      rw [created, answers, List.filterMap_cons]
      cases (state.perform call).1.toOption.bind (·.node?) <;> rfl
    rw [hcreated]
    exact (stamps_perform state call).append (ih _)

end CatalogState

/-- **The catalog is written once.** Let any calls have been made, from the built-in templates on.
The catalog lists the built-in templates and behind them those that were registered, in order, under
different identifiers. A template is refused exactly if there is one with its identifier, and then
nothing changes. What is found under an identifier is the template that was first offered under it;
a node of it has its kind and its ports, in order. Under an identifier that is not there nothing is
found and no node is made. The nodes that were made have taken the identifiers that the supply
handed out, each for one part, so that no two parts of these nodes have the same. -/
theorem catalog_written_once (supply : IdSupply) (calls : List (CatalogCall Text)) :
    let start : CatalogState Text := ⟨.builtIn, supply⟩
    let state := start.after calls
    let offered := Template.builtIns ++ calls.filterMap CatalogCall.offered?
    let parts := (start.created calls).flatMap Node.partIds
    ((state.perform .list).1 = .ok (.templates (Template.builtIns ++ start.registered calls)) ∧
      state.ids.Nodup) ∧
    (∀ template, ((∃ error, (state.perform (.register template)).1 = .error error) ↔
        template.id ∈ state.ids) ∧
      (template.id ∈ state.ids → (state.perform (.register template)).2 = state)) ∧
    (∀ id ∈ state.ids, ∃ template, offered.find? (·.id == id) = some template ∧
      (state.perform (.get id)).1 = .ok (.template template) ∧
      ∀ name, ∃ node, (state.perform (.create id name)).1 = .ok (.node node) ∧
        template.Shapes node) ∧
    (∀ id, id ∉ state.ids → (state.perform (.get id)).1 = .error (.unknown id) ∧
      ∀ name, state.perform (.create id name) = (.error (.unknown id), state)) ∧
    parts = supply.labels parts.length ∧ parts.Nodup := by
  intro start state offered parts
  have hstart : start.ids.Nodup := by
    show ((Template.builtIns : List (Template Text)).map (·.id)).Nodup
    decide
  have hparts : start.supply.Stamps (start.created calls) state.supply := start.stamps_after calls
  have hfound : ∀ id, state.catalog.find? id = offered.find? (·.id == id) :=
    fun id => start.find?_after calls id
  refine ⟨⟨?_, CatalogState.nodup_ids_after hstart calls⟩, fun template => ?_, fun id hid => ?_,
    fun id hid => ?_, hparts.partIds, ?_⟩
  · exact congrArg (fun templates => Except.ok (CatalogReply.templates templates))
      (start.templates_after calls)
  · rw [CatalogState.perform_register]
    split
    · rename_i hmem
      exact ⟨iff_of_true ⟨_, rfl⟩ hmem, fun _ => rfl⟩
    · rename_i hnew
      refine ⟨iff_of_false ?_ hnew, fun hmem => absurd hmem hnew⟩
      rintro ⟨error, ⟨⟩⟩
  · obtain ⟨template, htemplate⟩ := Option.isSome_iff_exists.1 (CatalogState.isSome_find?_iff.2 hid)
    refine ⟨template, (hfound id).symm.trans htemplate, ?_, fun name => ?_⟩
    · rw [CatalogState.perform_get, htemplate]
    · rw [CatalogState.perform_create, htemplate]
      exact ⟨_, rfl, template.shapes_node state.supply name⟩
  · have hnone := CatalogState.find?_eq_none_iff.2 hid
    refine ⟨?_, fun name => ?_⟩
    · rw [CatalogState.perform_get, hnone]
    · rw [CatalogState.perform_create, hnone]
  · show ((start.created calls).flatMap Node.partIds).Nodup
    rw [hparts.partIds]
    exact IdSupply.nodup_labels _ _

/-- A template of a vault. -/
def vaultTemplate : Template Text where
  id := "vault"
  name := "Vault"
  category := "Core"
  kind := accountKind
  description := ""
  inputs := [.plain "owner" "account"]
  outputs := [.plain "key" "account", .plain "bump" "data"]
  builtIn := false

/-- A node is made before the vault is registered; another vault is refused, and nodes are made. -/
def offeredTwice : List (CatalogCall Text) :=
  [.create "nft-mint" (some "Art"), .create "vault" none, .register vaultTemplate,
    .register { vaultTemplate with kind := startKind }, .create "vault" none, .blank "defi" none,
    .start]

theorem catalog_written_once_offeredTwice :
    let start : CatalogState Text := .start
    let state := start.after offeredTwice
    let other : Template Text := { vaultTemplate with kind := "token" }
    start.registered offeredTwice = [vaultTemplate] ∧
    other.id ∈ state.ids ∧ (state.perform (.register other)).2 = state ∧
    (state.perform (.get "vault")).1 = .ok (.template vaultTemplate) ∧
    (∃ node, (state.perform (.create "vault" (some "Mine"))).1 = .ok (.node node) ∧
      vaultTemplate.Shapes node) ∧
    ("gone" : Text) ∉ state.ids ∧ (state.perform (.get "gone")).1 = .error (.unknown "gone") ∧
    ((start.created offeredTwice).flatMap Node.partIds).length = 13 ∧
    ((start.created offeredTwice).flatMap Node.partIds).Nodup := by
  intro start state other
  obtain ⟨-, hregister, hthere, habsent, -, hnodup⟩ := catalog_written_once .start offeredTwice
  have hregistered : start.registered offeredTwice = [vaultTemplate] := by decide
  have hid : other.id ∈ state.ids := by decide
  have hgone : ("gone" : Text) ∉ state.ids := by decide
  have hcount : ((start.created offeredTwice).flatMap Node.partIds).length = 13 := by decide
  obtain ⟨template, hfind, hget, hcreate⟩ := hthere "vault" hid
  obtain rfl : template = vaultTemplate := by
    have hfirst : (Template.builtIns ++ offeredTwice.filterMap CatalogCall.offered?).find?
        (·.id == "vault") = some vaultTemplate := by decide
    exact Option.some.inj (hfind.symm.trans hfirst)
  exact ⟨hregistered, hid, (hregister other).2 hid, hget, hcreate (some "Mine"), hgone,
    (habsent "gone" hgone).1, hcount, hnodup⟩

end ModuleGraph
