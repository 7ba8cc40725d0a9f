import ModuleGraph.Proofs.Document.Inspection

/-!
# Inspections by look-ups that can break down

An inspection looks members up that may be missing, in values that may be no objects, goes through
values that may be no lists, and looks for identifiers that may be no texts. Here each of these can
break the inspection down. None of them ever does: every look-up stands behind the check that it
needs, so that an inspection ends with a fault of the document or not at all.

## Main definitions

- `Breakdown`, `Stop` — why a look-up breaks down, and what ends an inspection early
- `Unguarded.member`, `Unguarded.memberOr`, `Unguarded.items`, `Unguarded.asKey` — the look-ups
- `Unguarded.inspect` — the inspection made of them

## Main statements

- `Unguarded.inspect_eq` — it ends as the inspection of documents does, and never breaks down
-/

namespace ModuleGraph.Document

/-- Why a look-up breaks down. -/
inductive Breakdown where
  /-- An object does not have the key. -/
  | noSuchKey (key : String)
  /-- Members are looked up in what is no object. -/
  | noMembers
  /-- What is no list is gone through. -/
  | noItems
  /-- What is no text is looked for among texts. -/
  | noKey
  deriving DecidableEq, Repr

/-- What ends an inspection early. -/
inductive Stop where
  | fault (fault : Fault)
  | breakdown (cause : Breakdown)
  deriving DecidableEq, Repr

namespace Unguarded

/-! ### Look-ups -/

/-- Whether an object has a key. -/
def holds (value : Json) (key : String) : Except Stop Bool :=
  match value with
  | .object _ => .ok (value.field? key).isSome
  | _ => .error (.breakdown .noMembers)

/-- The member under a key. -/
def member (value : Json) (key : String) : Except Stop Json :=
  match value with
  | .object _ =>
    match value.field? key with
    | some member => .ok member
    | none => .error (.breakdown (.noSuchKey key))
  | _ => .error (.breakdown .noMembers)

/-- The member under a key that may be missing. -/
def memberOr (value : Json) (key : String) (fallback : Json) : Except Stop Json :=
  match value with
  | .object _ => .ok ((value.field? key).getD fallback)
  | _ => .error (.breakdown .noMembers)

/-- The items of a list. -/
def items : Json → Except Stop (List Json)
  | .array items => .ok items
  | _ => .error (.breakdown .noItems)

/-- The text that is to be looked for among texts. -/
def asKey : Json → Except Stop Text
  | .string text => .ok text
  | _ => .error (.breakdown .noKey)

/-! ### Checks -/

/-- Refuses a document for a fault unless a condition holds. -/
def require (condition : Bool) (fault : Fault) : Except Stop Unit :=
  if condition then .ok () else .error (.fault fault)

def requireKeys (place : Place) (value : Json) : List String → Except Stop Unit
  | [] => .ok ()
  | key :: keys => do
    require (← holds value key) (.missingMember place key)
    requireKeys place value keys

def requireText (place : Place) (key : String) (value : Json) : Except Stop Text := do
  require value.asText?.isSome (.notAText place key)
  asKey value

def memberText (place : Place) (value : Json) (key : String) : Except Stop Text := do
  requireText place key (← member value key)

def requireList (place : Place) (key : String) (value : Json) : Except Stop (List Json) := do
  require value.asArray?.isSome (.notAList place key)
  items value

def requireObject (place : Place) (value : Json) : Except Stop Unit :=
  require value.asObject?.isSome (.entryNotAnObject place)

def requireNew (place : Place) (seen : List Text) (id : Text) : Except Stop Unit :=
  require (!decide (id ∈ seen)) (.duplicateId place id)

/-! ### Parts -/

def inspectPort (place : Place) (seen : List Text) (value : Json) : Except Stop Text := do
  requireObject place value
  requireKeys place value portKeys
  let id ← memberText place value "id"
  let _ ← memberText place value "name"
  let _ ← memberText place value "type"
  requireNew place seen id
  return id

def inspectPortsFrom (node : Nat) (side : Side) :
    (index : Nat) → (seen : List Text) → List Json → Except Stop (List Text)
  | _, _, [] => .ok []
  | index, seen, value :: values => do
    let id ← inspectPort (.port node side index) seen value
    let ids ← inspectPortsFrom node side (index + 1) (id :: seen) values
    return id :: ids

def inspectPorts (node : Nat) (side : Side) (seen : List Text) (value : Json) :
    Except Stop (List Text) := do
  let values ← requireList (.node node) side.key (← memberOr value side.key (.array []))
  inspectPortsFrom node side 0 seen values

def nodeKind (value : Json) : Except Stop Json := do
  memberOr value "type" (← memberOr value "kind" .null)

def requireKind (place : Place) : Json → Except Stop Unit
  | .null => .error (.fault (.missingMember place "type"))
  | _ => .ok ()

def inspectNode (index : Nat) (seen : List Text) (value : Json) : Except Stop Declared := do
  let place := Place.node index
  requireObject place value
  requireKeys place value ["id", "name"]
  requireKind place (← nodeKind value)
  let id ← memberText place value "id"
  let _ ← memberText place value "name"
  let _ ← requireText place "type" (← nodeKind value)
  requireNew place seen id
  let inputs ← inspectPorts index .inputs [] value
  let outputs ← inspectPorts index .outputs inputs value
  return { id, inputs, outputs }

def inspectNodesFrom :
    (index : Nat) → (seen : List Text) → List Json → Except Stop (List Declared)
  | _, _, [] => .ok []
  | index, seen, value :: values => do
    let node ← inspectNode index seen value
    let nodes ← inspectNodesFrom (index + 1) (node.id :: seen) values
    return node :: nodes

def inspectConnection (index : Nat) (seen : List Text) (value : Json) :
    Except Stop (Connection Text) := do
  let place := Place.connection index
  requireObject place value
  requireKeys place value connectionKeys
  let id ← memberText place value "id"
  let sourceNode ← memberText place value "sourceNodeId"
  let sourcePort ← memberText place value "sourcePortId"
  let targetNode ← memberText place value "targetNodeId"
  let targetPort ← memberText place value "targetPortId"
  requireNew place seen id
  return { id, sourceNode, sourcePort, targetNode, targetPort }

/-! ### Documents -/

/-- What was noted, and what ended the inspection early. -/
structure Result where
  warnings : List Dangling
  stop : Option Stop
  deriving DecidableEq, Repr

/-- The result of an inspection that does not break down. -/
def Result.of (inspection : Inspection) : Result :=
  ⟨inspection.warnings, inspection.fault.map .fault⟩

def inspectConnectionsFrom (strict : Bool) (nodes : List Declared) :
    (index : Nat) → (seen : List Text) → List Json → Result
  | _, _, [] => ⟨[], none⟩
  | index, seen, value :: values =>
    match inspectConnection index seen value with
    | .error stop => ⟨[], some stop⟩
    | .ok connection =>
      let rest := inspectConnectionsFrom strict nodes (index + 1) (connection.id :: seen) values
      match dangling? nodes index connection.toEndpoints with
      | some wire =>
        if strict then ⟨[], some (.fault (.dangling wire))⟩
        else { rest with warnings := wire :: rest.warnings }
      | none => rest

def requireTextIfPresent (value : Json) (key : String) : Except Stop Unit := do
  if ← holds value key then
    require (← member value key).asText?.isSome (.notAText .root key)

def inspectHead (value : Json) : Except Stop (List Declared × List Json) := do
  require value.asObject?.isSome .notAnObject
  requireKeys .root value ["nodes", "connections"]
  let nodes ← requireList .root "nodes" (← member value "nodes")
  let connections ← requireList .root "connections" (← member value "connections")
  requireTextIfPresent value "name"
  requireTextIfPresent value "programName"
  let declared ← inspectNodesFrom 0 [] nodes
  return (declared, connections)

/-- The inspection of a document by look-ups that can break down. -/
def inspect (strict : Bool) (value : Json) : Result :=
  match inspectHead value with
  | .error stop => ⟨[], some stop⟩
  | .ok (nodes, connections) => inspectConnectionsFrom strict nodes 0 [] connections

/-! ### What never breaks down -/

/-- What can only end with a fault, among what can break down. -/
def lift {α : Type} (attempt : Except Fault α) : Except Stop α := attempt.mapError .fault

theorem lift_bind {α β : Type} (attempt : Except Fault α) (next : α → Except Fault β) :
    lift (attempt >>= next) = lift attempt >>= fun value => lift (next value) := by
  cases attempt <;> rfl

theorem lift_pure {α : Type} (value : α) : lift (pure value) = pure value := rfl

section Checks

variable {place : Place} {key : String} {value : Json} {members : List (Text × Json)}

theorem requireText_eq (place : Place) (key : String) (value : Json) :
    requireText place key value = lift (Document.requireText place key value) := by
  cases value <;> rfl

theorem requireList_eq (place : Place) (key : String) (value : Json) :
    requireList place key value = lift (Document.requireList place key value) := by
  cases value <;> rfl

theorem requireNew_eq (place : Place) (seen : List Text) (id : Text) :
    requireNew place seen id = lift (Document.requireNew place seen id) := by
  rw [requireNew, require, Document.requireNew]
  by_cases h : id ∈ seen
  · simp only [h]
    rfl
  · simp only [h]
    rfl

/-- A member that is there is looked up, and no default stands in for it. -/
theorem member_eq (h : (value.field? key).isSome = true) :
    member value key = .ok ((value.field? key).getD .null) := by
  obtain ⟨found, hfound⟩ := Option.isSome_iff_exists.1 h
  cases value with
  | object members => simp only [member, hfound, Option.getD_some]
  | _ => cases hfound

theorem memberText_eq (h : (value.field? key).isSome = true) :
    memberText place value key = lift (Document.memberText place value key) := by
  rw [memberText, member_eq h]
  exact requireText_eq place key _

theorem requireKeys_eq (place : Place) (members : List (Text × Json)) (keys : List String) :
    requireKeys place (.object members) keys =
      lift (Document.requireKeys place (.object members) keys) := by
  induction keys with
  | nil => rfl
  | cons key keys ih =>
    rw [requireKeys, Document.requireKeys, ih]
    by_cases h : (Json.field? key (.object members)).isSome = true
    · simp only [holds, require, h]
      rfl
    · simp only [holds, require, h]
      rfl

/-- What goes on behind a check for keys may rely on them. -/
theorem requireKeys_bind {α : Type} {keys : List String} {next : Unit → Except Stop α}
    {next' : Unit → Except Fault α}
    (h : (∀ key ∈ keys, (Json.field? key (.object members)).isSome = true) →
      next () = lift (next' ())) :
    (requireKeys place (.object members) keys >>= next) =
      lift (Document.requireKeys place (.object members) keys >>= next') := by
  rw [requireKeys_eq]
  cases hkeys : Document.requireKeys place (.object members) keys with
  | error fault => rfl
  | ok _ => exact h (requireKeys_eq_ok_iff.1 hkeys)

theorem nodeKind_eq (members : List (Text × Json)) :
    nodeKind (.object members) = .ok (Document.nodeKind (.object members)) := by
  have h : nodeKind (.object members) = .ok ((Json.field? "type" (.object members)).getD
      ((Json.field? "kind" (.object members)).getD .null)) := rfl
  rw [h, Document.nodeKind]
  cases Json.field? "type" (.object members) <;> rfl

theorem requireKind_eq (place : Place) (value : Json) :
    requireKind place (Document.nodeKind value) = lift (Document.requireKind place value) := by
  rw [Document.requireKind]
  cases Document.nodeKind value <;> rfl

theorem requireTextIfPresent_eq (members : List (Text × Json)) (key : String) :
    requireTextIfPresent (.object members) key =
      lift (Document.requireTextIfPresent (.object members) key) := by
  cases h : Json.field? key (.object members) with
  | none =>
    simp only [requireTextIfPresent, holds, Document.requireTextIfPresent, h]
    rfl
  | some found =>
    simp only [requireTextIfPresent, holds, member, Document.requireTextIfPresent, h]
    cases found <;> rfl

end Checks

/-! ### Parts that never break down -/

theorem inspectPort_eq (place : Place) (seen : List Text) (value : Json) :
    inspectPort place seen value = lift (Document.inspectPort place seen value) := by
  cases value with
  | object members =>
    refine requireKeys_bind fun hkeys => ?_
    simp only [lift_bind, lift_pure, requireNew_eq,
      memberText_eq (hkeys "id" (by decide)), memberText_eq (hkeys "name" (by decide)),
      memberText_eq (hkeys "type" (by decide))]
  | _ => rfl

theorem inspectPortsFrom_eq (node : Nat) (side : Side) (index : Nat) (seen : List Text)
    (values : List Json) :
    inspectPortsFrom node side index seen values =
      lift (Document.inspectPortsFrom node side index seen values) := by
  induction values generalizing index seen with
  | nil => rfl
  | cons value values ih =>
    rw [inspectPortsFrom, Document.inspectPortsFrom]
    simp only [lift_bind, lift_pure, inspectPort_eq, ih]

theorem inspectPorts_eq (node : Nat) (side : Side) (seen : List Text)
    (members : List (Text × Json)) :
    inspectPorts node side seen (.object members) =
      lift (Document.inspectPorts node side seen (.object members)) := by
  rw [Document.inspectPorts, lift_bind, ← requireList_eq]
  simp only [← inspectPortsFrom_eq]
  rfl

theorem inspectNode_eq (index : Nat) (seen : List Text) (value : Json) :
    inspectNode index seen value = lift (Document.inspectNode index seen value) := by
  cases value with
  | object members =>
    refine requireKeys_bind fun hkeys => ?_
    simp only [nodeKind_eq, lift_bind, lift_pure, requireNew_eq, inspectPorts_eq, requireText_eq,
      memberText_eq (hkeys "id" (by decide)), memberText_eq (hkeys "name" (by decide)),
      ← requireKind_eq]
    rfl
  | _ => rfl

theorem inspectNodesFrom_eq (index : Nat) (seen : List Text) (values : List Json) :
    inspectNodesFrom index seen values = lift (Document.inspectNodesFrom index seen values) := by
  induction values generalizing index seen with
  | nil => rfl
  | cons value values ih =>
    rw [inspectNodesFrom, Document.inspectNodesFrom]
    simp only [lift_bind, lift_pure, inspectNode_eq, ih]

theorem inspectConnection_eq (index : Nat) (seen : List Text) (value : Json) :
    inspectConnection index seen value = lift (Document.inspectConnection index seen value) := by
  cases value with
  | object members =>
    refine requireKeys_bind fun hkeys => ?_
    simp only [lift_bind, lift_pure, requireNew_eq, memberText_eq (hkeys "id" (by decide)),
      memberText_eq (hkeys "sourceNodeId" (by decide)),
      memberText_eq (hkeys "sourcePortId" (by decide)),
      memberText_eq (hkeys "targetNodeId" (by decide)),
      memberText_eq (hkeys "targetPortId" (by decide))]
  | _ => rfl

theorem inspectConnectionsFrom_eq (strict : Bool) (nodes : List Declared) (index : Nat)
    (seen : List Text) (values : List Json) :
    inspectConnectionsFrom strict nodes index seen values =
      .of (Document.inspectConnectionsFrom strict nodes index seen values) := by
  induction values generalizing index seen with
  | nil => rfl
  | cons value values ih =>
    rw [inspectConnectionsFrom, Document.inspectConnectionsFrom, inspectConnection_eq]
    cases Document.inspectConnection index seen value with
    | error fault => rfl
    | ok connection =>
      simp only [lift, Except.mapError, ih]
      cases dangling? nodes index connection.toEndpoints <;> cases strict <;> rfl

theorem inspectHead_eq (value : Json) : inspectHead value = lift (Document.inspectHead value) := by
  cases value with
  | object members =>
    refine requireKeys_bind fun hkeys => ?_
    simp only [member_eq (hkeys "nodes" (by decide)), member_eq (hkeys "connections" (by decide)),
      lift_bind, lift_pure, requireList_eq, requireTextIfPresent_eq, inspectNodesFrom_eq]
    rfl
  | _ => rfl

/-- **No inspection breaks down.** By look-ups that can break down, the inspection of a document
notes the same wires and ends with the same fault, if any. -/
theorem inspect_eq (strict : Bool) (value : Json) :
    inspect strict value = .of (Document.inspect strict value) := by
  rw [inspect, Document.inspect, inspectHead_eq]
  cases Document.inspectHead value with
  | error fault => rfl
  | ok head => exact inspectConnectionsFrom_eq strict head.1 0 [] head.2

end Unguarded

end ModuleGraph.Document
