import ModuleGraph.Catalog.BuiltIn

/-!
# The catalog

The catalog keeps templates in the order in which they were registered, and each identifier only
once: a template is never replaced.

## Main definitions

- `Catalog` — the templates, latest last
- `CatalogError` — an identifier is unknown, or taken
- `Catalog.find?`, `Catalog.get`, `Catalog.register`, `Catalog.create` — the operations
- `CatalogCall`, `CatalogState`, `CatalogState.perform` — the same operations as calls on a state
-/

namespace ModuleGraph

/-- Templates in the order in which they were registered. -/
structure Catalog (L : Type) where
  templates : List (Template L)
  deriving DecidableEq, Repr

/-- Why the catalog refuses. -/
inductive CatalogError (L : Type) where
  | unknown (id : L)
  | taken (id : L)
  /-- What is asked for is no identifier. -/
  | unusable (fault : LabelFault)
  deriving DecidableEq, Repr

variable {L : Type} [Label L]

def CatalogError.message : CatalogError L → Text
  | unknown id => "Unknown module template '" ++ Label.wording id ++ "'"
  | taken id => "Module template '" ++ Label.wording id ++ "' is already registered"
  | unusable fault => fault.message

namespace Catalog

def builtIn : Catalog L := ⟨Template.builtIns⟩

/-- The template with the given identifier, if there is one. -/
def find? (catalog : Catalog L) (id : L) : Option (Template L) :=
  catalog.templates.find? (·.id == id)

def get (catalog : Catalog L) (id : L) : Except (CatalogError L) (Template L) :=
  if Label.isKey id then
    match catalog.find? id with
    | some template => .ok template
    | none => .error (.unknown id)
  else
    .error (.unusable .notAKey)

def register (catalog : Catalog L) (template : Template L) :
    Except (CatalogError L) (Catalog L) :=
  if Label.isKey template.id then
    if (catalog.find? template.id).isSome then .error (.taken template.id)
    else .ok ⟨catalog.templates ++ [template]⟩
  else
    .error (.unusable .notAKey)

/-- A node of the template with the given identifier. -/
def create (catalog : Catalog L) (supply : IdSupply) (id : L) (name : Option L) :
    Except (CatalogError L) (Node L × IdSupply) := do
  let template ← catalog.get id
  return template.node supply name

end Catalog

/-! ### Calls -/

/-- A call on the catalog. -/
inductive CatalogCall (L : Type) where
  | list
  | ids
  | get (id : L)
  | register (template : Template L)
  | create (id : L) (name : Option L)
  | blank (kind : L) (name : Option L)
  | start
  deriving DecidableEq, Repr

inductive CatalogReply (L : Type) where
  | templates (templates : List (Template L))
  | ids (ids : List L)
  | template (template : Template L)
  | node (node : Node L)
  deriving DecidableEq, Repr

/-- The catalog and the supply of fresh identifiers. -/
structure CatalogState (L : Type) where
  catalog : Catalog L
  supply : IdSupply
  deriving DecidableEq, Repr

namespace CatalogState

/-- The built-in templates, and nothing handed out. -/
def start : CatalogState L := ⟨.builtIn, .start⟩

/-- The answer that holds a node just made, and the state after it. -/
def answerNode (state : CatalogState L) (made : Node L × IdSupply) :
    Except (CatalogError L) (CatalogReply L) × CatalogState L :=
  (.ok (.node made.1), { state with supply := made.2 })

/-- The answer to a call, and the state after it. -/
def perform (state : CatalogState L) :
    CatalogCall L → Except (CatalogError L) (CatalogReply L) × CatalogState L
  | .list => (.ok (.templates state.catalog.templates), state)
  | .ids => (.ok (.ids (state.catalog.templates.map (·.id))), state)
  | .get id => ((state.catalog.get id).map .template, state)
  | .register template =>
    match state.catalog.register template with
    | .ok catalog => (.ok (.template template), { state with catalog })
    | .error error => (.error error, state)
  | .create id name =>
    match state.catalog.create state.supply id name with
    | .ok made => state.answerNode made
    | .error error => (.error error, state)
  | .blank kind name => state.answerNode (blankNode state.supply kind name)
  | .start => state.answerNode (startNode state.supply)

end CatalogState

end ModuleGraph
