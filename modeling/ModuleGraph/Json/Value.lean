import ModuleGraph.Text.Basic

/-!
# JSON values

## Main definitions

- `Json` — a JSON value
- `Json.field?` — the value that an object gives to a key
- `Json.asText?`, `Json.asArray?`, `Json.asObject?` — views of a value of known shape
- `Json.texts` — a list of texts as an array
- `Json.hasHalf` — the value holds half of a surrogate pair, so that it cannot be sent as UTF-8

## Design notes

An object keeps its members as they were written. A key that is written twice has its last value.
A number keeps its spelling, since nothing here computes with it.
-/

namespace ModuleGraph

/-- A JSON value. -/
inductive Json where
  | null
  | bool (value : Bool)
  | number (spelling : String)
  | string (text : Text)
  | array (items : List Json)
  | object (members : List (Text × Json))
  deriving Inhabited, Repr

namespace Json

/-- The last value given to a key among the members of an object. -/
def lastValue? (key : Text) : List (Text × Json) → Option Json
  | [] => none
  | (k, value) :: members =>
    match lastValue? key members with
    | some later => some later
    | none => if k = key then some value else none

/-- The value that an object gives to a key. -/
def field? (key : Text) : Json → Option Json
  | object members => lastValue? key members
  | _ => none

def asText? : Json → Option Text
  | string text => some text
  | _ => none

def asArray? : Json → Option (List Json)
  | array items => some items
  | _ => none

def asObject? : Json → Option (List (Text × Json))
  | object members => some members
  | _ => none

/-- A list of texts as an array. -/
def texts (items : List Text) : Json := array (items.map string)

mutual

/-- Whether a value holds half of a surrogate pair. -/
def hasHalf : Json → Bool
  | string text => text.hasHalf
  | array items => anyHasHalf items
  | object members => anyMemberHasHalf members
  | _ => false

def anyHasHalf : List Json → Bool
  | [] => false
  | item :: items => item.hasHalf || anyHasHalf items

def anyMemberHasHalf : List (Text × Json) → Bool
  | [] => false
  | (key, value) :: members => key.hasHalf || value.hasHalf || anyMemberHasHalf members

end

end Json

end ModuleGraph
