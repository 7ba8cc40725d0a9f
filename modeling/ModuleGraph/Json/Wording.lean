import ModuleGraph.Json.Value
import ModuleGraph.Text.Quoted

/-!
# The wording of values

Messages repeat the labels of a graph. A text is repeated as it is; any other value is worded as a
constant, a number, or a list of worded values in which texts are quoted.

## Main definitions

- `Json.wording` — the wording of a value inside another
- `Json.describe` — the wording of a value by itself
- `Json.memberKey` — the key that stands for a value in an object
-/

namespace ModuleGraph.Json

mutual

/-- The wording of a value inside another. -/
def wording : Json → Text
  | null => "None"
  | bool value => if value then "True" else "False"
  | number spelling => spelling
  | string text => text.quoted
  | array items => "[" ++ Text.join ", " (itemWordings items) ++ "]"
  | object members => "\x7b" ++ Text.join ", " (memberWordings members) ++ "\x7d"

def itemWordings : List Json → List Text
  | [] => []
  | item :: items => item.wording :: itemWordings items

def memberWordings : List (Text × Json) → List Text
  | [] => []
  | (key, value) :: members =>
    (Text.ofString key.quoted ++ ": " ++ value.wording) :: memberWordings members

end

/-- The wording of a value by itself. -/
def describe : Json → Text
  | string text => text
  | value => value.wording

/-- The key that stands for a value in an object. -/
def memberKey : Json → Text
  | bool value => if value then "true" else "false"
  | value => value.describe

end ModuleGraph.Json
