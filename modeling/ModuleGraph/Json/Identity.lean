import ModuleGraph.Json.Amount
import ModuleGraph.Json.Printer

/-!
# The identity of values

Two values are the same if they denote the same: numbers by their amounts, a truth value as the
number one or zero, objects without regard to the order of their members. The sameness is an
equivalence, but not equality: `1` and `1.0` are the same value in two spellings.

## Main definitions

- `Json.Key`, `Json.key` — what a value denotes, in a form that can be compared
- `Json.same` — the sameness of values, and `Json.same_iff`, which ties it to their keys
- `Json.isComposite` — the value is an array or an object
- `Json.isEmpty` — the value says nothing
-/

namespace ModuleGraph.Json

/-- What a value denotes. -/
inductive Key where
  | text (text : Text)
  | other (canonical : String)
  deriving DecidableEq, Repr

/-- The amount of a truth value. -/
def truthAmount (value : Bool) : Amount := if value then .one else .zero

mutual

/-- The canonical form of a value, which is the same for the same values. -/
def canonical : Json → String
  | null => "null"
  | bool value => (truthAmount value).text
  | number spelling => ((Amount.ofNumber? spelling).map Amount.text).getD spelling
  | string text => escapedText text
  | array items => "[" ++ ",".intercalate (canonicalItems items) ++ "]"
  | object members =>
    "\x7b" ++ ",".intercalate ((canonicalMembers members).mergeSort (· ≤ ·)) ++ "\x7d"

def canonicalItems : List Json → List String
  | [] => []
  | item :: items => item.canonical :: canonicalItems items

def canonicalMembers : List (Text × Json) → List String
  | [] => []
  | (key, value) :: members =>
    (escapedText key ++ ":" ++ value.canonical) :: canonicalMembers members

end

/-- What a value denotes. -/
def key : Json → Key
  | string text => .text text
  | value => .other value.canonical

/-- Whether two values denote the same. -/
def same : Json → Json → Bool
  | string s, string t => s == t
  | a, b => a.key == b.key

theorem same_iff {a b : Json} : same a b = true ↔ a.key = b.key := by
  cases a <;> cases b <;> simp [same, key]

instance : BEq Json := ⟨same⟩

theorem beq_iff {a b : Json} : (a == b) = true ↔ a.key = b.key := same_iff

instance : EquivBEq Json where
  rfl := beq_iff.2 rfl
  symm h := beq_iff.2 (beq_iff.1 h).symm
  trans h h' := beq_iff.2 ((beq_iff.1 h).trans (beq_iff.1 h'))

def isComposite : Json → Bool
  | array _ | object _ => true
  | _ => false

/-- Whether a value says nothing: null, falsehood, zero, and what is empty. -/
def isEmpty : Json → Bool
  | null => true
  | bool value => !value
  | number spelling => Amount.ofSpelling? spelling = some .zero
  | string text => text.isEmpty
  | array items => items.isEmpty
  | object members => members.isEmpty

end ModuleGraph.Json
