import ModuleGraph.Json.Identity
import ModuleGraph.Json.Wording

/-!
# Labels

The parts of a graph are identified and described by labels. The labels of a graph that has been
inspected are texts. A graph that was taken over as it came may have any JSON value for a label, so
graphs are polymorphic in the type of their labels.

## Main definitions

- `Label` — a type of labels: JSON values of some sort, texts among them
- `Label.text?`, `Label.wording`, `Label.isEmpty`, `Label.isKey` — what can be done with a label
- `LabelFault` — why a label is of no use at some place

## Design notes

Labels are compared with `==`, which is an equivalence: for texts it is equality, for other values
it is sameness. The laws of the class say that texts are embedded and that labels survive being
written and read.
-/

namespace ModuleGraph

/-- A type of labels. -/
class Label (L : Type) extends BEq L, EquivBEq L where
  ofText : Text → L
  ofJson? : Json → Option L
  toJson : L → Json
  ofText_beq_ofText (s t : Text) : (ofText s == ofText t) = (s == t)
  toJson_ofText (text : Text) : toJson (ofText text) = .string text
  ofJson?_toJson (label : L) : ofJson? (toJson label) = some label

namespace Label

instance : Label Text where
  ofText := id
  ofJson? := Json.asText?
  toJson := .string
  ofText_beq_ofText _ _ := rfl
  toJson_ofText _ := rfl
  ofJson?_toJson _ := rfl

instance : Label Json where
  ofText := .string
  ofJson? := some
  toJson := id
  ofText_beq_ofText _ _ := rfl
  toJson_ofText _ := rfl
  ofJson?_toJson _ := rfl

variable {L : Type} [Label L]

/-- The text that a label is, if it is one. -/
def text? (label : L) : Option Text := (toJson label).asText?

def isText (label : L) : Bool := (text? label).isSome

/-- The wording of a label in messages. -/
def wording (label : L) : Text := (toJson label).describe

/-- Whether a label says nothing. -/
def isEmpty (label : L) : Bool := (toJson label).isEmpty

/-- Whether a label can be looked up in a table: lists and objects cannot. -/
def isKey (label : L) : Bool := !(toJson label).isComposite

@[simp] theorem text?_text (text : Text) : text? text = some text := rfl

@[simp] theorem isText_text (text : Text) : isText text = true := rfl

@[simp] theorem wording_text (text : Text) : wording text = text := rfl

@[simp] theorem isEmpty_text (text : Text) : isEmpty text = text.isEmpty := rfl

@[simp] theorem isKey_text (text : Text) : isKey text = true := rfl

/-- A label, or another in its place if it is missing or says nothing. -/
def orElse (label : Option L) (fallback : L) : L :=
  match label with
  | some label => if isEmpty label then fallback else label
  | none => fallback

end Label

/-- Why a label is of no use at some place. -/
inductive LabelFault where
  /-- It is to be looked up. -/
  | notAKey
  /-- It is to be joined with texts. -/
  | notAText
  /-- It is to be made into a name of the program. -/
  | notAName
  deriving DecidableEq, Repr

def LabelFault.message : LabelFault → String
  | notAKey => "a list or an object identifies nothing"
  | notAText => "a label that has to be a text is none"
  | notAName => "a label that names a part of the program is no text"

end ModuleGraph
