import Mathlib.Data.List.Nodup
import ModuleGraph.Catalog.Basic

/-!
# Identifiers that are handed out

An identifier is the numeral of its number, so that the supply never hands out the same one twice.
A node that is stamped out takes the next identifiers, one for itself and one for each of its ports.

## Main definitions

- `Text.hexNumber` — the number of a hexadecimal numeral
- `IdSupply.labels` — the identifiers to be handed out next
- `IdSupply.HasGiven` — an identifier was handed out before

## Main statements

- `IdSupply.id_injective`, `IdSupply.nodup_labels` — different numbers have different identifiers
- `IdSupply.not_hasGiven_next` — what is handed out next is new
- `map_id_stampPorts`, `id_stampNode`, `map_id_ports_stampNode` — the identifiers that a node takes
-/

namespace ModuleGraph

/-! ### Numerals -/

namespace Text

/-- The number of a hexadecimal numeral. -/
def hexNumber (digits : List Char) : Nat :=
  digits.foldl (fun number c => 16 * number + (hexValue? c).getD 0) 0

theorem hexNumber_concat (digits : List Char) (c : Char) :
    hexNumber (digits ++ [c]) = 16 * hexNumber digits + (hexValue? c).getD 0 := by
  rw [hexNumber, List.foldl_append, List.foldl_cons, List.foldl_nil, hexNumber]

/-- Zeros in front of a numeral leave its number. -/
theorem hexNumber_replicate_append (count : Nat) (digits : List Char) :
    hexNumber (List.replicate count '0' ++ digits) = hexNumber digits := by
  induction count with
  | zero => rfl
  | succ count ih =>
    rw [← ih]
    rfl

theorem hexValue?_digitChar {digit : Nat} (h : digit < 16) :
    hexValue? digit.digitChar = some digit := by
  have hall : ∀ digit : Fin 16, hexValue? digit.val.digitChar = some digit.val := by decide
  exact hall ⟨digit, h⟩

theorem hexNumber_toDigits (number : Nat) : hexNumber (Nat.toDigits 16 number) = number := by
  induction number using Nat.base_induction 16 (by decide) with
  | single digit hdigit =>
    rw [Nat.toDigits_of_lt_base hdigit, ← List.nil_append [digit.digitChar], hexNumber_concat,
      hexValue?_digitChar hdigit]
    exact Nat.zero_add digit
  | digit number digit hdigit hpos ih =>
    rw [← Nat.toDigits_append_toDigits (by decide) hpos hdigit, Nat.toDigits_of_lt_base hdigit,
      hexNumber_concat, hexValue?_digitChar hdigit, ih, Option.getD_some]

theorem hexNumber_hex (width number : Nat) : hexNumber (hex width number).toList = number := by
  rw [hex, String.toList_ofList, List.leftpad, hexNumber_replicate_append, hexNumber_toDigits]

theorem ofString_injective : Function.Injective ofString := by
  intro first second h
  have hchar : Function.Injective Symbol.char := fun _ _ hsymbol => Symbol.char.inj hsymbol
  exact String.toList_inj.1 (hchar.list_map h)

end Text

/-! ### The supply -/

namespace IdSupply

theorem id_injective : Function.Injective id := by
  intro first second h
  have hnumber := congrArg (fun label => Text.hexNumber (String.toList label)) h
  rwa [id, id, Text.hexNumber_hex, Text.hexNumber_hex] at hnumber

variable {L : Type} [Label L]

/-- The next identifiers of the supply, so many of them. -/
def labels (supply : IdSupply) (count : Nat) : List L :=
  (List.range' (supply.taken + 1) count).map fun number => Label.ofText (id number)

theorem labels_succ (supply : IdSupply) (count : Nat) :
    (supply.labels (count + 1) : List L) =
      Label.ofText supply.next :: (supply.advance 1).labels count := by
  rw [labels, List.range'_succ, List.map_cons]
  rfl

theorem labels_add (supply : IdSupply) (count more : Nat) :
    (supply.labels (count + more) : List L) =
      supply.labels count ++ (supply.advance count).labels more := by
  have hstart : supply.taken + 1 + count = supply.taken + count + 1 := by omega
  rw [labels, ← List.range'_append_1, List.map_append, hstart]
  rfl

theorem ofText_id_injective :
    Function.Injective fun number => (Label.ofText (id number) : Text) := by
  have hlabel : Function.Injective fun text : Text => (Label.ofText text : Text) :=
    fun _ _ h => h
  exact hlabel.comp (Text.ofString_injective.comp id_injective)

theorem nodup_labels (supply : IdSupply) (count : Nat) :
    (supply.labels count : List Text).Nodup := by
  have hnumbers : (List.range' (supply.taken + 1) count).Nodup := List.nodup_range'
  exact hnumbers.map ofText_id_injective

/-- The identifier was handed out before. -/
def HasGiven (supply : IdSupply) (label : Text) : Prop :=
  ∃ number ≤ supply.taken, label = Label.ofText (id number)

variable {supply : IdSupply}

theorem HasGiven.advance {label : Text} (h : supply.HasGiven label) (count : Nat) :
    (supply.advance count).HasGiven label := by
  obtain ⟨number, hnumber, rfl⟩ := h
  exact ⟨number, Nat.le_add_right_of_le hnumber, rfl⟩

theorem hasGiven_next (supply : IdSupply) :
    (supply.advance 1).HasGiven (Label.ofText supply.next) :=
  ⟨supply.taken + 1, Nat.le_refl _, rfl⟩

/-- What is handed out next was never handed out before. -/
theorem not_hasGiven_next (supply : IdSupply) : ¬ supply.HasGiven (Label.ofText supply.next) := by
  rintro ⟨number, hnumber, h⟩
  have hsame : supply.taken + 1 = number := ofText_id_injective h
  omega

end IdSupply

/-! ### Stamping out -/

variable {L : Type} [Label L]

theorem snd_stampPorts (supply : IdSupply) (specs : List (PortSpec L)) :
    (stampPorts supply specs).2 = supply.advance specs.length := by
  induction specs generalizing supply with
  | nil => rfl
  | cons spec specs ih =>
    have htaken : supply.taken + 1 + specs.length = supply.taken + (specs.length + 1) := by omega
    show (stampPorts (supply.advance 1) specs).2 = _
    rw [ih, IdSupply.advance, IdSupply.advance, htaken, List.length_cons, IdSupply.advance]

theorem map_id_stampPorts (supply : IdSupply) (specs : List (PortSpec L)) :
    (stampPorts supply specs).1.map (·.id) = supply.labels specs.length := by
  induction specs generalizing supply with
  | nil => rfl
  | cons spec specs ih =>
    show Label.ofText supply.next :: (stampPorts (supply.advance 1) specs).1.map (·.id) = _
    rw [ih, List.length_cons, IdSupply.labels_succ]

section Nodes

variable (supply : IdSupply) (kind name : L) (inputs outputs : List (PortSpec L))

theorem id_stampNode :
    (stampNode supply kind name inputs outputs).1.id = Label.ofText supply.next := rfl

/-- The ports of a node take the identifiers behind that of the node. -/
theorem map_id_ports_stampNode :
    let node := (stampNode supply kind name inputs outputs).1
    node.inputs.map (·.id) ++ node.outputs.map (·.id) =
      (supply.advance 1).labels (inputs.length + outputs.length) := by
  show (stampPorts (supply.advance 1) inputs).1.map (·.id) ++
    (stampPorts (stampPorts (supply.advance 1) inputs).2 outputs).1.map (·.id) = _
  rw [snd_stampPorts, map_id_stampPorts, map_id_stampPorts, IdSupply.labels_add]

theorem snd_stampNode :
    (stampNode supply kind name inputs outputs).2 =
      supply.advance (1 + inputs.length + outputs.length) := by
  show (stampPorts (stampPorts (supply.advance 1) inputs).2 outputs).2 = _
  rw [snd_stampPorts, snd_stampPorts, IdSupply.advance, IdSupply.advance, IdSupply.advance,
    IdSupply.advance, Nat.add_assoc, Nat.add_assoc, Nat.add_assoc]

end Nodes

end ModuleGraph
