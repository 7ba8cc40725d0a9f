/-!
# Texts

A text is a sequence of symbols. Nearly all of them are characters. The others are halves of
surrogate pairs that stand alone: a document can name one by its escape, though it is no character
and has no form in UTF-8.

## Main definitions

- `Symbol`, `Text` — a character or a half, and a sequence of them
- `Text.ofString`, `Text.toString?` — the text of a string, and the string of a text without halves
- `Symbol.ofUnit` — the symbol of a single code unit
- `Text.join` — texts one after the other with another between them
-/

namespace ModuleGraph

/-- A character, or half of a surrogate pair that stands alone. -/
inductive Symbol where
  | char (c : Char)
  /-- The code unit `0xD800 + index`. -/
  | half (index : Fin 0x800)
  deriving DecidableEq, Repr

/-- A sequence of symbols. -/
abbrev Text := List Symbol

instance : LawfulBEq Text := inferInstance

namespace Symbol

instance : Coe Char Symbol := ⟨.char⟩

/-- The character that a symbol is, if it is one. -/
def char? : Symbol → Option Char
  | char c => some c
  | half _ => none

/-- Whether a symbol is a character with the given property. -/
def satisfies (p : Char → Bool) : Symbol → Bool
  | char c => p c
  | half _ => false

/-- The first code unit of a surrogate pair. -/
def firstHalf : Nat := 0xD800

/-- The code point of a symbol. -/
def code : Symbol → Nat
  | char c => c.toNat
  | half index => firstHalf + index

/-- The symbol of a single code unit. -/
def ofUnit (unit : Nat) : Symbol :=
  if h : firstHalf ≤ unit ∧ unit < firstHalf + 0x800 then half ⟨unit - firstHalf, by omega⟩
  else char (Char.ofNat unit)

/-- The character that two halves of a surrogate pair denote, if they are a first and a second
half. -/
def ofHalves? (first second : Symbol) : Option Char :=
  match first, second with
  | half high, half low =>
    if high < 0x400 ∧ 0x400 ≤ low then some (Char.ofNat (0x10000 + high * 0x400 + (low - 0x400)))
    else none
  | _, _ => none

end Symbol

namespace Text

def ofChars (cs : List Char) : Text := cs.map .char

def ofString (string : String) : Text := ofChars string.toList

instance : Coe String Text := ⟨ofString⟩

/-- The string of a text, unless the text holds a half. -/
def toString? (text : Text) : Option String := (text.mapM Symbol.char?).map String.ofList

/-- Whether a text holds a half, so that it has no form in UTF-8. -/
def hasHalf (text : Text) : Bool := text.any (·.char?.isNone)

/-- The bytes of a text in UTF-8, unless the text holds a half. -/
def bytes? (text : Text) : Option ByteArray := text.toString?.map String.toUTF8

/-- The string that stands for a text where halves cannot be shown. -/
def shown (text : Text) : String :=
  String.ofList (text.map fun symbol => symbol.char?.getD '\uFFFD')

/-- Texts one after the other, with `joint` between them. -/
def join (joint : Text) (texts : List Text) : Text := joint.intercalate texts

/-- A text, or another in its place if it is empty. -/
def orElse (text fallback : Text) : Text := if text.isEmpty then fallback else text

end Text

end ModuleGraph
