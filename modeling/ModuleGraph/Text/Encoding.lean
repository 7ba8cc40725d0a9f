import ModuleGraph.Text.Basic

/-!
# Encodings

A text that is sent as bytes may be in UTF-8 or in one of the encodings of two or four bytes a unit.
The zeros among the first bytes tell which: the first characters of a text in question are ASCII.
Surrogate halves that stand alone are let through.

## Main definitions

- `Encoding`, `Encoding.ofBytes` — the encodings, and the one that the first bytes tell of
- `Encoding.decode?` — the text that bytes denote, unless they are not well-formed
-/

namespace ModuleGraph.Text

/-- The order of the bytes of a unit. -/
inductive ByteOrder where
  | bigEndian
  | littleEndian
  deriving DecidableEq, Repr

/-- How a text is written as bytes. -/
inductive Encoding where
  | utf8
  | utf16 (order : ByteOrder)
  | utf32 (order : ByteOrder)
  deriving DecidableEq, Repr

/-- The number that the bytes of a unit denote. -/
def ByteOrder.value (order : ByteOrder) (bytes : List UInt8) : Nat :=
  let significant := match order with
    | bigEndian => bytes
    | littleEndian => bytes.reverse
  significant.foldl (fun n byte => 0x100 * n + byte.toNat) 0

/-- The units of two bytes; none if a byte is left over. -/
def units16? (order : ByteOrder) : List UInt8 → Option (List Nat)
  | [] => some []
  | a :: b :: bytes => (units16? order bytes).map (order.value [a, b] :: ·)
  | _ => none

/-- The units of four bytes; none if bytes are left over. -/
def units32? (order : ByteOrder) : List UInt8 → Option (List Nat)
  | [] => some []
  | a :: b :: c :: d :: bytes => (units32? order bytes).map (order.value [a, b, c, d] :: ·)
  | _ => none

/-- The text of code units: a first half and a second half next to it are one character. -/
def ofUnits : List Nat → Text
  | [] => []
  | unit :: units =>
    match Symbol.ofUnit unit, ofUnits units with
    | symbol, next :: rest =>
      match Symbol.ofHalves? symbol next with
      | some c => c :: rest
      | none => symbol :: next :: rest
    | symbol, [] => [symbol]

/-- The text of code points; none if one of them is beyond the last character. -/
def ofCodes? (codes : List Nat) : Option Text :=
  if codes.all (· < 0x110000) then some (codes.map Symbol.ofUnit) else none

namespace Encoding

/-- The encoding that the first bytes tell of. -/
def ofBytes : List UInt8 → Encoding
  | a :: b :: c :: d :: _ =>
    if a = 0 then
      if b = 0 then utf32 .bigEndian else utf16 .bigEndian
    else if b = 0 then
      if c = 0 ∧ d = 0 then utf32 .littleEndian else utf16 .littleEndian
    else utf8
  | [a, b] =>
    if a = 0 then utf16 .bigEndian else if b = 0 then utf16 .littleEndian else utf8
  | _ => utf8

/-- The text that bytes denote. -/
def decode? (bytes : List UInt8) : Encoding → Option Text
  | utf8 => (String.fromUTF8? ⟨bytes.toArray⟩).map ofString
  | utf16 order => (units16? order bytes).map ofUnits
  | utf32 order => (units32? order bytes).bind ofCodes?

end Encoding

end ModuleGraph.Text
