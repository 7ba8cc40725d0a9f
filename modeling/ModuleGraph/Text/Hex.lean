/-!
# Hexadecimal numerals

## Main definitions

- `hex` — the lower-case hexadecimal numeral of a number, padded with zeros
- `hexValue?` — the value of one hexadecimal digit
-/

namespace ModuleGraph.Text

/-- The lower-case hexadecimal numeral of `n`, padded with zeros to at least `width` digits. -/
def hex (width n : Nat) : String :=
  String.ofList ((Nat.toDigits 16 n).leftpad width '0')

/-- The value of a hexadecimal digit of either case. -/
def hexValue? (c : Char) : Option Nat :=
  if '0' ≤ c ∧ c ≤ '9' then some (c.toNat - '0'.toNat)
  else if 'a' ≤ c ∧ c ≤ 'f' then some (c.toNat - 'a'.toNat + 10)
  else if 'A' ≤ c ∧ c ≤ 'F' then some (c.toNat - 'A'.toNat + 10)
  else none

end ModuleGraph.Text
