import ModuleGraph.Text.Blank
import ModuleGraph.Text.Digit

/-!
# Whole numbers in free text

A whole number may be written with the decimal digits of any script, a sign, single underscores
between digits and white space around it. Numerals of more than 4300 digits are refused.

## Main definitions

- `digitValues?` — the digits of an unsigned numeral
- `wholeNumber?` — the number that a text denotes
-/

namespace ModuleGraph.Text

/-- The longest numeral that is read, in digits. -/
def maxNumeralDigits : Nat := 4300

/-- White space that may surround a numeral: all but the information separators. -/
def isNumeralMargin (c : Char) : Bool :=
  isBlank c && !(0x1C ≤ c.toNat && c.toNat ≤ 0x1F)

/-- The digit values of an unsigned numeral. -/
def digitValues? : Bool → Text → Option (List Nat)
  | afterDigit, [] => if afterDigit then some [] else none
  | afterDigit, symbol :: rest =>
    if symbol = '_' then
      -- underscores are allowed singly, and only between two digits
      if afterDigit then digitValues? false rest else none
    else do
      let value ← decimalValue? (← symbol.char?)
      let values ← digitValues? true rest
      return value :: values

/-- The number with the given decimal digits, the most significant first. -/
def ofDigitValues (values : List Nat) : Nat :=
  values.foldl (fun n value => 10 * n + value) 0

/-- The number that an unsigned numeral denotes. -/
def naturalNumber? (text : Text) : Option Nat := do
  let values ← digitValues? false text
  guard (values.length ≤ maxNumeralDigits)
  return ofDigitValues values

/-- The whole number that a text denotes. -/
def wholeNumber? (text : Text) : Option Int :=
  match trimWhere isNumeralMargin text with
  | .char '-' :: numeral => (naturalNumber? numeral).map fun n => -(n : Int)
  | .char '+' :: numeral => (naturalNumber? numeral).map Int.ofNat
  | numeral => (naturalNumber? numeral).map Int.ofNat

end ModuleGraph.Text
