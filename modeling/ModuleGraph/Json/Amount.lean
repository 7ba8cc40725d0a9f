import ModuleGraph.Json.Value

/-!
# The amounts of numbers

A number keeps its spelling, but two spellings may denote one amount. An amount is given by its
digits, without zeros at either end, and the power of ten of the last of them.

A number that is spelled with a point or an exponent stands for the number of double precision that
is nearest to it. Such a number has the fewest digits that tell it from its neighbours, so that the
digits are exact only as far as whole numbers are; from there on they are rounded.

## Main definitions

- `Amount`, `Amount.ofSpelling?` — an amount, and that of a spelling
- `roundBinary`, `Amount.ofNumber?` — the nearest number of double precision, and the amount that a
  number stands for
- `Json.isUnbounded` — the number is beyond every finite number of double precision, or no number
- `Json.holdsUnbounded` — a value holds such a number
-/

namespace ModuleGraph

/-- An amount: a sign, digits without zeros at either end, and the power of ten of the last digit.
Zero is positive and has no digits. -/
structure Amount where
  negative : Bool
  digits : List Char
  exponent : Int
  deriving DecidableEq, Repr

namespace Amount

def zero : Amount := ⟨false, [], 0⟩

def one : Amount := ⟨false, ['1'], 0⟩

/-- The number that decimal digits denote. -/
def natural (digits : List Char) : Nat :=
  digits.foldl (fun n digit => 10 * n + (digit.toNat - '0'.toNat)) 0

/-- The amount of digits before and after a point, and an exponent. -/
def ofParts (negative : Bool) (whole fraction : List Char) (exponent : Int) : Amount :=
  let digits := (whole ++ fraction).dropWhile (· = '0')
  let significant := (digits.reverse.dropWhile (· = '0')).reverse
  if significant.isEmpty then zero
  else ⟨negative, significant, exponent - fraction.length + (digits.length - significant.length)⟩

/-- The exponent that a spelling ends with, after its mark. -/
def exponentOf : List Char → Int
  | _ :: '-' :: digits => -natural digits
  | _ :: '+' :: digits => natural digits
  | _ :: digits => natural digits
  | [] => 0

/-- The amount that a spelling denotes; the names of unbounded numbers denote none. -/
def ofSpelling? (spelling : String) : Option Amount :=
  let (negative, unsigned) := match spelling.toList with
    | '-' :: cs => (true, cs)
    | cs => (false, cs)
  let whole := unsigned.takeWhile Char.isDigit
  let (fraction, rest) := match unsigned.drop whole.length with
    | '.' :: cs => (cs.takeWhile Char.isDigit, cs.dropWhile Char.isDigit)
    | cs => ([], cs)
  if whole.isEmpty then none else some (ofParts negative whole fraction (exponentOf rest))

/-- An amount in one line. -/
def text (amount : Amount) : String :=
  (if amount.negative then "-" else "") ++ String.ofList amount.digits ++ "e" ++
    toString amount.exponent

/-- The least amount that no finite number of double precision comes near. -/
def leastUnbounded : Nat := Nat.pow 2 1024 - Nat.pow 2 970

/-- Whether an amount is beyond every finite number of double precision. -/
def isUnbounded (amount : Amount) : Bool :=
  let scale := amount.digits.length + amount.exponent
  -- the power of ten of the first digit decides, except about the limit itself
  if scale < 308 then false
  else if 310 < scale then true
  else
    leastUnbounded * Nat.pow 10 (-amount.exponent).toNat ≤
      natural amount.digits * Nat.pow 10 amount.exponent.toNat

end Amount

/-! ### Double precision -/

/-- Whether the spelling of a number is that of a whole number, which has no bounds. -/
def Json.isWhole (spelling : String) : Bool :=
  spelling.toList.all fun c => c.isDigit || c = '-'

/-- The nearest whole number with at most 53 binary digits before its zeros; of two that are equally
near, the one whose last digit is zero. -/
def roundBinary (n : Nat) : Nat :=
  let unit := Nat.pow 2 (n.log2 - 52)
  let (quotient, excess) := (n / unit, n % unit)
  if unit < 2 * excess ∨ 2 * excess = unit ∧ quotient % 2 = 1 then (quotient + 1) * unit
  else quotient * unit

namespace Amount

/-- The amount in double precision. Only whole amounts are beyond its digits. -/
def rounded (amount : Amount) : Amount :=
  if amount.exponent < 0 ∨ amount.isUnbounded then amount
  else
    let exact := natural amount.digits * Nat.pow 10 amount.exponent.toNat
    ofParts amount.negative (Nat.toDigits 10 (roundBinary exact)) [] 0

/-- The amount that a number stands for. -/
def ofNumber? (spelling : String) : Option Amount :=
  if Json.isWhole spelling then ofSpelling? spelling else (ofSpelling? spelling).map rounded

end Amount

namespace Json

/-- Whether a number is beyond every finite number of double precision, or no number at all. -/
def isUnbounded (spelling : String) : Bool :=
  !isWhole spelling &&
    match Amount.ofSpelling? spelling with
    | some amount => amount.isUnbounded
    | none => true

mutual

/-- Whether a value holds an unbounded number. -/
def holdsUnbounded : Json → Bool
  | number spelling => isUnbounded spelling
  | array items => anyHoldsUnbounded items
  | object members => anyMemberHoldsUnbounded members
  | _ => false

def anyHoldsUnbounded : List Json → Bool
  | [] => false
  | item :: items => item.holdsUnbounded || anyHoldsUnbounded items

def anyMemberHoldsUnbounded : List (Text × Json) → Bool
  | [] => false
  | (_, value) :: members => value.holdsUnbounded || anyMemberHoldsUnbounded members

end

end Json

end ModuleGraph
