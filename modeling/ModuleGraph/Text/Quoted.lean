import ModuleGraph.Text.Basic
import ModuleGraph.Text.Hex
import ModuleGraph.Text.Printable

/-!
# Quoted texts in messages

A text that a message repeats stands between single quotes, or between double quotes if it holds a
single quote and no double one. The quote in use and the backslash are escaped, and so is every
character that cannot be printed.

## Main definitions

- `quoteMark` — the quote that encloses a text
- `quotedSymbol` — the quoted form of one symbol
- `quoted` — the quoted form of a text
-/

namespace ModuleGraph.Text

/-- The quote that encloses a text. -/
def quoteMark (text : Text) : Char :=
  if text.contains '\x27' && !text.contains '\x22' then '\x22' else '\x27'

/-- A code point by its number, in the shortest of the three forms that hold it. -/
def numberedCode (n : Nat) : String :=
  if n < 0x100 then "\\x" ++ hex 2 n
  else if n < 0x10000 then "\\u" ++ hex 4 n
  else "\\U" ++ hex 8 n

/-- The quoted form of one character between quotes `mark`. -/
def quotedChar (mark c : Char) : String :=
  if c = mark ∨ c = '\\' then String.ofList ['\\', c]
  else if c = '\t' then "\\t"
  else if c = '\n' then "\\n"
  else if c = '\r' then "\\r"
  else if isPrintable c then c.toString
  else numberedCode c.toNat

/-- The quoted form of one symbol between quotes `mark`; a half cannot be printed. -/
def quotedSymbol (mark : Char) : Symbol → String
  | .char c => quotedChar mark c
  | .half index => numberedCode (Symbol.half index).code

def quoted (text : Text) : String :=
  let mark := quoteMark text
  mark.toString ++ String.join (text.map (quotedSymbol mark)) ++ mark.toString

end ModuleGraph.Text
