import ModuleGraph.Json.Value
import ModuleGraph.Text.Hex

/-!
# Printing JSON

Values are printed over several lines, two spaces deeper for each array or object around them, in
ASCII alone: other characters are escaped as their UTF-16 code units.

## Main definitions

- `escapedText` — the printed form of a string
- `printLines` — the lines of a printed value
- `pretty` — the printed form of a value
-/

namespace ModuleGraph.Json

/-- A code unit as an escape. -/
def unitEscape (unit : Nat) : String := "\\u" ++ Text.hex 4 unit

/-- The printed form of one character of a string. -/
def escapedChar (c : Char) : String :=
  let n := c.toNat
  if c = '\x22' then "\\\""
  else if c = '\\' then "\\\\"
  else if c = '\n' then "\\n"
  else if c = '\r' then "\\r"
  else if c = '\t' then "\\t"
  else if c = '\x08' then "\\b"
  else if c = '\x0C' then "\\f"
  else if 0x20 ≤ n ∧ n ≤ 0x7E then c.toString
  else if n < 0x10000 then unitEscape n
  else unitEscape (0xD800 + (n - 0x10000) / 0x400) ++ unitEscape (0xDC00 + (n - 0x10000) % 0x400)

def escapedSymbol : Symbol → String
  | .char c => escapedChar c
  | .half index => unitEscape (Symbol.half index).code

/-- The printed form of a string. -/
def escapedText (text : Text) : String :=
  "\"" ++ String.join (text.map escapedSymbol) ++ "\""

/-- The given text before the first line. -/
def prependFirst (text : String) : List String → List String
  | [] => [text]
  | line :: lines => (text ++ line) :: lines

/-- The given text after the last line. -/
def appendLast (text : String) : List String → List String
  | [] => [text]
  | [line] => [line ++ text]
  | line :: lines => line :: appendLast text lines

/-- Lines two spaces further in. -/
def indentLines (lines : List String) : List String := lines.map ("  " ++ ·)

mutual

/-- The lines of a printed value. -/
def printLines : Json → List String
  | null => ["null"]
  | bool value => [if value then "true" else "false"]
  | number spelling => [spelling]
  | string text => [escapedText text]
  | array [] => ["[]"]
  | array items => "[" :: indentLines (printItems items) ++ ["]"]
  | object [] => ["\x7b\x7d"]
  | object members => "\x7b" :: indentLines (printMembers members) ++ ["\x7d"]

def printItems : List Json → List String
  | [] => []
  | [item] => printLines item
  | item :: items => appendLast "," (printLines item) ++ printItems items

def printMembers : List (Text × Json) → List String
  | [] => []
  | [(key, value)] => prependFirst (escapedText key ++ ": ") (printLines value)
  | (key, value) :: members =>
    appendLast "," (prependFirst (escapedText key ++ ": ") (printLines value)) ++
      printMembers members

end

/-- The printed form of a value, without a final line end. -/
def pretty (value : Json) : String := "\n".intercalate (printLines value)

end ModuleGraph.Json
