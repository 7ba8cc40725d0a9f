import ModuleGraph.Json.Token
import ModuleGraph.Text.Lines

/-!
# Reading JSON

The reader consumes the tokens of a text one by one. What it has read of the arrays and objects that
are still open waits on a stack, whose height is limited: a reader says how deeply values may be
nested.

## Main definitions

- `OpenPart` — an array or object that is still open
- `Expectation` — what may come next
- `readTokens` — the value that a list of tokens denotes
- `ReadError`, `ReadError.message` — why a text is not JSON
- `parse`, `parseUnmarked` — the value that a text denotes, and the same without byte order marks
-/

namespace ModuleGraph.Json

/-- An array or object that is still open; its parts come latest first. -/
inductive OpenPart where
  | array (items : List Json)
  /-- An object between two members. -/
  | object (members : List (Text × Json))
  /-- An object one of whose keys waits for its value. -/
  | member (members : List (Text × Json)) (key : Text)

/-- What may come next. -/
inductive Expectation where
  /-- A value, or the end of the array just opened. -/
  | value (orClose : Bool)
  /-- A key, or the end of the object just opened. -/
  | key (orClose : Bool)
  | colon
  /-- A comma, or the end of the array or object. -/
  | separator
  /-- Nothing: the text denotes the value. -/
  | nothing (result : Json)

/-- A token is refused at an offset, a whole number has too many digits, or values are nested too
deeply. -/
inductive Refusal where
  | problem (problem : Problem) (offset : Nat)
  | endless (digits : Nat)
  | tooDeep

/-- The state after a complete value within the open parts. -/
def complete (value : Json) : List OpenPart → List OpenPart × Expectation
  | .array items :: rest => (.array (value :: items) :: rest, .separator)
  | .member members key :: rest => (.object ((key, value) :: members) :: rest, .separator)
  | stack => (stack, .nothing value)

/-- The state after one token, where at most `maxDepth` parts may be open. -/
def readToken (maxDepth : Nat) (stack : List OpenPart) (expected : Expectation) (lexeme : Lexeme) :
    Except Refusal (List OpenPart × Expectation) :=
  let refuse (problem : Problem) := .error (.problem problem lexeme.offset)
  let openPart (part : OpenPart) (expected : Expectation) :=
    if stack.length < maxDepth then .ok (part :: stack, expected) else .error .tooDeep
  match expected with
  | .value orClose =>
    match lexeme.token with
    | .scalar value => .ok (complete value stack)
    | .text value => .ok (complete (.string value) stack)
    | .openBracket => openPart (.array []) (.value true)
    | .openBrace => openPart (.object []) (.key true)
    | .broken problem offset => .error (.problem problem offset)
    | .endless digits => .error (.endless digits)
    | .closeBracket =>
      match orClose, stack with
      | true, .array items :: rest => .ok (complete (.array items.reverse) rest)
      | _, _ => refuse .expectedValue
    | _ => refuse .expectedValue
  | .key orClose =>
    match lexeme.token, stack with
    | .text key, .object members :: rest => .ok (.member members key :: rest, .colon)
    | .broken problem offset, _ => .error (.problem problem offset)
    | .closeBrace, .object members :: rest =>
      if orClose then .ok (complete (.object members.reverse) rest) else refuse .expectedKey
    | _, _ => refuse .expectedKey
  | .colon =>
    match lexeme.token with
    | .colon => .ok (stack, .value false)
    | _ => refuse .expectedColon
  | .separator =>
    match lexeme.token, stack with
    | .comma, .array _ :: _ => .ok (stack, .value false)
    | .comma, .object _ :: _ => .ok (stack, .key false)
    | .closeBracket, .array items :: rest => .ok (complete (.array items.reverse) rest)
    | .closeBrace, .object members :: rest => .ok (complete (.object members.reverse) rest)
    | _, _ => refuse .expectedComma
  | .nothing _ => refuse .extraData

/-- What the end of the text means, `length` symbols from its beginning. -/
def readEnd (length : Nat) : Expectation → Except Refusal Json
  | .nothing value => .ok value
  | .value _ => .error (.problem .expectedValue length)
  | .key _ => .error (.problem .expectedKey length)
  | .colon => .error (.problem .expectedColon length)
  | .separator => .error (.problem .expectedComma length)

/-- The value that the remaining tokens of a text of the given length complete. -/
def readTokens (maxDepth length : Nat) (stack : List OpenPart) (expected : Expectation) :
    List Lexeme → Except Refusal Json
  | [] => readEnd length expected
  | lexeme :: lexemes => do
    let (stack, expected) ← readToken maxDepth stack expected lexeme
    readTokens maxDepth length stack expected lexemes

/-! ### Texts -/

/-- Why a text denotes no JSON value. -/
inductive ReadError where
  | malformed (problem : Problem) (line column offset : Nat)
  | numeralTooLong (digits : Nat)
  | tooDeep
  deriving DecidableEq, Repr

def ReadError.message : ReadError → String
  | malformed problem line column offset =>
    s!"{problem.message}: line {line} column {column} (char {offset})"
  | numeralTooLong digits =>
    s!"Exceeds the limit ({Text.maxNumeralDigits} digits) for integer string conversion: value " ++
      s!"has {digits} digits; use sys.set_int_max_str_digits() to increase the limit"
  | tooDeep => "values are nested too deeply"

/-- A problem at an offset of a text, with its line and column. -/
def problemIn (text : Text) (problem : Problem) (offset : Nat) : ReadError :=
  let (line, column) := Text.lineColumn (text.take offset)
  .malformed problem line column offset

/-- The value that a text denotes, where values may be nested up to `maxDepth` times. -/
def parse (maxDepth : Nat) (text : Text) : Except ReadError Json :=
  match readTokens maxDepth text.length [] (.value false) (tokenize 0 0 text) with
  | .ok value => .ok value
  | .error (.problem problem offset) => .error (problemIn text problem offset)
  | .error (.endless digits) => .error (.numeralTooLong digits)
  | .error .tooDeep => .error .tooDeep

/-- The value that a text denotes, where a byte order mark is refused. -/
def parseUnmarked (maxDepth : Nat) (text : Text) : Except ReadError Json :=
  match text with
  | .char '\uFEFF' :: _ => .error (problemIn text .byteOrderMark 0)
  | _ => parse maxDepth text

end ModuleGraph.Json
