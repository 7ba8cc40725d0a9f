import ModuleGraph.Json.Value
import ModuleGraph.Text.Hex
import ModuleGraph.Text.Numeral

/-!
# JSON tokens

A text is cut into tokens from left to right, each with its offset in symbols. Symbols that begin
no token are tokens of their own (`stray`), so that the reader can say what it expected there.
A malformed string ends the cutting.

## Main definitions

- `Problem` — what can be wrong with a JSON text, and its wording
- `Token`, `Lexeme` — a token, and a token with its offset
- `scanString`, `scanNumber`, `tokenAt` — the token at the head of a text, with its length
- `tokenize` — the tokens of a text
-/

namespace ModuleGraph.Json

/-- What can be wrong with a JSON text at some place. -/
inductive Problem where
  | expectedValue
  | expectedKey
  | expectedColon
  | expectedComma
  | extraData
  | unterminatedString
  | controlCharacter
  | badEscape
  | badCodeEscape
  | byteOrderMark
  deriving DecidableEq, Repr

def Problem.message : Problem → String
  | expectedValue => "Expecting value"
  | expectedKey => "Expecting property name enclosed in double quotes"
  | expectedColon => "Expecting ':' delimiter"
  | expectedComma => "Expecting ',' delimiter"
  | extraData => "Extra data"
  | unterminatedString => "Unterminated string starting at"
  | controlCharacter => "Invalid control character at"
  | badEscape => "Invalid \\escape"
  | badCodeEscape => "Invalid \\uXXXX escape"
  | byteOrderMark => "Unexpected UTF-8 BOM (decode using utf-8-sig)"

/-- A token of a JSON text. -/
inductive Token where
  | openBrace
  | closeBrace
  | openBracket
  | closeBracket
  | colon
  | comma
  | text (value : Text)
  | scalar (value : Json)
  /-- A whole number with more digits than are read. -/
  | endless (digits : Nat)
  /-- A string with a problem at the given offset. -/
  | broken (problem : Problem) (offset : Nat)
  /-- A symbol that begins no token. -/
  | stray
  deriving Repr

/-- A token and the offset of its first symbol. -/
structure Lexeme where
  token : Token
  offset : Nat
  deriving Repr

/-! ### Strings -/

/-- How a string that has been opened goes on. -/
inductive StringScan where
  /-- The string is closed; its token has the given length. -/
  | closed (text : Text) (length : Nat)
  | broken (problem : Problem) (offset : Nat)

/-- The character that a short escape stands for. -/
def escapedChar? (symbol : Symbol) : Option Char := do
  let c ← symbol.char?
  if c = '\x22' ∨ c = '\\' ∨ c = '/' then some c
  else if c = 'b' then some '\x08'
  else if c = 'f' then some '\x0C'
  else if c = 'n' then some '\n'
  else if c = 'r' then some '\r'
  else if c = 't' then some '\t'
  else none

/-- The value of a hexadecimal digit. -/
def digitValue? (symbol : Symbol) : Option Nat := symbol.char?.bind Text.hexValue?

/-- The code unit that four hexadecimal digits denote. -/
def codeUnit? (a b c d : Symbol) : Option Nat := do
  let a ← digitValue? a
  let b ← digitValue? b
  let c ← digitValue? c
  let d ← digitValue? d
  return 4096 * a + 256 * b + 16 * c + d

/-- The symbols read, latest first, after an escape by number. If the flag is set the latest was
such an escape too, and two halves that follow one another so are one character. -/
def addUnit (afterEscape : Bool) (done : Text) (unit : Nat) : Text :=
  let symbol := Symbol.ofUnit unit
  match afterEscape, done with
  | true, previous :: earlier =>
    match Symbol.ofHalves? previous symbol with
    | some c => c :: earlier
    | none => symbol :: done
  | _, done => symbol :: done

/-- Scans a string after its opening quote, which stands at offset `start`. The flag tells whether
an escape by number has just been read, the symbols read so far come latest first, and `offset` is
where the remaining text begins. An escape by number is complete only if the text goes on after
it. -/
def scanString (start offset : Nat) (afterEscape : Bool) (done : Text) : Text → StringScan
  | [] => .broken .unterminatedString start
  | symbol :: rest =>
    if symbol = '\x22' then
      .closed done.reverse (offset + 1 - start)
    else if symbol.code < 0x20 then
      .broken .controlCharacter offset
    else if symbol = '\\' then
      match rest with
      | [] => .broken .unterminatedString start
      | mark :: rest =>
        if mark = 'u' then
          match rest with
          | p :: q :: r :: s :: next :: rest =>
            match codeUnit? p q r s with
            | some unit =>
              scanString start (offset + 6) true (addUnit afterEscape done unit) (next :: rest)
            | none => .broken .badCodeEscape (offset + 1)
          | _ => .broken .badCodeEscape (offset + 1)
        else
          match escapedChar? mark with
          | some escaped => scanString start (offset + 2) false (escaped :: done) rest
          | none => .broken .badEscape offset
    else
      scanString start (offset + 1) false (symbol :: done) rest

/-! ### Numbers -/

def isNumberDigit (c : Char) : Bool := '0' ≤ c && c ≤ '9'

def isNumberChar (c : Char) : Bool :=
  isNumberDigit c || c = '+' || c = '-' || c = '.' || c = 'e' || c = 'E'

/-- The characters at the head of a text that may stand in a number. -/
def numberChars (text : Text) : List Char :=
  (text.takeWhile (·.satisfies isNumberChar)).filterMap Symbol.char?

/-- The digits at the head of a list of characters. -/
def leadingDigits (cs : List Char) : List Char := cs.takeWhile isNumberDigit

/-- The integer part at the head of a list of characters: a zero alone, or digits that begin with
another. -/
def integerPart? : List Char → Option (List Char)
  | '0' :: _ => some ['0']
  | cs => if (leadingDigits cs).isEmpty then none else some (leadingDigits cs)

/-- The fraction at the head of a list of characters, if digits follow its point. -/
def fractionPart : List Char → List Char
  | '.' :: cs => if (leadingDigits cs).isEmpty then [] else '.' :: leadingDigits cs
  | _ => []

/-- The exponent at the head of a list of characters, if digits follow its mark and sign. -/
def exponentPart : List Char → List Char
  | e :: cs =>
    if e = 'e' ∨ e = 'E' then
      match cs with
      | sign :: digits =>
        if sign = '+' ∨ sign = '-' then
          if (leadingDigits digits).isEmpty then [] else e :: sign :: leadingDigits digits
        else
          if (leadingDigits cs).isEmpty then [] else e :: leadingDigits cs
      | [] => []
    else
      []
  | [] => []

/-- The token of the number at the head of a list of characters, with its length. Only whole numbers
are limited in their digits. -/
def scanNumber (cs : List Char) : Option (Token × Nat) :=
  let (sign, unsigned) := match cs with
    | '-' :: rest => (['-'], rest)
    | _ => ([], cs)
  match integerPart? unsigned with
  | none => none
  | some whole =>
    let afterWhole := unsigned.drop whole.length
    let fraction := fractionPart afterWhole
    let exponent := exponentPart (afterWhole.drop fraction.length)
    let spelling := sign ++ whole ++ fraction ++ exponent
    if fraction.isEmpty && exponent.isEmpty && whole.length > Text.maxNumeralDigits then
      some (.endless whole.length, spelling.length)
    else
      some (.scalar (.number (String.ofList spelling)), spelling.length)

/-! ### Tokens -/

/-- The constants of the format, with the three that stand for numbers without digits. -/
def constants : List (String × Json) :=
  [("null", .null), ("true", .bool true), ("false", .bool false), ("NaN", .number "NaN"),
    ("Infinity", .number "Infinity"), ("-Infinity", .number "-Infinity")]

/-- The constant at the head of a text, with its length. -/
def scanConstant (text : Text) : Option (Token × Nat) :=
  (constants.find? fun (name, _) => (Text.ofString name).isPrefixOf text).map
    fun (name, value) => (.scalar value, name.length)

/-- The token that a character forms alone. -/
def punctuation? (symbol : Symbol) : Option Token :=
  if symbol = '\x7b' then some .openBrace
  else if symbol = '\x7d' then some .closeBrace
  else if symbol = '[' then some .openBracket
  else if symbol = ']' then some .closeBracket
  else if symbol = ':' then some .colon
  else if symbol = ',' then some .comma
  else none

/-- The token at the head of a text that stands at `offset`, with its length. -/
def tokenAt (offset : Nat) (symbol : Symbol) (rest : Text) : Token × Nat :=
  if symbol = '\x22' then
    match scanString offset (offset + 1) false [] rest with
    | .closed text length => (.text text, length)
    | .broken problem place => (.broken problem place, 1)
  else
    match punctuation? symbol with
    | some token => (token, 1)
    | none =>
      match scanConstant (symbol :: rest) with
      | some found => found
      | none => (scanNumber (numberChars (symbol :: rest))).getD (.stray, 1)

/-- Whether a character separates tokens. -/
def isSpace (c : Char) : Bool := c = ' ' || c = '\t' || c = '\n' || c = '\r'

/-- The tokens of a text whose first symbol stands at `offset`, where the first `skip` symbols
belong to a token already cut. -/
def tokenize (skip offset : Nat) : Text → List Lexeme
  | [] => []
  | symbol :: rest =>
    match skip with
    | skip + 1 => tokenize skip (offset + 1) rest
    | 0 =>
      if symbol.satisfies isSpace then
        tokenize 0 (offset + 1) rest
      else
        match tokenAt offset symbol rest with
        | (.broken problem place, _) => [⟨.broken problem place, offset⟩]
        | (token, length) => ⟨token, offset⟩ :: tokenize (length - 1) (offset + 1) rest

end ModuleGraph.Json
