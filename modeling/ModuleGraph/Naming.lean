import ModuleGraph.Text.Blank
import ModuleGraph.Text.Case
import ModuleGraph.Text.Digit

/-!
# Names in generated code

The names of nodes are free text. Names in generated code are made from them: `snake_case` for
modules and functions, the letters and digits in their own case for types, and the two camel cases
of the test suite for names made from module names.

## Main definitions

- `moduleName` — the name of a module, function or program; empty if the text has no usable letter
- `typeName` — the name of a type; empty likewise
- `pascalCase`, `camelCase` — the camel cases of a snake-case name
- `suffixed`, `freeSuffix` — a name with a number, and the least number that makes it new
-/

namespace ModuleGraph.Naming

def isAsciiDigit (c : Char) : Bool := '0' ≤ c && c ≤ '9'

/-- Whether a character may stand in the name of a module. -/
def isModuleChar (c : Char) : Bool := ('a' ≤ c && c ≤ 'z') || isAsciiDigit c || c = '_'

/-- Whether a character may stand in the name of a type. -/
def isTypeChar (c : Char) : Bool := isModuleChar c || ('A' ≤ c && c ≤ 'Z')

/-- An identifier cannot begin with a digit: an underscore is put before one that does. -/
def guardDigit : List Char → List Char
  | c :: cs => if isAsciiDigit c then '_' :: c :: cs else c :: cs
  | [] => []

/-- The characters of a text that satisfy `p`. -/
def charsWhere (p : Char → Bool) (text : Text) : List Char :=
  (text.filterMap Symbol.char?).filter p

/-- The characters of the name of a module: lower case, an underscore for each run of white space,
and nothing else but what may stand in such a name. -/
def moduleChars (name : Text) : List Char :=
  guardDigit (charsWhere isModuleChar (Text.joinWords '_' false name.lower))

/-- The name of a module, function or program. -/
def moduleName (name : Text) : String := String.ofList (moduleChars name)

/-- The characters of the name of a type: those that may stand in such a name. -/
def typeChars (name : Text) : List Char := guardDigit (charsWhere isTypeChar name)

def typeName (name : Text) : String := String.ofList (typeChars name)

/-- A name, or another in its place if it is empty. -/
def orElse (name fallback : String) : String := if name = "" then fallback else name

/-! ### Camel case -/

/-- The characters without underscores, where each that begins a part is in upper case. The flag
tells whether the next character begins one. -/
def pascalChars : Bool → List Char → List Char
  | _, [] => []
  | atStart, c :: cs =>
    if c = '_' then pascalChars true cs
    else (if atStart then Text.upperChar c else [c]) ++ pascalChars false cs

/-- `my_program` becomes `MyProgram`. -/
def pascalCase (snake : String) : String := String.ofList (pascalChars true snake.toList)

/-- `token_transfer` becomes `tokenTransfer`; a name that would begin with a digit is put behind an
underscore. -/
def camelCase (snake : String) : String :=
  match pascalChars true snake.toList with
  | [] => ""
  | c :: cs => String.ofList (if Text.isDigit c then '_' :: c :: cs else Text.lowerChar c ++ cs)

/-! ### Suffixes -/

/-- A name with a number behind it. -/
def suffixed (base : String) (number : Nat) : String := base ++ "_" ++ toString number

/-- The least number from `number` on, among the next `tries`, that makes the name new. -/
def freeSuffixFrom (used : List String) (base : String) : (tries number : Nat) → Nat
  | 0, number => number
  | tries + 1, number =>
    if used.contains (suffixed base number) then freeSuffixFrom used base tries (number + 1)
    else number

/-- The least number from two on that makes the name new. -/
def freeSuffix (used : List String) (base : String) : Nat :=
  -- as many tries as there are names in use are enough, since those tried are all different
  freeSuffixFrom used base used.length 2

end ModuleGraph.Naming
