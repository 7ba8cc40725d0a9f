import ModuleGraph.Text.Basic
import ModuleGraph.Text.Case.Mapping
import ModuleGraph.Text.Case.Context

/-!
# Upper and lower case

The full case mappings of the character database: a character may become several, and a capital
sigma becomes its final form at the end of a word.

## Main definitions

- `lowerChar`, `upperChar` — the image of one character, without regard to its neighbours
- `lowerAfter` — the lower-case form of a text, with regard to what stands before it
- `lower`, `upper` — the lower-case and upper-case form of a text
-/

namespace ModuleGraph.Text

/-- The image of a character outside ASCII under a mapping given by expansions and runs; a character
that neither lists is its own image. -/
def caseImage (expansions : List (Nat × List Nat)) (runs : List CaseRun) (c : Char) : List Char :=
  match expansions.lookup c.toNat with
  | some image => image.map Char.ofNat
  | none =>
    match runs.findSome? fun run => run.image? c.toNat with
    | some code => [Char.ofNat code]
    | none => [c]

/-- The lower-case image of a character. -/
def lowerChar (c : Char) : List Char :=
  if c.toNat < 0x80 then [c.toLower] else caseImage lowerExpansions lowerRuns c

/-- The upper-case image of a character. -/
def upperChar (c : Char) : List Char :=
  if c.toNat < 0x80 then [c.toUpper] else caseImage upperExpansions upperRuns c

/-- The lower-case image of a symbol; a half has no case. -/
def lowerSymbol : Symbol → Text
  | .char c => ofChars (lowerChar c)
  | .half index => [.half index]

/-- The upper-case image of a symbol; a half has no case. -/
def upperSymbol : Symbol → Text
  | .char c => ofChars (upperChar c)
  | .half index => [.half index]

/-- Whether the first symbol that is not looked through has a case. -/
def startsCased (text : Text) : Bool :=
  match text.dropWhile (·.satisfies isCaseIgnorable) with
  | symbol :: _ => symbol.satisfies isCased
  | [] => false

/-- The lower-case form of a capital sigma, at the end of a word or elsewhere. -/
def lowerSigma (final : Bool) : Symbol := if final then '\u03C2' else '\u03C3'

/-- The lower-case form of a text. -/
def lowerAfter : Bool → Text → Text
  | _, [] => []
  | afterCased, symbol :: rest =>
    -- a capital sigma is final after a letter that has a case and before none
    (if symbol = '\u03A3' then [lowerSigma (afterCased && !startsCased rest)]
      else lowerSymbol symbol) ++
      lowerAfter
        (if symbol.satisfies isCaseIgnorable then afterCased else symbol.satisfies isCased) rest

def lower (text : Text) : Text := lowerAfter false text

def upper (text : Text) : Text := text.flatMap upperSymbol

end ModuleGraph.Text
