import ModuleGraph.Text.Basic

/-!
# Blank characters

White space is the set of twenty-nine characters that separate words: the ASCII controls from tab to
carriage return, the four information separators, the space, the next-line control and the space,
line and paragraph separators of the character database.

## Main definitions

- `isBlank` — the character is white space
- `trimBlanks` — a text without white space at either end
- `joinWords` — a text with every run of white space replaced by one character
-/

namespace ModuleGraph.Text

def isBlank (c : Char) : Bool :=
  let n := c.toNat
  (0x09 ≤ n && n ≤ 0x0D) || (0x1C ≤ n && n ≤ 0x20) || n == 0x85 || n == 0xA0 || n == 0x1680 ||
    (0x2000 ≤ n && n ≤ 0x200A) || n == 0x2028 || n == 0x2029 || n == 0x202F || n == 0x205F ||
    n == 0x3000

/-- A text without the characters at either end that satisfy `p`. -/
def trimWhere (p : Char → Bool) (text : Text) : Text :=
  ((text.dropWhile (·.satisfies p)).reverse.dropWhile (·.satisfies p)).reverse

/-- A text without white space at either end. -/
def trimBlanks (text : Text) : Text := trimWhere isBlank text

/-- Every run of white space becomes one `joint`. -/
def joinWords (joint : Symbol) : Bool → Text → Text
  | _, [] => []
  | inRun, symbol :: rest =>
    if symbol.satisfies isBlank then
      -- a run that goes on has its joint already
      if inRun then joinWords joint true rest else joint :: joinWords joint true rest
    else
      symbol :: joinWords joint false rest

end ModuleGraph.Text
