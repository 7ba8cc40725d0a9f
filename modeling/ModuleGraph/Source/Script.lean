import ModuleGraph.Text.Basic

/-!
# Scripts for indented text

A source file is described by a script: lines of text, and steps that move the indentation. Running
a script yields the lines of the file.

## Main definitions

- `Step` — one step of a script
- `Style` — the unit of indentation and the mark of comments
- `Page` — the lines written so far and the indentation
- `Page.run` — the page after a script
- `Page.text` — the text of a page
- `Script.join` — scripts one after the other
- `block` — a script within braces, one step further in
-/

namespace ModuleGraph.Source

/-- One step of a script. -/
inductive Step where
  /-- Writes a line; an empty one is not indented. -/
  | line (text : Text)
  /-- Writes a comment of one line. -/
  | comment (text : Text)
  /-- Moves the following lines in. -/
  | push
  /-- Moves the following lines out, though not beyond the margin. -/
  | pop
  deriving DecidableEq, Repr

/-- The steps of a file or of a part of one. -/
abbrev Script := List Step

/-- Scripts one after the other. -/
def Script.join (scripts : List Script) : Script := scripts.flatten

/-- The step that writes an empty line. -/
def Step.blank : Step := .line ""

/-- The unit of indentation and the mark of comments. -/
structure Style where
  unit : Text
  commentMark : Text
  deriving DecidableEq, Repr

/-- Four spaces and two slashes. -/
def Style.standard : Style := ⟨"    ", "//"⟩

/-- Two spaces and two slashes. -/
def Style.narrow : Style := { Style.standard with unit := "  " }

/-- The lines written so far, latest first, and the depth of the indentation. A depth below the
margin indents by nothing. -/
structure Page where
  written : List Text
  depth : Int
  deriving DecidableEq, Repr

/-- The same text several times over. -/
def repeated (text : Text) (times : Nat) : Text := (List.replicate times text).flatten

namespace Page

/-- A page without lines. -/
def start (depth : Int) : Page := ⟨[], depth⟩

/-- The line as it stands at the given depth. -/
def indented (style : Style) (depth : Int) (text : Text) : Text :=
  if text.isEmpty then text else repeated style.unit depth.toNat ++ text

/-- The page with one more line. -/
def write (style : Style) (page : Page) (text : Text) : Page :=
  { page with written := indented style page.depth text :: page.written }

def step (style : Style) (page : Page) : Step → Page
  | .line text => page.write style text
  | .comment text => page.write style (style.commentMark ++ " " ++ text)
  | .push => { page with depth := page.depth + 1 }
  | .pop => { page with depth := max 0 (page.depth - 1) }

def run (style : Style) (page : Page) (script : Script) : Page :=
  script.foldl (step style) page

def lines (page : Page) : List Text := page.written.reverse

/-- The text of a page, which ends with a line end. -/
def text (page : Page) : Text := Text.join "\n" page.lines ++ "\n"

end Page

def Script.text (style : Style) (script : Script) : Text :=
  ((Page.start 0).run style script).text

/-- The steps of a script between an opening and a closing line, one step further in. -/
def block (opening : Text) (body : Script) (closing : Text) : Script :=
  .join [[.line opening, .push], body, [.pop, .line closing]]

end ModuleGraph.Source
