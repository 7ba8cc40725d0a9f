import ModuleGraph.Text.Basic

/-!
# Line ends

## Main definitions

- `unifyLineEnds` — a text whose lines all end with a line feed
- `lineColumn` — the line and the column of a position in a text
-/

namespace ModuleGraph.Text

/-- A carriage return, alone or before a line feed, becomes a line feed. -/
def unifyLineEnds : Text → Text
  | .char '\r' :: .char '\n' :: rest => '\n' :: unifyLineEnds rest
  | .char '\r' :: rest => '\n' :: unifyLineEnds rest
  | symbol :: rest => symbol :: unifyLineEnds rest
  | [] => []

/-- The line and the column, both counted from one, after the given text. -/
def lineColumn (before : Text) : Nat × Nat :=
  before.foldl
    (fun (line, column) (symbol : Symbol) =>
      if symbol = '\n' then (line + 1, 1) else (line, column + 1))
    (1, 1)

end ModuleGraph.Text
