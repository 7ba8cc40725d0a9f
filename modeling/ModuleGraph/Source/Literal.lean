import ModuleGraph.Text.Basic

/-!
# Texts inside string literals

Free text is escaped before it enters a string literal of the generated code. In Rust the literal is
also a format string, so braces are doubled.

## Main definitions

- `literalSymbol`, `literal` — the content of a string literal that denotes a text
- `formatSymbol`, `formatLiteral` — the content of a literal that denotes a format string, which in
  turn denotes a text
-/

namespace ModuleGraph.Source

/-- A symbol inside a string literal. -/
def literalSymbol (symbol : Symbol) : Text :=
  if symbol = '\\' then ['\\', '\\']
  else if symbol = '\x22' then ['\\', '\x22']
  else if symbol = '\n' then ['\\', 'n']
  else if symbol = '\r' then ['\\', 'r']
  else [symbol]

/-- The content of a string literal that denotes the text. -/
def literal (text : Text) : Text := text.flatMap literalSymbol

/-- A symbol inside a literal that is a format string. -/
def formatSymbol (symbol : Symbol) : Text :=
  if symbol = '\x7b' ∨ symbol = '\x7d' then [symbol, symbol] else literalSymbol symbol

/-- The content of a string literal that denotes a format string for the text. -/
def formatLiteral (text : Text) : Text := text.flatMap formatSymbol

end ModuleGraph.Source
