import ModuleGraph.Text.Hex

/-!
# Fresh identifiers

Identifiers are handed out by a supply that counts them. An identifier once handed out is never
handed out again, whatever becomes of what it was meant for.

## Main definitions

- `IdSupply` — the number of identifiers handed out
- `IdSupply.id` — the identifier with a given number
- `IdSupply.next`, `IdSupply.take` — the identifier to be handed out next, and handing it out
-/

namespace ModuleGraph

/-- The number of identifiers handed out. -/
structure IdSupply where
  taken : Nat
  deriving DecidableEq, Repr

namespace IdSupply

/-- Nothing has been handed out. -/
def start : IdSupply := ⟨0⟩

/-- The identifier with a given number: the number in at least thirty-two hexadecimal digits. -/
def id (number : Nat) : String := Text.hex 32 number

def next (supply : IdSupply) : String := id (supply.taken + 1)

/-- The supply after so many identifiers have been handed out. -/
def advance (supply : IdSupply) (count : Nat) : IdSupply := ⟨supply.taken + count⟩

/-- One more identifier. -/
def take (supply : IdSupply) : String × IdSupply := (supply.next, supply.advance 1)

end IdSupply

end ModuleGraph
