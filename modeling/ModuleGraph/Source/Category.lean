import ModuleGraph.Schedule.Basic
import ModuleGraph.Source.Literal
import ModuleGraph.Source.Script
import ModuleGraph.Text.Case

/-!
# Categories of instructions

The kind of a node chooses what its instruction does. Every category checks the authority and leaves
a message, except that the start of a program checks nothing; a validator checks the authority of
each bound account as well.

## Main definitions

- `Category` — the categories
- `Category.ofName` — the category that a name denotes
- `Category.logic` — the body of an instruction
- `accountUpdate` — what an instruction does to a bound account
-/

namespace ModuleGraph.Source

variable {L : Type}

/-- What an instruction does. -/
inductive Category where
  | token
  | nft
  | defi
  | governance
  | validator
  | start
  | custom
  deriving DecidableEq, Repr

namespace Category

/-- The categories that have a name. -/
def named : List (Text × Category) :=
  [("token", token), ("nft", nft), ("defi", defi), ("governance", governance),
    ("validator", validator), ("start", start)]

/-- The category that a name denotes, in whatever case. -/
def ofName (name : Text) : Category := (named.lookup name.lower).getD custom

def comment : Category → String
  | token => "Token operation logic"
  | nft => "NFT operation logic"
  | defi => "DeFi operation logic"
  | governance => "Governance operation logic"
  | validator => "Validation logic"
  | start => "Program entry point"
  | custom => "Custom instruction logic"

def message : Category → String
  | token => "Processing token operation"
  | nft => "Processing NFT operation"
  | defi => "Processing DeFi operation"
  | governance => "Processing governance operation"
  | validator => "Processing validation"
  | start => "Program start"
  | custom => "Processing custom operation"

/-- The line that leaves the message. -/
def messageLine (category : Category) : Step :=
  .line ("msg!(\"" ++ category.message ++ "\");")

/-- The check that the caller is authorised. -/
def authorityCheck : Step :=
  .line "require!(ctx.accounts.authority.key() != Pubkey::default(), ErrorCode::Unauthorized);"

/-- The check that the caller has authority over an account. -/
def accountCheck (account : BoundAccount L) : Step :=
  .line ("require!(ctx.accounts." ++ account.fieldName ++
    ".authority == ctx.accounts.authority.key(), ErrorCode::Unauthorized);")

/-- The body of an instruction with the given bound accounts. -/
def logic (category : Category) (accounts : List (BoundAccount L)) : Script :=
  match category with
  | start => [.comment category.comment, category.messageLine]
  | validator =>
    [.comment category.comment, authorityCheck, category.messageLine] ++ accounts.map accountCheck
  | _ => [.comment category.comment, authorityCheck, category.messageLine]

end Category

/-- What an instruction does to a bound account. -/
def accountUpdate (account : BoundAccount L) : Script :=
  [.line ("ctx.accounts." ++ account.fieldName ++ ".data += 1;"),
    .line ("msg!(\"Updated " ++ formatLiteral account.typeName ++ " data\");")]

end ModuleGraph.Source
