import ModuleGraph.Catalog.Basic

/-!
# Built-in templates

## Main definitions

- `builtIns` — the templates that every catalog begins with
-/

namespace ModuleGraph.Template

variable {L : Type} [Label L]

open Label (ofText)

def tokenMint : Template L where
  id := ofText "spl-token-mint"
  name := ofText "SPL Token Mint"
  category := ofText "Token"
  kind := ofText "token"
  description := ofText "Create and mint SPL tokens with configurable supply and decimals"
  inputs :=
    [.needed "Mint Authority" "account" "Account with authority to mint tokens",
      .needed "Token Account" "account" "Destination account for minted tokens"]
  outputs := [.needed "Mint Result" "instruction" "Result of the mint operation"]
  builtIn := true

/-- Mints a token that cannot be divided. -/
def nftMint : Template L where
  id := ofText "nft-mint"
  name := ofText "NFT Mint"
  category := ofText "NFT"
  kind := ofText "nft"
  description := ofText "Mint a non-fungible token with metadata"
  inputs :=
    [.needed "Creator" "account" "Creator and update authority",
      .needed "Metadata" "data" "Name, symbol and URI"]
  outputs := [.needed "NFT Mint" "nft" "The minted NFT"]
  builtIn := true

/-- An account at an address that the program derives. -/
def derivedAccount : Template L where
  id := ofText "pda-account"
  name := ofText "PDA Account"
  category := ofText "Core"
  kind := ofText accountKind
  description := ofText "Program derived address owned by the program"
  inputs := [.needed "Seeds" "data" "Seeds used to derive the address"]
  outputs := [.needed "PDA Address" "account" "The derived account"]
  builtIn := true

/-- A proposal to vote on. -/
def governanceProposal : Template L where
  id := ofText "governance-proposal"
  name := ofText "Governance Proposal"
  category := ofText "Governance"
  kind := ofText "governance"
  description := ofText "Create a proposal that token holders vote on"
  inputs :=
    [.needed "Proposer" "account" "Account submitting the proposal",
      .needed "Governance Token" "token" "Token granting voting rights"]
  outputs := [.needed "Proposal" "account" "The proposal account"]
  builtIn := true

/-- A pool of two tokens. -/
def liquidityPool : Template L where
  id := ofText "liquidity-pool"
  name := ofText "Liquidity Pool"
  category := ofText "DeFi"
  kind := ofText "defi"
  description := ofText "Constant product pool for a token pair"
  inputs :=
    [.needed "Token A" "token" "First token of the pair",
      .needed "Token B" "token" "Second token of the pair"]
  outputs := [.needed "Pool Account" "account" "The pool state account"]
  builtIn := true

/-- The templates that every catalog begins with. -/
def builtIns : List (Template L) :=
  [tokenMint, nftMint, derivedAccount, governanceProposal, liquidityPool]

end ModuleGraph.Template
