/-!
# Names of environment slots

Some slots have a meaning of their own, and every name that is not one of theirs belongs to a
transaction field or to contract code.
-/

namespace Covenant

/-- The key of an environment slot. -/
inductive EnvKey where
  /-- The id of the contract that the transaction calls. -/
  | type
  | time
  | ecosystemId
  | nodePosition
  | block
  | keyId
  | accountId
  | blockKeyId
  /-- The calling contract; empty at the top. -/
  | parentContract
  /-- The fuel that is left. -/
  | txCost
  | txHash
  /-- The contract that the transaction calls. -/
  | contract
  | blockTime
  | outermostContract
  /-- The contract that is running. -/
  | thisContract
  | guestKey
  | guestAccount
  | blackHoleKey
  | blackHoleAccount
  | whiteHoleKey
  | whiteHoleAccount
  | preBlockDataHash
  | genBlock
  | timeLimit
  /-- The contracts that are active. -/
  | stack
  | result
  /-- A slot of contract code. -/
  | field (name : String)
  deriving DecidableEq, Repr

namespace EnvKey

/-- The keys with a meaning of their own. -/
def wellKnown : List EnvKey :=
  [.type, .time, .ecosystemId, .nodePosition, .block, .keyId, .accountId, .blockKeyId,
    .parentContract, .txCost, .txHash, .contract, .blockTime, .outermostContract, .thisContract,
    .guestKey, .guestAccount, .blackHoleKey, .blackHoleAccount, .whiteHoleKey, .whiteHoleAccount,
    .preBlockDataHash, .genBlock, .timeLimit, .stack, .result]

/-- The name by which contract code knows the slot. -/
def name : EnvKey → String
  | .type => "type"
  | .time => "time"
  | .ecosystemId => "ecosystem_id"
  | .nodePosition => "node_position"
  | .block => "block"
  | .keyId => "key_id"
  | .accountId => "account_id"
  | .blockKeyId => "block_key_id"
  | .parentContract => "parent_contract"
  | .txCost => "txcost"
  | .txHash => "txhash"
  | .contract => "contract"
  | .blockTime => "block_time"
  | .outermostContract => "original_contract"
  | .thisContract => "this_contract"
  | .guestKey => "guest_key"
  | .guestAccount => "guest_account"
  | .blackHoleKey => "black_hole_key"
  | .blackHoleAccount => "black_hole_account"
  | .whiteHoleKey => "white_hole_key"
  | .whiteHoleAccount => "white_hole_account"
  | .preBlockDataHash => "pre_block_data_hash"
  | .genBlock => "gen_block"
  | .timeLimit => "time_limit"
  | .stack => "stack"
  | .result => "result"
  | .field name => name

/-- The slot that contract code means by a name. -/
def ofName (name : String) : EnvKey :=
  (wellKnown.find? (·.name == name)).getD (.field name)

/-- The key has a meaning of its own. -/
def isWellKnown : EnvKey → Bool
  | .field _ => false
  | _ => true

end EnvKey

end Covenant
