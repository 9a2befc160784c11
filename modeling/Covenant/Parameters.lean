import Covenant.Error.Basic
import Covenant.Json.Shape
import Covenant.Json.Writer

/-!
# Parameters of a network

What all nodes of a network agree on, the JSON form of it, and the ranges that it has to stay in.
-/

namespace Covenant

/-- A node that may sign for others. -/
structure HonorNode where
  publicKey : List UInt8
  deriving DecidableEq, Repr

namespace HonorNode

/-- The JSON form. -/
def toJson (node : HonorNode) : Json :=
  .object [("public_key", .string (Text.hexOfBytes node.publicKey))]

/-- Reads the JSON form. -/
def read : Json.Reader HonorNode := fun j => do
  let found ← Json.collect [.needed "public_key" Json.readHex] j
  let publicKey ← Json.fieldOf found "public_key" Json.readHex
  return { publicKey }

end HonorNode

/-- The parameters of a network. -/
structure SystemParameters where
  /-- The spending limit of transactions that declare none. -/
  maxCost : Int
  /-- The fuel for 1024 bytes of a transaction. -/
  sizeFuel : Int
  /-- Reads are checked as well. -/
  privateChain : Bool
  /-- The nodes that may sign for others. -/
  honorNodes : List HonorNode
  /-- The key of this node. -/
  nodePublicKey : List UInt8
  /-- Anyone may sign for others. -/
  candidateNodeMode : Bool
  /-- How many milliseconds a run may take. -/
  timeLimit : Nat
  deriving DecidableEq, Repr

namespace SystemParameters

/-- The parameters of a network that sets none. -/
def default : SystemParameters :=
  { maxCost := 10000000, sizeFuel := 100, privateChain := false, honorNodes := [],
    nodePublicKey := [], candidateNodeMode := false, timeLimit := 5000 }

instance : Inhabited SystemParameters := ⟨default⟩

/-- The JSON form. -/
def toJson (params : SystemParameters) : Json :=
  .object [("max_cost", .int params.maxCost), ("size_fuel", .int params.sizeFuel),
    ("private_chain", .bool params.privateChain),
    ("honor_nodes", .array (params.honorNodes.map HonorNode.toJson)),
    ("node_public_key", .string (Text.hexOfBytes params.nodePublicKey)),
    ("candidate_node_mode", .bool params.candidateNodeMode),
    ("time_limit_ms", .nat params.timeLimit)]

/-- Reads the JSON form. Every field has a default. -/
def read : Json.Reader SystemParameters := fun j => do
  let readNodes := Json.readList HonorNode.read
  let found ← Json.collect
    [.defaulted "max_cost" Json.readInt, .defaulted "size_fuel" Json.readInt,
      .defaulted "private_chain" Json.readBool, .defaulted "honor_nodes" readNodes,
      .defaulted "node_public_key" Json.readHex,
      .defaulted "candidate_node_mode" Json.readBool,
      .defaulted "time_limit_ms" Json.readNat] j
  let maxCost ← Json.fieldOr found "max_cost" Json.readInt default.maxCost
  let sizeFuel ← Json.fieldOr found "size_fuel" Json.readInt default.sizeFuel
  let privateChain ← Json.fieldOr found "private_chain" Json.readBool default.privateChain
  let honorNodes ← Json.fieldOr found "honor_nodes" readNodes default.honorNodes
  let nodePublicKey ← Json.fieldOr found "node_public_key" Json.readHex default.nodePublicKey
  let candidateNodeMode ←
    Json.fieldOr found "candidate_node_mode" Json.readBool default.candidateNodeMode
  let timeLimit ← Json.fieldOr found "time_limit_ms" Json.readNat default.timeLimit
  return { maxCost, sizeFuel, privateChain, honorNodes, nodePublicKey, candidateNodeMode,
           timeLimit }

/-- The first parameter that is out of range, if any. -/
def validate (params : SystemParameters) : Except ConfigError Unit :=
  if params.maxCost ≤ 0 then .error (.outOfRange "max_cost" "positive" params.maxCost)
  else if params.sizeFuel < 0 then
    .error (.outOfRange "size_fuel" "non-negative" params.sizeFuel)
  else if params.timeLimit = 0 then .error (.outOfRange "time_limit_ms" "positive" 0)
  else
    match params.honorNodes.findIdx? (·.publicKey.isEmpty) with
    | some index => .error (.emptyNodeKey index)
    | none => .ok ()

end SystemParameters

end Covenant
