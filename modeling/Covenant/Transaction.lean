import Covenant.Hash
import Covenant.Value

/-!
# Transactions and blocks

What comes to be executed: a transaction, the block that it stands in, and the mode of execution;
with their JSON forms.
-/

namespace Covenant

namespace Hash

/-- The JSON form, which is the list of the bytes. -/
def toJson (hash : Hash) : Json :=
  .array (hash.bytes.map fun b => .nat b.toNat)

/-- Reads bytes one by one; `count` of them are due. -/
def readBytes : (count : Nat) → List Json → Except Misfit (List UInt8)
  | 0, [] => .ok []
  | 0, _ :: _ => .error .syntaxFault
  | _ + 1, [] => .error .shape
  | count + 1, j :: rest => do
    let b ← Json.readByte j
    let more ← readBytes count rest
    return b :: more

/-- Reads the JSON form. -/
def read : Json.Reader Hash
  | .array items => do
    let bytes ← readBytes 32 items
    match ofBytes? bytes with
    | some hash => .ok hash
    | none => .error .shape
  | j => .error j.misfit

end Hash

/-- A transaction to execute. -/
structure Transaction where
  /-- The contract to call, by its displayed or its internal id. -/
  contractId : Int
  ecosystemId : Int
  /-- The key that pays, and signs unless another one does. -/
  keyId : Int
  /-- The key that signs instead, if any. -/
  signedBy : Option Int
  publicKey : List UInt8
  /-- The signature of the hash. -/
  signature : List UInt8
  /-- How much the sender is ready to spend, as text. -/
  maxSum : Option String
  hash : Hash
  time : Int
  /-- The size in bytes. -/
  size : Int
  /-- The inputs of the contract. -/
  fields : Row

namespace Transaction

/-- Null, or a text. -/
private def textOrNull : Option String → Json :=
  Json.ofOption .string

/-- The JSON form. -/
def toJson (tx : Transaction) : Json :=
  .object [("contract_id", .int tx.contractId), ("ecosystem_id", .int tx.ecosystemId),
    ("key_id", .int tx.keyId), ("signed_by", Json.ofOption .int tx.signedBy),
    ("public_key", .string (Text.hexOfBytes tx.publicKey)),
    ("signature", .string (Text.hexOfBytes tx.signature)),
    ("max_sum", textOrNull tx.maxSum), ("hash", tx.hash.toJson), ("time", .int tx.time),
    ("size", .int tx.size), ("fields", (Value.map tx.fields).toJson)]

/-- Reads the JSON form inside `outer` other lists and objects. -/
def read (outer : Nat) : Json.Reader Transaction := fun j => do
  let readFields := Json.readDict (Value.read (outer + 2))
  let found ← Json.collect
    [.needed "contract_id" Json.readInt, .needed "ecosystem_id" Json.readInt,
      .needed "key_id" Json.readInt, .maybe "signed_by" Json.readInt,
      .needed "public_key" Json.readHex, .needed "signature" Json.readHex,
      .maybe "max_sum" Json.readText, .needed "hash" Hash.read, .needed "time" Json.readInt,
      .needed "size" Json.readInt, .needed "fields" readFields] j
  let contractId ← Json.fieldOf found "contract_id" Json.readInt
  let ecosystemId ← Json.fieldOf found "ecosystem_id" Json.readInt
  let keyId ← Json.fieldOf found "key_id" Json.readInt
  let signedBy ← Json.fieldOr found "signed_by" (Json.readOption Json.readInt) none
  let publicKey ← Json.fieldOf found "public_key" Json.readHex
  let signature ← Json.fieldOf found "signature" Json.readHex
  let maxSum ← Json.fieldOr found "max_sum" (Json.readOption Json.readText) none
  let hash ← Json.fieldOf found "hash" Hash.read
  let time ← Json.fieldOf found "time" Json.readInt
  let size ← Json.fieldOf found "size" Json.readInt
  let fields ← Json.fieldOf found "fields" readFields
  return { contractId, ecosystemId, keyId, signedBy, publicKey, signature, maxSum, hash, time,
           size, fields }

end Transaction

/-- The head of a block. -/
structure BlockHeader where
  blockId : Int
  /-- The key of the producer. -/
  keyId : Int
  timestamp : Int
  /-- The producer's place in the list of nodes. -/
  nodePosition : Int
  hash : Hash

namespace BlockHeader

/-- The JSON form. -/
def toJson (block : BlockHeader) : Json :=
  .object [("block_id", .int block.blockId), ("key_id", .int block.keyId),
    ("timestamp", .int block.timestamp), ("node_position", .int block.nodePosition),
    ("hash", block.hash.toJson)]

/-- Reads the JSON form. -/
def read : Json.Reader BlockHeader := fun j => do
  let found ← Json.collect
    [.needed "block_id" Json.readInt, .needed "key_id" Json.readInt,
      .needed "timestamp" Json.readInt, .needed "node_position" Json.readInt,
      .needed "hash" Hash.read] j
  let blockId ← Json.fieldOf found "block_id" Json.readInt
  let keyId ← Json.fieldOf found "key_id" Json.readInt
  let timestamp ← Json.fieldOf found "timestamp" Json.readInt
  let nodePosition ← Json.fieldOf found "node_position" Json.readInt
  let hash ← Json.fieldOf found "hash" Hash.read
  return { blockId, keyId, timestamp, nodePosition, hash }

end BlockHeader

/-- The mode of an execution. -/
structure ExecutionFlags where
  /-- Nothing is checked. -/
  fullAccess : Bool
  /-- A dry run of one node. -/
  localSimulation : Bool
  /-- A block is being produced. -/
  blockGeneration : Bool
  deriving DecidableEq, Repr

namespace ExecutionFlags

/-- Everything is checked, and the run is real. -/
def none : ExecutionFlags := ⟨false, false, false⟩

/-- The JSON form. -/
def toJson (flags : ExecutionFlags) : Json :=
  .object [("full_access", .bool flags.fullAccess),
    ("local_simulation", .bool flags.localSimulation),
    ("block_generation", .bool flags.blockGeneration)]

/-- Reads the JSON form. -/
def read : Json.Reader ExecutionFlags := fun j => do
  let found ← Json.collect
    [.needed "full_access" Json.readBool, .needed "local_simulation" Json.readBool,
      .needed "block_generation" Json.readBool] j
  let fullAccess ← Json.fieldOf found "full_access" Json.readBool
  let localSimulation ← Json.fieldOf found "local_simulation" Json.readBool
  let blockGeneration ← Json.fieldOf found "block_generation" Json.readBool
  return { fullAccess, localSimulation, blockGeneration }

end ExecutionFlags

end Covenant
