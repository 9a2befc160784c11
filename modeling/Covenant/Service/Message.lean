import Covenant.Execution.Pipeline

/-!
# Messages of the service

What block processing sends to a node to have a transaction executed, and what the node answers;
with their JSON forms. An answer tells about rejected transactions too, so it never fails.
-/

namespace Covenant

namespace ExecutionStatus

/-- The status with a name. -/
def ofName? (name : String) : Option ExecutionStatus :=
  [committed, feeCharged].find? (·.name == name)

/-- The JSON form. -/
def toJson (status : ExecutionStatus) : Json :=
  .string status.name

/-- Reads the JSON form: the name, or an object with the name as its only key and null under it. No
other kind of value can stand for a choice. -/
def read : Json.Reader ExecutionStatus
  | .string name => ofName name
  | .object ((_, .keyless _) :: _) => .error .syntaxFault
  | .object ((name, j) :: rest) => do
    let status ← ofName name
    match j, rest with
    | .null, [] => .ok status
    | .null, _ :: _ => .error .syntaxFault
    | j, _ => .error j.misfit
  | _ => .error .syntaxFault
where
  /-- The status with a name, which must be one. -/
  ofName (name : String) : Except Misfit ExecutionStatus :=
    match ofName? name with
    | some status => .ok status
    | none => .error .shape

end ExecutionStatus

/-- A message that asks for the execution of a transaction. -/
structure ExecutionMessage where
  tx : Transaction
  block : BlockHeader
  prevBlock : BlockHeader
  flags : ExecutionFlags
  /-- The savepoint to open; without one it is named after the transaction. -/
  savepoint : Option String

namespace ExecutionMessage

/-- The request that a message makes. -/
def request (message : ExecutionMessage) : ExecutionRequest :=
  { tx := message.tx, block := message.block, prevBlock := message.prevBlock,
    flags := message.flags,
    savepoint := message.savepoint.getD (ExecutionRequest.defaultSavepoint message.tx) }

/-- The JSON form. -/
def toJson (message : ExecutionMessage) : Json :=
  .object [("tx", message.tx.toJson), ("block", message.block.toJson),
    ("prev_block", message.prevBlock.toJson), ("flags", message.flags.toJson),
    ("savepoint", Json.ofOption .string message.savepoint)]

/-- Reads the JSON form. Flags and savepoint may be left out. -/
def read : Json.Reader ExecutionMessage := fun j => do
  let readTx := Transaction.read 1
  let readSavepoint := Json.readOption Json.readText
  let found ← Json.collect
    [.needed "tx" readTx, .needed "block" BlockHeader.read,
      .needed "prev_block" BlockHeader.read, .defaulted "flags" ExecutionFlags.read,
      .defaulted "savepoint" readSavepoint] j
  let tx ← Json.fieldOf found "tx" readTx
  let block ← Json.fieldOf found "block" BlockHeader.read
  let prevBlock ← Json.fieldOf found "prev_block" BlockHeader.read
  let flags ← Json.fieldOr found "flags" ExecutionFlags.read .none
  let savepoint ← Json.fieldOr found "savepoint" readSavepoint none
  return { tx, block, prevBlock, flags, savepoint }

end ExecutionMessage

/-- The answer to a message. -/
structure ExecutionReply where
  txHash : Hash
  /-- How the execution ended; nothing if the transaction was rejected. -/
  status : Option ExecutionStatus
  result : String
  fuelUsed : Int
  /-- Why the transaction was rejected, as clients see it. -/
  error : Option String
  /-- The transaction can never be accepted. -/
  excluded : Bool
  rollback : List RollbackRecord
  notifications : List Notification
  deriving DecidableEq

namespace ExecutionReply

/-- The answer for an accepted transaction. -/
def accepted (txHash : Hash) (outcome : ExecutionOutcome) : ExecutionReply :=
  { txHash, status := some outcome.status, result := outcome.result,
    fuelUsed := outcome.fuelUsed, error := none, excluded := false,
    rollback := outcome.rollback, notifications := outcome.notifications }

/-- The answer for a rejected transaction. -/
def rejected (txHash : Hash) (error : ExecutionError) : ExecutionReply :=
  { txHash, status := none, result := "", fuelUsed := 0, error := some error.clientMessage,
    excluded := error.excludesTransaction, rollback := [], notifications := [] }

/-- The answer for the result of an execution. -/
def ofResult (txHash : Hash) : Except ExecutionError ExecutionOutcome → ExecutionReply
  | .ok outcome => accepted txHash outcome
  | .error error => rejected txHash error

/-- The writes of the contract were kept. -/
def isCommitted (reply : ExecutionReply) : Bool :=
  reply.status == some .committed

/-- The JSON form. -/
def toJson (reply : ExecutionReply) : Json :=
  .object [("tx_hash", reply.txHash.toJson),
    ("status", Json.ofOption ExecutionStatus.toJson reply.status),
    ("result", .string reply.result), ("fuel_used", .int reply.fuelUsed),
    ("error", Json.ofOption .string reply.error), ("excluded", .bool reply.excluded),
    ("rollback", .array (reply.rollback.map RollbackRecord.toJson)),
    ("notifications", .array (reply.notifications.map Notification.toJson))]

/-- Reads the JSON form. -/
def read : Json.Reader ExecutionReply := fun j => do
  let readRollback := Json.readList RollbackRecord.read
  let readNotifications := Json.readList Notification.read
  let found ← Json.collect
    [.needed "tx_hash" Hash.read, .maybe "status" ExecutionStatus.read,
      .needed "result" Json.readText, .needed "fuel_used" Json.readInt,
      .maybe "error" Json.readText, .needed "excluded" Json.readBool,
      .needed "rollback" readRollback, .needed "notifications" readNotifications] j
  let txHash ← Json.fieldOf found "tx_hash" Hash.read
  let status ← Json.fieldOr found "status" (Json.readOption ExecutionStatus.read) none
  let result ← Json.fieldOf found "result" Json.readText
  let fuelUsed ← Json.fieldOf found "fuel_used" Json.readInt
  let error ← Json.fieldOr found "error" (Json.readOption Json.readText) none
  let excluded ← Json.fieldOf found "excluded" Json.readBool
  let rollback ← Json.fieldOf found "rollback" readRollback
  let notifications ← Json.fieldOf found "notifications" readNotifications
  return { txHash, status, result, fuelUsed, error, excluded, rollback, notifications }

end ExecutionReply

end Covenant
