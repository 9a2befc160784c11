import Covenant.Json.Shape
import Covenant.Json.Writer

/-!
# What executions leave behind

The records that an execution collects: registry changes to take back if it fails, row writes that a
later block may have to undo, and notifications to deliver.
-/

namespace Covenant

/-- A change of the registry, with the value before it. -/
inductive FlushChange where
  | active (previous : Bool)
  | wallet (previous : Int)
  deriving DecidableEq, Repr

/-- A change of the contracts of a record. -/
structure FlushEntry where
  tableId : Int
  ecosystemId : Int
  change : FlushChange
  deriving DecidableEq, Repr

/-- A row write: the row as it was in JSON, or nothing if it was not there. -/
structure RollbackRecord where
  table : String
  rowId : Int
  data : String
  deriving DecidableEq, Repr

namespace RollbackRecord

/-- The JSON form. -/
def toJson (record : RollbackRecord) : Json :=
  .object [("table", .string record.table), ("row_id", .int record.rowId),
    ("data", .string record.data)]

/-- Reads the JSON form. -/
def read : Json.Reader RollbackRecord := fun j => do
  let found ← Json.collect
    [.needed "table" Json.readText, .needed "row_id" Json.readInt,
      .needed "data" Json.readText] j
  let table ← Json.fieldOf found "table" Json.readText
  let rowId ← Json.fieldOf found "row_id" Json.readInt
  let data ← Json.fieldOf found "data" Json.readText
  return { table, rowId, data }

end RollbackRecord

/-- A message for the owner of a key. -/
structure Notification where
  ecosystemId : Int
  keyId : Int
  payload : String
  deriving DecidableEq, Repr

namespace Notification

/-- The JSON form. -/
def toJson (notification : Notification) : Json :=
  .object [("ecosystem_id", .int notification.ecosystemId), ("key_id", .int notification.keyId),
    ("payload", .string notification.payload)]

/-- Reads the JSON form. -/
def read : Json.Reader Notification := fun j => do
  let found ← Json.collect
    [.needed "ecosystem_id" Json.readInt, .needed "key_id" Json.readInt,
      .needed "payload" Json.readText] j
  let ecosystemId ← Json.fieldOf found "ecosystem_id" Json.readInt
  let keyId ← Json.fieldOf found "key_id" Json.readInt
  let payload ← Json.fieldOf found "payload" Json.readText
  return { ecosystemId, keyId, payload }

end Notification

/-- How an accepted transaction ended. -/
inductive ExecutionStatus where
  /-- Its writes are kept. -/
  | committed
  /-- Its contract failed, and only the fee is kept. -/
  | feeCharged
  deriving DecidableEq, Repr

/-- The name of the status. -/
def ExecutionStatus.name : ExecutionStatus → String
  | .committed => "Committed"
  | .feeCharged => "FeeCharged"

/-- The result of an accepted transaction. -/
structure ExecutionOutcome where
  status : ExecutionStatus
  /-- The result, or the error as clients see it. -/
  result : String
  fuelUsed : Int
  rollback : List RollbackRecord
  notifications : List Notification
  deriving DecidableEq, Repr

end Covenant
