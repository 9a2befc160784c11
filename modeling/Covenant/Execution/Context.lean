import Covenant.CallStack
import Covenant.Contract
import Covenant.Environment
import Covenant.Execution.Record
import Covenant.Fuel
import Covenant.Record
import Covenant.Transaction

/-!
# Execution contexts

What one execution carries along, and what has to be true of it in the end.
-/

namespace Covenant

/-- How far an execution has come. -/
inductive ExecutionState where
  | start
  /-- The signature is verified. -/
  | authenticated
  /-- The payer can pay, or need not. -/
  | paymentReserved
  /-- The contract is on the call stack. -/
  | stackPushed
  /-- The run is over. -/
  | invoked
  | committed
  | feeCharged
  | rolledBack
  deriving DecidableEq, Repr

namespace ExecutionState

/-- All states. -/
def all : List ExecutionState :=
  [.start, .authenticated, .paymentReserved, .stackPushed, .invoked, .committed, .feeCharged,
    .rolledBack]

/-- The name of a state. -/
def name : ExecutionState → String
  | .start => "start"
  | .authenticated => "authenticated"
  | .paymentReserved => "payment_reserved"
  | .stackPushed => "stack_pushed"
  | .invoked => "invoked"
  | .committed => "committed"
  | .feeCharged => "fee_charged"
  | .rolledBack => "rolled_back"

/-- The execution is over. -/
def isTerminal : ExecutionState → Bool
  | .committed | .feeCharged | .rolledBack => true
  | _ => false

end ExecutionState

/-- The context of one execution. -/
structure ExecutionContext where
  tx : Transaction
  /-- The contract that the transaction calls, as it was at the start. -/
  contract : Contract
  block : BlockHeader
  prevBlock : BlockHeader
  /-- The key that has signed. -/
  signerId : Int
  /-- The record of that key, once the signature is verified. -/
  key : Option KeyRecord
  fuel : FuelLedger
  flags : ExecutionFlags
  /-- What contract code sees. -/
  env : Environment
  callStack : CallStack
  /-- The row writes so far. -/
  rollback : List RollbackRecord
  notifications : List Notification
  /-- The registry changes so far, oldest first. -/
  flush : List FlushEntry
  /-- A fee is due. -/
  paymentReserved : Bool
  state : ExecutionState

namespace ExecutionContext

/-- The context at the start of an execution. -/
def new (tx : Transaction) (contract : Contract) (block prevBlock : BlockHeader)
    (flags : ExecutionFlags) : ExecutionContext :=
  { tx, contract, block, prevBlock, flags, signerId := tx.keyId, key := none,
    fuel := .new 0, env := .empty, callStack := .empty, rollback := [], notifications := [],
    flush := [], paymentReserved := false, state := .start }

/-- The ecosystem of the transaction. -/
def ecosystemId (ctx : ExecutionContext) : Int :=
  ctx.tx.ecosystemId

/-- Forgets the row writes and notifications. -/
def discardRecords (ctx : ExecutionContext) : ExecutionContext :=
  { ctx with rollback := [], notifications := [] }

/-- Copies the call stack to its slot. -/
def syncStack (ctx : ExecutionContext) : ExecutionContext :=
  { ctx with env := ctx.env.set .stack (.list (ctx.callStack.names.map .text)) }

/-! ## Invariants -/

/-- The characters of a result that are kept. -/
def resultLimit : Nat := 255

/-- What is put behind a result that was cut. -/
def cutMark : String := "..."

/-- A result with at most as many characters as are kept. -/
def truncateResult (result : String) : String :=
  if result.length ≤ resultLimit then result
  else String.ofList (result.toList.take resultLimit) ++ cutMark

/-- What was spent is not negative and not above the limit. -/
def fuelIsSettled (ctx : ExecutionContext) : Bool :=
  0 ≤ ctx.fuel.consumed && ctx.fuel.consumed ≤ max ctx.fuel.limit 0

/-- The result is no longer than a cut one. -/
def resultFits (result : String) : Bool :=
  result.length ≤ resultLimit + cutMark.length

/-- Registry changes are kept only by committed executions. -/
def flushIsUndone (ctx : ExecutionContext) : Bool :=
  ctx.state == .committed || ctx.flush.isEmpty

/-- Records are kept only by committed executions. -/
def recordsAreDiscarded (ctx : ExecutionContext) : Bool :=
  ctx.state == .committed || (ctx.rollback.isEmpty && ctx.notifications.isEmpty)

/-- The names of the invariants that do not hold. -/
def violations (ctx : ExecutionContext) (result : String) : List String :=
  (if ctx.fuelIsSettled then [] else ["fuel_settlement"])
    ++ (if resultFits result then [] else ["result_length"])
    ++ (if ctx.flushIsUndone then [] else ["flush_undone"])
    ++ (if ctx.recordsAreDiscarded then [] else ["records_discarded"])

end ExecutionContext

end Covenant
