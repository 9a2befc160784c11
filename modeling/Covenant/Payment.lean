import Covenant.Account
import Covenant.Execution.Context
import Covenant.Storage.Connection

/-!
# Payment of fees

The payer of a transaction pays a fee to the wallet of the contract, or to the producer of the block
if the contract has none. Every payment adds a row to the ecosystem's history.
-/

namespace Covenant

/-- The fees of a network. -/
structure FeeSchedule where
  /-- The fee for a run that spends no fuel. -/
  minFee : Int
  /-- The fee for a unit of fuel. -/
  fuelPrice : Int
  /-- No fees are due. -/
  privateChain : Bool
  deriving DecidableEq, Repr

/-- What a fee is paid for. -/
inductive PaymentMode where
  | success
  | failure
  deriving DecidableEq, Repr

/-- The comment in the history. -/
def PaymentMode.comment : PaymentMode → String
  | .success => "fee"
  | .failure => "fee (failed)"

namespace FeeSchedule

/-- The fees of a network that sets none. -/
def default (privateChain : Bool) : FeeSchedule := ⟨10, 1, privateChain⟩

/-- The fee for a run. -/
def fee (schedule : FeeSchedule) (fuelUsed : Int) : Int :=
  Quantity.add schedule.minFee (Quantity.mul (max fuelUsed 0) schedule.fuelPrice)

/-- A fee is due, unless the chain is private or the run is a dry one or has full access. -/
def isDue (schedule : FeeSchedule) (ctx : ExecutionContext) : Bool :=
  !schedule.privateChain && !ctx.flags.localSimulation && !ctx.flags.fullAccess

end FeeSchedule

namespace Payment

/-- The balance of the payer. -/
def payerBalance (ctx : ExecutionContext) : Storing PaymentError Int := do
  match ← (Storing.key ctx.ecosystemId ctx.tx.keyId).mapError .storage with
  | some key => pure key.amount
  | none => throw (.payerNotFound (Account.ofKeyId ctx.tx.keyId))

/-- Fails unless the payer can pay an amount; gives the balance. -/
def requireFunds (ctx : ExecutionContext) (amount : Int) : Storing PaymentError Int := do
  let available ← payerBalance ctx
  if available < amount then throw (.insufficientFunds amount available) else pure available

/-- Checks that the payer can pay the least fee. -/
def prepare (schedule : FeeSchedule) (ctx : ExecutionContext) : Storing PaymentError Unit := do
  let _ ← requireFunds ctx schedule.minFee

/-- Who earns the fee. -/
def recipient (ctx : ExecutionContext) : Int :=
  if ctx.contract.owner.walletId = 0 then ctx.block.keyId else ctx.contract.owner.walletId

/-- The cells of a key row that change with the balance. -/
def balanceCells (amount : Int) : Row :=
  [("amount", .int amount)]

/-- The row that a payment adds to the history. -/
def historyRow (ctx : ExecutionContext) (fee : Int) (mode : PaymentMode) : Row :=
  Dict.ofList [("sender_id", .int ctx.tx.keyId), ("recipient_id", .int (recipient ctx)),
    ("amount", .int fee), ("comment", .text mode.comment), ("block_id", .int ctx.block.blockId),
    ("txhash", .text ctx.tx.hash.hex)]

/-- What is left of a balance when an amount is taken off. -/
def remaining (balance amount : Int) : Except StorageError Int :=
  match Quantity.difference? balance amount with
  | some rest => .ok rest
  | none => .error (.overflow "subtract")

/-- Adds the fee to the recipient's balance, if the recipient is another one and has a key. -/
def credit (ctx : ExecutionContext) (fee : Int) : Storing StorageError Unit := do
  if recipient ctx == ctx.tx.keyId then pure ()
  else
    match ← Storing.key ctx.ecosystemId (recipient ctx) with
    | none => pure ()
    | some key =>
      let _ ← Storing.updateRow (TableName.keys ctx.ecosystemId) (recipient ctx)
        (balanceCells (Quantity.add key.amount fee))

/-- Pays the fee for what the execution has spent. -/
def settle (schedule : FeeSchedule) (ctx : ExecutionContext) (mode : PaymentMode) :
    Storing PaymentError Unit := do
  let fee := schedule.fee ctx.fuel.consumed
  let available ← requireFunds ctx fee
  let write : Storing StorageError Unit := do
    let rest ← Storing.ofExcept (remaining available fee)
    let _ ← Storing.updateRow (TableName.keys ctx.ecosystemId) ctx.tx.keyId (balanceCells rest)
    credit ctx fee
    let _ ← Storing.insertRow (TableName.history ctx.ecosystemId) (historyRow ctx fee mode)
  write.mapError .storage

end Payment

end Covenant
