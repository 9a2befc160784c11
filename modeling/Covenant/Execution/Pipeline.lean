import Covenant.Auth
import Covenant.Execution.Interpret
import Covenant.Payment

/-!
# Executing transactions

The way of a transaction through a node. It is authenticated, and its payer has to be able to pay;
then a savepoint is opened and the contract runs. If the run succeeds and its fee is paid,
everything is kept. If it fails, everything is undone and the fee for the failure is paid; if that
is not due or not possible, the transaction is rejected. Registry changes are undone one by one,
since savepoints know only about storage.
-/

namespace Covenant

/-- The parts of a node that executions use and do not change. -/
structure Node where
  params : SystemParameters
  crypto : KeyCrypto
  fees : FeeSchedule

/-- A request to execute a transaction. -/
structure ExecutionRequest where
  tx : Transaction
  block : BlockHeader
  prevBlock : BlockHeader
  flags : ExecutionFlags
  /-- The name of the savepoint to open. -/
  savepoint : String

namespace ExecutionRequest

/-- The savepoint of a transaction whose request names none. -/
def defaultSavepoint (tx : Transaction) : String :=
  "tx_" ++ tx.hash.hex

end ExecutionRequest

/-- Executions before their savepoint is open. -/
abbrev Preparing (α : Type) :=
  ExceptT ExecutionError (StateM World) α

/-- Executions from their savepoint on. -/
abbrev Executing (ε α : Type) :=
  ExceptT ε (StateM RunState) α

namespace Preparing

/-- A computation with storage. -/
def storing {ε α : Type} (toError : ε → ExecutionError) (x : Storing ε α) : Preparing α :=
  fun world =>
    let (result, connection) := x.run world.connection
    (result.mapError toError, { world with connection })

/-- The registry as it is. -/
def registry : Preparing Registry :=
  fun world => (.ok world.registry, world)

/-- Finds the contract that a transaction calls. -/
def findContract (tx : Transaction) : Preparing Contract := do
  match (← registry).lookupById tx.contractId with
  | some contract => pure contract
  | none => throw (.contractNotFound (toString tx.contractId))

/-- Finds out who must have signed a transaction and verifies that they did. -/
def authenticate (node : Node) (ctx : ExecutionContext) : Preparing ExecutionContext := do
  let signer ← storing .auth (Auth.resolveSigner node.crypto node.params ctx.tx ctx.contract.name)
  let key ← storing .auth (Auth.verifySignature node.crypto ctx.tx signer)
  return { ctx with key := some key, signerId := signer, state := .authenticated }

/-- Checks that the fee can be paid, if one is due. -/
def reserve (node : Node) (ctx : ExecutionContext) : Preparing ExecutionContext := do
  if node.fees.isDue ctx then
    storing .paymentPreparation (Payment.prepare node.fees ctx)
    return { ctx with paymentReserved := true, state := .paymentReserved }
  else return { ctx with state := .paymentReserved }

/-- The slots that every execution sets. -/
def environment (node : Node) (ctx : ExecutionContext) (limit : Int) : Environment :=
  let account := match ctx.key with
    | some key => key.account
    | none => Account.ofKeyId ctx.signerId
  let slots : List (EnvKey × Value) :=
    [(.type, .int ctx.tx.contractId), (.time, .int ctx.tx.time),
      (.ecosystemId, .int ctx.tx.ecosystemId), (.nodePosition, .int ctx.block.nodePosition),
      (.block, .int ctx.block.blockId), (.keyId, .int ctx.signerId),
      (.accountId, .text account), (.blockKeyId, .int ctx.block.keyId),
      (.parentContract, .text ""), (.txCost, .int limit), (.txHash, .text ctx.tx.hash.hex),
      (.contract, .text ctx.contract.name), (.blockTime, .int ctx.block.timestamp),
      (.outermostContract, .text ctx.contract.name), (.thisContract, .text ctx.contract.name),
      (.preBlockDataHash, .text ctx.prevBlock.hash.hex),
      (.genBlock, .bool ctx.flags.blockGeneration),
      (.timeLimit, .int (min (node.params.timeLimit : Int) Quantity.greatest))]
  let env := slots.foldl (fun env slot => env.set slot.1 slot.2) Environment.empty
  env.addKnownAccounts.addFields ctx.tx.fields

/-- Sets the spending limit and the slots of the environment. -/
def equip (node : Node) (ctx : ExecutionContext) : ExecutionContext :=
  let limit := Fuel.limitFor ctx.tx.maxSum node.params.maxCost
  { ctx with fuel := .new limit, env := environment node ctx limit }

/-- All that comes before the contract runs. -/
def prepare (node : Node) (request : ExecutionRequest) : Preparing ExecutionContext := do
  let contract ← findContract request.tx
  let ctx := ExecutionContext.new request.tx contract request.block request.prevBlock request.flags
  let ctx ← authenticate node ctx
  let ctx ← reserve node ctx
  storing .storage (Storing.createSavepoint request.savepoint)
  return equip node ctx

end Preparing

namespace Run

/-- Goes on to another state. -/
def advance (state : ExecutionState) : Run Unit :=
  modifyContext fun ctx => { ctx with state }

/-- Runs the contract of a transaction, after the charge for the transaction's size. -/
def runTarget (node : Node) (contract : Contract) : Run Unit := do
  charge (Fuel.forSize node.params.sizeFuel (← context).tx.size)
  let depth := (← registry).contracts.length
  runProgram node.params (callContract node.params depth) contract.program

/-- The result slot as text. -/
def renderResult : Run String := do
  match (← env).result.render? with
  | some text => pure text
  | none => throw .notText

/-- Runs the contract of a transaction and gives its result. -/
def invoke (node : Node) : Run String := do
  let contract := (← context).contract
  enter contract.name
  advance .stackPushed
  let outcome ← attempt (runTarget node contract)
  leave contract.name
  advance .invoked
  ofExcept outcome
  renderResult

end Run

namespace Executing

/-- Changes the context. -/
def modifyContext {ε : Type} (f : ExecutionContext → ExecutionContext) : Executing ε Unit :=
  fun state => (.ok (), { state with ctx := f state.ctx })

/-- The context as it is. -/
def context {ε : Type} : Executing ε ExecutionContext :=
  fun state => (.ok state.ctx, state)

/-- Goes on to another state. -/
def advance {ε : Type} (state : ExecutionState) : Executing ε Unit :=
  modifyContext fun ctx => { ctx with state }

/-- A computation with storage. -/
def storing {ε ε' α : Type} (toError : ε → ε') (x : Storing ε α) : Executing ε' α :=
  fun state =>
    let (result, connection) := x.run state.world.connection
    (result.mapError toError, { state with world := { state.world with connection } })

/-- A computation that gives its error as a result. -/
def attempt {ε ε' α : Type} (x : Executing ε α) : Executing ε' (Except ε α) :=
  fun state =>
    let (result, state) := x.run state
    (.ok result, state)

/-- A payment in the context as it is. -/
def settle {ε : Type} (node : Node) (mode : PaymentMode) :
    Executing ε (Except PaymentError Unit) := do
  attempt (storing id (Payment.settle node.fees (← context) mode))

/-- Takes back a registry change. -/
def undoChange (registry : Registry) (entry : FlushEntry) : Registry :=
  match entry.change with
  | .active previous => (registry.setActive entry.tableId entry.ecosystemId previous).2
  | .wallet previous => (registry.reassignWallet entry.tableId entry.ecosystemId previous).2

/-- Takes back registry changes, the latest first. -/
def undoChanges (registry : Registry) (flush : List FlushEntry) : Registry :=
  flush.reverse.foldl undoChange registry

/-- Takes back all registry changes of the execution. -/
def undoFlush {ε : Type} : Executing ε Unit :=
  fun state =>
    (.ok (), { ctx := { state.ctx with flush := [] },
               world := { state.world with
                          registry := undoChanges state.world.registry state.ctx.flush } })

/-- Undoes all that the contract did. The registry is restored also if storage fails. -/
def rollBack (savepoint : String) : Executing StorageError Unit := do
  modifyContext ExecutionContext.discardRecords
  undoFlush
  storing id Storing.clearLog
  storing id (Storing.rollbackTo savepoint)

/-- Passes on an error of storage. -/
def orReject {α : Type} (x : Executing StorageError α) : Executing ExecutionError α := do
  match ← attempt x with
  | .ok a => pure a
  | .error e => throw (.storage e)

/-- Closes the savepoint. -/
def release (savepoint : String) : Executing StorageError Unit :=
  storing id (Storing.release savepoint)

/-- Ends an execution whose contract failed: undoes everything and charges the fee if one is due. -/
def fail (node : Node) (savepoint : String) (error : RuntimeError) :
    Executing ExecutionError ExecutionOutcome := do
  orReject (rollBack savepoint)
  if !(← context).paymentReserved then
    orReject (release savepoint)
    advance .rolledBack
    throw (.runtime error)
  else
    match ← settle node .failure with
    | .ok () =>
      orReject (release savepoint)
      advance .feeCharged
      return { status := .feeCharged, result := error.clientMessage,
               fuelUsed := (← context).fuel.consumed, rollback := [], notifications := [] }
    | .error unpaid =>
      orReject (rollBack savepoint)
      orReject (release savepoint)
      advance .rolledBack
      throw (.settlement error unpaid)

/-- Gives up on an execution whose savepoint cannot be closed. -/
def abort {α : Type} (savepoint : String) (error : StorageError) :
    Executing ExecutionError α := do
  let _ ← attempt (rollBack savepoint)
  advance .rolledBack
  throw (.storage error)

/-- Closes the savepoint and keeps what the contract did. -/
def keep (savepoint result : String) : Executing ExecutionError ExecutionOutcome := do
  match ← attempt (release savepoint) with
  | .error e => abort savepoint e
  | .ok () =>
    advance .committed
    let ctx ← context
    modifyContext ExecutionContext.discardRecords
    return { status := .committed, result, fuelUsed := ctx.fuel.consumed,
             rollback := ctx.rollback, notifications := ctx.notifications }

/-- Ends an execution whose contract succeeded: pays the fee if one is due. -/
def commit (node : Node) (savepoint result : String) :
    Executing ExecutionError ExecutionOutcome := do
  let result := ExecutionContext.truncateResult result
  if (← context).paymentReserved then
    match ← settle node .success with
    | .error unpaid => fail node savepoint (.payment unpaid)
    | .ok () => keep savepoint result
  else keep savepoint result

/-- Runs the contract and enters what it has spent. -/
def invoke {ε : Type} (node : Node) : Executing ε (Except RuntimeError String) := do
  let outcome ← attempt (Run.invoke node)
  modifyContext fun ctx => { ctx with fuel := ctx.fuel.record ctx.fuel.limit ctx.env.fuel }
  return outcome

/-- All that comes after the savepoint is open. -/
def complete (node : Node) (savepoint : String) : Executing ExecutionError ExecutionOutcome := do
  match ← invoke node with
  | .ok result => commit node savepoint result
  | .error e => fail node savepoint e

end Executing

namespace Node

/-- Executes a transaction. -/
def execute (node : Node) (request : ExecutionRequest) (world : World) :
    Except ExecutionError ExecutionOutcome × World :=
  match (Preparing.prepare node request).run world with
  | (.error e, world) => (.error e, world)
  | (.ok ctx, world) =>
    let (result, state) := (Executing.complete node request.savepoint).run ⟨ctx, world⟩
    (result, state.world)

end Node

end Covenant
