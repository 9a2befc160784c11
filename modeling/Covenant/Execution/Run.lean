import Covenant.Access.Check
import Covenant.Error.Execution
import Covenant.Registry.Basic

/-!
# What contract code may do

Runs of contract code and the services that they use: fuel, slots, rows, checks, registry changes
and notifications. A run that fails keeps what it did before; the pipeline decides what is undone.
-/

namespace Covenant

/-- What executions work on. -/
structure World where
  connection : Connection
  registry : Registry
  /-- The time in milliseconds. -/
  clock : Nat

/-- The state of a run. -/
structure RunState where
  ctx : ExecutionContext
  world : World

/-- Runs of contract code. -/
abbrev Run (α : Type) :=
  ExceptT RuntimeError (StateM RunState) α

namespace Run

/-- The context as it is. -/
def context : Run ExecutionContext :=
  fun state => (.ok state.ctx, state)

/-- The environment as it is. -/
def env : Run Environment :=
  fun state => (.ok state.ctx.env, state)

/-- Changes the context. -/
def modifyContext (f : ExecutionContext → ExecutionContext) : Run Unit :=
  fun state => (.ok (), { state with ctx := f state.ctx })

/-- Changes the environment. -/
def modifyEnv (f : Environment → Environment) : Run Unit :=
  modifyContext fun ctx => { ctx with env := f ctx.env }

/-- Sets a slot. -/
def setSlot (key : EnvKey) (value : Value) : Run Unit :=
  modifyEnv fun env => env.set key value

/-- A result that changes nothing. -/
def ofExcept {α : Type} : Except RuntimeError α → Run α
  | .ok a => pure a
  | .error e => throw e

/-- A run that gives its error as a result. -/
def attempt {α : Type} (run : Run α) : Run (Except RuntimeError α) :=
  fun state =>
    let (result, state) := run.run state
    (.ok result, state)

/-- A computation with storage. -/
def storing {ε α : Type} (toError : ε → RuntimeError) (x : Storing ε α) : Run α :=
  fun state =>
    let (result, connection) := x.run state.world.connection
    (result.mapError toError, { state with world := { state.world with connection } })

/-- A check of access in the context as it is. -/
def checking {α : Type} (check : ExecutionContext → Storing AccessError α) : Run α := do
  storing .access (check (← context))

/-- The time as it is. -/
def now : Run Nat :=
  fun state => (.ok state.world.clock, state)

/-- Lets time go by. -/
def setClock (clock : Nat) : Run Unit :=
  fun state => (.ok (), { state with world := { state.world with clock } })

/-- The registry as it is. -/
def registry : Run Registry :=
  fun state => (.ok state.world.registry, state)

/-- Replaces the registry. -/
def setRegistry (registry : Registry) : Run Unit :=
  fun state => (.ok (), { state with world := { state.world with registry } })

/-! ## Fuel and time -/

/-- Spends fuel. The amount is taken off before it is found to be too much. -/
def charge (amount : Int) : Run Unit := do
  modifyEnv fun env => env.charge amount
  let ctx ← context
  let left := ctx.env.fuel
  if left < 0 then
    throw (.resourceExhausted (Quantity.sub ctx.fuel.limit left) ctx.fuel.limit)
  else pure ()

/-- When a run began and how many milliseconds it may take. -/
structure Timer where
  started : Nat
  limit : Option Nat

/-- A timer that starts now, with the limit that the environment sets. -/
def startTimer : Run Timer := do
  let limit := ((← env).get? .timeLimit).bind Value.asInt?
  return { started := ← now, limit := (limit.filter (0 ≤ ·)).map Int.toNat }

/-- Fails if a run has taken too long. -/
def checkTime (timer : Timer) : Run Unit := do
  match timer.limit with
  | none => pure ()
  | some limit =>
    let elapsed := (← now) - timer.started
    if limit < elapsed then throw (.timeout elapsed limit) else pure ()

/-- Waits, and looks at the time every millisecond while it does. -/
def wait (timer : Timer) (milliseconds : Nat) : Run Unit := do
  let clock ← now
  match timer.limit with
  | none => setClock (clock + milliseconds)
  | some limit =>
    let last := timer.started + limit
    if milliseconds = 0 ∨ clock + milliseconds ≤ last + 1 then setClock (clock + milliseconds)
    else
      let noticed := max clock (last + 1)
      setClock noticed
      throw (.timeout (noticed - timer.started) limit)

/-! ## Rows -/

/-- Fails unless an action on a table and its columns is allowed. -/
def checkWrite (params : SystemParameters) (table : String) (action : TableAction) (cells : Row) :
    Run Unit := do
  checking fun ctx => Access.checkTable params ctx table action
  let _ ← checking fun ctx => Access.checkColumns params ctx table (Dict.keys cells) true

/-- Remembers a row write. -/
def remember (record : RollbackRecord) : Run Unit :=
  modifyContext fun ctx => { ctx with rollback := ctx.rollback ++ [record] }

/-- Adds a row and gives its id. -/
def insertRow (params : SystemParameters) (table : String) (cells : Row) : Run Int := do
  let table := TableName.qualify table (← context).ecosystemId
  checkWrite params table .insert cells
  let id ← storing .storage (Storing.insertRow table cells)
  remember ⟨table, id, ""⟩
  return id

/-- Puts cells over those of a row. -/
def updateRow (params : SystemParameters) (table : String) (id : Int) (cells : Row) :
    Run Unit := do
  let table := TableName.qualify table (← context).ecosystemId
  checkWrite params table .update cells
  let previous ← storing .storage (Storing.updateRow table id cells)
  remember ⟨table, id, (Value.map previous).jsonText⟩

/-- The cells of a row in the given columns; `*` stands for all. -/
def visibleCells (columns : List String) (row : Row) : Row :=
  if columns.contains "*" then row
  else
    let wanted := columns.map ColumnName.normalize
    row.filter fun cell => wanted.contains cell.1

/-- The cells of a row that may be read; a row that is not there has none. -/
def selectRow (params : SystemParameters) (table : String) (id : Int) (columns : List String) :
    Run Row := do
  let access ← checking fun ctx =>
    Access.checkRead params ctx table (",".intercalate columns) ctx.ecosystemId
  let row ← storing .storage (Storing.selectRow access.table id)
  return visibleCells access.columns (row.getD [])

/-! ## Contracts and messages -/

/-- Changes the contracts of a record by `change`, which gives the value before, and remembers that
value. -/
def changeContracts {α : Type} (tableId ecosystem : Int)
    (change : Registry → Option α × Registry) (undo : α → FlushChange) : Run Unit := do
  match change (← registry) with
  | (none, _) => throw (.unknownContract (toString ecosystem ++ ":" ++ toString tableId))
  | (some previous, changed) =>
    setRegistry changed
    modifyContext fun ctx =>
      { ctx with flush := ctx.flush ++ [⟨tableId, ecosystem, undo previous⟩] }

/-- Switches the contracts of a record on or off. -/
def activate (tableId ecosystem : Int) (active : Bool) : Run Unit :=
  changeContracts tableId ecosystem (fun registry => registry.setActive tableId ecosystem active)
    .active

/-- Gives the contracts of a record another wallet. -/
def setWallet (tableId ecosystem wallet : Int) : Run Unit :=
  changeContracts tableId ecosystem
    (fun registry => registry.reassignWallet tableId ecosystem wallet) .wallet

/-- Queues a message. -/
def notify (keyId : Int) (payload : String) : Run Unit :=
  modifyContext fun ctx =>
    { ctx with notifications := ctx.notifications ++ [⟨ctx.ecosystemId, keyId, payload⟩] }

/-- Enters a contract on the call stack. -/
def enter (name : String) : Run Unit := do
  match (← context).callStack.push? name with
  | none => throw (.contractLoop name)
  | some callStack =>
    modifyContext fun ctx => { ctx with callStack }.syncStack

/-- Leaves a contract on the call stack. -/
def leave (name : String) : Run Unit :=
  modifyContext fun ctx => { ctx with callStack := ctx.callStack.pop name }.syncStack

end Run

end Covenant
