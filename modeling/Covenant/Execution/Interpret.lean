import Covenant.Execution.Run

/-!
# Running programs

The meaning of statements. A nested call runs the called contract in an environment of its own that
is taken from the caller's, and gives the caller its environment back, but for the fuel. No contract
is active twice, so calls nest no deeper than there are contracts.
-/

namespace Covenant.Run

/-- What a nested call does with the name and the fields of a call statement. -/
abbrev Call :=
  String → Row → Run Value

/-- The methods that a call runs, in order. -/
def entryMethods : List String :=
  ["conditions", "action"]

/-! ## Operands -/

/-- The value of an operand. -/
def resolve (env : Environment) : Operand → Except RuntimeError Value
  | .int n => .ok (.int n)
  | .text s => .ok (.text s)
  | .variable name =>
    match env.lookup? name with
    | some value => .ok value
    | none => .error (.domain ("unknown variable $" ++ name))

/-- The value of an operand as an integer. -/
def resolveInt (env : Environment) (operand : Operand) : Except RuntimeError Int :=
  match resolve env operand with
  | .error e => .error e
  | .ok value =>
    match value.asInt? with
    | some n => .ok n
    | none => .error (.domain (value.display ++ " is not an integer"))

/-- The values of named operands. -/
def resolvePairs (env : Environment) :
    List (String × Operand) → Except RuntimeError (List (String × Value))
  | [] => .ok []
  | (name, operand) :: rest =>
    match resolve env operand with
    | .error e => .error e
    | .ok value => (resolvePairs env rest).map ((name, value) :: ·)

/-- The value of an operand in the environment as it is. -/
def value (operand : Operand) : Run Value := do
  ofExcept (resolve (← env) operand)

/-- The value of an operand as an integer. -/
def int (operand : Operand) : Run Int := do
  ofExcept (resolveInt (← env) operand)

/-- The values of named operands; of a repeated name the last value counts. -/
def row (pairs : List (String × Operand)) : Run Row := do
  return Dict.ofList (← ofExcept (resolvePairs (← env) pairs))

/-! ## Statements -/

/-- Fails unless a condition holds. -/
def require (expression : String) : Run Unit := do
  match Condition.holds expression (← env) with
  | .error e => throw (.evaluation e)
  | .ok true => pure ()
  | .ok false => throw (.domain ("condition failed: " ++ expression))

/-- Runs a statement. -/
def exec (params : SystemParameters) (call : Call) (timer : Timer) : Statement → Run Unit
  | .charge amount => charge amount
  | .set name operand => do setSlot (.field name) (← value operand)
  | .call target fields => do
    let result ← call target (← row fields)
    setSlot (.field "ret") result
  | .insert table pairs => do
    let id ← insertRow params table (← row pairs)
    setSlot (.field "last_id") (.int id)
  | .update table id pairs => do
    let id ← int id
    updateRow params table id (← row pairs)
  | .select table id columns => do
    let cells ← selectRow params table (← int id) columns
    setSlot (.field "row") (.map cells)
  | .require expression => require expression
  | .condition param useConditions =>
    checking fun ctx => Access.checkCondition params ctx param useConditions
  | .activate tableId ecosystem active => do
    let tableId ← int tableId
    activate tableId (← int ecosystem) active
  | .wallet tableId ecosystem wallet => do
    let tableId ← int tableId
    let ecosystem ← int ecosystem
    setWallet tableId ecosystem (← int wallet)
  | .notify key payload => do notify (← int key) payload
  | .result operand => do setSlot .result (← value operand)
  | .resultBytes bytes => setSlot .result (.bytes bytes)
  | .fail text => throw (.domain text)
  | .spin milliseconds => wait timer milliseconds

/-- Runs a statement, which costs one unit of fuel besides what it does. -/
def step (params : SystemParameters) (call : Call) (timer : Timer) (statement : Statement) :
    Run Unit := do
  checkTime timer
  charge 1
  exec params call timer statement

/-- Runs statements in order. -/
def runStatements (params : SystemParameters) (call : Call) (timer : Timer) :
    List Statement → Run Unit
  | [] => pure ()
  | statement :: rest => do
    step params call timer statement
    runStatements params call timer rest

/-- The statements that a call of a program runs. -/
def entryStatements (program : Program) : List Statement :=
  entryMethods.flatMap fun method => (Dict.find? method program).getD []

/-- Runs the methods of a program that are called. -/
def runProgram (params : SystemParameters) (call : Call) (program : Program) : Run Unit := do
  let timer ← startTimer
  runStatements params call timer (entryStatements program)

/-! ## Nested calls -/

/-- The environment of a called contract. -/
def calleeEnv (caller : Environment) (name : String) (fields : Row) : Environment :=
  let this := (caller.get? .thisContract).getD .null
  (((caller.set .parentContract this).set .thisContract (.text name)).remove .result).addFields
    fields

/-- The contract that a call statement means. -/
def callee (target : String) : Run Contract := do
  let ecosystem := (← context).ecosystemId
  let name := ContractName.qualify ecosystem target
  match (← registry).lookupByName name ecosystem with
  | some contract => pure contract
  | none => throw (.unknownContract name)

/-- Runs `body` in the place of a contract that is called, and gives what it leaves in the result
slot. The caller finds its environment as it was, with the fuel that is left. -/
def nested (contract : Contract) (fields : Row) (body : Run Unit) : Run Value := do
  enter contract.name
  let caller ← env
  modifyEnv fun env => calleeEnv env contract.name fields
  let outcome ← attempt body
  let left ← env
  modifyEnv fun _ => caller.setFuel left.fuel
  leave contract.name
  match outcome with
  | .ok () => pure left.result
  | .error e => throw e

/-- Calls a contract, with at most `depth` calls inside each other. -/
def callContract (params : SystemParameters) : (depth : Nat) → Call
  | 0, target, _ => throw (.contractLoop target)
  | depth + 1, target, fields => do
    let contract ← callee target
    nested contract fields (runProgram params (callContract params depth) contract.program)

end Covenant.Run
