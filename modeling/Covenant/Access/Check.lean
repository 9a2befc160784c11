import Covenant.Access.Rule
import Covenant.Condition.Parser
import Covenant.Execution.Context
import Covenant.Parameters
import Covenant.Storage.Connection

/-!
# Access checks

Whether a running contract may use a table, a column or a parameter. Permissions are conditions,
evaluated in the environment of the contract with full fuel, so that a check costs nothing. The
tables of parameters are privileged: everybody may read them, and only the founder of an ecosystem
may write them. With full access nothing is checked.
-/

namespace Covenant.Access

/-- The parameter that names the founder of an ecosystem. -/
def founderParameter : String := "founder_account"

/-- The tables that only a founder may write. -/
def privilegedTables : List String :=
  ["1_parameters", "1_app_params"]

/-- The environment in which conditions are evaluated. -/
def conditionEnv (params : SystemParameters) (ctx : ExecutionContext) : Environment :=
  ctx.env.setFuel params.maxCost

/-- Whether a condition holds. -/
def conditionHolds (params : SystemParameters) (ctx : ExecutionContext) (expression : String) :
    Except AccessError Bool :=
  (Condition.holds expression (conditionEnv params ctx)).mapError .evaluation

/-- The table is privileged. -/
def isPrivileged (ctx : ExecutionContext) (table : String) : Bool :=
  privilegedTables.contains (TableName.qualify table ctx.ecosystemId)

/-- The key that a parameter names as founder. -/
def founderOf? (parameter : Option ParameterRecord) : Option Int :=
  parameter.bind fun record => Text.readQuantity? (Text.trim record.value.toList)

/-- Whether the payer is the founder of the transaction's ecosystem. -/
def isFounder (ctx : ExecutionContext) : Storing AccessError Bool := do
  let parameter ← (Storing.parameter ctx.ecosystemId founderParameter).mapError .storage
  return founderOf? parameter == some ctx.tx.keyId

/-- The record of a table. A table without a number has none. -/
def recordOf (table : String) : Storing AccessError (Option TableRecord) :=
  match TableName.split table with
  | (some number, name) => (Storing.table number name).mapError .storage
  | (none, _) => pure none

/-- Checks an action on a table and gives the table's permissions, as far as they were looked at. -/
def tablePermissions (params : SystemParameters) (ctx : ExecutionContext) (table : String)
    (action : TableAction) : Storing AccessError (Dict String String) := do
  if isPrivileged ctx table then
    if !action.isWrite then pure []
    else if ← isFounder ctx then pure []
    else throw (.accessDenied .system)
  else
    match ← recordOf table with
    | none => if action.isWrite then throw (.notCustomTable table) else pure []
    | some record =>
      let condition := record.permission action
      if condition.isEmpty then pure record.permissions
      else if ← Storing.ofExcept (conditionHolds params ctx condition) then pure record.permissions
      else throw (.accessDenied .table)

/-- Checks an action on a table. -/
def checkTable (params : SystemParameters) (ctx : ExecutionContext) (table : String)
    (action : TableAction) : Storing AccessError Unit :=
  if ctx.flags.fullAccess then pure ()
  else do
    let _ ← tablePermissions params ctx table action

/-- A request for columns with every `*` replaced by the columns that have rules. -/
def expandColumns (rules : Dict String String) (columns : List String) : List String :=
  columns.flatMap fun column => if column == "*" then Dict.keys rules else [column]

/-- Whether the rule of a column, given in its normal form, allows an access. A column without a
rule or without a condition is allowed. -/
def columnVerdict (params : SystemParameters) (ctx : ExecutionContext)
    (rules : Dict String String) (update : Bool) (column : String) : Except AccessError Bool :=
  match (Dict.find? column rules).filter (!·.isEmpty) with
  | none => .ok true
  | some rule =>
    match ColumnRule.parse column rule with
    | .error e => .error e
    | .ok rule =>
      let condition := if update then rule.update else rule.read
      if condition.isEmpty then .ok true else conditionHolds params ctx condition

/-- What a walk over columns has found: the verdicts by normal form, and the allowed columns, latest
first. -/
structure Walk where
  checked : Assoc String Bool
  allowed : List String

/-- The verdict of a column, which is looked up if its normal form was met before. -/
def Walk.verdict (walk : Walk) (judge : String → Except AccessError Bool) (column : String) :
    Except AccessError (Bool × Walk) :=
  let name := ColumnName.normalize column
  match Assoc.find? name walk.checked with
  | some permitted => .ok (permitted, walk)
  | none =>
    match judge name with
    | .error e => .error e
    | .ok permitted =>
      .ok (permitted, { walk with checked := Assoc.insert name permitted walk.checked })

/-- Walks over columns. An update ends at the first column that is refused. -/
def walkColumns (judge : String → Except AccessError Bool) (update : Bool) (walk : Walk) :
    List String → Except AccessError Walk
  | [] => .ok walk
  | column :: rest =>
    match walk.verdict judge column with
    | .error e => .error e
    | .ok (true, walk) =>
      walkColumns judge update { walk with allowed := column :: walk.allowed } rest
    | .ok (false, walk) =>
      if update then .error (.accessDenied .column) else walkColumns judge update walk rest

/-- The columns of a request that the rules allow. A read leaves the others out, and fails if
nothing remains; an update fails if any is refused. -/
def allowedColumns (judge : String → Except AccessError Bool) (update : Bool)
    (requested : List String) : Except AccessError (List String) :=
  match walkColumns judge update ⟨[], []⟩ requested with
  | .error e => .error e
  | .ok walk =>
    if walk.allowed.isEmpty && !walk.checked.isEmpty then .error (.accessDenied .column)
    else .ok walk.allowed.reverse

/-- Checks columns of a table and gives those that may be used. -/
def checkColumns (params : SystemParameters) (ctx : ExecutionContext) (table : String)
    (columns : List String) (update : Bool) : Storing AccessError (List String) := do
  if ctx.flags.fullAccess then pure columns
  else if isPrivileged ctx table then
    if !update then pure columns
    else if ← isFounder ctx then pure columns
    else throw (.accessDenied .system)
  else
    match ← recordOf table with
    | none => if update then throw (.tableNotFound table) else pure columns
    | some record =>
      Storing.ofExcept (allowedColumns (columnVerdict params ctx record.columns update) update
        (expandColumns record.columns columns))

/-- Checks the condition that a parameter holds, or the conditions for changing it. -/
def checkCondition (params : SystemParameters) (ctx : ExecutionContext) (param : String)
    (useConditions : Bool) : Storing AccessError Unit :=
  if ctx.flags.fullAccess then pure ()
  else do
    let found ← (Storing.parameter ctx.ecosystemId param).mapError .storage
    let record := found.getD ParameterRecord.empty
    let condition := if useConditions then record.conditions else record.value
    if condition.isEmpty then throw (.missingCondition param)
    else if ← Storing.ofExcept (conditionHolds params ctx condition) then pure ()
    else throw (.accessDenied .condition)

/-- What a read may use. -/
structure ReadAccess where
  /-- The full name of the table. -/
  table : String
  /-- The permissions of the table, if they were looked at. -/
  permissions : Dict String String
  columns : List String

/-- Checks a read of columns given as text. Reads are free unless the chain is private. -/
def checkRead (params : SystemParameters) (ctx : ExecutionContext) (table columns : String)
    (ecosystem : Int) : Storing AccessError ReadAccess := do
  let table := TableName.qualify table ecosystem
  let requested := ColumnName.parseList columns
  if !params.privateChain || ctx.flags.fullAccess then return ⟨table, [], requested⟩
  else
    let permissions ← tablePermissions params ctx table .read
    let allowed ← checkColumns params ctx table requested false
    return ⟨table, permissions, allowed⟩

end Covenant.Access
