import Covenant.Dict

/-!
# Programs

What contract sources compile to: units with methods, which are lists of statements.
-/

namespace Covenant

/-- An argument of a statement. -/
inductive Operand where
  /-- The slot of this name. -/
  | variable (name : String)
  | int (value : Int)
  | text (value : String)
  deriving DecidableEq, Repr

/-- A statement. -/
inductive Statement where
  /-- Spend fuel. -/
  | charge (amount : Int)
  /-- Set a slot of contract code. -/
  | set (name : String) (value : Operand)
  /-- Call a contract by its full name. -/
  | call (target : String) (fields : List (String × Operand))
  | insert (table : String) (values : List (String × Operand))
  | update (table : String) (id : Operand) (values : List (String × Operand))
  | select (table : String) (id : Operand) (columns : List String)
  /-- Fail unless a condition holds. -/
  | require (expression : String)
  /-- Fail unless a parameter's value, or its conditions, hold. -/
  | condition (param : String) (useConditions : Bool)
  /-- Switch a contract on or off. -/
  | activate (tableId ecosystem : Operand) (active : Bool)
  /-- Give a contract another wallet. -/
  | wallet (tableId ecosystem wallet : Operand)
  | notify (key : Operand) (payload : String)
  | result (value : Operand)
  | resultBytes (bytes : List UInt8)
  | fail (text : String)
  /-- Wait for some milliseconds. -/
  | spin (milliseconds : Nat)
  deriving DecidableEq, Repr

/-- The statements of each method of a unit. -/
abbrev Program :=
  Dict String (List Statement)

/-- An input that a contract declares. -/
structure FieldDeclaration where
  /-- The name of the input. -/
  name : String
  /-- The name of its type. -/
  typeName : String
  /-- A transaction may leave the input out. -/
  optional : Bool
  deriving DecidableEq, Repr

/-- The kind of a unit. -/
inductive UnitKind where
  | contract
  /-- A function of the system. It has one method, its body. -/
  | function
  deriving DecidableEq, Repr

/-- A contract or function of a source. -/
structure SourceUnit where
  /-- The name as it is written. -/
  name : String
  kind : UnitKind
  /-- The declared inputs, in order. -/
  fields : List FieldDeclaration
  /-- The methods, in the order of their names. -/
  methods : Program
  /-- The full names of the contracts that the unit calls, sorted. -/
  used : List String
  deriving DecidableEq, Repr

/-- The names of a unit's methods, sorted. -/
def SourceUnit.methodNames (unit : SourceUnit) : List String :=
  unit.methods.map Prod.fst

end Covenant
