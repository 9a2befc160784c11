import Covenant.Condition.Token
import Covenant.Environment

/-!
# Conditions as trees

The tree of a condition and its value in an environment. Every operand is evaluated, from left to
right, also where the value of the whole is known before. Where the tokens do not follow the grammar
the tree has a `broken` leaf, so a condition fails with the first thing that is wrong in it, be it a
token out of place or a variable without a value.
-/

namespace Covenant.Condition

/-- The tree of a condition. -/
inductive Expr where
  | literal (value : Value)
  | variable (name : String)
  | not (operand : Expr)
  | and (left right : Expr)
  | or (left right : Expr)
  | compare (comparison : Comparison) (left right : Expr)
  /-- A parenthesis that is not closed. -/
  | unclosed (inside : Expr)
  /-- Tokens that follow no rule. -/
  | broken (error : EvalError)

/-- The comparison of two integers. -/
def Comparison.ofInts : Comparison → Int → Int → Bool
  | .equal, a, b => a == b
  | .notEqual, a, b => a != b
  | .less, a, b => a < b
  | .lessOrEqual, a, b => a ≤ b
  | .greater, a, b => b < a
  | .greaterOrEqual, a, b => b ≤ a

/-- Both values as integers, unless one is a truth value. -/
def asInts? : Value → Value → Option (Int × Int)
  | .bool _, _ => none
  | _, .bool _ => none
  | a, b => a.asInt?.bind fun x => b.asInt?.map fun y => (x, y)

/-- Compares two values: as integers if both can be read as such, and otherwise as texts, which can
be equal but have no order. -/
def Comparison.ofValues (comparison : Comparison) (a b : Value) : Except EvalError Bool :=
  match asInts? a b with
  | some (x, y) => .ok (comparison.ofInts x y)
  | none =>
    match comparison with
    | .equal => .ok (a.display == b.display)
    | .notEqual => .ok (a.display != b.display)
    | _ => .error (.unordered a.display b.display)

namespace Expr

/-- The value of a condition. -/
def eval (env : Environment) : Expr → Except EvalError Value
  | .literal value => .ok value
  | .variable name =>
    match env.lookup? name with
    | some value => .ok value
    | none => .error (.unknownVariable name)
  | .not operand => do
    let value ← operand.eval env
    .ok (.bool (!value.isTruthy))
  | .and left right => do
    let a ← left.eval env
    let b ← right.eval env
    .ok (.bool (a.isTruthy && b.isTruthy))
  | .or left right => do
    let a ← left.eval env
    let b ← right.eval env
    .ok (.bool (a.isTruthy || b.isTruthy))
  | .compare comparison left right => do
    let a ← left.eval env
    let b ← right.eval env
    let holds ← comparison.ofValues a b
    .ok (.bool holds)
  | .unclosed inside => do
    let _ ← inside.eval env
    .error .missingParenthesis
  | .broken error => .error error

end Expr

end Covenant.Condition
