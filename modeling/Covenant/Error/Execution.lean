import Covenant.Error.Basic
import Covenant.Json.Writer

/-!
# Errors of runs and executions

A run of contract code ends with a `RuntimeError`, and an execution that rejects its transaction
with an `ExecutionError`. Clients see these errors as JSON objects where that is possible.
-/

namespace Covenant

/-- Errors of a run of contract code. -/
inductive RuntimeError where
  /-- The words of contract code, or of a statement that cannot go on. -/
  | domain (text : String)
  | resourceExhausted (spent limit : Int)
  /-- The run took more milliseconds than it may. -/
  | timeout (elapsed limit : Nat)
  /-- The contract is active already. -/
  | contractLoop (name : String)
  | unknownContract (name : String)
  /-- The result holds bytes that are no text. -/
  | notText
  | access (cause : AccessError)
  | evaluation (cause : EvalError)
  /-- The fee of a successful run could not be paid. -/
  | payment (cause : PaymentError)
  | storage (cause : StorageError)
  deriving DecidableEq, Repr

namespace RuntimeError

/-- The error in words. -/
def message : RuntimeError → String
  | .domain text => text
  | .resourceExhausted spent limit => s!"paid cost limit exceeded: {spent} > {limit}"
  | .timeout elapsed limit => s!"time limit exceeded: {elapsed}ms > {limit}ms"
  | .contractLoop name => s!"there is loop in {name} contract"
  | .unknownContract name => s!"unknown contract {name}"
  | .notText => "result is not a valid utf-8 string"
  | .access cause => cause.message
  | .evaluation cause => "evaluation error: " ++ cause.message
  | .payment cause => cause.message
  | .storage cause => cause.message

/-- The kind of the error. -/
def kind : RuntimeError → String
  | .domain _ => "Domain"
  | .resourceExhausted _ _ => "ResourceExhausted"
  | .timeout _ _ => "Timeout"
  | .contractLoop _ => "ContractLoop"
  | .unknownContract _ => "UnknownContract"
  | .notText => "NotValidUtf8"
  | .access cause => "Access/" ++ cause.kind
  | .evaluation _ => "Evaluation"
  | .payment cause => "Payment/" ++ cause.kind
  | .storage cause => "Storage/" ++ cause.kind

/-- The run took too long. -/
def isTimeout : RuntimeError → Bool
  | .timeout _ _ => true
  | _ => false

/-- The fuel ran out. -/
def isResourceExhausted : RuntimeError → Bool
  | .resourceExhausted _ _ => true
  | _ => false

/-- The error as clients see it. A message that starts like an object is left as it is, and so is
that of a run which took too long; any other becomes a member of an object. -/
def clientMessage (error : RuntimeError) : String :=
  if error.message.toList.head? == some '\x7b' || error.isTimeout then error.message
  else (Json.object [("error", .string error.message), ("type", .string "panic")]).render

end RuntimeError

/-- Why a transaction is rejected. Nothing that it did is kept, and it pays no fee. -/
inductive ExecutionError where
  | auth (cause : AuthError)
  /-- The fee cannot be reserved. -/
  | paymentPreparation (cause : PaymentError)
  | contractNotFound (name : String)
  /-- The contract failed and owes no fee. -/
  | runtime (cause : RuntimeError)
  /-- The contract failed, and so did the payment of the fee. -/
  | settlement (primary : RuntimeError) (settlement : PaymentError)
  | storage (cause : StorageError)
  deriving DecidableEq, Repr

namespace ExecutionError

/-- The error in words. -/
def message : ExecutionError → String
  | .auth cause => cause.message
  | .paymentPreparation cause => "prepare payment: " ++ cause.message
  | .contractNotFound name => s!"contract {name} is not found"
  | .runtime cause => cause.message
  | .settlement primary fee => primary.message ++ ": " ++ fee.message
  | .storage cause => cause.message

/-- The kind of the error. -/
def kind : ExecutionError → String
  | .auth cause => "Auth/" ++ cause.kind
  | .paymentPreparation cause => "PaymentPreparation/" ++ cause.kind
  | .contractNotFound _ => "ContractNotFound"
  | .runtime cause => "Runtime/" ++ cause.kind
  | .settlement primary fee => "Settlement/" ++ primary.kind ++ "+" ++ fee.kind
  | .storage cause => "Storage/" ++ cause.kind

/-- The run took too long. -/
def isTimeout : ExecutionError → Bool
  | .runtime cause => cause.isTimeout
  | .settlement primary _ => primary.isTimeout
  | _ => false

/-- The transaction can never be accepted. A node that is slow or whose storage fails may accept it
another time. -/
def excludesTransaction (error : ExecutionError) : Bool :=
  match error with
  | .storage _ => false
  | _ => !error.isTimeout

/-- The error as clients see it. -/
def clientMessage : ExecutionError → String
  | .runtime cause => cause.clientMessage
  | error => error.message

end ExecutionError

end Covenant
