/-!
# The stack of active contracts

A contract may be active only once at a time, so no contract can call itself, directly or through
others.
-/

namespace Covenant

/-- The active contracts, outermost first. -/
structure CallStack where
  /-- The names of the contracts. -/
  names : List String
  deriving DecidableEq, Repr

namespace CallStack

/-- No contract is active. -/
def empty : CallStack := ⟨[]⟩

/-- The contract is active. -/
def contains (stack : CallStack) (name : String) : Bool :=
  stack.names.contains name

/-- Enters a contract, unless it is active already. -/
def push? (stack : CallStack) (name : String) : Option CallStack :=
  if stack.contains name then none else some ⟨stack.names ++ [name]⟩

/-- Leaves the innermost contract, if it is the given one. -/
def pop? (stack : CallStack) (name : String) : Option CallStack :=
  if stack.names.getLast? = some name then some ⟨stack.names.dropLast⟩ else none

/-- Leaves a contract if it is the innermost. -/
def pop (stack : CallStack) (name : String) : CallStack :=
  (stack.pop? name).getD stack

/-- The number of active contracts. -/
def depth (stack : CallStack) : Nat :=
  stack.names.length

end CallStack

end Covenant
