import Covenant.Registry.Basic

/-!
# Contracts that a contract leads to

The contracts that a contract calls, and those that they call in turn. A walk goes depth first and
lists every name once; names that are not registered are listed and not followed.
-/

namespace Covenant.Registry

/-- A walk over calls. -/
structure CallWalk where
  /-- The names found, latest first. -/
  listed : List String
  /-- The names that were followed, or would have been had they been registered. -/
  expanded : List String

/-- Looks at the calls of one contract: lists the new names, and gives the contracts to follow. -/
def expandCalls (registry : Registry) (ecosystem : Int) (transitive : Bool) :
    List String → CallWalk → CallWalk × List Contract
  | [], walk => (walk, [])
  | name :: rest, walk =>
    let walk := if walk.listed.contains name then walk
      else { walk with listed := name :: walk.listed }
    if transitive && !walk.expanded.contains name then
      let walk := { walk with expanded := name :: walk.expanded }
      let (walk, children) := expandCalls registry ecosystem transitive rest walk
      match registry.lookupByName name ecosystem with
      | some child => (walk, child :: children)
      | none => (walk, children)
    else expandCalls registry ecosystem transitive rest walk

/-- Follows contracts, the next one first, by `fuel` at most. -/
def followCalls (registry : Registry) (ecosystem : Int) (transitive : Bool) :
    (fuel : Nat) → List Contract → CallWalk → CallWalk
  | 0, _, walk => walk
  | _ + 1, [], walk => walk
  | fuel + 1, contract :: waiting, walk =>
    let (walk, children) := expandCalls registry ecosystem transitive contract.used walk
    followCalls registry ecosystem transitive fuel (children ++ waiting) walk

/-- The number of calls in all contracts. Every contract but the first is followed because of a
call that no other contract is followed for. -/
def callCount (registry : Registry) : Nat :=
  (registry.contracts.flatMap (·.used)).length

/-- The names of the contracts that a contract calls, and with `transitive` of those that they lead
to, in the order in which a walk meets them. -/
def usedContracts (registry : Registry) (name : String) (ecosystem : Int) (transitive : Bool) :
    List String :=
  match registry.lookupByName name ecosystem with
  | none => []
  | some root =>
    (followCalls registry ecosystem transitive (registry.callCount + 1) [root]
      ⟨[], [root.name]⟩).listed.reverse

end Covenant.Registry
