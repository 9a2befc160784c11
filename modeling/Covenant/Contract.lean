import Covenant.Json.Writer
import Covenant.Script.Program

/-!
# Registered contracts

A contract as the registry holds it: its place, its full name, whom it belongs to, and its program.
-/

namespace Covenant

/-- What a contract takes over from the record that holds its source. -/
structure Ownership where
  /-- The ecosystem that owns the contract. -/
  ecosystemId : Int
  /-- The id of the record. -/
  tableId : Int
  /-- The wallet that earns the contract's fees; zero if there is none. -/
  walletId : Int
  /-- The token in which the contract is paid. -/
  tokenId : Int
  /-- The contract is switched on. -/
  active : Bool
  deriving DecidableEq, Repr

namespace Ownership

/-- The owner of a contract that comes from no record. -/
def none : Ownership := ⟨0, 0, 0, 0, false⟩

/-- The JSON form. -/
def toJson (owner : Ownership) : Json :=
  .object [("ecosystem_id", .int owner.ecosystemId), ("table_id", .int owner.tableId),
    ("wallet_id", .int owner.walletId), ("token_id", .int owner.tokenId),
    ("active", .bool owner.active)]

end Ownership

/-- A registered contract. -/
structure Contract where
  /-- The place in the registry. -/
  id : Nat
  /-- The full name. -/
  name : String
  owner : Ownership
  /-- The declared inputs. -/
  fields : List FieldDeclaration
  /-- The full names of the contracts that this one calls, sorted. -/
  used : List String
  program : Program
  deriving DecidableEq, Repr

namespace Contract

/-- The names of the methods, sorted. -/
def methodNames (contract : Contract) : List String :=
  contract.program.map Prod.fst

/-- The contract has a method. -/
def hasMethod (contract : Contract) (name : String) : Bool :=
  contract.methodNames.contains name

end Contract

end Covenant
