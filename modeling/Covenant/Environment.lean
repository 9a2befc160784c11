import Covenant.Account
import Covenant.Environment.Key
import Covenant.Value

/-!
# Environments

The named values that contract code sees during one transaction. A key holds at most one value, and
the order of the slots has no meaning.
-/

namespace Covenant

/-- The slots that are set. -/
structure Environment where
  /-- The values under their keys. -/
  slots : Assoc EnvKey Value

namespace Environment

/-- No slot is set. -/
def empty : Environment := ⟨[]⟩

instance : Inhabited Environment := ⟨empty⟩

/-- The value of a slot. -/
def get? (env : Environment) (key : EnvKey) : Option Value :=
  Assoc.find? key env.slots

/-- The value of the slot that contract code means by a name. -/
def lookup? (env : Environment) (name : String) : Option Value :=
  env.get? (.ofName name)

/-- Sets a slot. -/
def set (env : Environment) (key : EnvKey) (value : Value) : Environment :=
  ⟨Assoc.insert key value env.slots⟩

/-- Clears a slot. -/
def remove (env : Environment) (key : EnvKey) : Environment :=
  ⟨Assoc.erase key env.slots⟩

/-- The number of slots that are set. -/
def size (env : Environment) : Nat :=
  env.slots.length

/-- Sets the slot of a field, unless the name is one of those with a meaning of their own. -/
def addField (env : Environment) (field : String × Value) : Environment :=
  let key := EnvKey.ofName field.1
  if key.isWellKnown then env else env.set key field.2

/-- Sets the slots of all fields that have names of their own. -/
def addFields (env : Environment) (fields : List (String × Value)) : Environment :=
  fields.foldl addField env

/-- The names among the fields that are passed over. -/
def shadowedNames (fields : List (String × Value)) : List String :=
  (fields.map Prod.fst).filter fun name => (EnvKey.ofName name).isWellKnown

/-- The fuel that is left; a slot that holds no integer counts as zero. -/
def fuel (env : Environment) : Int :=
  ((env.get? .txCost).bind Value.asInt?).getD 0

/-- Sets the fuel that is left. -/
def setFuel (env : Environment) (fuel : Int) : Environment :=
  env.set .txCost (.int fuel)

/-- Takes an amount off the fuel, below zero if need be. -/
def charge (env : Environment) (amount : Int) : Environment :=
  env.setFuel (Quantity.sub env.fuel amount)

/-- The result, which is null until it is set. -/
def result (env : Environment) : Value :=
  (env.get? .result).getD .null

/-- The names in the slot for the active contracts. -/
def stack (env : Environment) : List String :=
  match env.get? .stack with
  | some (.list items) => items.map Value.display
  | _ => []

/-- The key id of guests. -/
def guestKey : Int := 4544233900443112470

/-- The key id to which burnt tokens go. -/
def blackHoleKey : Int := 0

/-- The key id from which minted tokens come. -/
def whiteHoleKey : Int := 5555555555555555555

/-- Sets the slots of the accounts that every contract knows. -/
def addKnownAccounts (env : Environment) : Environment :=
  ((((((env.set .guestKey (.int guestKey)).set .guestAccount (.text (Account.ofKeyId guestKey))).set
    .blackHoleKey (.int blackHoleKey)).set .blackHoleAccount
    (.text (Account.ofKeyId blackHoleKey))).set .whiteHoleKey (.int whiteHoleKey)).set
    .whiteHoleAccount (.text (Account.ofKeyId whiteHoleKey)))

end Environment

end Covenant
