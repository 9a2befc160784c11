import Covenant.Text.Blank
import Covenant.Text.Numeral

/-!
# Fuel

How much a transaction may spend, what it is charged for its size, and what it has spent in the end.
-/

namespace Covenant

/-- The spending limit and what has been spent of it. -/
structure FuelLedger where
  /-- What may be spent. -/
  limit : Int
  /-- What has been spent. -/
  consumed : Int
  deriving DecidableEq, Repr

namespace Fuel

/-- The spending limit of a transaction: the amount that it declares, if that is a numeral and not
negative, and otherwise the limit of the network. -/
def limitFor (declared : Option String) (maxCost : Int) : Int :=
  match declared.bind fun text => Text.readQuantity? (Text.trim text.toList) with
  | some amount => if 0 ≤ amount then amount else maxCost
  | none => maxCost

/-- The charge for the size of a transaction, at a price for 1024 bytes. -/
def forSize (price size : Int) : Int :=
  Int.tdiv (Quantity.mul price size) 1024

/-- What a run has spent that began with `before` and left `remaining`. A run that has overspent has
spent everything. -/
def spent (before remaining : Int) : Int :=
  if remaining < 0 then max before 0 else max (Quantity.sub before remaining) 0

end Fuel

namespace FuelLedger

/-- Nothing has been spent. -/
def new (limit : Int) : FuelLedger := ⟨limit, 0⟩

/-- Adds what a run has spent. -/
def record (ledger : FuelLedger) (before remaining : Int) : FuelLedger :=
  { ledger with consumed := Quantity.add ledger.consumed (Fuel.spent before remaining) }

end FuelLedger

end Covenant
