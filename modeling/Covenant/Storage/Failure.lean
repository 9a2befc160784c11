import Covenant.Dict
import Covenant.Error.Basic

/-!
# Failing storage

Storage may fail at any call. Which calls fail is a schedule: for every kind of call and every
number of such calls made before, the error that the next one meets, if any. A call that fails does
nothing else.
-/

namespace Covenant

/-- The calls that storage can refuse. -/
inductive StorageCall where
  | count
  | pagedList
  | listByEcosystem
  | key
  | table
  | parameter
  | isDelayedContract
  | insertRow
  | updateRow
  | selectRow
  | createSavepoint
  | rollbackTo
  | release
  | commit
  | begin
  deriving DecidableEq, Repr

/-- A schedule of failures and the calls made so far. -/
structure Failures where
  /-- The error of a call that has so many of its kind before it. -/
  schedule : StorageCall → Nat → Option StorageError
  /-- The number of calls of each kind. -/
  made : Assoc StorageCall Nat

namespace Failures

/-- No call fails. -/
def none : Failures := ⟨fun _ _ => .none, []⟩

instance : Inhabited Failures := ⟨none⟩

/-- The number of calls of a kind. -/
def madeOf (failures : Failures) (call : StorageCall) : Nat :=
  (Assoc.find? call failures.made).getD 0

/-- The error of the next call of a kind. -/
def next (failures : Failures) (call : StorageCall) : Option StorageError :=
  failures.schedule call (failures.madeOf call)

/-- One more call of a kind has been made. -/
def count (failures : Failures) (call : StorageCall) : Failures :=
  { failures with made := Assoc.insert call (failures.madeOf call + 1) failures.made }

end Failures

end Covenant
