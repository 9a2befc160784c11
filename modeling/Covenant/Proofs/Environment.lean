import Covenant.Environment
import Covenant.Proofs.Dict

/-!
# Slots

Every write to an environment concerns one slot, and fields concern only slots without a meaning of
their own. What stands in all other slots is found there as before.
-/

namespace Covenant

namespace Environment

variable {key other : EnvKey}

@[simp]
theorem get?_set_self (env : Environment) (key : EnvKey) (value : Value) :
    (env.set key value).get? key = some value :=
  Assoc.find?_insert_self _ _ _

theorem get?_set_of_ne (env : Environment) (hne : other ≠ key) (value : Value) :
    (env.set key value).get? other = env.get? other :=
  Assoc.find?_insert_of_ne hne _ _

theorem get?_remove (env : Environment) (key other : EnvKey) :
    (env.remove key).get? other = if key = other then none else env.get? other :=
  Dict.find?_erase _ _ _

theorem get?_remove_of_ne (env : Environment) (hne : other ≠ key) :
    (env.remove key).get? other = env.get? other := by
  rw [get?_remove, if_neg hne.symm]

/-- Fields leave the slots alone that have a meaning of their own. -/
theorem get?_addFields (env : Environment) (hkey : key.isWellKnown = true)
    (fields : List (String × Value)) : (env.addFields fields).get? key = env.get? key := by
  unfold addFields
  induction fields generalizing env with
  | nil => rfl
  | cons field rest ih =>
    have hfield : (env.addField field).get? key = env.get? key := by
      unfold addField
      dsimp only
      split
      next => rfl
      next hown =>
        refine get?_set_of_ne env ?_ _
        rintro rfl
        exact hown hkey
    rw [List.foldl_cons, ih, hfield]

/-- Fuel is what stands in its slot. -/
theorem fuel_congr {env next : Environment} (h : next.get? .txCost = env.get? .txCost) :
    next.fuel = env.fuel := by
  unfold fuel
  rw [h]

@[simp]
theorem fuel_setFuel (env : Environment) (fuel : Int) : (env.setFuel fuel).fuel = fuel := by
  unfold Environment.fuel setFuel
  rw [get?_set_self]
  rfl

@[simp]
theorem fuel_charge (env : Environment) (amount : Int) :
    (env.charge amount).fuel = Quantity.sub env.fuel amount := by
  unfold charge
  rw [fuel_setFuel]

theorem fuel_set (env : Environment) (hkey : key ≠ .txCost) (value : Value) :
    (env.set key value).fuel = env.fuel :=
  fuel_congr (get?_set_of_ne env hkey.symm value)

end Environment

end Covenant
