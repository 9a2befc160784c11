import Covenant.Registry.Basic

/-!
# Contracts of a record

A change of ownership is recorded with the value that the first contract of a record had before, and
taking it back gives that value to all of them. This restores the registry because the contracts of
a record share one ownership, which every change keeps.
-/

namespace Covenant

/-- The object with another ownership, if it is a contract of the ecosystem. -/
def RegistryObject.reown (ecosystem : Int) (change : Ownership → Ownership) :
    RegistryObject → RegistryObject
  | .contract c =>
    if c.owner.ecosystemId = ecosystem then .contract { c with owner := change c.owner }
    else .contract c
  | .function name => .function name

namespace Registry

/-- A change of ownership that can be made twice, and that leaves a contract with its record. -/
structure Overwrites (change : Ownership → Ownership) : Prop where
  twice : ∀ owner, change (change owner) = change owner
  ecosystemId : ∀ owner, (change owner).ecosystemId = owner.ecosystemId
  tableId : ∀ owner, (change owner).tableId = owner.tableId

/-- The places of the contracts of a record. -/
def places (registry : Registry) (tableId : Int) : List Nat :=
  (Assoc.find? tableId registry.byTable).getD []

/-- The contracts of a record have this ownership. -/
def OwnedBy (registry : Registry) (tableId : Int) (owner : Ownership) : Prop :=
  ∀ index ∈ registry.places tableId,
    ∃ contract, registry.contractAt? index = some contract ∧ contract.owner = owner

/-- The contracts of every record are there and share one ownership, which names the record. -/
def Coherent (registry : Registry) : Prop :=
  ∀ tableId, ∃ owner : Ownership, owner.tableId = tableId ∧ registry.OwnedBy tableId owner

/-- The registry with another ownership for the contracts of a record in an ecosystem. -/
def reown (registry : Registry) (tableId ecosystem : Int) (change : Ownership → Ownership) :
    Registry :=
  { registry with
    objects := (registry.places tableId).foldl
      (fun objects index => setOwner ecosystem change index objects) registry.objects }

@[simp] theorem places_reown (registry : Registry) (tableId ecosystem other : Int)
    (change : Ownership → Ownership) :
    (registry.reown tableId ecosystem change).places other = registry.places other :=
  rfl

section Objects

variable {ecosystem : Int} {change : Ownership → Ownership}

private theorem setOwner_eq (index : Nat) (objects : List RegistryObject) :
    setOwner ecosystem change index objects =
      objects.modify index (RegistryObject.reown ecosystem change) := by
  unfold setOwner
  congr 1
  funext object
  cases object <;> rfl

private theorem reown_twice (hchange : Overwrites change) (object : RegistryObject) :
    (object.reown ecosystem change).reown ecosystem change = object.reown ecosystem change := by
  cases object with
  | function name => rfl
  | contract contract =>
    by_cases heco : contract.owner.ecosystemId = ecosystem
    · simp [RegistryObject.reown, heco, hchange.ecosystemId, hchange.twice]
    · simp [RegistryObject.reown, heco]

/-- Changing the objects at several places changes those and no others, however often a place is
named. -/
theorem getElem?_foldl_setOwner (hchange : Overwrites change) (indices : List Nat)
    (objects : List RegistryObject) (i : Nat) :
    (indices.foldl (fun objects index => setOwner ecosystem change index objects) objects)[i]? =
      if i ∈ indices then objects[i]?.map (RegistryObject.reown ecosystem change)
      else objects[i]? := by
  induction indices generalizing objects with
  | nil => simp
  | cons index rest ih =>
    rw [List.foldl_cons, ih, setOwner_eq, List.getElem?_modify]
    by_cases hindex : index = i
    · subst hindex
      have htwice : RegistryObject.reown ecosystem change ∘ RegistryObject.reown ecosystem change =
          RegistryObject.reown ecosystem change := funext (reown_twice hchange)
      simp [Option.map_map, htwice]
    · simp [hindex, Ne.symm hindex]

variable {registry : Registry} {tableId : Int} {owner : Ownership}

private theorem objects_of_contractAt? {contract : Contract} {i : Nat}
    (h : registry.contractAt? i = some contract) :
    registry.objects[i]? = some (.contract contract) := by
  obtain ⟨object, hobject, hcontract⟩ := Option.bind_eq_some_iff.mp h
  cases object with
  | function name => simp [RegistryObject.contract?] at hcontract
  | contract found =>
    obtain rfl : found = contract := by simpa [RegistryObject.contract?] using hcontract
    exact hobject

/-- A contract of the record in the ecosystem has the changed ownership. -/
theorem contractAt?_reown (hchange : Overwrites change) (howned : registry.OwnedBy tableId owner)
    (heco : owner.ecosystemId = ecosystem) (i : Nat) :
    (registry.reown tableId ecosystem change).contractAt? i =
      if i ∈ registry.places tableId then
        (registry.contractAt? i).map fun contract => { contract with owner := change owner }
      else registry.contractAt? i := by
  unfold contractAt? reown
  rw [getElem?_foldl_setOwner hchange]
  split
  next hmem =>
    obtain ⟨contract, hat, howner⟩ := howned i hmem
    simp [objects_of_contractAt? hat, RegistryObject.contract?, RegistryObject.reown, howner, heco]
  next => rfl

end Objects

variable {registry changed : Registry} {tableId ecosystem : Int} {owner previous : Ownership}
  {change back : Ownership → Ownership}

/-- The contracts of a record in an ecosystem are all those of the record, or none. -/
theorem head?_contractsOfRecord (howned : registry.OwnedBy tableId owner) (ecosystem : Int) :
    ((registry.contractsOfRecord tableId ecosystem).head?).map Contract.owner =
      if registry.places tableId ≠ [] ∧ owner.ecosystemId = ecosystem then some owner else none := by
  have hall : ∀ contract ∈ (registry.places tableId).filterMap registry.contractAt?,
      contract.owner = owner := by
    intro contract hmem
    obtain ⟨index, hindex, hat⟩ := List.mem_filterMap.mp hmem
    obtain ⟨found, hfound, howner⟩ := howned index hindex
    obtain rfl : contract = found := Option.some.inj (hat.symm.trans hfound)
    exact howner
  change ((((registry.places tableId).filterMap registry.contractAt?).filter
    (·.owner.ecosystemId == ecosystem)).head?).map Contract.owner = _
  by_cases heco : owner.ecosystemId = ecosystem
  · have hkept : ((registry.places tableId).filterMap registry.contractAt?).filter
        (·.owner.ecosystemId == ecosystem) =
          (registry.places tableId).filterMap registry.contractAt? :=
      List.filter_eq_self.mpr fun contract hmem => by simp [hall contract hmem, heco]
    rw [hkept]
    cases hplaces : registry.places tableId with
    | nil => simp
    | cons index rest =>
      obtain ⟨contract, hat, howner⟩ := howned index (by simp [hplaces])
      simp [hat, howner, heco]
  · have hnone : ((registry.places tableId).filterMap registry.contractAt?).filter
        (·.owner.ecosystemId == ecosystem) = [] :=
      List.filter_eq_nil_iff.mpr fun contract hmem => by simp [hall contract hmem, heco]
    simp [hnone, heco]

/-- A change of ownership changes all contracts of the record or none, and gives what they had. -/
theorem changeOwner_eq (howned : registry.OwnedBy tableId owner) :
    registry.changeOwner tableId ecosystem change =
      if registry.places tableId ≠ [] ∧ owner.ecosystemId = ecosystem then
        (some owner, registry.reown tableId ecosystem change)
      else (none, registry) := by
  have hhead := head?_contractsOfRecord howned ecosystem
  unfold changeOwner
  split at hhead
  next h =>
    obtain ⟨first, hfirst, howner⟩ := Option.map_eq_some_iff.mp hhead
    rw [hfirst, if_pos h, ← howner]
    rfl
  next h =>
    rw [Option.map_eq_none_iff.mp hhead, if_neg h]

/-- The contracts of the record have the changed ownership. -/
theorem OwnedBy.reown (howned : registry.OwnedBy tableId owner) (hchange : Overwrites change)
    (heco : owner.ecosystemId = ecosystem) :
    (registry.reown tableId ecosystem change).OwnedBy tableId (change owner) := by
  intro i hi
  rw [places_reown] at hi
  obtain ⟨contract, hat, -⟩ := howned i hi
  refine ⟨{ contract with owner := change owner }, ?_, rfl⟩
  rw [contractAt?_reown hchange howned heco, if_pos hi, hat]
  rfl

/-- The contracts of every record share one ownership also after a change. -/
theorem Coherent.reown (hregistry : registry.Coherent) (hchange : Overwrites change)
    (howned : registry.OwnedBy tableId owner) (hrecord : owner.tableId = tableId)
    (heco : owner.ecosystemId = ecosystem) :
    (registry.reown tableId ecosystem change).Coherent := by
  intro other
  by_cases hother : other = tableId
  · subst hother
    exact ⟨change owner, (hchange.tableId owner).trans hrecord, howned.reown hchange heco⟩
  · obtain ⟨otherOwner, hotherRecord, hotherOwned⟩ := hregistry other
    refine ⟨otherOwner, hotherRecord, fun i hi => ?_⟩
    obtain ⟨contract, hat, howner⟩ := hotherOwned i hi
    have hnot : i ∉ registry.places tableId := by
      intro hmem
      obtain ⟨same, hsame, hsameOwner⟩ := howned i hmem
      obtain rfl : contract = same := Option.some.inj (hat.symm.trans hsame)
      exact hother (by rw [← hotherRecord, ← howner, hsameOwner, hrecord])
    exact ⟨contract, by rw [contractAt?_reown hchange howned heco, if_neg hnot, hat], howner⟩

/-- Giving the contracts of a record what they had restores the registry. -/
theorem reown_reown (hchange : Overwrites change) (hback : Overwrites back)
    (howned : registry.OwnedBy tableId owner) (hrestore : back (change owner) = owner) :
    (registry.reown tableId ecosystem change).reown tableId ecosystem back = registry := by
  have hobjects : ((registry.reown tableId ecosystem change).reown tableId ecosystem back).objects =
      registry.objects := by
    apply List.ext_getElem?
    intro i
    change ((registry.places tableId).foldl _ ((registry.places tableId).foldl _ _))[i]? = _
    rw [getElem?_foldl_setOwner hback, getElem?_foldl_setOwner hchange]
    split
    next hmem =>
      obtain ⟨contract, hat, howner⟩ := howned i hmem
      rw [objects_of_contractAt? hat]
      by_cases heco : owner.ecosystemId = ecosystem
      · simp [RegistryObject.reown, howner, heco, hchange.ecosystemId, hrestore]
        simp [← howner]
      · simp [RegistryObject.reown, howner, heco]
    next => rfl
  calc (registry.reown tableId ecosystem change).reown tableId ecosystem back
      = { registry with objects :=
          ((registry.reown tableId ecosystem change).reown tableId ecosystem back).objects } := rfl
    _ = registry := by rw [hobjects]

/-- A change of ownership keeps the contracts of every record together, and the value that it gives
is enough to take it back. -/
theorem Coherent.changeOwner (hregistry : registry.Coherent) (hchange : Overwrites change)
    (h : registry.changeOwner tableId ecosystem change = (some previous, changed)) :
    changed.Coherent ∧ ∀ back, Overwrites back → back (change previous) = previous →
      (changed.changeOwner tableId ecosystem back).2 = registry := by
  obtain ⟨owner, hrecord, howned⟩ := hregistry tableId
  rw [changeOwner_eq howned] at h
  split at h
  next hall =>
    obtain ⟨hplaces, heco⟩ := hall
    obtain ⟨howner, rfl⟩ := Prod.mk.inj h
    obtain rfl := Option.some.inj howner
    refine ⟨hregistry.reown hchange howned hrecord heco, fun back hback hrestore => ?_⟩
    have hall : (registry.reown tableId ecosystem change).places tableId ≠ [] ∧
        (change owner).ecosystemId = ecosystem :=
      ⟨hplaces, (hchange.ecosystemId owner).trans heco⟩
    rw [changeOwner_eq (howned.reown hchange heco), if_pos hall]
    exact reown_reown hchange hback howned hrestore
  next => simp at h

/-- A change that concerns no contract changes nothing. -/
theorem changeOwner_of_none
    (h : registry.changeOwner tableId ecosystem change = (none, changed)) :
    changed = registry := by
  unfold Registry.changeOwner at h
  split at h
  · exact (Prod.mk.inj h).2.symm
  · simp at h

/-- No change of ownership takes the contracts of a record apart. -/
theorem Coherent.snd_changeOwner (hregistry : registry.Coherent) (hchange : Overwrites change) :
    (registry.changeOwner tableId ecosystem change).2.Coherent := by
  rcases h : registry.changeOwner tableId ecosystem change with ⟨_ | previous, changed⟩
  · rw [changeOwner_of_none h]
    exact hregistry
  · exact (hregistry.changeOwner hchange h).1

theorem overwrites_active (active : Bool) :
    Overwrites fun owner => { owner with active } :=
  ⟨fun _ => rfl, fun _ => rfl, fun _ => rfl⟩

theorem overwrites_wallet (walletId : Int) :
    Overwrites fun owner => { owner with walletId } :=
  ⟨fun _ => rfl, fun _ => rfl, fun _ => rfl⟩

/-- Contracts that were switched on or off are as before once the old flag is set again. -/
theorem Coherent.setActive {active previous : Bool} (hregistry : registry.Coherent)
    (h : registry.setActive tableId ecosystem active = (some previous, changed)) :
    changed.Coherent ∧ (changed.setActive tableId ecosystem previous).2 = registry := by
  obtain ⟨hprevious, hchanged⟩ := Prod.mk.inj h
  obtain ⟨owner, howner, rfl⟩ := Option.map_eq_some_iff.mp hprevious
  obtain ⟨hcoherent, hback⟩ := hregistry.changeOwner (overwrites_active active)
    (Prod.ext howner hchanged)
  exact ⟨hcoherent, hback _ (overwrites_active owner.active) rfl⟩

/-- Contracts that were given another wallet are as before once the old one is set again. -/
theorem Coherent.reassignWallet {walletId previous : Int} (hregistry : registry.Coherent)
    (h : registry.reassignWallet tableId ecosystem walletId = (some previous, changed)) :
    changed.Coherent ∧ (changed.reassignWallet tableId ecosystem previous).2 = registry := by
  obtain ⟨hprevious, hchanged⟩ := Prod.mk.inj h
  obtain ⟨owner, howner, rfl⟩ := Option.map_eq_some_iff.mp hprevious
  obtain ⟨hcoherent, hback⟩ := hregistry.changeOwner (overwrites_wallet walletId)
    (Prod.ext howner hchanged)
  exact ⟨hcoherent, hback _ (overwrites_wallet owner.walletId) rfl⟩

end Registry

end Covenant
