import Covenant.Proofs.Registry.Reload

/-!
# Where objects come from

Every contract of a registry was compiled from a record, and has the full name that its declaration
gets in the ecosystem of the record. A function comes from a record too, unless it is one of the
system's. The record counts as loaded, unless all of its units are functions.
-/

namespace Covenant

/-- The source of the record compiles, and declares the unit. -/
def ContractRecord.Declares (record : ContractRecord) (unit : SourceUnit) : Prop :=
  ∃ isKnown units, Script.compile record.ecosystemId isKnown record.value = .ok units ∧ unit ∈ units

/-- The contract comes from a unit of the record. Only the switch and the wallet may have changed. -/
structure Contract.ComesFrom (c : Contract) (record : ContractRecord) (unit : SourceUnit) :
    Prop where
  declared : record.Declares unit
  kind : unit.kind = .contract
  name : c.name = ContractName.qualify record.ecosystemId unit.name
  owner : ∃ active walletId, c.owner = { record.owner with active, walletId }
  fields : c.fields = unit.fields
  used : c.used = unit.used
  program : c.program = unit.methods

/-- The object comes from a unit of the record. -/
def RegistryObject.ComesFrom (object : RegistryObject) (record : ContractRecord)
    (unit : SourceUnit) : Prop :=
  match object with
  | .function name => record.Declares unit ∧ unit.kind = .function ∧ name = unit.name
  | .contract c => c.ComesFrom record unit

theorem ContractRecord.Declares.isName {record : ContractRecord} {unit : SourceUnit}
    (h : record.Declares unit) : Script.IsName unit.name := by
  obtain ⟨_, units, hcompile, hunit⟩ := h
  exact Script.isName_of_compile hcompile hunit

/-- A contract belongs to the ecosystem of its record. -/
theorem Contract.ComesFrom.ecosystemId {c : Contract} {record : ContractRecord} {unit : SourceUnit}
    (h : c.ComesFrom record unit) : c.owner.ecosystemId = record.ecosystemId := by
  obtain ⟨_, _, howner⟩ := h.owner
  rw [howner]
  rfl

namespace RegistryObject

variable {object later : RegistryObject} {record : ContractRecord} {unit : SourceUnit}

theorem ComesFrom.declared (h : object.ComesFrom record unit) : record.Declares unit := by
  cases object with
  | function name => exact h.1
  | contract c => exact Contract.ComesFrom.declared h

/-- An object has the full name of the unit that it comes from. -/
theorem ComesFrom.name (h : object.ComesFrom record unit) :
    object.name = Registry.unitName record.ecosystemId unit := by
  unfold Registry.unitName
  cases object with
  | function name =>
    obtain ⟨-, hkind, rfl⟩ := h
    rw [hkind]
    rfl
  | contract c =>
    have hc : c.ComesFrom record unit := h
    rw [hc.kind]
    exact hc.name

/-- An object still comes from where it came from when its switch or its wallet has changed. -/
theorem ComesFrom.of_lasts (h : object.ComesFrom record unit) (hlasts : object.Lasts later) :
    later.ComesFrom record unit := by
  cases object with
  | function name =>
    obtain rfl := hlasts
    exact h
  | contract c =>
    obtain ⟨active, walletId, rfl⟩ := hlasts
    have hc : c.ComesFrom record unit := h
    obtain ⟨_, _, howner⟩ := hc.owner
    exact ⟨hc.declared, hc.kind, hc.name, ⟨active, walletId, by rw [howner]⟩, hc.fields, hc.used,
      hc.program⟩

end RegistryObject

namespace Registry

open Stage

variable {sources : ContractRecord → Prop} {registry next after equipped : Registry}
  {object later : RegistryObject} {forward : List String} {records : List ContractRecord}
  {name : String}

/-- The functions of the system, which come first. -/
def systemObjects (registry : Registry) : List RegistryObject :=
  registry.objects.take (registry.shift.getD 0)

/-- Where the object of the registry comes from. -/
inductive Origin (sources : ContractRecord → Prop) (registry : Registry) (object : RegistryObject) :
    Prop
  /-- It is a function of the system. -/
  | system {name : String} (isName : Script.IsName name) (function : object = .function name)
      (place : object ∈ registry.systemObjects)
  /-- It comes from a record, which counts as loaded if it has contracts. -/
  | unit {record : ContractRecord} {unit : SourceUnit} (source : sources record)
      (comes : object.ComesFrom record unit)
      (loaded : record.id ∈ registry.loadedTables ∨ record.IsLibrary)

/-- All objects are functions of the system or come from these records. -/
def Sourced (sources : ContractRecord → Prop) (registry : Registry) : Prop :=
  ∀ object ∈ registry.objects, registry.Origin sources object

/-- A contract comes from a record. -/
theorem Sourced.exists_comesFrom (h : registry.Sourced sources) {c : Contract}
    (hc : .contract c ∈ registry.objects) :
    ∃ record unit, sources record ∧ c.ComesFrom record unit := by
  cases h _ hc with
  | system _ function _ => cases function
  | unit source comes _ => exact ⟨_, _, source, comes⟩

/-- The functions of the system stay what they are. -/
theorem Extends.function_mem_systemObjects (h : registry.Extends next)
    (hname : .function name ∈ registry.systemObjects) : .function name ∈ next.systemObjects := by
  obtain ⟨index, hindex⟩ := List.mem_iff_getElem?.mp hname
  rw [systemObjects, List.getElem?_take] at hindex
  split at hindex
  next hlt =>
    obtain ⟨later, hlater, hlasts⟩ := h.objects index _ hindex
    obtain rfl : later = .function name := hlasts
    cases hshift : registry.shift with
    | none =>
      rw [hshift] at hlt
      exact absurd hlt (Nat.not_lt_zero index)
    | some shift =>
      rw [hshift] at hlt
      refine List.mem_iff_getElem?.mpr ⟨index, ?_⟩
      rw [systemObjects, List.getElem?_take, h.shift shift hshift, if_pos hlt]
      exact hlater
  next => cases hindex

/-- An object keeps its origin when others come in or ownerships change. -/
theorem Origin.of_extends (h : registry.Origin sources object) (hlasts : object.Lasts later)
    (hextends : registry.Extends next) (hloaded : registry.loadedTables ⊆ next.loadedTables) :
    next.Origin sources later := by
  cases h with
  | system isName function place =>
    subst function
    obtain rfl := hlasts
    exact .system isName rfl (hextends.function_mem_systemObjects place)
  | unit source comes loaded =>
    exact .unit source (comes.of_lasts hlasts) (loaded.imp_left fun hmem => hloaded hmem)

/-! ## Objects that come in -/

/-- A unit becomes an object that comes from its record. -/
theorem comesFrom_unitObject {record : ContractRecord} {unit : SourceUnit}
    (hunit : record.Declares unit) (place : Nat) :
    (unitObject place (record.owner, unit)).ComesFrom record unit := by
  unfold unitObject fullName unitName
  cases hkind : unit.kind with
  | contract => exact ⟨hunit, hkind, rfl, ⟨record.active, record.walletId, rfl⟩, rfl, rfl, rfl⟩
  | function => exact ⟨hunit, hkind, rfl⟩

/-- A record that has been staged counts as loaded once it is registered, unless it is a library. -/
theorem mem_loadedTables_or_isLibrary {isKnown : String → Bool} {staged : List StagedRecord}
    (hstage : stage isKnown registry.loadedTables records = .ok staged) {record : ContractRecord}
    (hrecord : record ∈ records) (hnot : registry.loadedTables.contains record.id = false)
    {units : List SourceUnit}
    (hcompile : Script.compile record.ecosystemId isKnown record.value = .ok units)
    (hsome : units ≠ []) :
    record.id ∈ (registry.addStaged staged).loadedTables ∨ record.IsLibrary := by
  by_cases hcontract : ∃ unit ∈ units, unit.kind = .contract
  · obtain ⟨unit, hunit, hkind⟩ := hcontract
    obtain ⟨found, hfound, hstaged⟩ := exists_staged hstage hrecord hnot
    obtain rfl : units = found := Except.ok.inj (hcompile.symm.trans hfound)
    rw [addStaged_eq, mem_loadedTables_addUnits]
    exact .inl (.inr ⟨_, hstaged unit hunit, hkind, rfl⟩)
  · refine .inr ⟨units, (Script.compile_eq_ok hcompile).1, hsome, fun unit hunit => ?_⟩
    cases hkind : unit.kind with
    | contract => exact absurd ⟨unit, hunit, hkind⟩ hcontract
    | function => rfl

/-- Records that are loaded bring objects that come from them. -/
theorem Sourced.loadRecords (h : registry.Sourced sources) (hwell : registry.WellFormed)
    (hset : registry.shift.isSome = true) (hsources : ∀ record ∈ records, sources record) {count : Nat}
    (hload : registry.loadRecords forward records = .ok (count, after)) :
    after.Sourced sources := by
  have hextends := (hwell.loadRecords hset hload).2
  obtain ⟨staged, hstage, -, -, rfl⟩ := loadRecords_eq_ok_iff.mp hload
  have hloaded : registry.loadedTables ⊆ (registry.addStaged staged).loadedTables := by
    intro tableId htable
    rw [addStaged_eq, mem_loadedTables_addUnits]
    exact .inl htable
  intro object hobject
  rw [addStaged_eq, objects_addUnits, List.mem_append] at hobject
  rcases hobject with hold | hnew
  · exact (h object hold).of_extends (Std.Refl.refl object) hextends hloaded
  · obtain ⟨i, hi, rfl⟩ := List.mem_mapIdx.mp hnew
    obtain ⟨record, hrecord, hnot, howner, units, hcompile, hunit⟩ :=
      exists_of_mem_ownedUnits hstage (List.getElem_mem hi)
    have hobject := comesFrom_unitObject ⟨_, units, hcompile, hunit⟩ (registry.size + i)
    rw [← howner] at hobject
    exact .unit (hsources record hrecord) hobject (mem_loadedTables_or_isLibrary hstage hrecord hnot
      hcompile (List.ne_nil_of_mem hunit))

private theorem objects_addFunctions (registry : Registry) (units : List SourceUnit) :
    (units.foldl (fun registry unit => registry.addFunction unit.name) registry).objects =
      registry.objects ++ units.map fun unit => .function unit.name := by
  induction units generalizing registry with
  | nil => exact (List.append_nil _).symm
  | cons unit units ih =>
    rw [List.foldl_cons, ih, List.map_cons]
    exact List.append_assoc _ [_] _

/-- The functions of the system come in first, or are there. -/
theorem WellFormed.equip (h : registry.WellFormed) {source : String}
    (hequip : Loading.equip registry source = .ok equipped) :
    equipped.WellFormed ∧ registry.Extends equipped := by
  unfold Loading.equip at hequip
  split at hequip
  next =>
    obtain rfl := Except.ok.inj hequip
    exact ⟨h, Std.Refl.refl registry⟩
  next hunset =>
    exact h.addSystemFunctions (Option.not_isSome_iff_eq_none.mp hunset) hequip

/-- The functions of the system have names. -/
theorem Sourced.equip (h : registry.Sourced sources) (hwell : registry.WellFormed) {source : String}
    (hequip : Loading.equip registry source = .ok equipped) : equipped.Sourced sources := by
  unfold Loading.equip at hequip
  split at hequip
  next => rwa [← Except.ok.inj hequip]
  next hunset =>
    have hnone := hwell.shift_none (Option.not_isSome_iff_eq_none.mp hunset)
    unfold addSystemFunctions at hequip
    split at hequip
    next => cases hequip
    next units hcompile =>
      obtain rfl := Except.ok.inj hequip
      intro object hobject
      have hunits : object ∈ (units.foldl (fun registry unit => registry.addFunction unit.name)
          registry).objects := hobject
      rw [objects_addFunctions, hnone, List.nil_append] at hunits
      obtain ⟨unit, hunit, rfl⟩ := List.mem_map.mp hunits
      refine .system (Script.isName_of_compile hcompile hunit) rfl ?_
      rwa [systemObjects, List.take_of_length_le]
      exact Nat.le_refl _

/-- However a load ends, what it leaves behind has been loaded from some of the records, if the
functions of the system are there. -/
theorem Loading.Ends.exists_load {before after : Registry} {source : String} {size : Nat}
    {r : Except RegistryError Nat} (h : Ends before source records size r after) :
    after = before ∨ ∃ equipped forward part count, equip before source = .ok equipped ∧
      part ⊆ records ∧ equipped.loadRecords forward part = .ok (count, after) := by
  cases h with
  | unequipped => exact .inl rfl
  | unnamed hequip => exact .inr ⟨after, [], [], 0, hequip, List.nil_subset _, rfl⟩
  | unread cause hequip hmore hpages =>
    exact .inr ⟨_, _, _, _, hequip, List.take_subset _ _, hpages⟩
  | refused hequip hmore hpages hrefused =>
    exact .inr ⟨_, _, _, _, hequip, List.take_subset _ _, hpages⟩
  | loaded hequip hforward hload =>
    exact .inr ⟨_, _, _, _, hequip, List.Subset.refl _, hload⟩

theorem Sourced.of_ends {source : String} {size : Nat} {r : Except RegistryError Nat}
    (h : registry.Sourced sources) (hwell : registry.WellFormed)
    (hsources : ∀ record ∈ records, sources record)
    (hends : Loading.Ends registry source records size r after) : after.Sourced sources := by
  rcases hends.exists_load with rfl | ⟨equipped, _, part, _, hequip, hpart, hload⟩
  · exact h
  · exact (h.equip hwell hequip).loadRecords (hwell.equip hequip).1
      (Loading.isSome_shift_of_equip hequip) (fun record hrecord => hsources record (hpart hrecord))
      hload

/-- A change of ownership leaves all objects where they came from. -/
theorem Sourced.changeOwner {change : Ownership → Ownership} (hchange : Overwrites change)
    (hspares : Spares change) (h : registry.Sourced sources) (tableId ecosystem : Int) :
    (registry.changeOwner tableId ecosystem change).2.Sourced sources := by
  unfold Registry.changeOwner
  split
  next => exact h
  next =>
    have hextends := extends_reown hchange hspares registry tableId ecosystem
    intro later hlater
    obtain ⟨index, hindex⟩ := List.mem_iff_getElem?.mp hlater
    obtain ⟨object, hobject, hlasts⟩ :=
      hextends.exists_before (size_reown registry tableId ecosystem change) hindex
    exact (h object (List.mem_of_getElem? hobject)).of_extends hlasts hextends (List.Subset.refl _)

/-! ## Registries that come from records -/

/-- One load or change of ownership takes the first registry to the second. All records that a load
reads are among the sources. -/
inductive StepFrom (sources : ContractRecord → Prop) : Registry → Registry → Prop
  | loadAll (settings : LoadSettings) {db : Database} (hdb : db.Keyed)
      (hsources : ∀ record ∈ db.contracts.map Prod.snd, sources record) {registry : Registry}
      (failures : Failures) :
      StepFrom sources registry ((Loading.all settings db).run ⟨registry, failures⟩).2.registry
  | loadEcosystem (settings : LoadSettings) {db : Database} (hdb : db.Keyed) (ecosystem : Int)
      (hsources : ∀ record ∈ db.contracts.map Prod.snd, sources record) {registry : Registry}
      (failures : Failures) :
      StepFrom sources registry
        ((Loading.ofEcosystem settings db ecosystem).run ⟨registry, failures⟩).2.registry
  | setActive (tableId ecosystem : Int) (active : Bool) {registry : Registry} :
      StepFrom sources registry (registry.setActive tableId ecosystem active).2
  | reassignWallet (tableId ecosystem walletId : Int) {registry : Registry} :
      StepFrom sources registry (registry.reassignWallet tableId ecosystem walletId).2

/-- The registries that steps lead to when all loads read these records. -/
def ReachableFrom (sources : ContractRecord → Prop) (registry : Registry) : Prop :=
  Relation.ReflTransGen (StepFrom sources) .empty registry

theorem StepFrom.step (h : StepFrom sources registry next) : registry.Step next := by
  cases h with
  | loadAll settings hdb hsources failures => exact .loadAll settings hdb failures
  | loadEcosystem settings hdb ecosystem hsources failures =>
    exact .loadEcosystem settings hdb ecosystem failures
  | setActive tableId ecosystem active => exact .setActive tableId ecosystem active
  | reassignWallet tableId ecosystem walletId => exact .reassignWallet tableId ecosystem walletId

theorem ReachableFrom.reachable (h : registry.ReachableFrom sources) : registry.Reachable :=
  reachable_iff.mpr (Relation.ReflTransGen.mono (fun _ _ => StepFrom.step) _ _ h)

/-- Every registry that can come about comes from some records. -/
theorem Reachable.reachableFrom (h : registry.Reachable) : registry.ReachableFrom fun _ => True := by
  refine Relation.ReflTransGen.mono (fun before after hstep => ?_) _ _ (reachable_iff.mp h)
  cases hstep with
  | loadAll settings hdb failures => exact .loadAll settings hdb (fun _ _ => trivial) failures
  | loadEcosystem settings hdb ecosystem failures =>
    exact .loadEcosystem settings hdb ecosystem (fun _ _ => trivial) failures
  | setActive tableId ecosystem active => exact .setActive tableId ecosystem active
  | reassignWallet tableId ecosystem walletId => exact .reassignWallet tableId ecosystem walletId

theorem Sourced.step (h : registry.Sourced sources) (hwell : registry.WellFormed)
    (hstep : StepFrom sources registry next) : next.Sourced sources := by
  cases hstep with
  | loadAll settings hdb hsources failures =>
    exact h.of_ends hwell hsources (Loading.all_ends hdb (s := ⟨registry, failures⟩) rfl)
  | loadEcosystem settings hdb ecosystem hsources failures =>
    exact h.of_ends hwell (fun record hrecord => hsources record (List.mem_of_mem_filter hrecord))
      (Loading.ofEcosystem_ends (s := ⟨registry, failures⟩) rfl)
  | setActive tableId ecosystem active =>
    exact h.changeOwner (overwrites_active active) (fun owner => ⟨active, owner.walletId, rfl⟩) _ _
  | reassignWallet tableId ecosystem walletId =>
    exact h.changeOwner (overwrites_wallet walletId) (fun owner => ⟨owner.active, walletId, rfl⟩) _ _

theorem ReachableFrom.sourced (h : registry.ReachableFrom sources) : registry.Sourced sources := by
  induction h with
  | refl => exact List.forall_mem_nil _
  | tail hfirst hstep ih => exact ih.step (ReachableFrom.reachable hfirst).wellFormed hstep

end Registry

end Covenant
