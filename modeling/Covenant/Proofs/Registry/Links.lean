import Covenant.Proofs.Execution.Nesting
import Covenant.Proofs.Registry.Origin
import Covenant.Proofs.Registry.Reload
import Covenant.Proofs.Script.Links

/-!
# Calls that lead somewhere

A load that succeeds has compiled every record against the contracts that are there and the names that
it found in the headers of its records. The headers are those of contracts that come in with the load,
but for lines that only look like headers, and these declare inputs. So a contract that is called is
there, or else an input spells its name. A name that is full means the same in every ecosystem, and
contracts keep their names, so calls that lead somewhere after the loads also do so in every run.
-/

namespace Covenant

namespace Registry

open Stage

variable {registry next after equipped : Registry} {forward : List String}
  {records : List ContractRecord} {staged : List StagedRecord} {target : String} {c : Contract}

/-- A contract has an input that spells the header of a contract with this full name. -/
def Announces (registry : Registry) (target : String) : Prop :=
  ∃ c ∈ registry.contracts, ∃ field ∈ c.fields, field.Announces c.owner.ecosystemId target

/-- The name is that of a contract, or is spelled by an input of one. -/
def Knows (registry : Registry) (target : String) : Prop :=
  registry.hasContract target = true ∨ registry.Announces target

/-! ## What is known stays known -/

theorem hasContract_iff :
    registry.hasContract target = true ↔ ∃ c ∈ registry.contracts, c.name = target := by
  simp [hasContract]

/-- A contract stays, with its switch or its wallet changed at most. -/
theorem Extends.exists_contract (h : registry.Extends after) (hc : c ∈ registry.contracts) :
    ∃ active walletId, { c with owner := { c.owner with active, walletId } } ∈ after.contracts := by
  obtain ⟨index, hindex⟩ := List.mem_iff_getElem?.mp (mem_contracts_iff.mp hc)
  obtain ⟨later, hlater, active, walletId, rfl⟩ := h.objects index _ hindex
  exact ⟨active, walletId, mem_contracts_iff.mpr (List.mem_of_getElem? hlater)⟩

theorem Extends.hasContract (h : registry.Extends after)
    (hhas : registry.hasContract target = true) : after.hasContract target = true := by
  obtain ⟨c, hc, rfl⟩ := hasContract_iff.mp hhas
  obtain ⟨active, walletId, hlater⟩ := h.exists_contract hc
  exact hasContract_iff.mpr ⟨_, hlater, rfl⟩

theorem Extends.knows (h : registry.Extends after) (hknows : registry.Knows target) :
    after.Knows target := by
  rcases hknows with hhas | ⟨c, hc, field, hfield, hannounces⟩
  · exact .inl (h.hasContract hhas)
  · obtain ⟨active, walletId, hlater⟩ := h.exists_contract hc
    exact .inr ⟨_, hlater, field, hfield, hannounces⟩

/-! ## Contracts that come in -/

/-- An object of a registry with new units was there before, or is one of the units. -/
theorem mem_objects_addUnits {units : List (Ownership × SourceUnit)} {object : RegistryObject} :
    object ∈ (registry.addUnits units).objects ↔
      object ∈ registry.objects ∨ ∃ i, ∃ h : i < units.length,
        unitObject (registry.size + i) units[i] = object := by
  rw [objects_addUnits, List.mem_append, List.mem_mapIdx]

/-- New units leave everything in its place. -/
theorem extends_addUnits (registry : Registry) (units : List (Ownership × SourceUnit)) :
    registry.Extends (registry.addUnits units) where
  objects index object hobject := by
    refine ⟨object, ?_, Std.Refl.refl object⟩
    rw [objects_addUnits, List.getElem?_append_left (List.getElem?_eq_some_iff.mp hobject).1, hobject]
  shift _ hshift := (shift_addUnits registry units).trans hshift

/-- A contract that comes in calls what its unit calls. -/
theorem used_of_unitObject {place : Nat} {unit : Ownership × SourceUnit}
    (h : unitObject place unit = .contract c) : c.used = unit.2.used := by
  unfold unitObject at h
  split at h
  next =>
    obtain rfl := RegistryObject.contract.inj h
    rfl
  next => cases h

/-- A unit that is a contract becomes one, with its name, its owner and its inputs. -/
theorem exists_contract_addUnits (registry : Registry) {units : List (Ownership × SourceUnit)}
    {unit : Ownership × SourceUnit} (hunit : unit ∈ units) (hkind : unit.2.kind = .contract) :
    ∃ c ∈ (registry.addUnits units).contracts, c.name = fullName unit ∧ c.owner = unit.1 ∧
      c.fields = unit.2.fields := by
  obtain ⟨i, hi, rfl⟩ := List.mem_iff_getElem.mp hunit
  refine ⟨⟨registry.size + i, fullName units[i], units[i].1, units[i].2.fields, units[i].2.used,
    units[i].2.methods⟩, ?_, rfl, rfl, rfl⟩
  refine mem_contracts_iff.mpr (mem_objects_addUnits.mpr (.inr ⟨i, hi, ?_⟩))
  rw [unitObject, hkind]

/-- Names that are found among the units of a record are known once the units have come in. -/
theorem knows_of_found {record : ContractRecord} {units : List SourceUnit}
    (hunits : ∀ unit ∈ units, (record.owner, unit) ∈ ownedUnits staged)
    (hfound : Script.Found record.ecosystemId units target) :
    (registry.addStaged staged).Knows target := by
  rw [addStaged_eq]
  rcases hfound with hdeclared | ⟨unit, hunit, hkind, field, hfield, hannounces⟩
  · obtain ⟨unit, hunit, hkind, rfl⟩ := Script.mem_declaredNames.mp hdeclared
    obtain ⟨c, hc, hname, -⟩ := exists_contract_addUnits registry (hunits unit hunit) hkind
    refine .inl (hasContract_iff.mpr ⟨c, hc, hname.trans ?_⟩)
    rw [fullName, unitName, hkind]
    rfl
  · obtain ⟨c, hc, -, howner, hfields⟩ :=
      exists_contract_addUnits registry (hunits unit hunit) hkind
    exact .inr ⟨c, hc, field, hfields ▸ hfield, howner ▸ hannounces⟩

/-- A pending name is found in the source of a record that is not loaded. -/
theorem exists_of_mem_pendingNames {loaded : List Int} {names : List String}
    (h : pendingNames loaded records = .ok names) (htarget : target ∈ names) :
    ∃ record ∈ records, loaded.contains record.id = false ∧
      ∃ found, Script.contractNames record.ecosystemId record.value = .ok found ∧ target ∈ found := by
  induction records generalizing names with
  | nil =>
    rw [← Except.ok.inj h] at htarget
    cases htarget
  | cons record records ih =>
    unfold pendingNames at h
    split at h
    next =>
      obtain ⟨other, hother, hsource⟩ := ih h htarget
      exact ⟨other, List.mem_cons_of_mem record hother, hsource⟩
    next hnot =>
      split at h
      next => cases h
      next found hfound =>
        obtain ⟨rest, hrest, rfl⟩ := map_eq_ok.mp h
        rcases List.mem_append.mp htarget with hhere | hthere
        · exact ⟨record, List.mem_cons_self, Bool.eq_false_iff.mpr hnot, found, hfound, hhere⟩
        · obtain ⟨other, hother, hsource⟩ := ih hrest hthere
          exact ⟨other, List.mem_cons_of_mem record hother, hsource⟩

/-- Whatever is called in a registry is known. -/
def CallsKnown (registry : Registry) : Prop :=
  ∀ c ∈ registry.contracts, ∀ target ∈ c.used, registry.Knows target

/-- Records that are loaded with the names that are pending call what is known. -/
theorem CallsKnown.loadRecords (h : registry.CallsKnown)
    (hforward : pendingNames registry.loadedTables records = .ok forward) {count : Nat}
    (hload : registry.loadRecords forward records = .ok (count, after)) : after.CallsKnown := by
  obtain ⟨staged, hstage, -, -, rfl⟩ := loadRecords_eq_ok_iff.mp hload
  have hextends : registry.Extends (registry.addStaged staged) :=
    addStaged_eq registry staged ▸ extends_addUnits registry (ownedUnits staged)
  intro c hc target htarget
  rw [addStaged_eq, mem_contracts_iff, mem_objects_addUnits] at hc
  rcases hc with hold | ⟨i, hi, hobject⟩
  · exact hextends.knows (h c (mem_contracts_iff.mpr hold) target htarget)
  · have hused := used_of_unitObject hobject
    obtain ⟨record, hrecord, hnot, -, units, hcompile, hunit⟩ :=
      exists_of_mem_ownedUnits hstage (List.getElem_mem hi)
    have hstaged : ∀ {record}, record ∈ records → registry.loadedTables.contains record.id = false →
        ∀ {units}, Script.parse record.ecosystemId record.value = .ok units →
          Script.Found record.ecosystemId units target → (registry.addStaged staged).Knows target := by
      intro record hrecord hnot units hparse hfound
      obtain ⟨found, hcompile, hunits⟩ := exists_staged hstage hrecord hnot
      obtain rfl := units_eq_of_parse hparse hcompile
      exact knows_of_found hunits hfound
    rcases Script.known_of_compile hcompile hunit (hused ▸ htarget) with hdeclared | hknown
    · exact hstaged hrecord hnot (Script.compile_eq_ok hcompile).1 (.inl hdeclared)
    · rcases Bool.or_eq_true_iff.mp hknown with hhas | hpending
      · exact hextends.knows (.inl hhas)
      · obtain ⟨other, hother, hnew, names, hnames, hmem⟩ :=
          exists_of_mem_pendingNames hforward (List.contains_iff_mem.mp hpending)
        obtain ⟨found, hothers, -⟩ := exists_staged hstage hother hnew
        have hparse := (Script.compile_eq_ok hothers).1
        exact hstaged hother hnew hparse (Script.found_of_contractNames hparse hnames hmem)

private theorem contracts_addFunctions (registry : Registry) (units : List SourceUnit) :
    (units.foldl (fun registry unit => registry.addFunction unit.name) registry).contracts =
      registry.contracts := by
  induction units generalizing registry with
  | nil => rfl
  | cons unit units ih =>
    rw [List.foldl_cons, ih]
    simp [contracts, addFunction, RegistryObject.contract?]

/-- The functions of the system are no contracts. -/
theorem contracts_of_equip {source : String} (h : Loading.equip registry source = .ok equipped) :
    equipped.contracts = registry.contracts := by
  unfold Loading.equip at h
  split at h
  next => rw [← Except.ok.inj h]
  next =>
    unfold addSystemFunctions at h
    split at h
    next => cases h
    next units _ =>
      rw [← Except.ok.inj h]
      exact contracts_addFunctions registry units

theorem CallsKnown.equip (h : registry.CallsKnown) {source : String}
    (hequip : Loading.equip registry source = .ok equipped) : equipped.CallsKnown := by
  unfold CallsKnown Knows Registry.hasContract Announces
  rw [contracts_of_equip hequip]
  exact h

/-- A load that succeeds leaves nothing behind that calls what is not known. -/
theorem CallsKnown.of_ends (h : registry.CallsKnown) {source : String} {size count : Nat}
    (hends : Loading.Ends registry source records size (.ok count) after) : after.CallsKnown := by
  cases hends with
  | loaded hequip hforward hload => exact (h.equip hequip).loadRecords hforward hload

/-- A change of ownership changes no call. -/
theorem CallsKnown.changeOwner {change : Ownership → Ownership} (hchange : Overwrites change)
    (hspares : Spares change) (h : registry.CallsKnown) (tableId ecosystem : Int) :
    (registry.changeOwner tableId ecosystem change).2.CallsKnown := by
  unfold Registry.changeOwner
  split
  next => exact h
  next =>
    have hextends := extends_reown hchange hspares registry tableId ecosystem
    intro later hlater target htarget
    obtain ⟨index, hindex⟩ := List.mem_iff_getElem?.mp (mem_contracts_iff.mp hlater)
    obtain ⟨object, hobject, hlasts⟩ :=
      hextends.exists_before (size_reown registry tableId ecosystem change) hindex
    cases object with
    | function name => cases hlasts
    | contract c =>
      obtain ⟨active, walletId, hsame⟩ := hlasts
      obtain rfl := RegistryObject.contract.inj hsame
      exact hextends.knows
        (h c (mem_contracts_iff.mpr (List.mem_of_getElem? hobject)) target htarget)

/-! ## Registries that loads fill -/

/-- The number of the ecosystem has no sign. -/
def Unsigned (record : ContractRecord) : Prop :=
  0 ≤ record.ecosystemId

/-- A load that succeeds, or a change of ownership, takes the first registry to the second. -/
inductive Fills : Registry → Registry → Prop
  | loadAll (settings : LoadSettings) {db : Database} (hdb : db.Keyed)
      (hunsigned : ∀ record ∈ db.contracts.map Prod.snd, Unsigned record) {registry : Registry}
      {failures : Failures} {count : Nat} {t : LoadState}
      (hrun : (Loading.all settings db).run ⟨registry, failures⟩ = (.ok count, t)) :
      Fills registry t.registry
  | loadEcosystem (settings : LoadSettings) {db : Database} (hdb : db.Keyed) (ecosystem : Int)
      (hunsigned : ∀ record ∈ db.contracts.map Prod.snd, Unsigned record) {registry : Registry}
      {failures : Failures} {count : Nat} {t : LoadState}
      (hrun : (Loading.ofEcosystem settings db ecosystem).run ⟨registry, failures⟩ = (.ok count, t)) :
      Fills registry t.registry
  | setActive (tableId ecosystem : Int) (active : Bool) {registry : Registry} :
      Fills registry (registry.setActive tableId ecosystem active).2
  | reassignWallet (tableId ecosystem walletId : Int) {registry : Registry} :
      Fills registry (registry.reassignWallet tableId ecosystem walletId).2

/-- The registries that come about from nothing when no load fails. -/
def Filled (registry : Registry) : Prop :=
  Relation.ReflTransGen Fills .empty registry

theorem Fills.stepFrom (h : Fills registry next) : StepFrom Unsigned registry next := by
  cases h with
  | @loadAll settings _ hdb hunsigned _ failures _ _ hrun =>
    have hstep : StepFrom Unsigned registry _ := .loadAll settings hdb hunsigned failures
    rwa [hrun] at hstep
  | @loadEcosystem settings _ hdb ecosystem hunsigned _ failures _ _ hrun =>
    have hstep : StepFrom Unsigned registry _ := .loadEcosystem settings hdb ecosystem hunsigned failures
    rwa [hrun] at hstep
  | setActive tableId ecosystem active => exact .setActive tableId ecosystem active
  | reassignWallet tableId ecosystem walletId => exact .reassignWallet tableId ecosystem walletId

theorem Filled.reachableFrom (h : registry.Filled) : registry.ReachableFrom Unsigned :=
  Relation.ReflTransGen.mono (fun _ _ => Fills.stepFrom) _ _ h

theorem CallsKnown.fills (h : registry.CallsKnown) (hstep : Fills registry next) :
    next.CallsKnown := by
  cases hstep with
  | loadAll settings hdb _ hrun => exact h.of_ends (Loading.all_ends hdb hrun)
  | loadEcosystem settings hdb ecosystem _ hrun => exact h.of_ends (Loading.ofEcosystem_ends hrun)
  | setActive tableId ecosystem active =>
    exact h.changeOwner (overwrites_active active) (fun owner => ⟨active, owner.walletId, rfl⟩) _ _
  | reassignWallet tableId ecosystem walletId =>
    exact h.changeOwner (overwrites_wallet walletId) (fun owner => ⟨owner.active, walletId, rfl⟩) _ _

/-- Whatever is called is known when all loads have succeeded. -/
theorem Filled.callsKnown (h : registry.Filled) : registry.CallsKnown := by
  induction h with
  | refl => exact List.forall_mem_nil _
  | tail _ hstep ih => exact ih.fills hstep

/-! ## Contracts that are found -/

/-- A contract calls what it uses, by full names. -/
theorem ReachableFrom.links (h : registry.ReachableFrom Unsigned) (hc : c ∈ registry.contracts)
    (target : String) :
    (target ∈ c.used ↔ Script.Calls c.program target) ∧
      (target ∈ c.used → ContractName.IsFull target) := by
  obtain ⟨record, unit, hunsigned, hfrom⟩ := h.sourced.exists_comesFrom (mem_contracts_iff.mp hc)
  obtain ⟨_, units, hcompile, hunit⟩ := hfrom.declared
  have hlinked := Script.linked_of_parse (Script.compile_eq_ok hcompile).1 hunit
  rw [hfrom.used, hfrom.program]
  refine ⟨hlinked.called target, fun htarget => ?_⟩
  obtain ⟨name, rfl⟩ := hlinked.qualified target htarget
  exact ContractName.isFull_qualify hunsigned name

/-- A contract is found by its full name, in every ecosystem. -/
theorem WellFormed.exists_lookupByName_iff (h : registry.WellFormed)
    (hfull : ContractName.IsFull target) (ecosystem : Int) :
    (∃ found, registry.lookupByName target ecosystem = some found) ↔
      registry.hasContract target = true := by
  simp only [h.lookupByName_eq_some_iff, ContractName.qualify_of_isFull hfull, hasContract_iff]

/-- What comes after a registry that can come about keeps everything in its place. -/
theorem Reachable.of_steps (h : registry.Reachable)
    (hsteps : Relation.ReflTransGen Step registry after) :
    after.Reachable ∧ registry.Extends after := by
  induction hsteps with
  | refl => exact ⟨h, Std.Refl.refl registry⟩
  | tail _ hstep ih =>
    obtain ⟨hreachable, hextends⟩ := ih
    exact ⟨reachable_iff.mpr ((reachable_iff.mp hreachable).tail hstep),
      IsTrans.trans _ _ _ hextends (hstep.grows hreachable.wellFormed).2⟩

/-- A contract that is there can be called in every run from then on. -/
theorem Reachable.exists_callee (h : registry.Reachable) (hfull : ContractName.IsFull target)
    (hhas : registry.hasContract target = true) {s : RunState}
    (hsteps : Relation.ReflTransGen Step registry s.world.registry) :
    ∃ found, (Run.callee target).run s = (.ok found, s) := by
  obtain ⟨hreachable, hextends⟩ := h.of_steps hsteps
  obtain ⟨found, hfound⟩ := (hreachable.wellFormed.exists_lookupByName_iff hfull
    s.ctx.ecosystemId).mpr (hextends.hasContract hhas)
  refine ⟨found, ?_⟩
  rw [Run.run_callee, ContractName.qualify_of_isFull hfull, hfound]

/-- When all loads have succeeded, every contract that is called is found in every ecosystem, and can be
called in every run from then on, exactly if the names that inputs spell are names of contracts. -/
theorem closed_iff (h : registry.Filled) :
    (∀ c ∈ registry.contracts,
      (∀ target ∈ c.used, ∀ ecosystem, ∃ found,
        registry.lookupByName target ecosystem = some found) ∧
      ∀ target, Script.Calls c.program target → ∀ s : RunState,
        Relation.ReflTransGen Step registry s.world.registry →
          ∃ found, (Run.callee target).run s = (.ok found, s)) ↔
      ∀ c ∈ registry.contracts, ∀ target ∈ c.used, registry.Announces target →
        registry.hasContract target = true := by
  have hreachable := h.reachableFrom
  have hwell := hreachable.reachable.wellFormed
  constructor
  · intro hclosed c hc target htarget _
    have hfull := (hreachable.links hc target).2 htarget
    exact (hwell.exists_lookupByName_iff hfull 1).mp ((hclosed c hc).1 target htarget 1)
  · intro hspelled c hc
    have hhas : ∀ target ∈ c.used, registry.hasContract target = true := fun target htarget =>
      (h.callsKnown c hc target htarget).elim id (hspelled c hc target htarget)
    refine ⟨fun target htarget ecosystem => ?_, fun target hcalls s hsteps => ?_⟩
    · have hfull := (hreachable.links hc target).2 htarget
      exact (hwell.exists_lookupByName_iff hfull ecosystem).mpr (hhas target htarget)
    · obtain ⟨hused, hfull⟩ := hreachable.links hc target
      have htarget := hused.mpr hcalls
      exact hreachable.reachable.exists_callee (hfull htarget) (hhas target htarget) hsteps

namespace Loading

/-- A contract that calls one of a later page is loaded, no input spells a name, and the contract that it
calls is found in any ecosystem. -/
theorem closed_iff_sample :
    ∃ registry : Registry, registry.Filled ∧
      (∀ c ∈ registry.contracts, ∀ target ∈ c.used, registry.Announces target →
        registry.hasContract target = true) ∧
      ∃ c ∈ registry.contracts, "@1Second" ∈ c.used ∧
        ∃ found, registry.lookupByName "@1Second" 7 = some found := by
  have hdb : sampleDatabase.Keyed := ⟨by decide, by simp [sampleDatabase]⟩
  have hunsigned : ∀ record ∈ sampleDatabase.contracts.map Prod.snd, Unsigned record := by
    simp [sampleDatabase, Unsigned]
  have hload : ((all ⟨1, ""⟩ sampleDatabase).run ⟨.empty, .none⟩).1.toOption = some 2 ∧
      ((all ⟨1, ""⟩ sampleDatabase).run ⟨.empty, .none⟩).2.registry.contracts.map
        (fun c => (c.fields, c.used)) = [([], ["@1Second"]), ([], [])] := by
    decide +kernel
  have hrun := run_of_toOption hload.1
  obtain ⟨-, hcontracts⟩ := hload
  generalize ((all ⟨1, ""⟩ sampleDatabase).run ⟨.empty, .none⟩).2 = last at hrun hcontracts
  have hfilled : last.registry.Filled := .single (.loadAll ⟨1, ""⟩ hdb hunsigned hrun)
  have hsilent : ∀ c ∈ last.registry.contracts, c.fields = [] := by
    intro c hc
    have hmem := List.mem_map_of_mem (f := fun c : Contract => (c.fields, c.used)) hc
    rw [hcontracts] at hmem
    simp only [List.mem_cons, Prod.mk.injEq, List.not_mem_nil, or_false] at hmem
    exact hmem.elim And.left And.left
  have hspelled : ∀ c ∈ last.registry.contracts, ∀ target ∈ c.used, last.registry.Announces target →
      last.registry.hasContract target = true := by
    rintro - - target - ⟨c, hc, field, hfield, -⟩
    rw [hsilent c hc] at hfield
    cases hfield
  obtain ⟨c, hc, hused⟩ : ∃ c ∈ last.registry.contracts, "@1Second" ∈ c.used := by
    have hmem : ([], ["@1Second"]) ∈ last.registry.contracts.map fun c => (c.fields, c.used) := by
      rw [hcontracts]
      exact List.mem_cons_self
    obtain ⟨c, hc, hsame⟩ := List.mem_map.mp hmem
    exact ⟨c, hc, (Prod.mk.inj hsame).2 ▸ List.mem_cons_self⟩
  exact ⟨last.registry, hfilled, hspelled, c, hc, hused,
    (((closed_iff hfilled).mpr hspelled) c hc).1 "@1Second" hused 7⟩

/-- An input of the contract spells the header of the contract that it calls. -/
def spellingDatabase : Database :=
  { Database.empty with
    contracts := [
      (1, ⟨1, 1,
        "contract A \x7b\n data \x7b\n  contract B\x7b\n \x7d\n action \x7b\n  call B\n \x7d\n\x7d\n",
        3, 1, true, "", 1⟩)] }

/-- The contract is loaded, but the one that it calls is found in no ecosystem, and the call fails in
every run. -/
theorem not_closed :
    spellingDatabase.Keyed ∧ (∀ record ∈ spellingDatabase.contracts.map Prod.snd, Unsigned record) ∧
      ∃ registry left, (all ⟨200, ""⟩ spellingDatabase).run ⟨.empty, .none⟩ =
          (.ok 1, ⟨registry, left⟩) ∧
        registry.contracts.map Contract.used = [["@1B"]] ∧
        (∀ ecosystem, registry.lookupByName "@1B" ecosystem = none) ∧
        ∀ s : RunState, s.world.registry = registry →
          (Run.callee "@1B").run s = (.error (.unknownContract "@1B"), s) := by
  have hload : ((all ⟨200, ""⟩ spellingDatabase).run ⟨.empty, .none⟩).1.toOption = some 1 ∧
      ((all ⟨200, ""⟩ spellingDatabase).run ⟨.empty, .none⟩).2.registry.contracts.map
        Contract.used = [["@1B"]] ∧
      Assoc.find? "@1B"
        ((all ⟨200, ""⟩ spellingDatabase).run ⟨.empty, .none⟩).2.registry.byName = none := by
    decide +kernel
  have hrun := run_of_toOption hload.1
  obtain ⟨-, hcontracts, hnone⟩ := hload
  generalize ((all ⟨200, ""⟩ spellingDatabase).run ⟨.empty, .none⟩).2 = last
    at hrun hcontracts hnone
  have hfull : ContractName.IsFull "@1B" := ⟨'1', ['B'], rfl, by decide⟩
  have hlookup : ∀ ecosystem, last.registry.lookupByName "@1B" ecosystem = none := by
    intro ecosystem
    rw [lookupByName, ContractName.qualify_of_isFull hfull, hnone]
    rfl
  refine ⟨⟨by decide, by simp [spellingDatabase]⟩, by simp [spellingDatabase, Unsigned],
    last.registry, last.failures, hrun, hcontracts, hlookup, fun s hregistry => ?_⟩
  rw [Run.run_callee, ContractName.qualify_of_isFull hfull, hregistry, hlookup]

end Loading

end Registry

end Covenant
