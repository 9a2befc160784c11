import Mathlib.Data.List.Forall2
import Covenant.Proofs.Stage
import Covenant.Proofs.Registry.Ownership
import Covenant.Registry.Load

/-!
# Registries that can come about

Loads register all contracts of a record at once, and pass over records that they find registered.
Contracts of one record therefore start with the same ownership, and since changes of ownership
concern whole records, they keep sharing it.
-/

namespace Covenant

/-- The contract sources are stored under their ids, in ascending order. -/
structure Database.Keyed (db : Database) : Prop where
  ascending : (Dict.keys db.contracts).Pairwise (· < ·)
  ids : ∀ entry ∈ db.contracts, entry.2.id = entry.1

private theorem mem_insert {α : Type} {key : Int} {value : α} {entry : Int × α}
    {entries : Dict Int α} (h : entry ∈ Dict.insert key value entries) :
    entry = (key, value) ∨ entry ∈ entries := by
  induction entries with
  | nil => exact .inl (List.mem_singleton.mp h)
  | cons first rest ih =>
    unfold Dict.insert at h
    split at h
    · exact List.mem_cons.mp h
    · exact (List.mem_cons.mp h).imp_right (List.mem_cons_of_mem _)
    · rcases List.mem_cons.mp h with rfl | h
      · exact .inr List.mem_cons_self
      · exact (ih h).imp_right (List.mem_cons_of_mem _)

private theorem ascending_insert {α : Type} {entries : Dict Int α}
    (h : (Dict.keys entries).Pairwise (· < ·)) (key : Int) (value : α) :
    (Dict.keys (Dict.insert key value entries)).Pairwise (· < ·) := by
  induction entries with
  | nil => exact List.pairwise_singleton _ _
  | cons first rest ih =>
    obtain ⟨hfirst, hrest⟩ := List.pairwise_cons.mp h
    unfold Dict.insert
    split
    next hlt =>
      have hkey : key < first.1 := Int.compare_eq_lt.mp hlt
      refine List.pairwise_cons.mpr ⟨fun k hk => ?_, h⟩
      rcases List.mem_cons.mp hk with rfl | hk
      · exact hkey
      · exact Int.lt_trans hkey (hfirst k hk)
    next heq =>
      obtain rfl : key = first.1 := Int.compare_eq_eq.mp heq
      exact h
    next hgt =>
      have hkey : first.1 < key := Int.compare_eq_gt.mp hgt
      refine List.pairwise_cons.mpr ⟨fun k hk => ?_, ih hrest⟩
      obtain ⟨entry, hentry, rfl⟩ := List.mem_map.mp hk
      rcases mem_insert hentry with rfl | hentry
      · exact hkey
      · exact hfirst _ (List.mem_map_of_mem hentry)

theorem Database.Keyed.empty : Keyed .empty :=
  ⟨.nil, fun _ h => by cases h⟩

/-- Storing a contract source keeps the sources under their ids. -/
theorem Database.Keyed.putContract {db : Database} (hdb : db.Keyed) (record : ContractRecord) :
    (db.putContract record).Keyed where
  ascending := ascending_insert hdb.ascending record.id record
  ids entry h := by
    rcases mem_insert h with rfl | h
    · rfl
    · exact hdb.ids entry h

namespace Registry

open Stage

variable {registry : Registry} {owner : Ownership}

/-! ## Registering the contracts of a record -/

private theorem contractAt?_append {i : Nat} {contract : Contract}
    {objects : List RegistryObject} {extended : Registry}
    (hobjects : extended.objects = registry.objects ++ objects)
    (h : registry.contractAt? i = some contract) : extended.contractAt? i = some contract := by
  obtain ⟨object, hobject, hcontract⟩ := Option.bind_eq_some_iff.mp h
  unfold contractAt?
  rw [hobjects, List.getElem?_append_left (List.getElem?_eq_some_iff.mp hobject).1, hobject]
  exact hcontract

/-- New objects do not concern the contracts of a record whose places stay. -/
private theorem OwnedBy.append {tableId : Int} {objects : List RegistryObject}
    {extended : Registry} (howned : registry.OwnedBy tableId owner)
    (hobjects : extended.objects = registry.objects ++ objects)
    (hplaces : extended.places tableId = registry.places tableId) :
    extended.OwnedBy tableId owner := by
  intro i hi
  rw [hplaces] at hi
  obtain ⟨contract, hat, howner⟩ := howned i hi
  exact ⟨contract, contractAt?_append hobjects hat, howner⟩

/-- Registering functions leaves the contracts of every record as they are. -/
theorem Coherent.addFunction (hregistry : registry.Coherent) (name : String) :
    (registry.addFunction name).Coherent := by
  intro tableId
  obtain ⟨owner, hrecord, howned⟩ := hregistry tableId
  exact ⟨owner, hrecord, howned.append rfl rfl⟩

private theorem places_addContract (registry : Registry) (owner : Ownership) (name : String)
    (unit : SourceUnit) (tableId : Int) :
    (registry.addContract owner name unit).places tableId =
      if tableId = owner.tableId then registry.places tableId ++ [registry.size]
      else registry.places tableId := by
  unfold places addContract
  split
  next h => rw [h, Assoc.find?_insert_self]; rfl
  next h => rw [Assoc.find?_insert_of_ne h]

/-- A contract joins those of its record. -/
private theorem OwnedBy.addContract (howned : registry.OwnedBy owner.tableId owner)
    (name : String) (unit : SourceUnit) :
    (registry.addContract owner name unit).OwnedBy owner.tableId owner := by
  intro i hi
  rw [places_addContract, if_pos rfl, List.mem_append, List.mem_singleton] at hi
  rcases hi with hi | rfl
  · obtain ⟨contract, hat, howner⟩ := howned i hi
    exact ⟨contract, contractAt?_append rfl hat, howner⟩
  · simp [contractAt?, Registry.addContract, size, RegistryObject.contract?]

private theorem Coherent.addContract (hregistry : registry.Coherent)
    (howned : registry.OwnedBy owner.tableId owner) (name : String) (unit : SourceUnit) :
    (registry.addContract owner name unit).Coherent := by
  intro tableId
  by_cases htable : tableId = owner.tableId
  · subst htable
    exact ⟨owner, rfl, howned.addContract name unit⟩
  · obtain ⟨other, hrecord, hother⟩ := hregistry tableId
    have hplaces := places_addContract registry owner name unit tableId
    rw [if_neg htable] at hplaces
    exact ⟨other, hrecord, hother.append rfl hplaces⟩

/-- Registering the units of a record keeps the contracts of every record together, if those of this
one have its ownership already. No other record gets new places. -/
private theorem Coherent.addUnits (hregistry : registry.Coherent)
    (howned : registry.OwnedBy owner.tableId owner) (units : List SourceUnit) :
    (units.foldl (addUnit owner) registry).Coherent ∧
      ∀ tableId, tableId ≠ owner.tableId →
        (units.foldl (addUnit owner) registry).places tableId = registry.places tableId := by
  induction units generalizing registry with
  | nil => exact ⟨hregistry, fun _ _ => rfl⟩
  | cons unit rest ih =>
    rw [List.foldl_cons]
    cases hkind : unit.kind with
    | contract =>
      have hunit : addUnit owner registry unit =
          registry.addContract owner (unitName owner.ecosystemId unit) unit := by
        simp [addUnit, hkind]
      rw [hunit]
      obtain ⟨hcoherent, hplaces⟩ := ih (hregistry.addContract howned _ unit)
        (howned.addContract _ unit)
      refine ⟨hcoherent, fun tableId hne => (hplaces tableId hne).trans ?_⟩
      rw [places_addContract, if_neg hne]
    | function =>
      have hunit : addUnit owner registry unit =
          registry.addFunction (unitName owner.ecosystemId unit) := by
        simp [addUnit, hkind]
      rw [hunit]
      exact ih (hregistry.addFunction _) (howned.append rfl rfl)

/-! ## Registering records -/

private theorem places_of_not_loaded {tableId : Int}
    (h : registry.loadedTables.contains tableId = false) : registry.places tableId = [] := by
  have hnone : Assoc.find? tableId registry.byTable = none := by
    cases hfind : Assoc.find? tableId registry.byTable with
    | none => rfl
    | some places =>
      have hmem : tableId ∈ registry.loadedTables := Dict.mem_keys_of_find? hfind
      simp [hmem] at h
  rw [places, hnone]
  rfl

/-- Records that are not loaded and are all different can be registered together. -/
private theorem Coherent.addStaged (hregistry : registry.Coherent) (staged : List StagedRecord)
    (hdistinct : (staged.map (·.owner.tableId)).Nodup)
    (hnew : ∀ record ∈ staged, registry.places record.owner.tableId = []) :
    (registry.addStaged staged).Coherent := by
  induction staged generalizing registry with
  | nil => exact hregistry
  | cons record rest ih =>
    rw [List.map_cons, List.nodup_cons] at hdistinct
    have howned : registry.OwnedBy record.owner.tableId record.owner := by
      intro i hi
      simp [hnew record List.mem_cons_self] at hi
    obtain ⟨hcoherent, hplaces⟩ := hregistry.addUnits howned record.units
    refine ih hcoherent hdistinct.2 fun other hother => ?_
    have hne : other.owner.tableId ≠ record.owner.tableId := by
      intro heq
      exact hdistinct.1 (heq ▸ List.mem_map_of_mem hother)
    rw [hplaces _ hne]
    exact hnew other (List.mem_cons_of_mem _ hother)

/-- What has been compiled from the record, with its ownership. -/
def Compiled (isKnown : String → Bool) (record : ContractRecord) (compiled : StagedRecord) : Prop :=
  compiled.owner = record.owner ∧
    Script.compile record.ecosystemId isKnown record.value = .ok compiled.units

/-- The records that are staged are those that are not loaded, each with its units. -/
theorem forall₂_of_stage {isKnown : String → Bool} {loaded : List Int}
    {records : List ContractRecord} {staged : List StagedRecord}
    (h : stage isKnown loaded records = .ok staged) :
    List.Forall₂ (Compiled isKnown) (records.filter fun record => !loaded.contains record.id)
      staged := by
  induction records generalizing staged with
  | nil =>
    obtain rfl : [] = staged := Except.ok.inj h
    exact .nil
  | cons record records ih =>
    unfold stage at h
    split at h
    next hloaded =>
      rw [List.filter_cons_of_neg (by simpa using hloaded)]
      exact ih h
    next hloaded =>
      rw [List.filter_cons_of_pos (by simpa using hloaded)]
      split at h
      next => cases h
      next units hcompile =>
        cases hrest : stage isKnown loaded records with
        | error e =>
          rw [hrest] at h
          cases h
        | ok others =>
          rw [hrest] at h
          obtain rfl : _ :: others = staged := Except.ok.inj h
          exact .cons ⟨rfl, hcompile⟩ (ih hrest)

/-- Staging passes over records that are loaded, and keeps the order of the others. -/
theorem stage_sound {isKnown : String → Bool} {loaded : List Int}
    {records : List ContractRecord} {staged : List StagedRecord}
    (h : stage isKnown loaded records = .ok staged) :
    (staged.map (·.owner.tableId)).Sublist (records.map ContractRecord.id) ∧
      ∀ record ∈ staged, loaded.contains record.owner.tableId = false := by
  have hall := forall₂_of_stage h
  have hids : staged.map (·.owner.tableId) =
      (records.filter fun record => !loaded.contains record.id).map ContractRecord.id := by
    rw [← List.forall₂_eq_eq_eq, List.forall₂_map_left_iff, List.forall₂_map_right_iff]
    exact hall.flip.imp fun _ _ hcompiled => by rw [hcompiled.1]; rfl
  refine ⟨hids ▸ List.filter_sublist.map _, fun record hrecord => ?_⟩
  have hmem := List.mem_map_of_mem (f := fun record : StagedRecord => record.owner.tableId) hrecord
  rw [hids] at hmem
  obtain ⟨found, hfound, hid⟩ := List.mem_map.mp hmem
  rw [← hid]
  simpa using (List.mem_filter.mp hfound).2

/-- Records are loaded by staging and registering them. -/
theorem loadRecords_eq_ok_iff {forward : List String} {records : List ContractRecord} {count : Nat}
    {loaded : Registry} :
    registry.loadRecords forward records = .ok (count, loaded) ↔
      ∃ staged, stage (fun name => registry.hasContract name || forward.contains name)
          registry.loadedTables records = .ok staged ∧
        registry.firstTaken? [] (stagedNames staged) = none ∧ count = contractCount staged ∧
        loaded = registry.addStaged staged := by
  constructor
  · intro h
    unfold Registry.loadRecords at h
    split at h
    next => simp at h
    next staged hstage =>
      unfold register at h
      split at h
      next => simp at h
      next hfresh =>
        obtain ⟨rfl, rfl⟩ := Prod.mk.inj (Except.ok.inj h)
        exact ⟨staged, hstage, hfresh, rfl, rfl⟩
  · rintro ⟨staged, hstage, hfresh, rfl, rfl⟩
    simp only [Registry.loadRecords, hstage, register, hfresh]

/-- Loading different records keeps the contracts of every record together. -/
theorem Coherent.loadRecords (hregistry : registry.Coherent) {forward : List String}
    {records : List ContractRecord} (hdistinct : (records.map ContractRecord.id).Nodup)
    {count : Nat} {loaded : Registry}
    (h : registry.loadRecords forward records = .ok (count, loaded)) : loaded.Coherent := by
  obtain ⟨staged, hstage, -, -, rfl⟩ := loadRecords_eq_ok_iff.mp h
  obtain ⟨hsublist, hnew⟩ := stage_sound hstage
  exact hregistry.addStaged staged (hdistinct.sublist hsublist)
    fun record hrecord => places_of_not_loaded (hnew record hrecord)

private theorem Coherent.addFunctions (hregistry : registry.Coherent) (units : List SourceUnit) :
    (units.foldl (fun registry unit => registry.addFunction unit.name) registry).Coherent := by
  induction units generalizing registry with
  | nil => exact hregistry
  | cons unit rest ih => exact ih (hregistry.addFunction unit.name)

/-- The functions of the system come from no record. -/
theorem Coherent.addSystemFunctions (hregistry : registry.Coherent) {source : String}
    {equipped : Registry} (h : registry.addSystemFunctions source = .ok equipped) :
    equipped.Coherent := by
  unfold Registry.addSystemFunctions at h
  split at h
  next => simp at h
  next units _ =>
    obtain rfl := Except.ok.inj h
    have hall : (units.foldl (fun registry unit => registry.addFunction unit.name)
        registry).Coherent := hregistry.addFunctions units
    exact hall

/-- Once the functions of the system are registered, they are counted. -/
theorem isSome_shift_addSystemFunctions {source : String} {equipped : Registry}
    (h : registry.addSystemFunctions source = .ok equipped) : equipped.shift.isSome = true := by
  unfold Registry.addSystemFunctions at h
  split at h
  next => simp at h
  next units _ =>
    rw [← Except.ok.inj h]
    rfl

/-- The units of records, each with the ownership that it is registered under. -/
def ownedUnits (staged : List StagedRecord) : List (Ownership × SourceUnit) :=
  staged.flatMap fun record => record.units.map (record.owner, ·)

/-- All units, registered one behind the other. -/
abbrev addUnits (registry : Registry) (units : List (Ownership × SourceUnit)) : Registry :=
  units.foldl (fun registry unit => registry.addUnit unit.1 unit.2) registry

/-- Records are registered unit by unit. -/
theorem addStaged_eq (registry : Registry) (staged : List StagedRecord) :
    registry.addStaged staged = registry.addUnits (ownedUnits staged) := by
  simp only [addStaged, addUnits, ownedUnits, List.foldl_flatMap, List.foldl_map]

@[simp] theorem shift_addUnit (owner : Ownership) (registry : Registry) (unit : SourceUnit) :
    (registry.addUnit owner unit).shift = registry.shift := by
  unfold addUnit
  cases unit.kind with
  | contract => rfl
  | function => rfl

theorem shift_addUnits (registry : Registry) (units : List (Ownership × SourceUnit)) :
    (registry.addUnits units).shift = registry.shift := by
  induction units generalizing registry with
  | nil => rfl
  | cons unit units ih => rw [addUnits, List.foldl_cons, ih, shift_addUnit]

/-- Loads do not change the number of functions of the system. -/
theorem shift_loadRecords {forward : List String} {records : List ContractRecord} {count : Nat}
    {loaded : Registry} (h : registry.loadRecords forward records = .ok (count, loaded)) :
    loaded.shift = registry.shift := by
  obtain ⟨staged, -, -, -, rfl⟩ := loadRecords_eq_ok_iff.mp h
  rw [addStaged_eq, shift_addUnits]

/-! ## Loads -/

/-- The two ways in which a load changes a registry, and both are among the changes of a relation: the
functions of the system come into a registry without any, and records into one that has them. -/
structure Admits (R : Registry → Registry → Prop) : Prop where
  equip : ∀ {registry equipped : Registry} {source : String}, registry.shift = none →
    registry.addSystemFunctions source = .ok equipped → R registry equipped
  load : ∀ {registry loaded : Registry} {forward : List String} {records : List ContractRecord}
    {count : Nat}, registry.shift.isSome = true → (records.map ContractRecord.id).Nodup →
    registry.loadRecords forward records = .ok (count, loaded) → R registry loaded

namespace Loading

/-- The registries of the two states are related. -/
def Moves (R : Registry → Registry → Prop) (s t : LoadState) : Prop :=
  R s.registry t.registry

instance {R : Registry → Registry → Prop} [IsPreorder Registry R] :
    IsPreorder LoadState (Moves R) where
  refl s := Std.Refl.refl s.registry
  trans s t u hst htu := IsTrans.trans s.registry t.registry u.registry hst htu

/-- A registry that has the functions of the system moves, and keeps them. -/
def Equipped (R : Registry → Registry → Prop) (before after : Registry) : Prop :=
  before.shift.isSome = true → R before after ∧ after.shift.isSome = true

instance {R : Registry → Registry → Prop} [IsPreorder Registry R] :
    IsPreorder Registry (Equipped R) where
  refl registry h := ⟨Std.Refl.refl registry, h⟩
  trans _ _ _ hst htu h :=
    ⟨IsTrans.trans _ _ _ (hst h).1 (htu (hst h).2).1, (htu (hst h).2).2⟩

/-- The functions of the system are registered unless they are there. -/
theorem run_ensureSystem (source : String) (s : LoadState) :
    (ensureSystem source).run s =
      if s.registry.shift.isSome then (.ok (), s)
      else
        match s.registry.addSystemFunctions source with
        | .error e => (.error e, s)
        | .ok equipped => (.ok (), { s with registry := equipped }) := by
  have hread : Loading.registry.run s = (.ok s.registry, s) := rfl
  rw [ensureSystem, run_bind_of_ok hread]
  split
  · rfl
  · cases s.registry.addSystemFunctions source with
    | error e => rfl
    | ok equipped => rfl

/-- A look finds what is there, unless it fails. Either way it counts. -/
theorem run_look {α : Type} (call : StorageCall) (a : α) (s : LoadState) :
    (look call a).run s =
      match s.failures.next call with
      | some e => (.error (.storage e), { s with failures := s.failures.count call })
      | none => (.ok a, { s with failures := s.failures.count call }) := rfl

section Moves

variable {R : Registry → Registry → Prop} [IsPreorder Registry R] {db : Database}

private theorem ofExcept_moves {α : Type} (r : Except RegistryError α) :
    Keeps (Moves R) (ofExcept r) := by
  cases r with
  | ok a => exact .pure a
  | error e => exact .throw e

private theorem look_moves {α : Type} (call : StorageCall) (a : α) :
    Keeps (Moves R) (look call a) := by
  intro s
  rw [run_look]
  split
  next => exact Std.Refl.refl s.registry
  next => exact Std.Refl.refl s.registry

/-- What comes after a look sees what was looked at. -/
private theorem look_bind_moves {α β : Type} {call : StorageCall} {a : α} {f : α → Loading β}
    (hf : Keeps (Moves R) (f a)) : Keeps (Moves R) (look call a >>= f) := by
  intro s
  have hlook := run_look call a s
  split at hlook
  next =>
    rw [run_bind_of_error hlook]
    exact Std.Refl.refl s.registry
  next =>
    rw [run_bind_of_ok hlook]
    exact hf { s with failures := s.failures.count call }

private theorem registry_moves : Keeps (Moves R) Loading.registry :=
  fun s => Std.Refl.refl s.registry

/-- Different records are registered or passed over as a whole. -/
private theorem loadPage_moves (hR : Admits R) (forward : List String)
    {records : List ContractRecord} (hdistinct : (records.map ContractRecord.id).Nodup)
    (count : Nat) : Keeps (Moves (Equipped R)) (loadPage forward records count) := by
  intro s
  have hread : Loading.registry.run s = (.ok s.registry, s) := rfl
  rw [loadPage, run_bind_of_ok hread]
  cases hload : s.registry.loadRecords forward records with
  | error e => exact Std.Refl.refl (r := Equipped R) s.registry
  | ok loaded =>
    exact fun hshift => ⟨hR.load hshift hdistinct hload, (shift_loadRecords hload).symm ▸ hshift⟩

private theorem visitPages_moves {α : Type} {pageSize total : Nat}
    {visit : List ContractRecord → α → Loading α}
    (hvisit : ∀ offset limit a, Keeps (Moves R) (visit (db.contractPage offset limit) a))
    (fuel offset : Nat) (a : α) :
    Keeps (Moves R) (visitPages db pageSize total visit fuel offset a) := by
  induction fuel generalizing offset a with
  | zero => exact .pure a
  | succ fuel ih =>
    unfold visitPages
    split
    · refine look_bind_moves ?_
      split
      · exact .pure a
      · exact (hvisit offset _ a).bind fun a => ih _ a
    · exact .pure a

/-- Nothing is loaded before the functions of the system are there. -/
private theorem ensureSystem_bind_moves {α : Type} (hR : Admits R) {source : String}
    {x : Unit → Loading α} (hx : Keeps (Moves (Equipped R)) (x ())) :
    Keeps (Moves R) (ensureSystem source >>= x) := by
  intro s
  have hsystem := run_ensureSystem source s
  split at hsystem
  next hshift =>
    rw [run_bind_of_ok hsystem]
    exact (hx s hshift).1
  next hshift =>
    cases hequipped : s.registry.addSystemFunctions source with
    | error e =>
      rw [hequipped] at hsystem
      rw [run_bind_of_error hsystem]
      exact Std.Refl.refl s.registry
    | ok equipped =>
      rw [hequipped] at hsystem
      rw [run_bind_of_ok hsystem]
      refine IsTrans.trans s.registry equipped _ (hR.equip (by simpa using hshift) hequipped) ?_
      exact (hx { s with registry := equipped } (isSome_shift_addSystemFunctions hequipped)).1

/-- Different entries of a database have different records. -/
theorem nodup_ids (hdb : db.Keyed) {records : List ContractRecord}
    (h : records.Sublist (db.contracts.map Prod.snd)) :
    (records.map ContractRecord.id).Nodup := by
  have hids : (db.contracts.map Prod.snd).map ContractRecord.id = Dict.keys db.contracts := by
    rw [Dict.keys, List.map_map]
    exact List.map_congr_left hdb.ids
  have hnodup : ((db.contracts.map Prod.snd).map ContractRecord.id).Nodup := by
    rw [hids]
    exact hdb.ascending.imp Int.ne_of_lt
  exact hnodup.sublist (h.map ContractRecord.id)

/-- Loading all contracts moves the registry as is allowed, also where it stops half-way. -/
theorem all_moves (hR : Admits R) (settings : LoadSettings) (hdb : db.Keyed) :
    Keeps (Moves R) (all settings db) := by
  refine ensureSystem_bind_moves hR ((look_moves _ _).bind fun total =>
    registry_moves.bind fun loaded => Keeps.bind (visitPages_moves (fun _ _ names => ?_) _ _ _)
      fun forward => visitPages_moves (fun offset limit count => ?_) _ _ _)
  · exact (ofExcept_moves _).bind fun _ => .pure _
  · have hpage : (db.contractPage offset limit).Sublist (db.contracts.map Prod.snd) :=
      ((List.take_sublist _ _).trans (List.drop_sublist _ _)).map Prod.snd
    exact loadPage_moves hR forward (nodup_ids hdb hpage) count

/-- Loading the contracts of an ecosystem moves the registry as is allowed. -/
theorem ofEcosystem_moves (hR : Admits R) (settings : LoadSettings) (hdb : db.Keyed)
    (ecosystem : Int) : Keeps (Moves R) (ofEcosystem settings db ecosystem) :=
  ensureSystem_bind_moves hR <| look_bind_moves <|
    registry_moves.bind fun _ => (ofExcept_moves _).bind fun forward =>
      loadPage_moves hR forward (nodup_ids hdb List.filter_sublist) 0

end Moves

/-- Contracts of one record that were together are still together. -/
def Together (s t : LoadState) : Prop :=
  s.registry.Coherent → t.registry.Coherent

end Loading

/-- The same for registries. -/
private def StaysTogether (before after : Registry) : Prop :=
  before.Coherent → after.Coherent

private instance : IsPreorder Registry StaysTogether where
  refl _ := id
  trans _ _ _ h k := k ∘ h

private theorem admits_staysTogether : Admits StaysTogether where
  equip _ hequipped hregistry := hregistry.addSystemFunctions hequipped
  load _ hdistinct hload hregistry := hregistry.loadRecords hdistinct hload

namespace Loading

/-- Loading all contracts keeps those of every record together, also where it stops half-way. -/
theorem all_keeps (settings : LoadSettings) {db : Database} (hdb : db.Keyed) :
    Keeps Together (all settings db) :=
  all_moves admits_staysTogether settings hdb

/-- Loading the contracts of an ecosystem keeps those of every record together. -/
theorem ofEcosystem_keeps (settings : LoadSettings) {db : Database} (hdb : db.Keyed)
    (ecosystem : Int) : Keeps Together (ofEcosystem settings db ecosystem) :=
  ofEcosystem_moves admits_staysTogether settings hdb ecosystem

end Loading

/-! ## Reachable registries -/

/-- The registries that loads and changes of ownership lead to. A load may meet any failures and
read any database, as long as that stores contract sources under their ids. -/
inductive Reachable : Registry → Prop
  | empty : Reachable .empty
  | loadAll (settings : LoadSettings) {db : Database} (hdb : db.Keyed) {registry : Registry}
      (failures : Failures) : Reachable registry →
      Reachable ((Loading.all settings db).run ⟨registry, failures⟩).2.registry
  | loadEcosystem (settings : LoadSettings) {db : Database} (hdb : db.Keyed) (ecosystem : Int)
      {registry : Registry} (failures : Failures) : Reachable registry →
      Reachable ((Loading.ofEcosystem settings db ecosystem).run ⟨registry, failures⟩).2.registry
  | setActive (tableId ecosystem : Int) (active : Bool) {registry : Registry} :
      Reachable registry → Reachable (registry.setActive tableId ecosystem active).2
  | reassignWallet (tableId ecosystem walletId : Int) {registry : Registry} :
      Reachable registry → Reachable (registry.reassignWallet tableId ecosystem walletId).2

private theorem Coherent.empty : Coherent .empty :=
  fun tableId => ⟨⟨0, tableId, 0, 0, false⟩, rfl, fun _ hi => by cases hi⟩

/-- In a registry that can come about, the contracts of every record share one ownership. -/
theorem Reachable.coherent (h : registry.Reachable) : registry.Coherent := by
  induction h with
  | empty => exact .empty
  | loadAll settings hdb failures _ ih => exact Loading.all_keeps settings hdb ⟨_, failures⟩ ih
  | loadEcosystem settings hdb ecosystem failures _ ih =>
    exact Loading.ofEcosystem_keeps settings hdb ecosystem ⟨_, failures⟩ ih
  | setActive tableId ecosystem active _ ih =>
    exact ih.snd_changeOwner (overwrites_active active)
  | reassignWallet tableId ecosystem walletId _ ih =>
    exact ih.snd_changeOwner (overwrites_wallet walletId)

end Registry

end Covenant
