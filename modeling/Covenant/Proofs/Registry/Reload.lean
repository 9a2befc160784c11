import Mathlib.Data.List.Nodup
import Covenant.Proofs.Registry.Atomicity

/-!
# Loading once more

Once all records have been loaded, another load passes over those that have brought contracts. The
others are compiled again. Those that bring nothing do no harm, but the names of functions are taken,
so a record with functions and without contracts cannot be loaded twice.
-/

namespace Covenant

/-- The source of the record consists of functions, and has at least one. -/
def ContractRecord.IsLibrary (record : ContractRecord) : Prop :=
  ∃ units, Script.parse record.ecosystemId record.value = .ok units ∧ units ≠ [] ∧
    ∀ unit ∈ units, unit.kind = .function

namespace Registry

open Stage

variable {registry after equipped : Registry} {forward : List String}
  {records part : List ContractRecord} {staged : List StagedRecord} {record : ContractRecord}

/-! ## Records that are loaded -/

/-- A source that can be read compiles to what is read, if at all. -/
theorem units_eq_of_parse {ecosystem : Int} {isKnown : String → Bool} {source : String}
    {units found : List SourceUnit} (hparse : Script.parse ecosystem source = .ok units)
    (hcompile : Script.compile ecosystem isKnown source = .ok found) : found = units :=
  Except.ok.inj ((Script.compile_eq_ok hcompile).1.symm.trans hparse)

/-- Every unit of a record that was not loaded is staged. -/
theorem exists_staged {isKnown : String → Bool} {loaded : List Int}
    (h : stage isKnown loaded records = .ok staged) (hrecord : record ∈ records)
    (hnot : loaded.contains record.id = false) :
    ∃ units, Script.compile record.ecosystemId isKnown record.value = .ok units ∧
      ∀ unit ∈ units, (record.owner, unit) ∈ ownedUnits staged := by
  obtain ⟨compiled, hcompiled, howner, hcompile⟩ := exists_compiled h hrecord hnot
  refine ⟨compiled.units, hcompile, fun unit hunit => List.mem_flatMap.mpr ⟨compiled, hcompiled, ?_⟩⟩
  exact List.mem_map.mpr ⟨unit, hunit, by rw [howner]⟩

/-- The contracts of a record are its own, if records are different. -/
theorem mem_units_of_mem_ownedUnits {isKnown : String → Bool} {loaded : List Int}
    (hdistinct : (records.map ContractRecord.id).Nodup)
    (h : stage isKnown loaded records = .ok staged) (hrecord : record ∈ records)
    {unit : Ownership × SourceUnit} (hunit : unit ∈ ownedUnits staged)
    (htable : unit.1.tableId = record.id) :
    ∃ units, Script.compile record.ecosystemId isKnown record.value = .ok units ∧
      unit.2 ∈ units := by
  obtain ⟨other, hother, -, howner, units, hcompile, hmem⟩ := exists_of_mem_ownedUnits h hunit
  have hsame : other = record :=
    List.inj_on_of_nodup_map hdistinct hother hrecord (by rw [← htable, howner]; rfl)
  rw [hsame] at hcompile
  exact ⟨units, hcompile, hmem⟩

/-- Records that were loaded still are when others have been. -/
theorem not_loaded_of_addStaged {tableId : Int}
    (h : (registry.addStaged staged).loadedTables.contains tableId = false) :
    registry.loadedTables.contains tableId = false := by
  rw [← Bool.not_eq_true, List.contains_iff_mem] at h ⊢
  rw [addStaged_eq, mem_loadedTables_addUnits, not_or] at h
  exact h.1

/-- A record that was not loaded counts as loaded once it has brought a contract. -/
theorem not_loaded_addStaged_iff {isKnown : String → Bool}
    (hdistinct : (records.map ContractRecord.id).Nodup)
    (h : stage isKnown registry.loadedTables records = .ok staged) (hrecord : record ∈ records)
    (hnot : registry.loadedTables.contains record.id = false) {units : List SourceUnit}
    (hparse : Script.parse record.ecosystemId record.value = .ok units) :
    (registry.addStaged staged).loadedTables.contains record.id = false ↔
      ∀ unit ∈ units, unit.kind = .function := by
  have hmem : record.id ∉ registry.loadedTables := by
    rwa [← List.contains_iff_mem, Bool.not_eq_true]
  rw [← Bool.not_eq_true, List.contains_iff_mem, addStaged_eq, mem_loadedTables_addUnits,
    or_iff_right hmem]
  constructor
  · intro hnone unit hunit
    obtain ⟨found, hcompile, hstaged⟩ := exists_staged h hrecord hnot
    rw [units_eq_of_parse hparse hcompile] at hstaged
    cases hkind : unit.kind with
    | function => rfl
    | contract => exact absurd ⟨_, hstaged unit hunit, hkind, rfl⟩ hnone
  · rintro hfunctions ⟨unit, hunit, hkind, htable⟩
    obtain ⟨found, hcompile, hown⟩ := mem_units_of_mem_ownedUnits hdistinct h hrecord hunit htable
    rw [units_eq_of_parse hparse hcompile] at hown
    rw [hfunctions unit.2 hown] at hkind
    cases hkind

/-! ## Loading them once more -/

/-- Names can be collected if those of every single record can be found. -/
theorem exists_pendingNames {loaded : List Int}
    (h : ∀ record ∈ part, loaded.contains record.id = false →
      ∃ names, Script.contractNames record.ecosystemId record.value = .ok names) :
    ∃ names, pendingNames loaded part = .ok names := by
  induction part with
  | nil => exact ⟨[], rfl⟩
  | cons record part ih =>
    obtain ⟨hfirst, hmore⟩ := List.forall_mem_cons.mp h
    obtain ⟨others, hothers⟩ := ih hmore
    unfold pendingNames
    split
    next => exact ⟨others, hothers⟩
    next hnot =>
      obtain ⟨names, hnames⟩ := hfirst (Bool.eq_false_iff.mpr hnot)
      rw [hnames, hothers]
      exact ⟨names ++ others, rfl⟩

/-- Records that are not loaded are staged if they compile. -/
theorem stage_of_compile {isKnown : String → Bool} {loaded : List Int}
    (units : ContractRecord → List SourceUnit)
    (h : ∀ record ∈ part, loaded.contains record.id = false →
      Script.compile record.ecosystemId isKnown record.value = .ok (units record)) :
    stage isKnown loaded part =
      .ok ((part.filter fun record => !loaded.contains record.id).map fun record =>
        ⟨record.owner, units record⟩) := by
  induction part with
  | nil => rfl
  | cons record part ih =>
    obtain ⟨hfirst, hmore⟩ := List.forall_mem_cons.mp h
    unfold stage
    split
    next hloaded =>
      rw [List.filter_cons_of_neg (by simpa using hloaded)]
      exact ih hmore
    next hnot =>
      rw [List.filter_cons_of_pos (by simpa using hnot), hfirst (Bool.eq_false_iff.mpr hnot),
        ih hmore]
      rfl

/-- Records that are loaded or empty bring nothing. -/
theorem stage_of_empty {isKnown : String → Bool} {loaded : List Int}
    (h : ∀ record ∈ part, loaded.contains record.id = false →
      Script.parse record.ecosystemId record.value = .ok []) :
    ∃ staged, stage isKnown loaded part = .ok staged ∧ ownedUnits staged = [] := by
  refine ⟨_, stage_of_compile (fun _ => []) fun record hrecord hnot => ?_, ?_⟩
  · rw [Script.compile, h record hrecord hnot]
    rfl
  · rw [ownedUnits, List.flatMap_map]
    exact List.flatMap_eq_nil_iff.mpr fun _ _ => rfl

theorem contractCount_eq (staged : List StagedRecord) :
    contractCount staged = ((ownedUnits staged).filter (·.2.kind = .contract)).length := by
  induction staged with
  | nil => rfl
  | cons record staged ih =>
    unfold contractCount ownedUnits at ih ⊢
    simp [ih, List.filter_map, Function.comp_def]

/-- Records that have just been loaded can be loaded once more, and then change nothing, unless there
is a library among them that was new. -/
theorem loadRecords_again_iff (hdistinct : (records.map ContractRecord.id).Nodup)
    (hforward : pendingNames registry.loadedTables records = .ok forward) {count : Nat}
    (hload : registry.loadRecords forward records = .ok (count, after)) (hpart : part ⊆ records) :
    (∃ found, pendingNames after.loadedTables part = .ok found ∧
      after.loadRecords found part = .ok (0, after)) ↔
      ∀ record ∈ part, registry.loadedTables.contains record.id = false → ¬record.IsLibrary := by
  obtain ⟨staged, hstage, -, -, rfl⟩ := loadRecords_eq_ok_iff.mp hload
  constructor
  · rintro ⟨found, -, hagain⟩ record hrecord hnot ⟨units, hparse, hsome, hfunctions⟩
    obtain ⟨more, hmore, hfresh, -, -⟩ := loadRecords_eq_ok_iff.mp hagain
    have hstill := (not_loaded_addStaged_iff hdistinct hstage (hpart hrecord) hnot hparse).mpr
      hfunctions
    obtain ⟨unit, hunit⟩ := List.exists_mem_of_ne_nil units hsome
    obtain ⟨_, hcompile, hfirst⟩ := exists_staged hstage (hpart hrecord) hnot
    rw [units_eq_of_parse hparse hcompile] at hfirst
    obtain ⟨_, hcompile, hsecond⟩ := exists_staged hmore hrecord hstill
    rw [units_eq_of_parse hparse hcompile] at hsecond
    rw [stagedNames_eq, addStaged_eq] at hfresh
    have hfree := ((firstTaken?_eq_none_iff.mp hfresh).2 _
      (List.mem_map_of_mem (hsecond unit hunit))).2
    exact (find?_byName_addUnits.mp hfree).2 (List.mem_map_of_mem (hfirst unit hunit))
  · intro hnone
    have hnew : ∀ record ∈ part,
        (registry.addStaged staged).loadedTables.contains record.id = false →
        registry.loadedTables.contains record.id = false ∧
          Script.parse record.ecosystemId record.value = .ok [] := by
      intro record hrecord hstill
      have hnot := not_loaded_of_addStaged hstill
      obtain ⟨units, hcompile, -⟩ := exists_staged hstage (hpart hrecord) hnot
      have hparse := (Script.compile_eq_ok hcompile).1
      have hfunctions := (not_loaded_addStaged_iff hdistinct hstage (hpart hrecord) hnot hparse).mp
        hstill
      have hempty : units = [] := by
        by_contra hsome
        exact hnone record hrecord hnot ⟨units, hparse, hsome, hfunctions⟩
      rw [hempty] at hparse
      exact ⟨hnot, hparse⟩
    obtain ⟨found, hfound⟩ := exists_pendingNames fun record hrecord hstill => by
      obtain ⟨names, hnames, -⟩ := named_of_pendingNames hforward record (hpart hrecord)
        (hnew record hrecord hstill).1
      exact ⟨names, hnames⟩
    obtain ⟨more, hmore, hempty⟩ := stage_of_empty fun record hrecord hstill =>
      (hnew record hrecord hstill).2
    refine ⟨found, hfound, loadRecords_eq_ok_iff.mpr ⟨more, hmore, ?_, ?_, ?_⟩⟩
    · rw [stagedNames_eq, hempty]
      rfl
    · rw [contractCount_eq, hempty]
      rfl
    · rw [addStaged_eq _ more, hempty]
      rfl

/-! ## Whole loads -/

namespace Loading

/-- Once the functions of the system are there, they stay the only ones. -/
theorem equip_of_isSome (source : String) (hset : registry.shift.isSome = true) :
    equip registry source = .ok registry :=
  if_pos hset

theorem isSome_shift_of_equip {source : String} (h : equip registry source = .ok equipped) :
    equipped.shift.isSome = true := by
  unfold equip at h
  split at h
  next hset =>
    obtain rfl := Except.ok.inj h
    exact hset
  next => exact isSome_shift_addSystemFunctions h

private theorem loadedTables_addFunctions (registry : Registry) (units : List SourceUnit) :
    (units.foldl (fun registry unit => registry.addFunction unit.name) registry).loadedTables =
      registry.loadedTables := by
  induction units generalizing registry with
  | nil => rfl
  | cons unit units ih => exact ih (registry.addFunction unit.name)

/-- The functions of the system come from no record. -/
theorem loadedTables_of_equip {source : String} (h : equip registry source = .ok equipped) :
    equipped.loadedTables = registry.loadedTables := by
  unfold equip at h
  split at h
  next => rw [← Except.ok.inj h]
  next =>
    unfold addSystemFunctions at h
    split at h
    next => cases h
    next units _ =>
      rw [← Except.ok.inj h]
      exact loadedTables_addFunctions registry units

/-- Loading the contracts of an ecosystem is loading its records at once. -/
theorem ofEcosystem_endsAs (settings : LoadSettings) (db : Database) (ecosystem : Int)
    {s : LoadState} (hnever : s.failures.Never) :
    EndsAs ((ofEcosystem settings db ecosystem).run s)
      (loadAtOnce s.registry settings.systemSource (db.contractsOf ecosystem)) := by
  have hsequence : loadAtOnce s.registry settings.systemSource (db.contractsOf ecosystem) =
      (equip s.registry settings.systemSource).map ((), ·) >>= fun equipped =>
        collect equipped.2.loadedTables ([], equipped.2) (db.contractsOf ecosystem) >>= fun found =>
          loadNext found.1 (0, found.2) (db.contractsOf ecosystem) := by
    rw [loadAtOnce]
    cases equip s.registry settings.systemSource with
    | error e => rfl
    | ok equipped =>
      change (pendingNames equipped.loadedTables _ >>= fun forward =>
        equipped.loadRecords forward _) = collect _ ([], equipped) _ >>= _
      unfold collect
      cases pendingNames equipped.loadedTables (db.contractsOf ecosystem) with
      | error e => rfl
      | ok forward =>
        change equipped.loadRecords forward _ = loadNext ([] ++ forward) (0, equipped) _
        rw [List.nil_append, loadNext]
        cases equipped.loadRecords forward (db.contractsOf ecosystem) with
        | error e => rfl
        | ok loaded => simp [Except.map]
  rw [hsequence, ofEcosystem]
  refine (endsAs_ensureSystem settings.systemSource hnever).bind fun _ t ht => ?_
  rw [run_bind_of_ok (run_look_of_never ht)]
  have hread : Loading.registry.run { t with failures := t.failures.count .listByEcosystem } =
      (.ok t.registry, { t with failures := t.failures.count .listByEcosystem }) := rfl
  rw [run_bind_of_ok hread]
  refine EndsAs.bind ?_ fun forward u hu => steps_loadPage forward _ 0 u hu
  unfold collect
  cases pendingNames t.registry.loadedTables (db.contractsOf ecosystem) with
  | error e => exact .error (s := { t with failures := t.failures.count .listByEcosystem }) ht e
  | ok forward => exact .ok (s := { t with failures := t.failures.count .listByEcosystem }) ht forward

/-- An ecosystem can be loaded if its records can be loaded at once. -/
theorem ofEcosystem_eq_ok_iff (settings : LoadSettings) (db : Database) (ecosystem : Int)
    {failures : Failures} (hnever : failures.Never) {count : Nat} :
    (∃ left, (ofEcosystem settings db ecosystem).run ⟨registry, failures⟩ =
      (.ok count, ⟨after, left⟩)) ↔
      loadAtOnce registry settings.systemSource (db.contractsOf ecosystem) = .ok (count, after) :=
  (ofEcosystem_endsAs settings db ecosystem (s := ⟨registry, failures⟩) hnever).exists_eq_ok_iff

/-- Records of a load that has succeeded can be loaded once more at once, and then change nothing,
unless there is a library among them that was new. -/
theorem loadAtOnce_again_iff {db : Database} (hdb : db.Keyed) {settings : LoadSettings}
    {failures left : Failures} {count : Nat}
    (hload : (all settings db).run ⟨registry, failures⟩ = (.ok count, ⟨after, left⟩))
    (source : String) (hpart : part ⊆ db.contracts.map Prod.snd) :
    loadAtOnce after source part = .ok (0, after) ↔
      ∀ record ∈ part, registry.loadedTables.contains record.id = false → ¬record.IsLibrary := by
  cases all_ends hdb hload with
  | loaded hequip hforward hfirst =>
    have hset := (shift_loadRecords hfirst).symm ▸ isSome_shift_of_equip hequip
    have hagain : loadAtOnce after source part = .ok (0, after) ↔
        ∃ found, pendingNames after.loadedTables part = .ok found ∧
          after.loadRecords found part = .ok (0, after) := by
      rw [loadAtOnce, equip_of_isSome source hset]
      change (pendingNames after.loadedTables part >>= fun found =>
        after.loadRecords found part) = _ ↔ _
      exact bind_eq_ok
    rw [hagain, ← loadedTables_of_equip hequip]
    exact loadRecords_again_iff (nodup_ids hdb (List.Sublist.refl _)) hforward hfirst hpart

/-- After a load that has succeeded, another load of the same contracts succeeds, registers nothing
and leaves the registry as it is, exactly if the first one has met no library: no record that was not
loaded then and that declares functions and no contract. The same holds for the records of every
ecosystem. -/
theorem reload_iff {db : Database} (hdb : db.Keyed) {settings : LoadSettings}
    {failures left : Failures} {count : Nat}
    (hload : (all settings db).run ⟨registry, failures⟩ = (.ok count, ⟨after, left⟩))
    (again : LoadSettings) {later : Failures} (hnever : later.Never) :
    ((∃ last, (all again db).run ⟨after, later⟩ = (.ok 0, ⟨after, last⟩)) ↔
      ∀ record ∈ db.contracts.map Prod.snd,
        registry.loadedTables.contains record.id = false → ¬record.IsLibrary) ∧
    ∀ ecosystem, (∃ last, (ofEcosystem again db ecosystem).run ⟨after, later⟩ =
        (.ok 0, ⟨after, last⟩)) ↔
      ∀ record ∈ db.contractsOf ecosystem,
        registry.loadedTables.contains record.id = false → ¬record.IsLibrary := by
  refine ⟨?_, fun ecosystem => ?_⟩
  · rw [all_eq_ok_iff again hdb hnever]
    exact loadAtOnce_again_iff hdb hload again.systemSource (List.Subset.refl _)
  · rw [ofEcosystem_eq_ok_iff again db ecosystem hnever]
    exact loadAtOnce_again_iff hdb hload again.systemSource (List.filter_subset_self _)

/-- The first record is a library, the second one has a contract of another ecosystem. -/
def libraryDatabase : Database :=
  { Database.empty with
    contracts := [
      (1, ⟨1, 1, "func Helper \x7b\n charge 1\n\x7d\n", 3, 1, true, "", 1⟩),
      (2, ⟨2, 2, "contract Main \x7b\n action \x7b\n \x7d\n\x7d\n", 3, 1, true, "", 1⟩)] }

theorem libraryDatabase_keyed : libraryDatabase.Keyed :=
  ⟨by decide, by simp [libraryDatabase]⟩

/-- The records of the second ecosystem can be loaded once more. -/
theorem reload_iff_sample : libraryDatabase.Keyed ∧ Failures.none.Never ∧ ∃ after left,
    (all ⟨200, Script.systemFunctions⟩ libraryDatabase).run ⟨.empty, .none⟩ =
      (.ok 1, ⟨after, left⟩) ∧
    ∃ last, (ofEcosystem ⟨200, Script.systemFunctions⟩ libraryDatabase 2).run ⟨after, .none⟩ =
      (.ok 0, ⟨after, last⟩) := by
  have hnever : Failures.none.Never := fun _ _ => rfl
  have hresult : ((all ⟨200, Script.systemFunctions⟩ libraryDatabase).run
      ⟨.empty, .none⟩).1.toOption = some 1 := by
    decide +kernel
  have hrun := run_of_toOption hresult
  generalize ((all ⟨200, Script.systemFunctions⟩ libraryDatabase).run ⟨.empty, .none⟩).2 = last
    at hrun
  obtain ⟨after, left⟩ := last
  refine ⟨libraryDatabase_keyed, hnever, after, left, hrun, ?_⟩
  refine ((reload_iff libraryDatabase_keyed hrun _ hnever).2 2).mpr ?_
  rintro record hrecord - ⟨units, hparse, -, hfunctions⟩
  have hcontracts : ∀ record ∈ libraryDatabase.contractsOf 2,
      ((Script.parse record.ecosystemId record.value).toOption.getD []).all
        (·.kind = .function) = false := by
    decide +kernel
  have hcontract := hcontracts record hrecord
  rw [hparse] at hcontract
  have hall := List.all_eq_true.mpr fun unit hunit => decide_eq_true (hfunctions unit hunit)
  exact Bool.false_ne_true (hcontract.symm.trans hall)

/-- Once the library has been loaded, the name of its function is taken. -/
theorem not_reload : libraryDatabase.Keyed ∧ ∃ after left,
    (all ⟨200, Script.systemFunctions⟩ libraryDatabase).run ⟨.empty, .none⟩ =
      (.ok 1, ⟨after, left⟩) ∧
    ((all ⟨200, Script.systemFunctions⟩ libraryDatabase).run ⟨after, .none⟩).1 =
      .error (.duplicate "Helper") ∧
    ((ofEcosystem ⟨200, Script.systemFunctions⟩ libraryDatabase 1).run ⟨after, .none⟩).1 =
      .error (.duplicate "Helper") := by
  have hruns :
      let first := (all ⟨200, Script.systemFunctions⟩ libraryDatabase).run ⟨.empty, .none⟩
      first.1.toOption = some 1 ∧
      ((all ⟨200, Script.systemFunctions⟩ libraryDatabase).run ⟨first.2.registry, .none⟩).1 =
        .error (.duplicate "Helper") ∧
      ((ofEcosystem ⟨200, Script.systemFunctions⟩ libraryDatabase 1).run
        ⟨first.2.registry, .none⟩).1 = .error (.duplicate "Helper") := by
    decide +kernel
  obtain ⟨hresult, hall, hecosystem⟩ := hruns
  have hrun := run_of_toOption hresult
  generalize ((all ⟨200, Script.systemFunctions⟩ libraryDatabase).run ⟨.empty, .none⟩).2 = last
    at hrun hall hecosystem
  obtain ⟨after, left⟩ := last
  exact ⟨libraryDatabase_keyed, after, left, hrun, hall, hecosystem⟩

end Loading

end Registry

end Covenant
