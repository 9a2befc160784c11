import Mathlib.Data.List.Nodup
import Covenant.Proofs.Registry.Origin
import Covenant.Proofs.Script.FullName

/-!
# Contracts of different ecosystems

A registry knows its contracts by their full names only, and a full name does not say where the number
of the ecosystem ends. So a contract is found wherever its full name can be read, and contracts of
different ecosystems get in each other's way if they can be taken for each other. Functions have no
ecosystem in their names and get in the way of all that are called the same.
-/

namespace Covenant

/-- The units of the two records have one full name: both are functions of the same name, whatever the
ecosystems are, or both are contracts and their names overlap. -/
inductive ContractRecord.Clash (record : ContractRecord) (unit : SourceUnit)
    (other : ContractRecord) (twin : SourceUnit) : Prop
  | functions (kind : unit.kind = .function) (twinKind : twin.kind = .function)
      (same : unit.name = twin.name)
  | contracts (kind : unit.kind = .contract) (twinKind : twin.kind = .contract)
      (overlap : ContractName.Overlap record.ecosystemId unit.name other.ecosystemId twin.name)

/-- The contract comes from one of these records, in the ecosystem and under the name. -/
def Contract.IsDeclared (sources : ContractRecord → Prop) (c : Contract) (ecosystem : Int)
    (name : String) : Prop :=
  ∃ record unit, sources record ∧ c.ComesFrom record unit ∧ record.ecosystemId = ecosystem ∧
    unit.name = name

namespace Registry

open Stage

variable {sources : ContractRecord → Prop} {registry after equipped : Registry}
  {forward : List String} {records part : List ContractRecord} {staged : List StagedRecord}
  {record other : ContractRecord} {unit twin : SourceUnit} {name : String}

/-! ## Full names of units -/

theorem unitName_of_contract {ecosystem : Int} (h : unit.kind = .contract) :
    unitName ecosystem unit = ContractName.qualify ecosystem unit.name := by
  rw [unitName, h]

theorem unitName_of_function {ecosystem : Int} (h : unit.kind = .function) :
    unitName ecosystem unit = unit.name := by
  rw [unitName, h]

/-- A contract and a function never have one full name. -/
theorem unitName_ne_of_kind {ecosystem place : Int} (hunit : Script.IsName unit.name)
    (htwin : Script.IsName twin.name) (hkind : unit.kind = .contract)
    (htwinKind : twin.kind = .function) : unitName ecosystem unit ≠ unitName place twin := by
  rw [unitName_of_contract hkind, unitName_of_function htwinKind]
  intro hsame
  exact ContractName.not_isName_qualify hunit (hsame ▸ htwin)

theorem unitName_eq_iff (hunit : Script.IsName unit.name) (htwin : Script.IsName twin.name) :
    unitName record.ecosystemId unit = unitName other.ecosystemId twin ↔
      record.Clash unit other twin := by
  have hcontracts : ContractName.qualify record.ecosystemId unit.name =
      ContractName.qualify other.ecosystemId twin.name ↔
      ContractName.Overlap record.ecosystemId unit.name other.ecosystemId twin.name :=
    ContractName.qualify_eq_iff hunit.bare htwin.bare
  constructor
  · intro hsame
    cases hkind : unit.kind with
    | contract =>
      cases htwinKind : twin.kind with
      | contract =>
        rw [unitName_of_contract hkind, unitName_of_contract htwinKind] at hsame
        exact .contracts hkind htwinKind (hcontracts.mp hsame)
      | function => exact absurd hsame (unitName_ne_of_kind hunit htwin hkind htwinKind)
    | function =>
      cases htwinKind : twin.kind with
      | contract => exact absurd hsame.symm (unitName_ne_of_kind htwin hunit htwinKind hkind)
      | function =>
        rw [unitName_of_function hkind, unitName_of_function htwinKind] at hsame
        exact .functions hkind htwinKind hsame
  · intro hclash
    cases hclash with
    | functions kind twinKind same =>
      rw [unitName_of_function kind, unitName_of_function twinKind, same]
    | contracts kind twinKind overlap =>
      rw [unitName_of_contract kind, unitName_of_contract twinKind]
      exact hcontracts.mpr overlap

/-- Units of one record with the same full name have the same name. -/
theorem name_eq_of_unitName_eq (hunit : record.Declares unit) (htwin : record.Declares twin)
    (h : unitName record.ecosystemId unit = unitName record.ecosystemId twin) :
    unit.name = twin.name := by
  cases (unitName_eq_iff hunit.isName htwin.isName).mp h with
  | functions _ _ same => exact same
  | contracts kind twinKind _ =>
    rw [unitName_of_contract kind, unitName_of_contract twinKind] at h
    exact ContractName.qualify_inj hunit.isName.bare htwin.isName.bare h

/-! ## Rivals -/

/-- Something besides the unit of the record has its full name. -/
inductive Rival (sources : ContractRecord → Prop) (registry : Registry)
    (records : List ContractRecord) (record : ContractRecord) (unit : SourceUnit) : Prop
  /-- A function of the system. -/
  | system (kind : unit.kind = .function) (held : .function unit.name ∈ registry.systemObjects)
  /-- A registered unit of another record, or of a library, which does not count as loaded. -/
  | registered {object : RegistryObject} {other : ContractRecord} {twin : SourceUnit}
      (held : object ∈ registry.objects) (source : sources other)
      (comes : object.ComesFrom other twin) (different : other.id ≠ record.id ∨ other.IsLibrary)
      (clash : record.Clash unit other twin)
  /-- A unit of another of the records, which is not loaded either. -/
  | pending {other : ContractRecord} {twin : SourceUnit} (held : other ∈ records)
      (new : registry.loadedTables.contains other.id = false) (different : other.id ≠ record.id)
      (declared : other.Declares twin) (clash : record.Clash unit other twin)

/-- One of the records is not loaded and has a unit of this full name, and something else has it too. -/
def Contested (sources : ContractRecord → Prop) (registry : Registry)
    (records : List ContractRecord) (name : String) : Prop :=
  ∃ record ∈ records, registry.loadedTables.contains record.id = false ∧
    ∃ unit, record.Declares unit ∧ unitName record.ecosystemId unit = name ∧
      registry.Rival sources records record unit

/-- The name is in use in the registry, or another one of the records has a unit of this full name and
is not loaded. -/
def Taken (registry : Registry) (records : List ContractRecord) (record : ContractRecord)
    (name : String) : Prop :=
  (Assoc.find? name registry.byName).isSome ∨
    ∃ other ∈ records, registry.loadedTables.contains other.id = false ∧ other.id ≠ record.id ∧
      ∃ twin, other.Declares twin ∧ unitName other.ecosystemId twin = name

/-- What is registered under the full name of a unit is its rival. -/
theorem Sourced.rival (h : registry.Sourced sources) (hwell : registry.WellFormed)
    (hnot : registry.loadedTables.contains record.id = false) (hdeclared : record.Declares unit)
    (htaken : (Assoc.find? (unitName record.ecosystemId unit) registry.byName).isSome) :
    registry.Rival sources records record unit := by
  obtain ⟨index, hindex⟩ := Option.isSome_iff_exists.mp htaken
  obtain ⟨object, hobject, hname⟩ := (hwell.byName _ index).mp hindex
  have hmem := List.mem_of_getElem? hobject
  cases h object hmem with
  | @system name isName function place =>
    subst function
    have hsame : name = unitName record.ecosystemId unit := hname
    cases hkind : unit.kind with
    | contract =>
      rw [unitName_of_contract hkind] at hsame
      exact absurd (hsame ▸ isName) (ContractName.not_isName_qualify hdeclared.isName)
    | function =>
      rw [unitName_of_function hkind] at hsame
      exact .system hkind (hsame ▸ place)
  | unit source comes loaded =>
    refine .registered hmem source comes (loaded.imp_left fun hloaded hid => ?_)
      ((unitName_eq_iff hdeclared.isName comes.declared.isName).mp (hname.symm.trans comes.name))
    rw [hid, ← List.contains_iff_mem, hnot] at hloaded
    cases hloaded

/-- The full name of a unit is taken if it has a rival. -/
theorem Rival.taken (h : registry.Rival sources records record unit) (hwell : registry.WellFormed)
    (hdeclared : record.Declares unit) :
    registry.Taken records record (unitName record.ecosystemId unit) := by
  have hobject : ∀ object ∈ registry.objects,
      (Assoc.find? object.name registry.byName).isSome := by
    intro object hmem
    obtain ⟨index, hindex⟩ := List.mem_iff_getElem?.mp hmem
    exact Option.isSome_of_eq_some ((hwell.byName _ index).mpr ⟨object, hindex, rfl⟩)
  cases h with
  | system kind held =>
    left
    rw [unitName_of_function kind]
    exact hobject _ (List.mem_of_mem_take held)
  | registered held source comes different clash =>
    left
    rw [(unitName_eq_iff hdeclared.isName comes.declared.isName).mpr clash, ← comes.name]
    exact hobject _ held
  | pending held new different declared clash =>
    exact .inr ⟨_, held, new, different, _, declared,
      ((unitName_eq_iff hdeclared.isName declared.isName).mpr clash).symm⟩

/-- The full name of a unit of a record that is not loaded is taken exactly if it has a rival. -/
theorem Sourced.taken_iff (h : registry.Sourced sources) (hwell : registry.WellFormed)
    (hnot : registry.loadedTables.contains record.id = false) (hdeclared : record.Declares unit) :
    registry.Taken records record (unitName record.ecosystemId unit) ↔
      registry.Rival sources records record unit := by
  refine ⟨?_, fun hrival => hrival.taken hwell hdeclared⟩
  rintro (hregistered | ⟨other, hother, hnew, hdifferent, twin, htwin, hsame⟩)
  · exact h.rival hwell hnot hdeclared hregistered
  · exact .pending hother hnew hdifferent htwin
      ((unitName_eq_iff hdeclared.isName htwin.isName).mp hsame.symm)

/-! ## Records that are refused -/

/-- A name of a list that is taken is the name of an object, or stands in the list before. -/
theorem exists_of_firstTaken? {seen names : List String}
    (h : registry.firstTaken? seen names = some name) :
    ∃ front rest, names = front ++ name :: rest ∧
      ((Assoc.find? name registry.byName).isSome ∨ name ∈ seen ∨ name ∈ front) := by
  induction names generalizing seen with
  | nil => cases h
  | cons first names ih =>
    unfold firstTaken? at h
    split at h
    next htaken =>
      obtain rfl := Option.some.inj h
      rw [Bool.or_eq_true, List.contains_iff_mem] at htaken
      exact ⟨[], names, rfl, htaken.imp_right .inl⟩
    next =>
      obtain ⟨front, rest, rfl, htaken⟩ := ih h
      refine ⟨first :: front, rest, rfl, ?_⟩
      grind

theorem stage_ne_duplicate {isKnown : String → Bool} {loaded : List Int} :
    stage isKnown loaded records ≠ .error (.duplicate name) := by
  intro h
  induction records with
  | nil => cases h
  | cons record records ih =>
    unfold stage at h
    split at h
    next => exact ih h
    next =>
      split at h
      next => cases h
      next => exact ih (map_eq_error.mp h)

/-- Records are refused for a name if they compile and one of the units has a name that is taken. -/
theorem firstTaken?_of_loadRecords
    (h : registry.loadRecords forward records = .error (.duplicate name)) :
    ∃ staged, stage (fun name => registry.hasContract name || forward.contains name)
        registry.loadedTables records = .ok staged ∧
      registry.firstTaken? [] (stagedNames staged) = some name := by
  unfold Registry.loadRecords at h
  split at h
  next e hstage =>
    rw [Except.error.inj h] at hstage
    exact absurd hstage stage_ne_duplicate
  next staged hstage =>
    unfold register at h
    split at h
    next found htaken =>
      obtain rfl := RegistryError.duplicate.inj (Except.error.inj h)
      exact ⟨staged, hstage, htaken⟩
    next => cases h

/-- The units of different records are different, and so are those of one record. -/
theorem nodup_ownedUnits (hdistinct : (staged.map (·.owner.tableId)).Nodup)
    (hnames : ∀ record ∈ staged, (record.units.map SourceUnit.name).Nodup) :
    ((ownedUnits staged).map fun unit => (unit.1.tableId, unit.2.name)).Nodup := by
  induction staged with
  | nil => exact .nil
  | cons record staged ih =>
    obtain ⟨hfirst, hmore⟩ := List.forall_mem_cons.mp hnames
    rw [List.map_cons, List.nodup_cons] at hdistinct
    rw [ownedUnits, List.flatMap_cons, List.map_append, List.nodup_append, List.map_map]
    refine ⟨?_, ih hdistinct.2 hmore, ?_⟩
    · refine List.Nodup.of_map Prod.snd ?_
      rwa [List.map_map]
    · rintro _ hhere _ hthere rfl
      obtain ⟨unit, -, hkey⟩ := List.mem_map.mp hhere
      obtain ⟨owned, howned, hsame⟩ := List.mem_map.mp hthere
      obtain ⟨found, hfound, hunit⟩ := List.mem_flatMap.mp howned
      obtain ⟨_, -, rfl⟩ := List.mem_map.mp hunit
      have htable : found.owner.tableId = record.owner.tableId :=
        congrArg Prod.fst (hsame.trans hkey.symm)
      exact hdistinct.1 (htable ▸ List.mem_map_of_mem hfound)

theorem nodup_names_of_stage {isKnown : String → Bool} {loaded : List Int}
    (h : stage isKnown loaded records = .ok staged) :
    ∀ record ∈ staged, (record.units.map SourceUnit.name).Nodup := by
  intro compiled hcompiled
  obtain ⟨record, -, -, -, hcompile⟩ := exists_of_mem_staged h hcompiled
  exact nodup_of_compile hcompile

/-- A unit that is staged belongs to one of the records, which is not loaded. -/
theorem exists_declares {isKnown : String → Bool}
    (hstage : stage isKnown registry.loadedTables records = .ok staged)
    {owned : Ownership × SourceUnit} (howned : owned ∈ ownedUnits staged) :
    ∃ record ∈ records, registry.loadedTables.contains record.id = false ∧
      owned.1 = record.owner ∧ record.Declares owned.2 := by
  obtain ⟨record, hrecord, hnot, howner, units, hcompile, hunit⟩ :=
    exists_of_mem_ownedUnits hstage howned
  exact ⟨record, hrecord, hnot, howner, _, units, hcompile, hunit⟩

/-- All units of a record that is not loaded are staged. -/
theorem mem_ownedUnits_of_declares {isKnown : String → Bool}
    (hstage : stage isKnown registry.loadedTables records = .ok staged) (hrecord : record ∈ records)
    (hnot : registry.loadedTables.contains record.id = false) (hdeclared : record.Declares unit) :
    (record.owner, unit) ∈ ownedUnits staged := by
  obtain ⟨_, units, hcompile, hunit⟩ := hdeclared
  obtain ⟨found, hfound, hstaged⟩ := exists_staged hstage hrecord hnot
  obtain rfl := units_eq_of_parse (Script.compile_eq_ok hcompile).1 hfound
  exact hstaged unit hunit

/-- A staged unit with the same full name as an earlier one belongs to another record. -/
theorem ne_of_staged_before {isKnown : String → Bool}
    (hdistinct : (records.map ContractRecord.id).Nodup)
    (hstage : stage isKnown registry.loadedTables records = .ok staged)
    {before later : List (Ownership × SourceUnit)} (hrecord : record ∈ records)
    (hdeclared : record.Declares unit)
    (hunits : ownedUnits staged = before ++ (record.owner, unit) :: later)
    (hother : other ∈ records) (htwin : other.Declares twin) (hbefore : (other.owner, twin) ∈ before)
    (hname : unitName other.ecosystemId twin = unitName record.ecosystemId unit) :
    other.id ≠ record.id := by
  intro hid
  obtain rfl := List.inj_on_of_nodup_map hdistinct hother hrecord hid
  have hsame := name_eq_of_unitName_eq htwin hdeclared hname
  have hnodup := nodup_ownedUnits (hdistinct.sublist (stage_sound hstage).1)
    (nodup_names_of_stage hstage)
  rw [hunits, List.map_append, List.map_cons, List.nodup_append] at hnodup
  exact hnodup.2.2 _ (List.mem_map_of_mem hbefore) _ List.mem_cons_self (by rw [hsame])

/-- Records are refused for a name only if a unit of one of them has it, and it is taken. -/
theorem exists_taken (hdistinct : (records.map ContractRecord.id).Nodup)
    (h : registry.loadRecords forward records = .error (.duplicate name)) :
    ∃ record ∈ records, registry.loadedTables.contains record.id = false ∧
      ∃ unit, record.Declares unit ∧ unitName record.ecosystemId unit = name ∧
        registry.Taken records record name := by
  obtain ⟨staged, hstage, hfirst⟩ := firstTaken?_of_loadRecords h
  obtain ⟨front, rest, hnames, htaken⟩ := exists_of_firstTaken? hfirst
  rw [stagedNames_eq] at hnames
  obtain ⟨before, others, hunits, rfl, hothers⟩ := List.map_eq_append_iff.mp hnames
  obtain ⟨⟨owner, unit⟩, later, rfl, rfl, -⟩ := List.map_eq_cons_iff.mp hothers
  obtain ⟨record, hrecord, hnot, howner, hdeclared⟩ := exists_declares hstage
    (hunits ▸ List.mem_append_right _ List.mem_cons_self)
  obtain rfl : owner = record.owner := howner
  refine ⟨record, hrecord, hnot, unit, hdeclared, rfl, ?_⟩
  rcases htaken with hregistered | hseen | hstaged
  · exact .inl hregistered
  · cases hseen
  · obtain ⟨⟨_, twin⟩, htwin, hname⟩ := List.mem_map.mp hstaged
    obtain ⟨other, hother, hnew, rfl, hdeclares⟩ := exists_declares hstage
      (hunits ▸ List.mem_append_left _ htwin)
    exact .inr ⟨other, hother, hnew, ne_of_staged_before hdistinct hstage hrecord hdeclared hunits
      hother hdeclares htwin hname, twin, hdeclares, hname⟩

/-- Records that are loaded have units with names that were not taken. -/
theorem not_taken_of_loadRecords {count : Nat}
    (h : registry.loadRecords forward records = .ok (count, after)) (hrecord : record ∈ records)
    (hnot : registry.loadedTables.contains record.id = false) (hdeclared : record.Declares unit) :
    ¬registry.Taken records record (unitName record.ecosystemId unit) := by
  obtain ⟨staged, hstage, hfresh, -, -⟩ := loadRecords_eq_ok_iff.mp h
  rw [stagedNames_eq] at hfresh
  obtain ⟨hnodup, hfree⟩ := firstTaken?_eq_none_iff.mp hfresh
  have hmem := mem_ownedUnits_of_declares hstage hrecord hnot hdeclared
  rintro (hregistered | ⟨other, hother, hnew, hdifferent, twin, htwin, hsame⟩)
  · have hnone : Assoc.find? (unitName record.ecosystemId unit) registry.byName = none :=
      (hfree _ (List.mem_map_of_mem hmem)).2
    rw [hnone] at hregistered
    cases hregistered
  · have htwins := mem_ownedUnits_of_declares hstage hother hnew htwin
    have hpair := List.inj_on_of_nodup_map hnodup htwins hmem hsame
    exact hdifferent (congrArg (fun owned => owned.1.tableId) hpair)

theorem Taken.mono (h : registry.Taken part record name) (hsubset : part ⊆ records) :
    registry.Taken records record name :=
  h.imp_right fun ⟨other, hother, hrest⟩ => ⟨other, hsubset hother, hrest⟩

/-- What is taken once other records are registered was taken before, or is by one of them. -/
theorem Taken.of_addStaged {isKnown : String → Bool}
    (hdistinct : ((part ++ records).map ContractRecord.id).Nodup)
    (hstage : stage isKnown registry.loadedTables part = .ok staged) (hrecord : record ∈ records)
    (h : (registry.addStaged staged).Taken records record name) :
    registry.Taken (part ++ records) record name := by
  rcases h with hregistered | ⟨other, hother, hnew, hrest⟩
  · by_cases hbefore : (Assoc.find? name registry.byName).isSome
    · exact .inl hbefore
    · have hunits : name ∈ (ownedUnits staged).map fullName := by
        by_contra hnone
        have hfree := find?_byName_addUnits.mpr ⟨Option.not_isSome_iff_eq_none.mp hbefore, hnone⟩
        rw [addStaged_eq, hfree] at hregistered
        cases hregistered
      obtain ⟨⟨_, twin⟩, htwin, rfl⟩ := List.mem_map.mp hunits
      obtain ⟨other, hother, hnew, rfl, hdeclares⟩ := exists_declares hstage htwin
      rw [List.map_append, List.nodup_append] at hdistinct
      exact .inr ⟨other, List.mem_append_left _ hother, hnew,
        hdistinct.2.2 _ (List.mem_map_of_mem hother) _ (List.mem_map_of_mem hrecord), twin, hdeclares,
        rfl⟩
  · exact .inr ⟨other, List.mem_append_right _ hother, not_loaded_of_addStaged hnew, hrest⟩

namespace Loading

theorem pendingNames_ne_duplicate {loaded : List Int} :
    pendingNames loaded records ≠ .error (.duplicate name) := by
  intro h
  induction records with
  | nil => cases h
  | cons record records ih =>
    unfold pendingNames at h
    split at h
    next => exact ih h
    next =>
      split at h
      next => cases h
      next => exact ih (map_eq_error.mp h)

theorem equip_ne_duplicate {source : String} :
    equip registry source ≠ .error (.duplicate name) := by
  intro h
  unfold equip at h
  split at h
  next => cases h
  next =>
    unfold addSystemFunctions at h
    split at h
    next => cases h
    next => cases h

/-- A load is refused for a name only if that is contested. -/
theorem Ends.contested (hsourced : registry.Sourced sources) (hwell : registry.WellFormed)
    (hdistinct : (records.map ContractRecord.id).Nodup) {source : String} {size : Nat}
    (h : Ends registry source records size (.error (.duplicate name)) after) :
    ∃ equipped, equip registry source = .ok equipped ∧
      equipped.Contested sources records name := by
  cases h with
  | unequipped hequip => exact absurd hequip equip_ne_duplicate
  | unnamed hequip hpart hnames => exact absurd hnames pendingNames_ne_duplicate
  | @refused equipped _ forward n _ _ hequip hmore hpages hrefused =>
    obtain ⟨earlier, hearlier, -, -, rfl⟩ := loadRecords_eq_ok_iff.mp hpages
    have hpage := page_sublist records size n
    have hparts := hdistinct.sublist ((List.take_sublist ((n + 1) * size) records).map _)
    have hsubset := List.take_subset ((n + 1) * size) records
    rw [take_succ_mul] at hparts hsubset
    obtain ⟨record, hrecord, hstill, unit, hdeclared, rfl, htaken⟩ :=
      exists_taken (hdistinct.sublist (hpage.map _)) hrefused
    have hnot := not_loaded_of_addStaged hstill
    refine ⟨equipped, hequip, record, hpage.subset hrecord, hnot, unit, hdeclared, rfl, ?_⟩
    exact ((hsourced.equip hwell hequip).taken_iff (hwell.equip hequip).1 hnot hdeclared).mp
      ((htaken.of_addStaged hparts hearlier hrecord).mono hsubset)

/-- A load that succeeds has met no contested name. -/
theorem Ends.not_contested (hwell : registry.WellFormed) {source : String} {size count : Nat}
    (h : Ends registry source records size (.ok count) after) :
    ∃ equipped, equip registry source = .ok equipped ∧
      ∀ name, ¬equipped.Contested sources records name := by
  cases h with
  | @loaded equipped _ forward _ hequip hforward hload =>
    refine ⟨equipped, hequip, ?_⟩
    rintro name ⟨record, hrecord, hnot, unit, hdeclared, rfl, hrival⟩
    exact not_taken_of_loadRecords hload hrecord hnot hdeclared
      (hrival.taken (hwell.equip hequip).1 hdeclared)

/-- A load of contract sources: the records that it goes through, its result and the state that it
leaves behind. -/
inductive Loads (settings : LoadSettings) (db : Database) (s : LoadState) :
    List ContractRecord → Except RegistryError Nat → LoadState → Prop
  | all {r : Except RegistryError Nat} {t : LoadState} (run : (all settings db).run s = (r, t)) :
      Loads settings db s (db.contracts.map Prod.snd) r t
  | ofEcosystem (ecosystem : Int) {r : Except RegistryError Nat} {t : LoadState}
      (run : (ofEcosystem settings db ecosystem).run s = (r, t)) :
      Loads settings db s (db.contractsOf ecosystem) r t

section Loads

variable {settings : LoadSettings} {db : Database} {s t : LoadState} {r : Except RegistryError Nat}

theorem Loads.sublist (h : Loads settings db s records r t) :
    records.Sublist (db.contracts.map Prod.snd) := by
  cases h with
  | all run => exact List.Sublist.refl _
  | ofEcosystem ecosystem run => exact List.filter_sublist

theorem Loads.ends (hdb : db.Keyed) (h : Loads settings db s records r t) :
    ∃ size, Ends s.registry settings.systemSource records size r t.registry := by
  cases h with
  | all run => exact ⟨_, all_ends hdb run⟩
  | ofEcosystem ecosystem run => exact ⟨_, ofEcosystem_ends run⟩

end Loads

end Loading

/-! ## Contracts that are found -/

/-- A contract that is found comes from a record, and the name under which it was found overlaps with
the one under which it was declared. -/
theorem ReachableFrom.exists_overlap (h : registry.ReachableFrom sources) {ecosystem : Int}
    {c : Contract} (hname : Script.IsName name)
    (hfound : registry.lookupByName name ecosystem = some c) :
    ∃ record unit, sources record ∧ c.ComesFrom record unit ∧
      ContractName.Overlap record.ecosystemId unit.name ecosystem name := by
  obtain ⟨hmem, hfull⟩ := h.reachable.wellFormed.lookupByName_eq_some_iff.mp hfound
  obtain ⟨record, unit, hrecord, hc⟩ := h.sourced.exists_comesFrom (mem_contracts_iff.mp hmem)
  exact ⟨record, unit, hrecord, hc, (ContractName.qualify_eq_iff hc.declared.isName.bare
    hname.bare).mp (hc.name.symm.trans hfull)⟩

/-- Contracts are found where they are declared and nowhere else, in all ecosystems without a sign,
exactly if no full name can be read in two ways. -/
theorem ReachableFrom.isDeclared_iff (h : registry.ReachableFrom sources) :
    (∀ name ecosystem c, Script.IsName name → 0 ≤ ecosystem →
        registry.lookupByName name ecosystem = some c → c.IsDeclared sources ecosystem name) ↔
      ∀ c ∈ registry.contracts, ∃ record unit, sources record ∧ c.ComesFrom record unit ∧
        ContractName.IsUnmistakable record.ecosystemId unit.name := by
  have hwell := h.reachable.wellFormed
  constructor
  · intro hfound c hmem
    obtain ⟨record, unit, hrecord, hc⟩ := h.sourced.exists_comesFrom (mem_contracts_iff.mp hmem)
    have hname := hc.declared.isName
    refine ⟨record, unit, hrecord, hc, (ContractName.isUnmistakable_iff hname).mpr ?_⟩
    intro ecosystem name hecosystem hbare hsame
    obtain ⟨other, twin, -, htwin, rfl, rfl⟩ := hfound name ecosystem c hbare hecosystem
      (hwell.lookupByName_eq_some_iff.mpr ⟨hmem, hc.name.trans hsame.symm⟩)
    have hplace : other.ecosystemId = record.ecosystemId :=
      htwin.ecosystemId.symm.trans hc.ecosystemId
    rw [hplace] at hsame
    exact ⟨hplace, ContractName.qualify_inj hbare.bare hname.bare hsame⟩
  · intro hunmistakable name ecosystem c hbare hecosystem hfound
    obtain ⟨hmem, hfull⟩ := hwell.lookupByName_eq_some_iff.mp hfound
    obtain ⟨record, unit, hrecord, hc, hunit⟩ := hunmistakable c hmem
    obtain ⟨rfl, rfl⟩ := (ContractName.isUnmistakable_iff hc.declared.isName).mp hunit ecosystem name
      hecosystem hbare (hfull.symm.trans hc.name)
    exact ⟨record, unit, hrecord, hc, rfl, rfl⟩

/-! ## Ecosystems -/

/-- A contract that is found by a bare name comes from a record, and the two names overlap. They are
the same, in all ecosystems without a sign, exactly if every contract has a name that can be read in
one way only. A load is refused for a name only if a unit of a record has it that is not loaded, and a
rival has it too, and a load that meets such a name does not succeed. -/
theorem declared_where_found_iff (h : registry.ReachableFrom sources) :
    (∀ name ecosystem c, Script.IsName name → registry.lookupByName name ecosystem = some c →
      ∃ record unit, sources record ∧ c.ComesFrom record unit ∧
        ContractName.Overlap record.ecosystemId unit.name ecosystem name) ∧
    ((∀ name ecosystem c, Script.IsName name → 0 ≤ ecosystem →
        registry.lookupByName name ecosystem = some c → c.IsDeclared sources ecosystem name) ↔
      ∀ c ∈ registry.contracts, ∃ record unit, sources record ∧ c.ComesFrom record unit ∧
        ContractName.IsUnmistakable record.ecosystemId unit.name) ∧
    ∀ (settings : LoadSettings) (db : Database) (failures : Failures) records r t, db.Keyed →
      Loading.Loads settings db ⟨registry, failures⟩ records r t →
      (∀ name, r = .error (.duplicate name) →
        ∃ equipped, Loading.equip registry settings.systemSource = .ok equipped ∧
          equipped.Contested sources records name) ∧
      ∀ count, r = .ok count →
        ∃ equipped, Loading.equip registry settings.systemSource = .ok equipped ∧
          ∀ name, ¬equipped.Contested sources records name := by
  have hwell := h.reachable.wellFormed
  refine ⟨fun name ecosystem c hname hfound => h.exists_overlap hname hfound, h.isDeclared_iff,
    fun settings db failures records r t hdb hload => ?_⟩
  obtain ⟨size, hends⟩ := hload.ends hdb
  have hdistinct := Loading.nodup_ids hdb hload.sublist
  constructor
  · rintro name rfl
    exact hends.contested h.sourced hwell hdistinct
  · rintro count rfl
    exact hends.not_contested hwell

namespace Loading

/-- A contract of this name in two ecosystems. -/
def twinDatabase : Database :=
  { Database.empty with
    contracts := [
      (1, ⟨1, 1, "contract Token \x7b\n\x7d\n", 3, 1, true, "", 1⟩),
      (2, ⟨2, 2, "contract Token \x7b\n\x7d\n", 3, 1, true, "", 1⟩)] }

/-- A second contract of this name in one of the ecosystems. -/
def crowdedDatabase : Database :=
  twinDatabase.putContract ⟨3, 2, "contract Token \x7b\n\x7d\n", 3, 1, true, "", 1⟩

/-- The contracts of both ecosystems are loaded, and found under their name. A third one is refused,
since its ecosystem has one of the name. -/
theorem declared_where_found_iff_sample :
    let sources := fun record => record ∈ crowdedDatabase.contracts.map Prod.snd
    crowdedDatabase.Keyed ∧ ∃ registry, registry.ReachableFrom sources ∧
      (∃ c, registry.lookupByName "Token" 2 = some c ∧ c.IsDeclared sources 2 "Token") ∧
      ∃ t equipped, (all ⟨200, ""⟩ crowdedDatabase).run ⟨registry, .none⟩ =
          (.error (.duplicate "@2Token"), t) ∧ equip registry "" = .ok equipped ∧
        equipped.Contested sources (crowdedDatabase.contracts.map Prod.snd) "@2Token" := by
  intro sources
  have htwins : twinDatabase.Keyed := ⟨by decide, by simp [twinDatabase]⟩
  have hcrowded : crowdedDatabase.Keyed := htwins.putContract _
  have hsources : ∀ record ∈ twinDatabase.contracts.map Prod.snd, sources record := by
    decide +kernel
  have hruns :
      let first := ((all ⟨200, ""⟩ twinDatabase).run ⟨.empty, .none⟩).2.registry
      (first.lookupByName "Token" 2).isSome ∧
        (∀ c ∈ first.contracts, c.owner.ecosystemId < 10 ∧
          c.name = ContractName.qualify c.owner.ecosystemId "Token") ∧
        ((all ⟨200, ""⟩ crowdedDatabase).run ⟨first, .none⟩).1 = .error (.duplicate "@2Token") := by
    decide +kernel
  have hreachable : ((all ⟨200, ""⟩ twinDatabase).run
      ⟨.empty, .none⟩).2.registry.ReachableFrom sources :=
    .single (.loadAll ⟨200, ""⟩ htwins hsources .none)
  generalize ((all ⟨200, ""⟩ twinDatabase).run ⟨.empty, .none⟩).2.registry = registry
    at hruns hreachable
  obtain ⟨hfound, hplain, hrefused⟩ := hruns
  obtain ⟨-, hlookup, hload⟩ := declared_where_found_iff hreachable
  refine ⟨hcrowded, registry, hreachable, ?_, ?_⟩
  · obtain ⟨c, hc⟩ := Option.isSome_iff_exists.mp hfound
    refine ⟨c, hc, hlookup.mpr (fun d hd => ?_) "Token" 2 c (by decide) (by decide) hc⟩
    obtain ⟨record, unit, hrecord, horigin⟩ :=
      hreachable.sourced.exists_comesFrom (mem_contracts_iff.mp hd)
    obtain ⟨hshort, hname⟩ := hplain d hd
    rw [horigin.ecosystemId] at hshort hname
    have hunit : unit.name = "Token" :=
      ContractName.qualify_inj horigin.declared.isName.bare (by decide) (horigin.name.symm.trans hname)
    exact ⟨record, unit, hrecord, horigin, hshort, .inr (.inl (hunit ▸ rfl))⟩
  · have hrun : (all ⟨200, ""⟩ crowdedDatabase).run ⟨registry, .none⟩ =
        (.error (.duplicate "@2Token"), _) := Prod.ext hrefused rfl
    obtain ⟨equipped, hequip, hcontested⟩ :=
      (hload _ _ _ _ _ _ hcrowded (.all hrun)).1 "@2Token" rfl
    exact ⟨_, equipped, hrun, hequip, hcontested⟩

/-- The only record is in ecosystem 1. -/
def digitDatabase : Database :=
  { Database.empty with
    contracts := [(1, ⟨1, 1, "contract 2X \x7b\n\x7d\n", 3, 1, true, "", 1⟩)] }

/-- Another record is in ecosystem 12. -/
def overlapDatabase : Database :=
  digitDatabase.putContract ⟨2, 12, "contract X \x7b\n\x7d\n", 3, 1, true, "", 1⟩

/-- A function of this name in two ecosystems. -/
def functionDatabase : Database :=
  { Database.empty with
    contracts := [
      (1, ⟨1, 1, "func Ping \x7b\n\x7d\n", 3, 1, true, "", 1⟩),
      (2, ⟨2, 2, "func Ping \x7b\n\x7d\n", 3, 1, true, "", 1⟩)] }

/-- Contract `2X` of ecosystem 1 is found as `X` in ecosystem 12, which has no record. With a record
that declares `X` there, a load fails, and it fails for functions of one name in two ecosystems. -/
theorem not_declared_where_found :
    (digitDatabase.Keyed ∧ Script.IsName "X" ∧
      ∃ c, ((all ⟨200, ""⟩ digitDatabase).run ⟨.empty, .none⟩).2.registry.lookupByName "X" 12 =
          some c ∧
        ∀ record ∈ digitDatabase.contracts.map Prod.snd, record.ecosystemId ≠ 12) ∧
    (overlapDatabase.Keyed ∧ overlapDatabase.contracts.map (·.2.ecosystemId) = [1, 12] ∧
      ((all ⟨200, ""⟩ overlapDatabase).run ⟨.empty, .none⟩).1 = .error (.duplicate "@12X")) ∧
    functionDatabase.Keyed ∧ functionDatabase.contracts.map (·.2.ecosystemId) = [1, 2] ∧
      ((all ⟨200, ""⟩ functionDatabase).run ⟨.empty, .none⟩).1 = .error (.duplicate "Ping") := by
  have hdigit : digitDatabase.Keyed := ⟨by decide, by simp [digitDatabase]⟩
  have hfound : (((all ⟨200, ""⟩ digitDatabase).run ⟨.empty, .none⟩).2.registry.lookupByName "X"
      12).isSome := by
    decide +kernel
  obtain ⟨c, hc⟩ := Option.isSome_iff_exists.mp hfound
  exact ⟨⟨hdigit, by decide, c, hc, by decide⟩,
    ⟨hdigit.putContract _, by decide +kernel, by decide +kernel⟩,
    ⟨by decide, by simp [functionDatabase]⟩, by decide, by decide +kernel⟩

end Loading

end Registry

end Covenant
