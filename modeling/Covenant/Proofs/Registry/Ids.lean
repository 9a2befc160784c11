import Covenant.Proofs.Registry.Origin
import Covenant.Proofs.Registry.Reload
import Covenant.Proofs.Script.FullName

/-!
# Places and displayed ids

A contract is looked up by its place, or by the displayed id of its record, which is above an offset.
Places are counted without end, and those above the offset are taken for displayed ids. A contract at
such a place is found again only if it is the first one of the record that its place happens to
display.
-/

namespace Covenant

namespace Registry

open Stage

variable {registry : Registry} {c : Contract}

/-- The contract stands before all others of its record. -/
def IsFirst (registry : Registry) (c : Contract) : Prop :=
  ∀ index d, registry.contractAt? index = some d → d.owner.tableId = c.owner.tableId → c.id ≤ index

/-- The contract of a record that is found is the first one. -/
theorem Indexed.lookupByTable_eq_some_iff (h : registry.Indexed) {tableId : Int} :
    registry.lookupByTable tableId = some c ↔
      registry.contractAt? c.id = some c ∧ c.owner.tableId = tableId ∧ registry.IsFirst c := by
  have hlookup : registry.lookupByTable tableId = (registry.placesOf tableId).head?.bind fun index =>
      (registry.contractAt? index).filter (·.owner.tableId == tableId) := by
    unfold lookupByTable
    rw [h.byTable]
    split
    next hnone => rw [hnone]; rfl
    next => rfl
  rw [hlookup, Option.bind_eq_some_iff]
  constructor
  · rintro ⟨index, hhead, hfound⟩
    obtain ⟨hat, htable⟩ := Option.filter_eq_some_iff.mp hfound
    obtain rfl := h.id index c hat
    obtain rfl := eq_of_beq htable
    rw [placesOf, List.head?_filter, List.find?_range_eq_some] at hhead
    refine ⟨hat, rfl, fun other d hd hsame => Nat.le_of_not_lt fun hlt => ?_⟩
    have hnot := hhead.2.2 other hlt
    rw [hd, Option.any_some, hsame] at hnot
    simp at hnot
  · rintro ⟨hat, rfl, hfirst⟩
    refine ⟨c.id, ?_, Option.filter_eq_some_iff.mpr ⟨hat, beq_self_eq_true _⟩⟩
    have hmem := mem_placesOf.mpr ⟨c, hat, rfl⟩
    rw [placesOf, List.mem_filter] at hmem
    rw [placesOf, List.head?_filter, List.find?_range_eq_some]
    refine ⟨hmem.2, hmem.1, fun other hlt => ?_⟩
    cases hother : registry.contractAt? other with
    | none => rfl
    | some d =>
      rw [Option.any_some, Bool.not_eq_true', beq_eq_false_iff_ne]
      exact fun hsame => absurd (hfirst other d hother hsame) (Nat.not_le.mpr hlt)

/-- The contract with an id stands at that place, or is the first one of the record with that displayed
id. -/
theorem Indexed.lookupById_eq_some_iff (h : registry.Indexed) {id : Int} :
    registry.lookupById id = some c ↔ registry.contractAt? c.id = some c ∧
      (id = c.id ∧ id ≤ displayOffset ∨
        id = c.owner.tableId + displayOffset ∧ displayOffset < id ∧ registry.IsFirst c) := by
  unfold lookupById
  split
  next hdisplayed =>
    rw [h.lookupByTable_eq_some_iff]
    refine and_congr_right fun _ => ?_
    constructor
    · rintro ⟨htable, hfirst⟩
      exact .inr ⟨by omega, hdisplayed, hfirst⟩
    · rintro (⟨-, hplace⟩ | ⟨hid, -, hfirst⟩)
      · omega
      · exact ⟨by omega, hfirst⟩
  next hplace =>
    split
    next hpositive =>
      constructor
      · intro hat
        have hid := h.id _ c hat
        rw [← hid] at hat
        exact ⟨hat, .inl ⟨by omega, by omega⟩⟩
      · rintro ⟨hat, ⟨rfl, -⟩ | ⟨-, hdisplayed, -⟩⟩
        · exact hat
        · exact absurd hdisplayed hplace
    next hnegative =>
      refine iff_of_false nofun ?_
      rintro ⟨-, ⟨hid, -⟩ | ⟨-, hdisplayed, -⟩⟩
      · omega
      · exact absurd hdisplayed hplace

/-! ## A contract in each of many ecosystems -/

namespace Loading

/-- The source of a contract. -/
def loneSource : String :=
  "contract A \x7b\n\x7d\n"

/-- The record of an ecosystem has the number of the ecosystem. -/
def lone (ecosystem : Int) : ContractRecord :=
  ⟨ecosystem, ecosystem, loneSource, 3, 1, true, "", 1⟩

/-- A contract of the same name in so many ecosystems. -/
def loneDatabase (count : Nat) : Database :=
  { Database.empty with
    contracts := (List.range count).map fun i : Nat => ((i : Int) + 1, lone (i + 1)) }

/-- The place of the contract of an ecosystem is behind the functions of the system. -/
def loneContract (i : Nat) : Contract :=
  ⟨i + 2, ContractName.qualify (i + 1) "A", (lone (i + 1)).owner, [], [], []⟩

theorem loneDatabase_keyed (count : Nat) : (loneDatabase count).Keyed where
  ascending := by
    simp only [loneDatabase, Dict.keys, List.map_map, List.pairwise_map, Function.comp_apply]
    exact List.pairwise_lt_range.imp fun h => by omega
  ids := by
    intro entry hentry
    obtain ⟨i, -, rfl⟩ := List.mem_map.mp hentry
    rfl

/-- The functions of the system, before any contract is there. -/
def systemRegistry : Registry :=
  ⟨[.function "sys_charge_base", .function "sys_noop"],
    [("sys_charge_base", 0), ("sys_noop", 1)], [], some 2⟩

/-- The units of the records, each with its ownership. -/
def loneUnits (count : Nat) : List (Ownership × SourceUnit) :=
  (List.range count).map fun i : Nat => ((lone (i + 1)).owner, Script.emptyUnit "A" .contract)

theorem equip_systemRegistry : equip .empty Script.systemFunctions = .ok systemRegistry := rfl

theorem compile_lone (ecosystem : Int) (isKnown : String → Bool) :
    Script.compile ecosystem isKnown loneSource = .ok [Script.emptyUnit "A" .contract] := rfl

theorem contractNames_lone (ecosystem : Int) :
    Script.contractNames ecosystem loneSource = .ok [ContractName.qualify ecosystem "A"] := rfl

theorem fullName_lone (ecosystem : Int) :
    fullName ((lone ecosystem).owner, Script.emptyUnit "A" .contract) =
      ContractName.qualify ecosystem "A" := rfl

theorem map_fullName_loneUnits (count : Nat) : (loneUnits count).map fullName =
    (List.range count).map fun i : Nat => ContractName.qualify (i + 1) "A" := by
  simp only [loneUnits, List.map_map, Function.comp_def, fullName_lone]

/-- The full names of the contracts are different, and are not those of functions. -/
theorem loneUnits_free (count : Nat) : ((loneUnits count).map fullName).Nodup ∧
    ∀ name ∈ (loneUnits count).map fullName,
      Assoc.find? name systemRegistry.byName = none := by
  have hletter : Script.IsName "A" := by decide
  have hplain := hletter.isPlain rfl
  rw [map_fullName_loneUnits]
  refine ⟨List.Nodup.map (fun i j h => ?_) List.nodup_range, fun name hname => ?_⟩
  · have hsame := (hplain.qualify_inj hplain h).1
    omega
  · obtain ⟨i, -, rfl⟩ := List.mem_map.mp hname
    have hne : ∀ other, Script.IsName other → other ≠ ContractName.qualify (i + 1) "A" := by
      rintro other hother rfl
      exact ContractName.not_isName_qualify hletter hother
    have hcharge := hne "sys_charge_base" (by decide)
    have hnoop := hne "sys_noop" (by decide)
    simp only [systemRegistry, Assoc.find?, Dict.find?, if_neg hcharge, if_neg hnoop]

theorem records_lone (count : Nat) : (loneDatabase count).contracts.map Prod.snd =
    (List.range count).map fun i : Nat => lone (i + 1) := by
  rw [loneDatabase, List.map_map]
  rfl

theorem exists_of_mem_records_lone {count : Nat} {record : ContractRecord}
    (h : record ∈ (loneDatabase count).contracts.map Prod.snd) : ∃ i : Nat, record = lone (i + 1) := by
  rw [records_lone] at h
  obtain ⟨i, -, rfl⟩ := List.mem_map.mp h
  exact ⟨i, rfl⟩

/-- The records compile, and none of the names is taken. -/
theorem loadAtOnce_lone (count : Nat) :
    loadAtOnce .empty Script.systemFunctions ((loneDatabase count).contracts.map Prod.snd) =
      .ok (count, systemRegistry.addUnits (loneUnits count)) := by
  obtain ⟨forward, hforward⟩ : ∃ names, pendingNames systemRegistry.loadedTables
      ((loneDatabase count).contracts.map Prod.snd) = .ok names := by
    refine exists_pendingNames fun record hrecord _ => ?_
    obtain ⟨i, rfl⟩ := exists_of_mem_records_lone hrecord
    exact ⟨_, contractNames_lone (i + 1)⟩
  have hstage : stage (fun name => systemRegistry.hasContract name || forward.contains name)
      systemRegistry.loadedTables ((loneDatabase count).contracts.map Prod.snd) =
        .ok (((loneDatabase count).contracts.map Prod.snd).map fun record =>
          ⟨record.owner, [Script.emptyUnit "A" .contract]⟩) := by
    have hall : ((loneDatabase count).contracts.map Prod.snd).filter (fun record =>
        !systemRegistry.loadedTables.contains record.id) =
          (loneDatabase count).contracts.map Prod.snd := List.filter_eq_self.mpr fun _ _ => rfl
    rw [stage_of_compile (fun _ => [Script.emptyUnit "A" .contract]) fun record hrecord _ => by
      obtain ⟨i, rfl⟩ := exists_of_mem_records_lone hrecord
      exact compile_lone (i + 1) _, hall]
  have hunits : ownedUnits (((loneDatabase count).contracts.map Prod.snd).map fun record =>
      ⟨record.owner, [Script.emptyUnit "A" .contract]⟩) = loneUnits count := by
    rw [records_lone, ownedUnits, loneUnits, List.flatMap_map, List.flatMap_map]
    exact List.map_eq_flatMap.symm
  obtain ⟨hdistinct, hfree⟩ := loneUnits_free count
  have hload := loadRecords_eq_ok_iff.mpr ⟨_, hstage, by
    rw [stagedNames_eq, hunits]
    exact firstTaken?_eq_none_iff.mpr
      ⟨hdistinct, fun name hname => ⟨List.not_mem_nil, hfree name hname⟩⟩, rfl, rfl⟩
  have hcount : ((loneUnits count).filter (·.2.kind = .contract)).length = count := by
    simp [loneUnits, List.filter_map, Function.comp_def, Script.emptyUnit]
  rw [contractCount_eq, addStaged_eq, hunits, hcount] at hload
  rw [loadAtOnce]
  exact bind_eq_ok.mpr
    ⟨systemRegistry, equip_systemRegistry, bind_eq_ok.mpr ⟨forward, hforward, hload⟩⟩

/-- All contracts are loaded, each one behind that of the ecosystem before. -/
theorem loneDatabase_loaded (count : Nat) : ∃ after left,
    (all ⟨200, Script.systemFunctions⟩ (loneDatabase count)).run ⟨.empty, .none⟩ =
      (.ok count, ⟨after, left⟩) ∧
    after.Reachable ∧ after.shift = some 2 ∧ after.objects = systemRegistry.objects ++
      (List.range count).map fun i => .contract (loneContract i) := by
  have hnever : Failures.none.Never := fun _ _ => rfl
  obtain ⟨left, hrun⟩ := (all_eq_ok_iff ⟨200, Script.systemFunctions⟩ (loneDatabase_keyed count)
    hnever).mpr (loadAtOnce_lone count)
  have hreachable := Reachable.empty.loadAll ⟨200, Script.systemFunctions⟩
    (loneDatabase_keyed count) .none
  rw [hrun] at hreachable
  refine ⟨_, left, hrun, hreachable, shift_addUnits _ _, ?_⟩
  rw [objects_addUnits]
  congr 1
  refine List.ext_getElem (by simp [loneUnits]) fun i hi hj => ?_
  simp only [loneUnits, List.getElem_mapIdx, List.getElem_map, List.getElem_range]
  rw [Nat.add_comm]
  rfl

/-- Every contract is found at its place and by its name. -/
theorem lone_found {count : Nat} {after : Registry} (hindexed : after.Indexed)
    (hobjects : after.objects = systemRegistry.objects ++
      (List.range count).map fun i => .contract (loneContract i)) {i : Nat} (hi : i < count) :
    after.contractAt? (i + 2) = some (loneContract i) ∧
      after.lookupByName "A" (i + 1) = some (loneContract i) := by
  have hobject : after.objects[i + 2]? = some (.contract (loneContract i)) := by
    have hplace : systemRegistry.objects.length ≤ i + 2 := Nat.le_add_left 2 i
    rw [hobjects, List.getElem?_append_right hplace, List.getElem?_map,
      List.getElem?_range (by exact hi)]
    rfl
  have hat := contractAt?_eq_some.mpr hobject
  have hname := (hindexed.byName (ContractName.qualify (i + 1) "A") (i + 2)).mpr
    ⟨_, hobject, rfl⟩
  rw [lookupByName, hname]
  exact ⟨hat, hat⟩

end Loading

/-! ## Ids of contracts that are found -/

/-- A contract that is found by its name is found again by its id exactly if the id is not above the
offset, or is the displayed id of the record whose first contract this is. What is found otherwise is
the first contract of the record with that displayed id. -/
theorem found_again_iff (h : registry.Reachable) {name : String} {ecosystem : Int}
    (hfound : registry.lookupByName name ecosystem = some c) :
    (registry.lookupById c.id = some c ↔ (c.id : Int) ≤ displayOffset ∨
      (c.id : Int) = c.owner.tableId + displayOffset ∧ registry.IsFirst c) ∧
    ∀ d, registry.lookupById c.id = some d → d = c ∨ displayOffset < (c.id : Int) ∧
      (c.id : Int) = d.owner.tableId + displayOffset ∧ registry.IsFirst d := by
  have hindexed := h.wellFormed.toIndexed
  obtain ⟨index, -, hplace⟩ := Option.bind_eq_some_iff.mp hfound
  have hat : registry.contractAt? c.id = some c := by rwa [hindexed.id index c hplace]
  refine ⟨?_, fun d hd => ?_⟩
  · rw [hindexed.lookupById_eq_some_iff]
    constructor
    · rintro ⟨-, ⟨-, hplace⟩ | ⟨hid, -, hfirst⟩⟩
      · exact .inl hplace
      · exact .inr ⟨hid, hfirst⟩
    · rintro (hplace | ⟨hid, hfirst⟩)
      · exact ⟨hat, .inl ⟨rfl, hplace⟩⟩
      · refine ⟨hat, ?_⟩
        by_cases hplace : (c.id : Int) ≤ displayOffset
        · exact .inl ⟨rfl, hplace⟩
        · exact .inr ⟨hid, by omega, hfirst⟩
  · obtain ⟨hatOther, ⟨hid, -⟩ | ⟨hid, hdisplayed, hfirst⟩⟩ := hindexed.lookupById_eq_some_iff.mp hd
    · rw [← Int.ofNat_inj.mp hid, hat] at hatOther
      exact .inl (Option.some.inj hatOther).symm
    · exact .inr ⟨hdisplayed, hid, hfirst⟩

/-- The contract of the second ecosystem has the place 3. -/
theorem found_again_iff_sample : ∃ (registry : Registry) (c : Contract), registry.Reachable ∧
    registry.lookupByName "A" 2 = some c ∧ registry.lookupById c.id = some c := by
  obtain ⟨after, _, -, hreachable, -, hobjects⟩ := Loading.loneDatabase_loaded 2
  obtain ⟨-, hsecond⟩ :=
    Loading.lone_found hreachable.wellFormed.toIndexed hobjects (i := 1) (by omega)
  exact ⟨after, _, hreachable, hsecond,
    (found_again_iff hreachable hsecond).1.mpr (.inl (by decide))⟩

/-- The contract of the last one of 5000 ecosystems has the place 5001. By this id, that of the first
ecosystem is found. -/
theorem not_found_again : (Loading.loneDatabase 5000).Keyed ∧ ∃ after left c first,
    (Loading.all ⟨200, Script.systemFunctions⟩ (Loading.loneDatabase 5000)).run ⟨.empty, .none⟩ =
      (.ok 5000, ⟨after, left⟩) ∧
    after.lookupByName "A" 5000 = some c ∧ after.lookupById c.id = some first ∧
    c.owner.ecosystemId = 5000 ∧ first.owner.ecosystemId = 1 := by
  obtain ⟨after, left, hrun, hreachable, hshift, hobjects⟩ := Loading.loneDatabase_loaded 5000
  have hindexed := hreachable.wellFormed.toIndexed
  obtain ⟨hfirst, -⟩ := Loading.lone_found hindexed hobjects (i := 0) (by omega)
  obtain ⟨-, hlast⟩ := Loading.lone_found hindexed hobjects (i := 4999) (by omega)
  refine ⟨Loading.loneDatabase_keyed 5000, after, left, Loading.loneContract 4999,
    Loading.loneContract 0, hrun, hlast, ?_, rfl, rfl⟩
  refine hindexed.lookupById_eq_some_iff.mpr ⟨hfirst, .inr ⟨rfl, by decide, fun index d hat _ => ?_⟩⟩
  obtain ⟨shift, hsame, hle⟩ := hindexed.shift index d hat
  rwa [← Option.some.inj (hshift.symm.trans hsame)] at hle

end Registry

end Covenant
