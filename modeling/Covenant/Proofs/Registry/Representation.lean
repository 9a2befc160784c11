import Mathlib.Logic.Relation
import Covenant.Proofs.Execution.Ending
import Covenant.Proofs.Script.Headers

/-!
# The parts of a registry agree

A registry keeps its objects in a list, and finds them again by an index of names and one of records.
Both are written beside the list whenever an object comes in, and say exactly what stands in it. What
has come in stays where it is: only the switch and the wallet of a contract ever change.
-/

namespace Covenant

/-- The full name of an object. -/
def RegistryObject.name : RegistryObject → String
  | .function name => name
  | .contract c => c.name

/-- The object may have become the other one: all is as it was, but for the switch and the wallet of a
contract. -/
def RegistryObject.Lasts : RegistryObject → RegistryObject → Prop
  | .function name, later => later = .function name
  | .contract c, later =>
    ∃ active walletId, later = .contract { c with owner := { c.owner with active, walletId } }

instance : IsPreorder RegistryObject RegistryObject.Lasts where
  refl object := by
    cases object with
    | function name => exact rfl
    | contract c => exact ⟨c.owner.active, c.owner.walletId, rfl⟩
  trans object next later h k := by
    cases object with
    | function name =>
      obtain rfl := h
      exact k
    | contract c =>
      obtain ⟨_, _, rfl⟩ := h
      obtain ⟨active, walletId, rfl⟩ := k
      exact ⟨active, walletId, rfl⟩

theorem RegistryObject.Lasts.name {object later : RegistryObject} (h : object.Lasts later) :
    later.name = object.name := by
  cases object with
  | function name =>
    obtain rfl := h
    rfl
  | contract c =>
    obtain ⟨_, _, rfl⟩ := h
    rfl

namespace Registry

open Stage

/-- The places of the contracts that come from a record, in ascending order. -/
def placesOf (registry : Registry) (tableId : Int) : List Nat :=
  (List.range registry.size).filter fun index =>
    (registry.contractAt? index).any (·.owner.tableId == tableId)

/-- The indexes say what is in the list of objects, and contracts know their places, which are behind
the functions of the system. -/
structure Indexed (registry : Registry) : Prop where
  id : ∀ index contract, registry.contractAt? index = some contract → contract.id = index
  shift : ∀ index contract, registry.contractAt? index = some contract →
    ∃ shift, registry.shift = some shift ∧ shift ≤ index
  /-- Names and places belong to each other one to one. -/
  byName : ∀ name index, Assoc.find? name registry.byName = some index ↔
    ∃ object, registry.objects[index]? = some object ∧ object.name = name
  /-- A record has an entry if contracts come from it, and then the entry is the list of their
  places. -/
  byTable : ∀ tableId, Assoc.find? tableId registry.byTable =
    if registry.placesOf tableId = [] then none else some (registry.placesOf tableId)

/-- The indexes are right, and nothing is there before the functions of the system are. -/
structure WellFormed (registry : Registry) : Prop extends registry.Indexed where
  shift_le_size : ∀ shift, registry.shift = some shift → shift ≤ registry.size
  shift_none : registry.shift = none → registry.objects = []

/-- The second registry has come from the first: objects stay where they are and what they are, others
may have come behind them, and the number of functions of the system stays once it is set. -/
structure Extends (before after : Registry) : Prop where
  objects : ∀ (index : Nat) (object : RegistryObject), before.objects[index]? = some object →
    ∃ later, after.objects[index]? = some later ∧ object.Lasts later
  shift : ∀ shift, before.shift = some shift → after.shift = some shift

instance : IsPreorder Registry Extends where
  refl _ := ⟨fun _ object h => ⟨object, h, Std.Refl.refl object⟩, fun _ h => h⟩
  trans _ _ _ h k :=
    { objects := fun index object hobject => by
        obtain ⟨next, hnext, hlasts⟩ := h.objects index object hobject
        obtain ⟨later, hlater, hmore⟩ := k.objects index next hnext
        exact ⟨later, hlater, IsTrans.trans _ _ _ hlasts hmore⟩
      shift := fun shift hshift => k.shift shift (h.shift shift hshift) }

variable {registry extended : Registry} {object : RegistryObject}

/-! ## New objects -/

theorem contractAt?_eq_some {index : Nat} {contract : Contract} :
    registry.contractAt? index = some contract ↔
      registry.objects[index]? = some (.contract contract) := by
  unfold contractAt?
  rw [Option.bind_eq_some_iff]
  constructor
  · rintro ⟨object, hobject, hcontract⟩
    cases object with
    | function name => cases hcontract
    | contract found =>
      obtain rfl := Option.some.inj hcontract
      exact hobject
  · exact fun hobject => ⟨_, hobject, rfl⟩

theorem mem_contracts_iff {c : Contract} : c ∈ registry.contracts ↔ .contract c ∈ registry.objects := by
  unfold contracts
  rw [List.mem_filterMap]
  constructor
  · rintro ⟨object, hobject, hcontract⟩
    cases object with
    | function name => cases hcontract
    | contract found =>
      obtain rfl := Option.some.inj hcontract
      exact hobject
  · exact fun hobject => ⟨_, hobject, rfl⟩

/-- The places of a record are those where its contracts stand. -/
theorem mem_placesOf {tableId : Int} {index : Nat} :
    index ∈ registry.placesOf tableId ↔
      ∃ contract, registry.contractAt? index = some contract ∧
        contract.owner.tableId = tableId := by
  have hlt : ∀ contract, registry.contractAt? index = some contract → index < registry.size :=
    fun contract hat => (List.getElem?_eq_some_iff.mp (contractAt?_eq_some.mp hat)).1
  rw [placesOf, List.mem_filter, List.mem_range]
  cases hat : registry.contractAt? index with
  | none => simp
  | some contract => simp [hlt contract hat]

theorem size_of_append (h : extended.objects = registry.objects ++ [object]) :
    extended.size = registry.size + 1 := by
  rw [size, h, List.length_append]
  rfl

/-- What is at a place is what was there, or the new object. -/
theorem getElem?_of_append (h : extended.objects = registry.objects ++ [object]) (index : Nat) :
    extended.objects[index]? =
      if index = registry.size then some object else registry.objects[index]? := by
  rw [h, List.getElem?_append, size]
  grind

/-- The new object comes behind the others if it is a contract of the record. -/
theorem placesOf_of_append (h : extended.objects = registry.objects ++ [object]) (tableId : Int) :
    extended.placesOf tableId = registry.placesOf tableId ++
      if object.contract?.any (·.owner.tableId == tableId) then [registry.size] else [] := by
  have hlast : extended.contractAt? registry.size = object.contract? := by
    unfold contractAt?
    rw [getElem?_of_append h, if_pos rfl]
    rfl
  have hold : ∀ index ∈ List.range registry.size,
      (extended.contractAt? index).any (·.owner.tableId == tableId) =
        (registry.contractAt? index).any (·.owner.tableId == tableId) := by
    intro index hindex
    unfold contractAt?
    rw [getElem?_of_append h, if_neg (Nat.ne_of_lt (List.mem_range.mp hindex))]
  rw [placesOf, size_of_append h, List.range_succ, List.filter_append, List.filter_congr hold,
    List.filter_cons, List.filter_nil, hlast]
  rfl

/-- A new object comes behind the others. -/
theorem Extends.of_append (h : extended.objects = registry.objects ++ [object])
    (hshift : extended.shift = registry.shift) : registry.Extends extended where
  objects index object hobject := by
    refine ⟨object, ?_, Std.Refl.refl object⟩
    rw [h, List.getElem?_append_left (List.getElem?_eq_some_iff.mp hobject).1, hobject]
  shift _ := hshift.trans

theorem Indexed.places_eq (h : registry.Indexed) (tableId : Int) :
    registry.places tableId = registry.placesOf tableId := by
  rw [places, h.byTable]
  split
  next hnone => rw [hnone]; rfl
  next => rfl

/-- The indexes are still right once a new object is in them. -/
theorem Indexed.of_append (h : registry.Indexed) (object : RegistryObject)
    (hobjects : extended.objects = registry.objects ++ [object])
    (hnew : Assoc.find? object.name registry.byName = none)
    (hplace : ∀ contract, object = .contract contract → contract.id = registry.size ∧
      ∃ shift, registry.shift = some shift ∧ shift ≤ registry.size)
    (hshift : extended.shift = registry.shift)
    (hbyName : extended.byName = Assoc.insert object.name registry.size registry.byName)
    (hbyTable : ∀ tableId, Assoc.find? tableId extended.byTable =
      if object.contract?.any (·.owner.tableId == tableId) then
        some (registry.places tableId ++ [registry.size])
      else Assoc.find? tableId registry.byTable) : extended.Indexed := by
  have hat : ∀ index contract, extended.contractAt? index = some contract →
      index = registry.size ∧ object = .contract contract ∨
        registry.contractAt? index = some contract := by
    intro index contract hat
    rw [contractAt?_eq_some, getElem?_of_append hobjects] at hat
    split at hat
    next hindex => exact .inl ⟨hindex, Option.some.inj hat⟩
    next => exact .inr (contractAt?_eq_some.mpr hat)
  refine ⟨fun index contract hcontract => ?id, fun index contract hcontract => ?shift,
    fun name index => ?byName, fun tableId => ?byTable⟩
  case id =>
    rcases hat index contract hcontract with ⟨rfl, hobject⟩ | hold
    · exact (hplace contract hobject).1
    · exact h.id index contract hold
  case shift =>
    rw [hshift]
    rcases hat index contract hcontract with ⟨rfl, hobject⟩ | hold
    · exact (hplace contract hobject).2
    · exact h.shift index contract hold
  case byName =>
    rw [hbyName, getElem?_of_append hobjects]
    by_cases hname : name = object.name
    · subst hname
      rw [Assoc.find?_insert_self]
      constructor
      · intro hindex
        obtain rfl := Option.some.inj hindex
        exact ⟨object, if_pos rfl, rfl⟩
      · rintro ⟨other, hother, hsame⟩
        split at hother
        next hindex => rw [hindex]
        next =>
          rw [(h.byName object.name index).mpr ⟨other, hother, hsame⟩] at hnew
          cases hnew
    · rw [Assoc.find?_insert_of_ne hname, h.byName name index]
      split
      next hindex =>
        have hnone : registry.objects[index]? = none := by
          rw [hindex]
          exact List.getElem?_eq_none (Nat.le_refl _)
        rw [hnone]
        constructor
        · rintro ⟨_, hnothing, -⟩
          cases hnothing
        · rintro ⟨_, hobject, hsame⟩
          exact absurd ((Option.some.inj hobject) ▸ hsame.symm) hname
      next => exact Iff.rfl
  case byTable =>
    rw [hbyTable, placesOf_of_append hobjects]
    split
    next =>
      rw [h.places_eq, if_neg]
      exact List.append_ne_nil_of_right_ne_nil _ (List.cons_ne_nil _ _)
    next => rw [List.append_nil, h.byTable]

/-! ## Registering units -/

/-- A function comes in under a name that is not taken. -/
theorem Indexed.addFunction (h : registry.Indexed) {name : String}
    (hnew : Assoc.find? name registry.byName = none) : (registry.addFunction name).Indexed :=
  h.of_append (.function name) rfl hnew (fun _ hobject => by cases hobject) rfl rfl
    fun _ => rfl

/-- A contract comes in under a name that is not taken, behind the functions of the system. -/
theorem Indexed.addContract (h : registry.Indexed) {owner : Ownership} {name : String}
    {unit : SourceUnit} (hnew : Assoc.find? name registry.byName = none)
    (hshift : ∃ shift, registry.shift = some shift ∧ shift ≤ registry.size) :
    (registry.addContract owner name unit).Indexed := by
  refine h.of_append (.contract ⟨registry.size, name, owner, unit.fields, unit.used,
    unit.methods⟩) rfl hnew (fun contract hobject => ?_) rfl rfl fun tableId => ?_
  · obtain rfl := RegistryObject.contract.inj hobject
    exact ⟨rfl, hshift⟩
  · by_cases htable : tableId = owner.tableId
    · subst htable
      simp only [Registry.addContract, Assoc.find?_insert_self, RegistryObject.contract?,
        Option.any_some, beq_self_eq_true, if_true]
      rfl
    · simp [Registry.addContract, Assoc.find?_insert_of_ne htable,
        RegistryObject.contract?, Ne.symm htable]

/-- The full name of a unit that is registered under an ownership. -/
def fullName (unit : Ownership × SourceUnit) : String :=
  unitName unit.1.ecosystemId unit.2

theorem stagedNames_eq (staged : List StagedRecord) :
    stagedNames staged = (ownedUnits staged).map fullName := by
  simp [stagedNames, ownedUnits, List.map_flatMap, fullName, Function.comp_def]

theorem byName_addUnit (owner : Ownership) (registry : Registry) (unit : SourceUnit) :
    (registry.addUnit owner unit).byName =
      Assoc.insert (fullName (owner, unit)) registry.size registry.byName := by
  unfold addUnit
  cases unit.kind with
  | contract => rfl
  | function => rfl

/-- The object that a unit becomes at a place. -/
def unitObject (place : Nat) (unit : Ownership × SourceUnit) : RegistryObject :=
  match unit.2.kind with
  | .contract =>
    .contract ⟨place, fullName unit, unit.1, unit.2.fields, unit.2.used, unit.2.methods⟩
  | .function => .function (fullName unit)

theorem objects_addUnit (owner : Ownership) (registry : Registry) (unit : SourceUnit) :
    (registry.addUnit owner unit).objects =
      registry.objects ++ [unitObject registry.size (owner, unit)] := by
  unfold addUnit unitObject
  cases unit.kind with
  | contract => rfl
  | function => rfl

/-- Units come in one behind the other. -/
theorem objects_addUnits (registry : Registry) (units : List (Ownership × SourceUnit)) :
    (registry.addUnits units).objects =
      registry.objects ++ units.mapIdx fun i unit => unitObject (registry.size + i) unit := by
  induction units generalizing registry with
  | nil => exact (List.append_nil _).symm
  | cons unit units ih =>
    have hobjects := objects_addUnit unit.1 registry unit.2
    rw [addUnits, List.foldl_cons, ih, hobjects, size_of_append hobjects, List.mapIdx_cons,
      List.append_assoc, List.singleton_append]
    simp only [Nat.add_assoc, Nat.add_comm 1, Nat.add_zero]

/-- A unit comes in under a name that is not taken, behind everything else. -/
theorem WellFormed.addUnit (h : registry.WellFormed) (hset : registry.shift.isSome = true)
    {owner : Ownership} {unit : SourceUnit}
    (hnew : Assoc.find? (fullName (owner, unit)) registry.byName = none) :
    (registry.addUnit owner unit).WellFormed ∧ registry.Extends (registry.addUnit owner unit) := by
  obtain ⟨shift, hshift⟩ := Option.isSome_iff_exists.mp hset
  have hle := h.shift_le_size shift hshift
  have hindexed : (registry.addUnit owner unit).Indexed := by
    unfold Registry.addUnit
    cases unit.kind with
    | contract => exact h.toIndexed.addContract hnew ⟨shift, hshift, hle⟩
    | function => exact h.toIndexed.addFunction hnew
  have hobjects := objects_addUnit owner registry unit
  have hkept := shift_addUnit owner registry unit
  refine ⟨⟨hindexed, fun n hn => ?_, fun hnone => ?_⟩, .of_append hobjects hkept⟩
  · rw [hkept] at hn
    rw [size_of_append hobjects]
    exact Nat.le_succ_of_le (h.shift_le_size n hn)
  · rw [hkept, hshift] at hnone
    cases hnone

/-- Units come in one behind the other if their names are different and not taken. -/
theorem WellFormed.addUnits (h : registry.WellFormed) (hset : registry.shift.isSome = true)
    {units : List (Ownership × SourceUnit)} (hdistinct : (units.map fullName).Nodup)
    (hnew : ∀ name ∈ units.map fullName, Assoc.find? name registry.byName = none) :
    (registry.addUnits units).WellFormed ∧ registry.Extends (registry.addUnits units) := by
  induction units generalizing registry with
  | nil => exact ⟨h, Std.Refl.refl registry⟩
  | cons unit units ih =>
    rw [List.map_cons, List.nodup_cons] at hdistinct
    rw [List.map_cons] at hnew
    obtain ⟨hfirst, hmore⟩ := List.forall_mem_cons.mp hnew
    obtain ⟨hwell, hextends⟩ := h.addUnit hset hfirst
    have hnext : ∀ name ∈ units.map fullName,
        Assoc.find? name (registry.addUnit unit.1 unit.2).byName = none := by
      intro name hname
      have hne : name ≠ fullName unit := fun heq => hdistinct.1 (heq ▸ hname)
      rw [byName_addUnit]
      exact (Assoc.find?_insert_of_ne hne _ _).trans (hmore name hname)
    obtain ⟨hall, hextendsAll⟩ :=
      ih hwell ((shift_addUnit _ _ _).symm ▸ hset) hdistinct.2 hnext
    exact ⟨hall, IsTrans.trans _ _ _ hextends hextendsAll⟩

/-- No name of a list is taken if the names are different and none is in use. -/
theorem firstTaken?_eq_none_iff {seen names : List String} :
    registry.firstTaken? seen names = none ↔
      names.Nodup ∧ ∀ name ∈ names, name ∉ seen ∧ Assoc.find? name registry.byName = none := by
  induction names generalizing seen with
  | nil => exact iff_of_true rfl ⟨.nil, List.forall_mem_nil _⟩
  | cons name names ih =>
    unfold firstTaken?
    split
    next htaken =>
      refine iff_of_false (Option.some_ne_none _) fun ⟨_, hnew⟩ => ?_
      obtain ⟨hseen, hname⟩ := hnew name List.mem_cons_self
      simp [hseen, hname] at htaken
    next hfree =>
      simp only [Bool.or_eq_true, not_or, Option.not_isSome_iff_eq_none,
        List.contains_iff_mem] at hfree
      rw [ih, List.nodup_cons, List.forall_mem_cons]
      constructor
      · rintro ⟨hdistinct, hnew⟩
        exact ⟨⟨fun hmem => (hnew name hmem).1 List.mem_cons_self, hdistinct⟩,
          ⟨hfree.2, hfree.1⟩, fun other hother =>
            ⟨fun hseen => (hnew other hother).1 (List.mem_cons_of_mem _ hseen),
              (hnew other hother).2⟩⟩
      · rintro ⟨⟨hmem, hdistinct⟩, -, hnew⟩
        refine ⟨hdistinct, fun other hother => ⟨fun hseen => ?_, (hnew other hother).2⟩⟩
        rcases List.mem_cons.mp hseen with rfl | hseen
        · exact hmem hother
        · exact (hnew other hother).1 hseen

/-! ## The functions of the system -/

/-- The units of a source that compiles have different names. -/
theorem nodup_of_compile {ecosystem : Int} {isKnown : String → Bool} {source : String}
    {units : List SourceUnit} (h : Script.compile ecosystem isKnown source = .ok units) :
    (units.map SourceUnit.name).Nodup :=
  (Script.checkUnits_eq_ok_iff.mp (Script.compile_eq_ok h).2).1

/-- Functions come in one behind the other if their names are different and not taken. -/
theorem Indexed.addFunctions (h : registry.Indexed) {units : List SourceUnit}
    (hdistinct : (units.map SourceUnit.name).Nodup)
    (hnew : ∀ unit ∈ units, Assoc.find? unit.name registry.byName = none) :
    (units.foldl (fun registry unit => registry.addFunction unit.name) registry).Indexed ∧
      (units.foldl (fun registry unit => registry.addFunction unit.name) registry).shift =
        registry.shift := by
  induction units generalizing registry with
  | nil => exact ⟨h, rfl⟩
  | cons unit units ih =>
    rw [List.map_cons, List.nodup_cons] at hdistinct
    obtain ⟨hfirst, hmore⟩ := List.forall_mem_cons.mp hnew
    refine ih (h.addFunction hfirst) hdistinct.2 fun other hother => ?_
    have hne : other.name ≠ unit.name := fun heq =>
      hdistinct.1 (heq ▸ List.mem_map_of_mem hother)
    exact (Assoc.find?_insert_of_ne hne _ _).trans (hmore other hother)

/-- The functions of the system come first. -/
theorem WellFormed.addSystemFunctions (h : registry.WellFormed) (hunset : registry.shift = none)
    {source : String} {equipped : Registry}
    (hequipped : registry.addSystemFunctions source = .ok equipped) :
    equipped.WellFormed ∧ registry.Extends equipped := by
  have hempty := h.shift_none hunset
  unfold Registry.addSystemFunctions at hequipped
  split at hequipped
  next => cases hequipped
  next units hcompile =>
    have hnew : ∀ unit ∈ units, Assoc.find? unit.name registry.byName = none := by
      intro unit _
      cases hfind : Assoc.find? unit.name registry.byName with
      | none => rfl
      | some index =>
        obtain ⟨object, hobject, -⟩ := (h.byName unit.name index).mp hfind
        rw [hempty] at hobject
        cases hobject
    obtain ⟨hindexed, hshift⟩ := h.toIndexed.addFunctions (nodup_of_compile hcompile) hnew
    obtain rfl := Except.ok.inj hequipped
    refine ⟨⟨⟨hindexed.id, fun index contract hat => ?_, hindexed.byName, hindexed.byTable⟩,
      fun n hn => ?_, fun hnone => by cases hnone⟩, ⟨fun index object hobject => ?_, fun n hn => ?_⟩⟩
    · -- There are no contracts yet.
      obtain ⟨n, hn, -⟩ := hindexed.shift index contract hat
      rw [hshift, hunset] at hn
      cases hn
    · exact Nat.le_of_eq (Option.some.inj hn).symm
    · rw [hempty] at hobject
      cases hobject
    · rw [hunset] at hn
      cases hn

/-! ## Changes of ownership -/

/-- An object that stands in a registry which no object has joined has come from the one that stood
there. -/
theorem Extends.exists_before (h : registry.Extends extended) (hsize : extended.size = registry.size)
    {index : Nat} {later : RegistryObject} (hlater : extended.objects[index]? = some later) :
    ∃ object, registry.objects[index]? = some object ∧ object.Lasts later := by
  have hlt : index < registry.objects.length := by
    change index < registry.size
    rw [← hsize]
    exact (List.getElem?_eq_some_iff.mp hlater).1
  obtain ⟨found, hfound, hlasts⟩ := h.objects index _ (List.getElem?_eq_getElem hlt)
  obtain rfl := Option.some.inj (hlater.symm.trans hfound)
  exact ⟨_, List.getElem?_eq_getElem hlt, hlasts⟩

/-- The contracts of a record are the same ones if no object has joined. -/
theorem Extends.placesOf (h : registry.Extends extended) (hsize : extended.size = registry.size)
    (tableId : Int) : extended.placesOf tableId = registry.placesOf tableId := by
  rw [Registry.placesOf, Registry.placesOf, hsize]
  refine List.filter_congr fun index hindex => ?_
  have hlt : index < registry.objects.length := List.mem_range.mp hindex
  obtain ⟨later, hlater, hlasts⟩ := h.objects index _ (List.getElem?_eq_getElem hlt)
  unfold contractAt?
  rw [hlater, List.getElem?_eq_getElem hlt]
  generalize registry.objects[index] = object at hlasts
  cases object with
  | function name =>
    obtain rfl := hlasts
    rfl
  | contract c =>
    obtain ⟨_, _, rfl⟩ := hlasts
    rfl

/-- The indexes are still right if no object has joined. -/
theorem WellFormed.of_extends (h : registry.WellFormed) (hextends : registry.Extends extended)
    (hsize : extended.size = registry.size) (hbyName : extended.byName = registry.byName)
    (hbyTable : extended.byTable = registry.byTable) (hshift : extended.shift = registry.shift) :
    extended.WellFormed := by
  have hcontract : ∀ index contract, extended.contractAt? index = some contract →
      ∃ before, registry.contractAt? index = some before ∧ contract.id = before.id := by
    intro index contract hat
    obtain ⟨object, hobject, hlasts⟩ :=
      hextends.exists_before hsize (contractAt?_eq_some.mp hat)
    cases object with
    | function name => cases hlasts
    | contract before =>
      obtain ⟨_, _, hsame⟩ := hlasts
      obtain rfl := RegistryObject.contract.inj hsame
      exact ⟨before, contractAt?_eq_some.mpr hobject, rfl⟩
  refine ⟨⟨fun index contract hat => ?_, fun index contract hat => ?_, fun name index => ?_,
    fun tableId => ?_⟩, fun n hn => ?_, fun hnone => ?_⟩
  · obtain ⟨before, hbefore, hid⟩ := hcontract index contract hat
    exact hid.trans (h.id index before hbefore)
  · obtain ⟨before, hbefore, -⟩ := hcontract index contract hat
    rw [hshift]
    exact h.shift index before hbefore
  · rw [hbyName, h.byName name index]
    constructor
    · rintro ⟨object, hobject, rfl⟩
      obtain ⟨later, hlater, hlasts⟩ := hextends.objects index object hobject
      exact ⟨later, hlater, hlasts.name⟩
    · rintro ⟨later, hlater, rfl⟩
      obtain ⟨object, hobject, hlasts⟩ := hextends.exists_before hsize hlater
      exact ⟨object, hobject, hlasts.name.symm⟩
  · rw [hbyTable, h.byTable, hextends.placesOf hsize]
  · rw [hsize]
    exact h.shift_le_size n (hshift.symm.trans hn)
  · have hempty : registry.size = 0 := congrArg List.length (h.shift_none (hshift.symm.trans hnone))
    exact List.length_eq_zero_iff.mp (hsize.trans hempty)

/-- The change concerns nothing but the switch and the wallet. -/
def Spares (change : Ownership → Ownership) : Prop :=
  ∀ owner, ∃ active walletId, change owner = { owner with active, walletId }

/-- A change of ownership leaves every object in its place. -/
theorem extends_reown {change : Ownership → Ownership} (hchange : Overwrites change)
    (hspares : Spares change) (registry : Registry) (tableId ecosystem : Int) :
    registry.Extends (registry.reown tableId ecosystem change) where
  objects index object hobject := by
    have hreown : object.Lasts (object.reown ecosystem change) := by
      cases object with
      | function name => exact rfl
      | contract c =>
        by_cases heco : c.owner.ecosystemId = ecosystem
        · obtain ⟨active, walletId, hsame⟩ := hspares c.owner
          exact ⟨active, walletId, by simp only [RegistryObject.reown, if_pos heco, hsame]⟩
        · simp only [RegistryObject.reown, if_neg heco]
          exact Std.Refl.refl (RegistryObject.contract c)
    unfold reown
    rw [getElem?_foldl_setOwner hchange, hobject]
    split
    next => exact ⟨_, rfl, hreown⟩
    next => exact ⟨object, rfl, Std.Refl.refl object⟩
  shift _ := id

theorem size_reown (registry : Registry) (tableId ecosystem : Int)
    (change : Ownership → Ownership) :
    (registry.reown tableId ecosystem change).size = registry.size := by
  unfold reown size
  generalize registry.places tableId = indices
  generalize registry.objects = objects
  induction indices generalizing objects with
  | nil => rfl
  | cons index indices ih =>
    rw [List.foldl_cons, ih, setOwner, List.length_modify]

/-- A registry goes on as a well-formed one that has come from it. -/
def Grows (before after : Registry) : Prop :=
  before.WellFormed → after.WellFormed ∧ before.Extends after

instance : IsPreorder Registry Grows where
  refl registry h := ⟨h, Std.Refl.refl registry⟩
  trans _ _ _ h k hbefore :=
    ⟨(k (h hbefore).1).1, IsTrans.trans _ _ _ (h hbefore).2 (k (h hbefore).1).2⟩

theorem grows_changeOwner {change : Ownership → Ownership} (hchange : Overwrites change)
    (hspares : Spares change) (registry : Registry) (tableId ecosystem : Int) :
    registry.Grows (registry.changeOwner tableId ecosystem change).2 := by
  unfold changeOwner
  split
  next => exact Std.Refl.refl registry
  next =>
    intro h
    have hextends := extends_reown hchange hspares registry tableId ecosystem
    exact ⟨h.of_extends hextends (size_reown registry tableId ecosystem change) rfl rfl rfl,
      hextends⟩

theorem grows_setActive (registry : Registry) (tableId ecosystem : Int) (active : Bool) :
    registry.Grows (registry.setActive tableId ecosystem active).2 :=
  grows_changeOwner (overwrites_active active) (fun owner => ⟨active, owner.walletId, rfl⟩)
    registry tableId ecosystem

theorem grows_reassignWallet (registry : Registry) (tableId ecosystem walletId : Int) :
    registry.Grows (registry.reassignWallet tableId ecosystem walletId).2 :=
  grows_changeOwner (overwrites_wallet walletId) (fun owner => ⟨owner.active, walletId, rfl⟩)
    registry tableId ecosystem

/-! ## Loads -/

/-- Records come in as a whole, under names that are different and not taken. -/
theorem WellFormed.loadRecords (h : registry.WellFormed) (hset : registry.shift.isSome = true)
    {forward : List String} {records : List ContractRecord} {count : Nat} {loaded : Registry}
    (hload : registry.loadRecords forward records = .ok (count, loaded)) :
    loaded.WellFormed ∧ registry.Extends loaded := by
  obtain ⟨staged, -, hfresh, -, rfl⟩ := loadRecords_eq_ok_iff.mp hload
  rw [stagedNames_eq] at hfresh
  obtain ⟨hdistinct, hnew⟩ := firstTaken?_eq_none_iff.mp hfresh
  rw [addStaged_eq]
  exact h.addUnits hset hdistinct fun name hname => (hnew name hname).2

theorem admits_grows : Admits Grows where
  equip hunset hequipped h := h.addSystemFunctions hunset hequipped
  load hset _ hload h := h.loadRecords hset hload

/-! ## Reachable registries -/

/-- One load or change of ownership takes the first registry to the second. -/
inductive Step : Registry → Registry → Prop
  | loadAll (settings : LoadSettings) {db : Database} (hdb : db.Keyed) {registry : Registry}
      (failures : Failures) :
      Step registry ((Loading.all settings db).run ⟨registry, failures⟩).2.registry
  | loadEcosystem (settings : LoadSettings) {db : Database} (hdb : db.Keyed) (ecosystem : Int)
      {registry : Registry} (failures : Failures) :
      Step registry ((Loading.ofEcosystem settings db ecosystem).run ⟨registry, failures⟩).2.registry
  | setActive (tableId ecosystem : Int) (active : Bool) {registry : Registry} :
      Step registry (registry.setActive tableId ecosystem active).2
  | reassignWallet (tableId ecosystem walletId : Int) {registry : Registry} :
      Step registry (registry.reassignWallet tableId ecosystem walletId).2

variable {next : Registry}

theorem Step.grows (h : registry.Step next) : registry.Grows next := by
  cases h with
  | loadAll settings hdb failures => exact Loading.all_moves admits_grows settings hdb ⟨_, failures⟩
  | loadEcosystem settings hdb ecosystem failures =>
    exact Loading.ofEcosystem_moves admits_grows settings hdb ecosystem ⟨_, failures⟩
  | setActive tableId ecosystem active => exact grows_setActive registry tableId ecosystem active
  | reassignWallet tableId ecosystem walletId =>
    exact grows_reassignWallet registry tableId ecosystem walletId

/-- The reachable registries are those that steps lead to. -/
theorem reachable_iff : registry.Reachable ↔ Relation.ReflTransGen Step .empty registry := by
  constructor
  · intro h
    induction h with
    | empty => exact .refl
    | loadAll settings hdb failures _ ih => exact ih.tail (.loadAll settings hdb failures)
    | loadEcosystem settings hdb ecosystem failures _ ih =>
      exact ih.tail (.loadEcosystem settings hdb ecosystem failures)
    | setActive tableId ecosystem active _ ih => exact ih.tail (.setActive tableId ecosystem active)
    | reassignWallet tableId ecosystem walletId _ ih =>
      exact ih.tail (.reassignWallet tableId ecosystem walletId)
  · intro h
    induction h with
    | refl => exact .empty
    | tail _ hstep ih =>
      cases hstep with
      | loadAll settings hdb failures => exact .loadAll settings hdb failures ih
      | loadEcosystem settings hdb ecosystem failures =>
        exact .loadEcosystem settings hdb ecosystem failures ih
      | setActive tableId ecosystem active => exact .setActive tableId ecosystem active ih
      | reassignWallet tableId ecosystem walletId =>
        exact .reassignWallet tableId ecosystem walletId ih

theorem WellFormed.empty : WellFormed .empty where
  id _ _ hat := by cases hat
  shift _ _ hat := by cases hat
  byName _ _ := by
    constructor
    · intro h
      cases h
    · rintro ⟨_, hobject, -⟩
      cases hobject
  byTable _ := rfl
  shift_le_size _ h := by cases h
  shift_none _ := rfl

/-- A contract is found for a name exactly if its full name is the one that this name has. -/
theorem WellFormed.lookupByName_eq_some_iff (h : registry.WellFormed) {name : String}
    {ecosystem : Int} {c : Contract} : registry.lookupByName name ecosystem = some c ↔
      c ∈ registry.contracts ∧ c.name = ContractName.qualify ecosystem name := by
  unfold lookupByName
  rw [Option.bind_eq_some_iff, mem_contracts_iff]
  constructor
  · rintro ⟨index, hindex, hat⟩
    obtain ⟨object, hobject, hname⟩ := (h.byName _ index).mp hindex
    have hcontract := contractAt?_eq_some.mp hat
    obtain rfl := Option.some.inj (hobject.symm.trans hcontract)
    exact ⟨List.mem_of_getElem? hcontract, hname⟩
  · rintro ⟨hc, hname⟩
    obtain ⟨index, hindex⟩ := List.mem_iff_getElem?.mp hc
    exact ⟨index, (h.byName _ index).mpr ⟨_, hindex, hname⟩, contractAt?_eq_some.mpr hindex⟩

/-- Contracts of one record have the same ownership, wherever they stand. -/
theorem Coherent.owner_eq (hregistry : registry.Coherent) (h : registry.Indexed) {i j : Nat}
    {c d : Contract} (hc : registry.contractAt? i = some c) (hd : registry.contractAt? j = some d)
    (hrecord : c.owner.tableId = d.owner.tableId) : c.owner = d.owner := by
  obtain ⟨owner, -, howned⟩ := hregistry c.owner.tableId
  have hplace : ∀ {k : Nat} {contract : Contract}, registry.contractAt? k = some contract →
      contract.owner.tableId = c.owner.tableId → contract.owner = owner := by
    intro k contract hat htable
    have hmem : k ∈ registry.places c.owner.tableId := by
      rw [h.places_eq]
      exact mem_placesOf.mpr ⟨contract, hat, htable⟩
    obtain ⟨found, hfound, howner⟩ := howned k hmem
    obtain rfl := Option.some.inj (hat.symm.trans hfound)
    exact howner
  rw [hplace hc rfl, hplace hd hrecord.symm]

/-- In a registry that can come about, the list of objects and the indexes agree. -/
theorem Reachable.wellFormed (h : registry.Reachable) : registry.WellFormed := by
  have hsteps := reachable_iff.mp h
  induction hsteps with
  | refl => exact .empty
  | tail hsteps hstep ih => exact (hstep.grows (ih (reachable_iff.mpr hsteps))).1

/-- In a registry that can come about, the list of objects, both indexes and the contracts themselves
agree, and contracts of one record have the same ownership. Whatever comes next, the registry has come
about as well, and all objects that are there have stayed as they are. -/
theorem wellFormed_of_reachable (h : registry.Reachable) :
    registry.WellFormed ∧
      (∀ i j c d, registry.contractAt? i = some c → registry.contractAt? j = some d →
        c.owner.tableId = d.owner.tableId → c.owner = d.owner) ∧
      ∀ next, registry.Step next → next.Reachable ∧ registry.Extends next := by
  have hwell := h.wellFormed
  refine ⟨hwell, fun i j c d hc hd => h.coherent.owner_eq hwell.toIndexed hc hd,
    fun next hstep => ⟨?_, (hstep.grows hwell).2⟩⟩
  exact reachable_iff.mpr ((reachable_iff.mp h).tail hstep)

/-- Two contracts of one record are loaded, and then switched off. -/
theorem wellFormed_of_reachable_sample :
    Sample.registry.Reachable ∧ Sample.registry.WellFormed ∧
      Assoc.find? 1 Sample.registry.byTable = some [0, 1] ∧
      Sample.registry.Extends (Sample.registry.setActive 1 1 false).2 := by
  have hreachable : Sample.registry.Reachable := by
    simpa only [Sample.world] using Sample.reachable fun _ _ => none
  obtain ⟨hwell, -, hstep⟩ := wellFormed_of_reachable hreachable
  exact ⟨hreachable, hwell, by decide +kernel, (hstep _ (.setActive 1 1 false)).2⟩

end Registry

end Covenant
