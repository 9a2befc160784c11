import Covenant.Proofs.Registry.Representation

/-!
# Loading in pages

The pages in which contract sources are read make no difference. A later page is compiled against a
registry that holds the contracts of the earlier ones, but their names have been collected before, so
all pages are compiled against the same names; and names are taken by earlier pages exactly if they
would be taken in one large page. So loading page by page comes to the same as loading all records at
once.
-/

namespace Covenant

/-- A value that is put in brings its key. -/
theorem Assoc.mem_keys_insert {κ α : Type} [DecidableEq κ] {key other : κ} {value : α}
    {entries : Assoc κ α} :
    other ∈ (Assoc.insert key value entries).map Prod.fst ↔
      other = key ∨ other ∈ entries.map Prod.fst := by
  induction entries with
  | nil => simp [Assoc.insert]
  | cons entry entries ih =>
    unfold Assoc.insert
    split
    next hkey => simp [hkey]
    next => simp only [List.map_cons, List.mem_cons, ih, or_left_comm]

namespace Registry

open Stage

variable {registry mid after : Registry} {forward : List String}
  {xs ys : List ContractRecord}

/-! ## What registering units adds -/

/-- The names of the units are taken, besides those that were taken before. -/
theorem find?_byName_addUnits {units : List (Ownership × SourceUnit)} {name : String} :
    Assoc.find? name (registry.addUnits units).byName = none ↔
      Assoc.find? name registry.byName = none ∧ name ∉ units.map fullName := by
  induction units generalizing registry with
  | nil => simp
  | cons unit units ih =>
    rw [addUnits, List.foldl_cons, ih, byName_addUnit, List.map_cons, List.mem_cons, not_or]
    by_cases hname : name = fullName unit
    · subst hname
      simp [Assoc.find?_insert_self]
    · rw [Assoc.find?_insert_of_ne hname]
      simp [hname]

/-- The contracts among the units are found by their names, besides those that were there before. -/
theorem hasContract_addUnits (units : List (Ownership × SourceUnit)) (name : String) :
    (registry.addUnits units).hasContract name =
      (registry.hasContract name ||
        units.any fun unit => unit.2.kind = .contract && fullName unit == name) := by
  induction units generalizing registry with
  | nil => simp
  | cons unit units ih =>
    have hfirst : (registry.addUnit unit.1 unit.2).hasContract name =
        (registry.hasContract name || (unit.2.kind = .contract && fullName unit == name)) := by
      unfold addUnit
      cases hkind : unit.2.kind with
      | contract =>
        simp [hasContract, contracts, addContract, fullName, RegistryObject.contract?]
      | function => simp [hasContract, contracts, addFunction, RegistryObject.contract?]
    rw [addUnits, List.foldl_cons, ih, hfirst, List.any_cons, Bool.or_assoc]

/-- The records of the contracts among the units are loaded, besides those that were loaded before. -/
theorem mem_loadedTables_addUnits {units : List (Ownership × SourceUnit)} {tableId : Int} :
    tableId ∈ (registry.addUnits units).loadedTables ↔
      tableId ∈ registry.loadedTables ∨
        ∃ unit ∈ units, unit.2.kind = .contract ∧ unit.1.tableId = tableId := by
  induction units generalizing registry with
  | nil => simp
  | cons unit units ih =>
    have hfirst : tableId ∈ (registry.addUnit unit.1 unit.2).loadedTables ↔
        tableId ∈ registry.loadedTables ∨ unit.2.kind = .contract ∧ unit.1.tableId = tableId := by
      unfold addUnit
      cases hkind : unit.2.kind with
      | contract =>
        change tableId ∈ (Assoc.insert unit.1.tableId _ registry.byTable).map Prod.fst ↔ _
        rw [Assoc.mem_keys_insert]
        simp [loadedTables, or_comm, eq_comm]
      | function => simp [loadedTables, addFunction]
    rw [addUnits, List.foldl_cons, ih, hfirst, or_assoc]
    simp

/-! ## Staging in parts -/

variable {isKnown : String → Bool} {loaded : List Int} {staged : List StagedRecord}

/-- The first record is passed over, or compiled before the others. -/
private theorem stage_cons (record : ContractRecord) : stage isKnown loaded (record :: xs) =
    if loaded.contains record.id then stage isKnown loaded xs
    else
      match Script.compile record.ecosystemId isKnown record.value with
      | .error e => .error (compileFailure record e)
      | .ok units => (stage isKnown loaded xs).map (⟨record.owner, units⟩ :: ·) := rfl

/-- Two lists of records are staged together if each of them is. -/
theorem stage_append : stage isKnown loaded (xs ++ ys) = .ok staged ↔
    ∃ first second, stage isKnown loaded xs = .ok first ∧ stage isKnown loaded ys = .ok second ∧
      staged = first ++ second := by
  induction xs generalizing staged with
  | nil => simp [stage]
  | cons record xs ih =>
    rw [List.cons_append, stage_cons, stage_cons]
    split
    next => exact ih
    next =>
      split
      next => simp
      next units _ =>
        constructor
        · intro h
          obtain ⟨rest, hrest, rfl⟩ := map_eq_ok.mp h
          obtain ⟨first, second, hfirst, hsecond, rfl⟩ := ih.mp hrest
          exact ⟨_, second, map_eq_ok.mpr ⟨first, hfirst, rfl⟩, hsecond, rfl⟩
        · rintro ⟨first, second, hfirst, hsecond, rfl⟩
          obtain ⟨rest, hrest, rfl⟩ := map_eq_ok.mp hfirst
          exact map_eq_ok.mpr ⟨_, ih.mpr ⟨rest, second, hrest, hsecond, rfl⟩, rfl⟩

/-- Staging depends only on which of the records themselves are loaded. -/
theorem stage_congr {loaded' : List Int}
    (h : ∀ record ∈ xs, loaded'.contains record.id = loaded.contains record.id) :
    stage isKnown loaded' xs = stage isKnown loaded xs := by
  induction xs with
  | nil => rfl
  | cons record xs ih =>
    obtain ⟨hfirst, hmore⟩ := List.forall_mem_cons.mp h
    unfold stage
    rw [hfirst, ih hmore]

private theorem exists_of_mem_right {α β : Type} {R : α → β → Prop} {as : List α} {bs : List β}
    (h : List.Forall₂ R as bs) {b : β} (hb : b ∈ bs) : ∃ a ∈ as, R a b := by
  induction h with
  | nil => cases hb
  | cons hfirst _ ih =>
    rcases List.mem_cons.mp hb with rfl | hb
    · exact ⟨_, List.mem_cons_self, hfirst⟩
    · obtain ⟨a, ha, hrelated⟩ := ih hb
      exact ⟨a, List.mem_cons_of_mem _ ha, hrelated⟩

/-- What is staged has been compiled from a record that was not loaded. -/
theorem exists_of_mem_staged (h : stage isKnown loaded xs = .ok staged) {compiled : StagedRecord}
    (hcompiled : compiled ∈ staged) :
    ∃ record ∈ xs, loaded.contains record.id = false ∧ Compiled isKnown record compiled := by
  obtain ⟨record, hrecord, hrelated⟩ := exists_of_mem_right (forall₂_of_stage h) hcompiled
  obtain ⟨hmem, hnot⟩ := List.mem_filter.mp hrecord
  exact ⟨record, hmem, by simpa using hnot, hrelated⟩

/-- Every record that was not loaded is staged. -/
theorem exists_compiled (h : stage isKnown loaded xs = .ok staged) {record : ContractRecord}
    (hrecord : record ∈ xs) (hnot : loaded.contains record.id = false) :
    ∃ compiled ∈ staged, Compiled isKnown record compiled :=
  exists_of_mem_right (forall₂_of_stage h).flip
    (List.mem_filter.mpr ⟨hrecord, by rw [hnot]; rfl⟩)

/-- The units that are staged are those of records that were not loaded. -/
theorem exists_of_mem_ownedUnits (h : stage isKnown loaded xs = .ok staged)
    {unit : Ownership × SourceUnit} (hunit : unit ∈ ownedUnits staged) :
    ∃ record ∈ xs, loaded.contains record.id = false ∧ unit.1 = record.owner ∧
      ∃ units, Script.compile record.ecosystemId isKnown record.value = .ok units ∧
        unit.2 ∈ units := by
  obtain ⟨compiled, hcompiled, hmem⟩ := List.mem_flatMap.mp hunit
  obtain ⟨found, hfound, rfl⟩ := List.mem_map.mp hmem
  obtain ⟨record, hrecord, hnot, howner, hcompile⟩ := exists_of_mem_staged h hcompiled
  exact ⟨record, hrecord, hnot, howner, compiled.units, hcompile, hfound⟩

/-! ## Names that are collected before -/

/-- The contracts of all records that are not loaded are found by their headers, and have these
names. -/
def Named (forward : List String) (loaded : List Int) (records : List ContractRecord) : Prop :=
  ∀ record ∈ records, loaded.contains record.id = false →
    ∃ names, Script.contractNames record.ecosystemId record.value = .ok names ∧ names ⊆ forward

private theorem pendingNames_cons (record : ContractRecord) : pendingNames loaded (record :: xs) =
    if loaded.contains record.id then pendingNames loaded xs
    else
      match Script.contractNames record.ecosystemId record.value with
      | .error e => .error (.compile record.id "" e)
      | .ok names => (pendingNames loaded xs).map (names ++ ·) := rfl

theorem pendingNames_append {names : List String} :
    pendingNames loaded (xs ++ ys) = .ok names ↔
      ∃ first second, pendingNames loaded xs = .ok first ∧ pendingNames loaded ys = .ok second ∧
        names = first ++ second := by
  induction xs generalizing names with
  | nil => simp [pendingNames]
  | cons record xs ih =>
    rw [List.cons_append, pendingNames_cons, pendingNames_cons]
    split
    next => exact ih
    next =>
      split
      next => simp
      next found _ =>
        constructor
        · intro h
          obtain ⟨rest, hrest, rfl⟩ := map_eq_ok.mp h
          obtain ⟨first, second, hfirst, hsecond, rfl⟩ := ih.mp hrest
          exact ⟨_, second, map_eq_ok.mpr ⟨first, hfirst, rfl⟩, hsecond,
            (List.append_assoc ..).symm⟩
        · rintro ⟨first, second, hfirst, hsecond, rfl⟩
          obtain ⟨rest, hrest, rfl⟩ := map_eq_ok.mp hfirst
          exact map_eq_ok.mpr ⟨_, ih.mpr ⟨rest, second, hrest, hsecond, rfl⟩,
            (List.append_assoc ..).symm⟩

/-- All names that are pending are collected. -/
theorem named_of_pendingNames {names : List String} (h : pendingNames loaded xs = .ok names) :
    Named names loaded xs := by
  induction xs generalizing names with
  | nil => exact List.forall_mem_nil _
  | cons record xs ih =>
    unfold pendingNames at h
    split at h
    next hloaded =>
      refine List.forall_mem_cons.mpr ⟨fun hnot => ?_, ih h⟩
      rw [hloaded] at hnot
      cases hnot
    next =>
      split at h
      next => cases h
      next found hfound =>
        obtain ⟨rest, hrest, rfl⟩ := map_eq_ok.mp h
        refine List.forall_mem_cons.mpr ⟨fun _ => ⟨found, hfound, List.subset_append_left _ _⟩,
          fun other hother hnot => ?_⟩
        obtain ⟨more, hmore, hsubset⟩ := ih hrest other hother hnot
        exact ⟨more, hmore, List.Subset.trans hsubset (List.subset_append_right _ _)⟩

/-! ## Loading in parts -/

/-- Contracts that have been compiled have names that were collected. -/
theorem Named.fullName_mem (hnamed : Named forward loaded xs)
    (hstage : stage isKnown loaded xs = .ok staged) {unit : Ownership × SourceUnit}
    (hunit : unit ∈ ownedUnits staged) (hkind : unit.2.kind = .contract) :
    fullName unit ∈ forward := by
  obtain ⟨record, hrecord, hnot, howner, units, hcompile, hmem⟩ :=
    exists_of_mem_ownedUnits hstage hunit
  obtain ⟨names, hnames, hsubset⟩ := hnamed record hrecord hnot
  refine hsubset (Script.declaredNames_subset hcompile hnames ?_)
  have hname : fullName unit = ContractName.qualify record.ecosystemId unit.2.name := by
    rw [fullName, unitName, hkind, howner]
    rfl
  rw [hname]
  exact List.mem_map_of_mem (List.mem_filter.mpr ⟨hmem, decide_eq_true hkind⟩)

/-- Once a part is registered, the same names may be called as before, if those of the part had been
collected. -/
theorem Named.known_addUnits (hnamed : Named forward registry.loadedTables xs)
    (hstage : stage isKnown registry.loadedTables xs = .ok staged) :
    (fun name => (registry.addUnits (ownedUnits staged)).hasContract name || forward.contains name) =
      fun name => registry.hasContract name || forward.contains name := by
  funext name
  rw [hasContract_addUnits, Bool.or_assoc, Bool.or_comm (List.any ..), ← Bool.or_assoc]
  cases hcontains : forward.contains name with
  | true => simp
  | false =>
    have hnone : (ownedUnits staged).any
        (fun unit => unit.2.kind = .contract && fullName unit == name) = false := by
      refine List.any_eq_false.mpr fun unit hunit hmatch => ?_
      obtain ⟨hkind, hname⟩ := Bool.and_eq_true_iff.mp hmatch
      have hmem := hnamed.fullName_mem hstage hunit (of_decide_eq_true hkind)
      rw [eq_of_beq hname] at hmem
      simp [hmem] at hcontains
    rw [hnone, Bool.or_false]

/-- A part that is registered concerns no record of another part. -/
theorem contains_loadedTables_addUnits (hdistinct : ((xs ++ ys).map ContractRecord.id).Nodup)
    (hstage : stage isKnown registry.loadedTables xs = .ok staged) {record : ContractRecord}
    (hrecord : record ∈ ys) :
    (registry.addUnits (ownedUnits staged)).loadedTables.contains record.id =
      registry.loadedTables.contains record.id := by
  rw [List.map_append, List.nodup_append] at hdistinct
  have hother : ¬∃ unit ∈ ownedUnits staged,
      unit.2.kind = .contract ∧ unit.1.tableId = record.id := by
    rintro ⟨unit, hunit, -, htable⟩
    obtain ⟨other, hmem, -, howner, -⟩ := exists_of_mem_ownedUnits hstage hunit
    rw [howner] at htable
    exact hdistinct.2.2 _ (List.mem_map_of_mem hmem) _ (List.mem_map_of_mem hrecord) htable
  rw [Bool.eq_iff_iff, List.contains_iff_mem, List.contains_iff_mem, mem_loadedTables_addUnits,
    or_iff_left hother]

/-- A second part is staged as it would be together with the first. -/
theorem Named.stage_addStaged (hnamed : Named forward registry.loadedTables xs)
    (hdistinct : ((xs ++ ys).map ContractRecord.id).Nodup)
    (hstage : stage isKnown registry.loadedTables xs = .ok staged) :
    stage (fun name => (registry.addStaged staged).hasContract name || forward.contains name)
        (registry.addStaged staged).loadedTables ys =
      stage (fun name => registry.hasContract name || forward.contains name)
        registry.loadedTables ys := by
  rw [addStaged_eq, hnamed.known_addUnits hstage]
  exact stage_congr fun record => contains_loadedTables_addUnits hdistinct hstage

/-- Once the first part is registered, the names of a second one are free if they would be together
with the first. -/
theorem firstTaken?_append_iff {more : List StagedRecord} :
    registry.firstTaken? [] (stagedNames (staged ++ more)) = none ↔
      registry.firstTaken? [] (stagedNames staged) = none ∧
        (registry.addStaged staged).firstTaken? [] (stagedNames more) = none := by
  rw [addStaged_eq]
  simp only [firstTaken?_eq_none_iff, stagedNames_eq, ownedUnits, List.flatMap_append,
    List.map_append, List.nodup_append, List.mem_append, find?_byName_addUnits]
  grind

theorem contractCount_append (staged more : List StagedRecord) :
    contractCount (staged ++ more) = contractCount staged + contractCount more := by
  simp [contractCount]

theorem addStaged_append (registry : Registry) (staged more : List StagedRecord) :
    registry.addStaged (staged ++ more) = (registry.addStaged staged).addStaged more :=
  List.foldl_append

/-- Records can be loaded in two parts, the second one into a registry that has the first, if the names
of the first have been collected. -/
theorem loadRecords_append (hdistinct : ((xs ++ ys).map ContractRecord.id).Nodup)
    (hnamed : Named forward registry.loadedTables xs) {count : Nat} :
    registry.loadRecords forward (xs ++ ys) = .ok (count, after) ↔
      ∃ first mid second, registry.loadRecords forward xs = .ok (first, mid) ∧
        mid.loadRecords forward ys = .ok (second, after) ∧ count = first + second := by
  constructor
  · intro h
    obtain ⟨all, hstage, hfresh, rfl, rfl⟩ := loadRecords_eq_ok_iff.mp h
    obtain ⟨staged, more, hstaged, hmore, rfl⟩ := stage_append.mp hstage
    obtain ⟨hfirst, hnext⟩ := firstTaken?_append_iff.mp hfresh
    have hsecond := (hnamed.stage_addStaged hdistinct hstaged).trans hmore
    exact ⟨_, _, _, loadRecords_eq_ok_iff.mpr ⟨staged, hstaged, hfirst, rfl, rfl⟩,
      loadRecords_eq_ok_iff.mpr ⟨more, hsecond, hnext, rfl, addStaged_append ..⟩,
      contractCount_append ..⟩
  · rintro ⟨_, _, _, hfirst, hsecond, rfl⟩
    obtain ⟨staged, hstaged, hfresh, rfl, rfl⟩ := loadRecords_eq_ok_iff.mp hfirst
    obtain ⟨more, hmore, hnext, rfl, rfl⟩ := loadRecords_eq_ok_iff.mp hsecond
    rw [hnamed.stage_addStaged hdistinct hstaged] at hmore
    exact loadRecords_eq_ok_iff.mpr ⟨staged ++ more,
      stage_append.mpr ⟨staged, more, hstaged, hmore, rfl⟩,
      firstTaken?_append_iff.mpr ⟨hfresh, hnext⟩, (contractCount_append ..).symm,
      (addStaged_append ..).symm⟩

/-- What was collected remains so while records are loaded. -/
theorem Named.of_loadRecords {records : List ContractRecord}
    (hnamed : Named forward registry.loadedTables records) {first : Nat}
    (h : registry.loadRecords forward xs = .ok (first, mid)) :
    Named forward mid.loadedTables records := by
  obtain ⟨staged, -, -, -, rfl⟩ := loadRecords_eq_ok_iff.mp h
  intro record hrecord hnot
  refine hnamed record hrecord (Bool.eq_false_iff.mpr fun hloaded => ?_)
  rw [addStaged_eq] at hnot
  have hmem : record.id ∈ (registry.addUnits (ownedUnits staged)).loadedTables :=
    mem_loadedTables_addUnits.mpr (.inl (List.contains_iff_mem.mp hloaded))
  simp [hmem] at hnot

/-! ## Pages -/

namespace Loading

variable {α β : Type} {db : Database} {pageSize : Nat}

/-- A run ends as a computation without storage does: with its result and its registry, or with its
error. No call becomes due to fail meanwhile. -/
structure EndsAs (last : Except RegistryError α × LoadState)
    (out : Except RegistryError (α × Registry)) : Prop where
  result : last.1 = out.map Prod.fst
  registry : ∀ a after, out = .ok (a, after) → last.2.registry = after
  never : last.2.failures.Never

theorem EndsAs.ok {s : LoadState} (hnever : s.failures.Never) (a : α) :
    EndsAs (.ok a, s) (.ok (a, s.registry)) where
  result := rfl
  registry := by
    rintro _ _ ⟨⟩
    rfl
  never := hnever

theorem EndsAs.error {s : LoadState} (hnever : s.failures.Never) (e : RegistryError) :
    EndsAs (.error e, s) (.error e : Except RegistryError (α × Registry)) where
  result := rfl
  registry _ _ h := by cases h
  never := hnever

/-- A sequence ends as the sequence of what its parts do. -/
theorem EndsAs.bind {x : Loading α} {f : α → Loading β} {s : LoadState}
    {out : Except RegistryError (α × Registry)}
    {g : α × Registry → Except RegistryError (β × Registry)} (hx : EndsAs (x.run s) out)
    (hf : ∀ a t, t.failures.Never → EndsAs ((f a).run t) (g (a, t.registry))) :
    EndsAs ((x >>= f).run s) (out >>= g) := by
  obtain ⟨hresult, hregistry, hnever⟩ := hx
  rcases hrun : x.run s with ⟨r, t⟩
  rw [hrun] at hresult hregistry hnever
  cases out with
  | error e =>
    obtain rfl : r = .error e := hresult
    rw [run_bind_of_error hrun]
    exact .error hnever e
  | ok pair =>
    obtain ⟨a, next⟩ := pair
    obtain rfl : r = .ok a := hresult
    obtain rfl : t.registry = next := hregistry a next rfl
    rw [run_bind_of_ok hrun]
    exact hf a t hnever

/-- What a run that ends so succeeds with. -/
theorem EndsAs.exists_eq_ok_iff {last : Except RegistryError α × LoadState}
    {out : Except RegistryError (α × Registry)} (h : EndsAs last out) {a : α} :
    (∃ left, last = (.ok a, ⟨after, left⟩)) ↔ out = .ok (a, after) := by
  obtain ⟨hresult, hregistry, -⟩ := h
  obtain ⟨r, t⟩ := last
  constructor
  · rintro ⟨left, ⟨⟩⟩
    cases out with
    | error e => cases hresult
    | ok pair =>
      obtain rfl : a = pair.1 := Except.ok.inj hresult
      obtain rfl : after = pair.2 := hregistry pair.1 pair.2 rfl
      rfl
  · rintro rfl
    obtain rfl : r = .ok a := hresult
    obtain rfl : t.registry = after := hregistry a after rfl
    exact ⟨t.failures, rfl⟩

theorem run_look_of_never {call : StorageCall} {a : α} {s : LoadState} (hnever : s.failures.Never) :
    (look call a).run s = (.ok a, { s with failures := s.failures.count call }) := by
  rw [run_look, hnever.next]

/-- Each visit is a step from a result and a registry to others. -/
def Steps (visit : List ContractRecord → α → Loading α)
    (step : α × Registry → List ContractRecord → Except RegistryError (α × Registry)) : Prop :=
  ∀ page a s, s.failures.Never → EndsAs ((visit page a).run s) (step (a, s.registry) page)

/-- The pages are a partition of the records, and visiting them takes one step for each. -/
theorem exists_pages (db : Database) (pageSize fuel offset : Nat)
    (hfuel : db.contracts.length ≤ fuel + offset) :
    ∃ pages : List (List ContractRecord),
      pages.flatten = (db.contracts.map Prod.snd).drop offset ∧
      ∀ {α : Type} {visit : List ContractRecord → α → Loading α} {step}, Steps visit step →
        ∀ a s, s.failures.Never →
          EndsAs ((visitPages db pageSize db.contracts.length visit fuel offset a).run s)
            (pages.foldlM step (a, s.registry)) := by
  induction fuel generalizing offset with
  | zero =>
    refine ⟨[], ?_, fun _ a s hnever => .ok hnever a⟩
    rw [List.drop_eq_nil_of_le (by simpa using hfuel)]
    rfl
  | succ fuel ih =>
    by_cases hoffset : offset < db.contracts.length
    · let page := db.contractPage offset (max pageSize 1)
      have hpage : page = ((db.contracts.map Prod.snd).drop offset).take (max pageSize 1) := by
        simp only [page, Database.contractPage, List.map_take, List.map_drop]
      have hlength : page.length = min (max pageSize 1) (db.contracts.length - offset) := by
        simp [hpage]
      have hnonempty : page.isEmpty = false := by
        rw [List.isEmpty_eq_false_iff, ← List.length_pos_iff, hlength]
        omega
      obtain ⟨pages, hpages, hrun⟩ := ih (offset + page.length) (by omega)
      refine ⟨page :: pages, ?_, fun hsteps a s hnever => ?_⟩
      · rw [List.flatten_cons, hpages, ← List.drop_drop, hpage, List.length_take,
          List.take_eq_take_min]
        exact List.take_append_drop _ _
      · rw [visitPages, if_pos hoffset, List.foldlM_cons,
          run_bind_of_ok (run_look_of_never hnever), hnonempty, if_neg Bool.false_ne_true]
        exact (hsteps page a { s with failures := s.failures.count .pagedList } hnever).bind
          fun b t ht => hrun hsteps b t ht
    · refine ⟨[], ?_, fun _ a s hnever => ?_⟩
      · rw [List.drop_eq_nil_of_le (by simpa using hoffset)]
        rfl
      · rw [visitPages, if_neg hoffset]
        exact .ok hnever a

/-! ## Loading at once -/

/-- The names that a page adds to those that are collected. -/
def collect (loaded : List Int) (found : List String × Registry) (page : List ContractRecord) :
    Except RegistryError (List String × Registry) :=
  (pendingNames loaded page).map fun more => (found.1 ++ more, found.2)

/-- The contracts that a page adds to those that are counted. -/
def loadNext (forward : List String) (counted : Nat × Registry) (page : List ContractRecord) :
    Except RegistryError (Nat × Registry) :=
  (counted.2.loadRecords forward page).map fun (more, next) => (counted.1 + more, next)

theorem steps_collect (loaded : List Int) :
    Steps (fun page names => do return names ++ (← ofExcept (pendingNames loaded page)))
      (collect loaded) := by
  intro page names s hnever
  dsimp only [collect]
  cases hpending : pendingNames loaded page with
  | error e => exact .error hnever e
  | ok more => exact .ok hnever _

theorem steps_loadPage (forward : List String) : Steps (loadPage forward) (loadNext forward) := by
  intro page count s hnever
  have hread : Loading.registry.run s = (.ok s.registry, s) := rfl
  rw [loadPage, run_bind_of_ok hread, loadNext]
  cases s.registry.loadRecords forward page with
  | error e => exact .error hnever e
  | ok loaded => exact .ok (s := { s with registry := loaded.2 }) hnever (count + loaded.1)

/-- Names are collected from pages as from all records. -/
theorem foldlM_collect {loaded : List Int} {pages : List (List ContractRecord)}
    {names : List String} {out : List String × Registry} :
    pages.foldlM (collect loaded) (names, registry) = .ok out ↔
      ∃ more, pendingNames loaded pages.flatten = .ok more ∧ out = (names ++ more, registry) := by
  induction pages generalizing names with
  | nil => simp [pendingNames, pure, Except.pure, eq_comm]
  | cons page pages ih =>
    rw [List.foldlM_cons, List.flatten_cons, bind_eq_ok]
    constructor
    · rintro ⟨_, hpage, hrest⟩
      obtain ⟨found, hfound, rfl⟩ := map_eq_ok.mp hpage
      obtain ⟨more, hmore, rfl⟩ := ih.mp hrest
      exact ⟨_, pendingNames_append.mpr ⟨found, more, hfound, hmore, rfl⟩,
        by rw [List.append_assoc]⟩
    · rintro ⟨more, hmore, rfl⟩
      obtain ⟨found, rest, hfound, hrest, rfl⟩ := pendingNames_append.mp hmore
      exact ⟨_, map_eq_ok.mpr ⟨found, hfound, rfl⟩,
        ih.mpr ⟨rest, hrest, by rw [List.append_assoc]⟩⟩

/-- Pages are loaded one after the other as they are at once, if their names have been collected. -/
theorem foldlM_loadNext {pages : List (List ContractRecord)}
    (hdistinct : (pages.flatten.map ContractRecord.id).Nodup)
    (hnamed : Named forward registry.loadedTables pages.flatten) {count : Nat}
    {out : Nat × Registry} :
    pages.foldlM (loadNext forward) (count, registry) = .ok out ↔
      ∃ more after, registry.loadRecords forward pages.flatten = .ok (more, after) ∧
        out = (count + more, after) := by
  induction pages generalizing registry count with
  | nil =>
    have hnone : registry.loadRecords forward [] = .ok (0, registry) := rfl
    rw [List.flatten_nil, hnone]
    constructor
    · intro h
      exact ⟨0, registry, rfl, (Except.ok.inj h).symm⟩
    · rintro ⟨_, _, ⟨⟩, rfl⟩
      rfl
  | cons page pages ih =>
    rw [List.flatten_cons] at hdistinct hnamed
    have hfirst : Named forward registry.loadedTables page :=
      fun record hrecord => hnamed record (List.mem_append_left _ hrecord)
    have hrest : ∀ {first : Nat} {mid : Registry},
        registry.loadRecords forward page = .ok (first, mid) →
        Named forward mid.loadedTables pages.flatten :=
      fun hload record hrecord =>
        hnamed.of_loadRecords hload record (List.mem_append_right _ hrecord)
    have hothers : (pages.flatten.map ContractRecord.id).Nodup :=
      hdistinct.sublist ((List.sublist_append_right _ _).map _)
    rw [List.foldlM_cons, List.flatten_cons, bind_eq_ok]
    constructor
    · rintro ⟨_, hpage, hnext⟩
      obtain ⟨loaded, hload, rfl⟩ := map_eq_ok.mp hpage
      obtain ⟨more, after, hmore, rfl⟩ := (ih hothers (hrest hload)).mp hnext
      exact ⟨_, after, (loadRecords_append hdistinct hfirst).mpr
        ⟨loaded.1, loaded.2, more, hload, hmore, rfl⟩, by rw [Nat.add_assoc]⟩
    · rintro ⟨more, after, hmore, rfl⟩
      obtain ⟨first, mid, second, hload, hnext, rfl⟩ :=
        (loadRecords_append hdistinct hfirst).mp hmore
      exact ⟨_, map_eq_ok.mpr ⟨_, hload, rfl⟩,
        (ih hothers (hrest hload)).mpr ⟨second, after, hnext, by rw [Nat.add_assoc]⟩⟩

/-- The registry with the functions of the system. -/
def equip (registry : Registry) (source : String) : Except RegistryError Registry :=
  if registry.shift.isSome then .ok registry else registry.addSystemFunctions source

/-- All records, loaded as one page. -/
def loadAtOnce (registry : Registry) (source : String) (records : List ContractRecord) :
    Except RegistryError (Nat × Registry) := do
  let equipped ← equip registry source
  let forward ← pendingNames equipped.loadedTables records
  equipped.loadRecords forward records

/-- The records, loaded page by page. -/
def loadInPages (registry : Registry) (source : String) (pages : List (List ContractRecord)) :
    Except RegistryError (Nat × Registry) := do
  let equipped ← equip registry source
  let found ← pages.foldlM (collect equipped.loadedTables) ([], equipped)
  pages.foldlM (loadNext found.1) (0, found.2)

/-- However the records are put into pages, it comes to the same as one page. -/
theorem loadInPages_eq_ok_iff {source : String} {pages : List (List ContractRecord)}
    (hdistinct : (pages.flatten.map ContractRecord.id).Nodup) {count : Nat} :
    loadInPages registry source pages = .ok (count, after) ↔
      loadAtOnce registry source pages.flatten = .ok (count, after) := by
  rw [loadInPages, loadAtOnce, bind_eq_ok, bind_eq_ok]
  refine exists_congr fun equipped => and_congr_right fun _ => ?_
  rw [bind_eq_ok, bind_eq_ok]
  constructor
  · rintro ⟨_, hfound, hload⟩
    obtain ⟨forward, hforward, rfl⟩ := foldlM_collect.mp hfound
    obtain ⟨_, _, hall, hout⟩ :=
      (foldlM_loadNext hdistinct (named_of_pendingNames hforward)).mp hload
    obtain ⟨rfl, rfl⟩ := Prod.mk.inj hout
    exact ⟨forward, hforward, by rw [hall, Nat.zero_add]⟩
  · rintro ⟨forward, hforward, hall⟩
    refine ⟨_, foldlM_collect.mpr ⟨forward, hforward, rfl⟩, ?_⟩
    exact (foldlM_loadNext hdistinct (named_of_pendingNames hforward)).mpr
      ⟨count, after, hall, by rw [Nat.zero_add]⟩

theorem endsAs_ensureSystem (source : String) {s : LoadState} (hnever : s.failures.Never) :
    EndsAs ((ensureSystem source).run s) ((equip s.registry source).map ((), ·)) := by
  rw [run_ensureSystem, equip]
  split
  next => exact .ok hnever ()
  next =>
    cases s.registry.addSystemFunctions source with
    | error e => exact .error hnever e
    | ok equipped => exact .ok (s := { s with registry := equipped }) hnever ()

/-- A load puts the records into pages, and loads them page by page. -/
theorem exists_all_endsAs (settings : LoadSettings) (db : Database) :
    ∃ pages : List (List ContractRecord), pages.flatten = db.contracts.map Prod.snd ∧
      ∀ s : LoadState, s.failures.Never →
        EndsAs ((all settings db).run s) (loadInPages s.registry settings.systemSource pages) := by
  obtain ⟨pages, hpages, hvisits⟩ :=
    exists_pages db settings.pageSize db.contracts.length 0 (Nat.le_refl _)
  refine ⟨pages, hpages, fun s hnever => ?_⟩
  have hsequence : loadInPages s.registry settings.systemSource pages =
      (equip s.registry settings.systemSource).map ((), ·) >>= fun equipped =>
        pages.foldlM (collect equipped.2.loadedTables) ([], equipped.2) >>= fun found =>
          pages.foldlM (loadNext found.1) (0, found.2) := by
    rw [loadInPages]
    cases equip s.registry settings.systemSource with
    | error e => rfl
    | ok equipped => rfl
  rw [hsequence, all]
  refine (endsAs_ensureSystem settings.systemSource hnever).bind fun _ t ht => ?_
  rw [run_bind_of_ok (run_look_of_never ht)]
  exact (hvisits (steps_collect _) [] { t with failures := t.failures.count .count } ht).bind
    fun forward u hu => hvisits (steps_loadPage forward) 0 u hu

/-- Loading all contracts comes to the same as loading them as one page. -/
theorem all_eq_ok_iff (settings : LoadSettings) (hdb : db.Keyed) {failures : Failures}
    (hnever : failures.Never) {count : Nat} :
    (∃ left, (all settings db).run ⟨registry, failures⟩ = (.ok count, ⟨after, left⟩)) ↔
      loadAtOnce registry settings.systemSource (db.contracts.map Prod.snd) =
        .ok (count, after) := by
  obtain ⟨pages, hpages, hends⟩ := exists_all_endsAs settings db
  have hdistinct : (pages.flatten.map ContractRecord.id).Nodup :=
    hpages ▸ nodup_ids hdb (List.Sublist.refl _)
  rw [(hends ⟨registry, failures⟩ hnever).exists_eq_ok_iff, loadInPages_eq_ok_iff hdistinct, hpages]

/-- As long as no storage call fails, all contracts can be loaded in pages of one size if they can be in
pages of another, and the number of contracts and the registry are the same. -/
theorem all_paging_iff (hdb : db.Keyed) {failures : Failures} (hnever : failures.Never)
    (pageSize other : Nat) (source : String) (registry after : Registry) (count : Nat) :
    (∃ left, (all ⟨pageSize, source⟩ db).run ⟨registry, failures⟩ = (.ok count, ⟨after, left⟩)) ↔
      ∃ left, (all ⟨other, source⟩ db).run ⟨registry, failures⟩ = (.ok count, ⟨after, left⟩) :=
  (all_eq_ok_iff ⟨pageSize, source⟩ hdb hnever).trans
    (all_eq_ok_iff ⟨other, source⟩ hdb hnever).symm

/-- The contract of the first record calls that of the second one. -/
def sampleDatabase : Database :=
  { Database.empty with
    contracts := [
      (1, ⟨1, 1, "contract First \x7b\n action \x7b\n  call Second\n \x7d\n\x7d\n", 3, 1, true, "",
        1⟩),
      (2, ⟨2, 1, "contract Second \x7b\n action \x7b\n \x7d\n\x7d\n", 3, 1, true, "", 1⟩)] }

/-- Both contracts are loaded on two pages, and then on one. -/
theorem all_paging_iff_sample :
    sampleDatabase.Keyed ∧ Failures.none.Never ∧ ∃ after, after.objects.length = 2 ∧
      ∃ left, (all ⟨7, ""⟩ sampleDatabase).run ⟨.empty, .none⟩ = (.ok 2, ⟨after, left⟩) := by
  have hdb : sampleDatabase.Keyed := ⟨by decide, by simp [sampleDatabase]⟩
  have hnever : Failures.none.Never := fun _ _ => rfl
  have hpages : ((all ⟨1, ""⟩ sampleDatabase).run ⟨.empty, .none⟩).1.toOption = some 2 ∧
      ((all ⟨1, ""⟩ sampleDatabase).run ⟨.empty, .none⟩).2.registry.objects.length = 2 := by
    decide +kernel
  have hrun := run_of_toOption hpages.1
  obtain ⟨-, hlength⟩ := hpages
  generalize ((all ⟨1, ""⟩ sampleDatabase).run ⟨.empty, .none⟩).2 = last at hrun hlength
  obtain ⟨after, left⟩ := last
  exact ⟨hdb, hnever, after, hlength,
    (all_paging_iff hdb hnever 1 7 "" .empty after 2).mp ⟨left, hrun⟩⟩

end Loading

end Registry

end Covenant
