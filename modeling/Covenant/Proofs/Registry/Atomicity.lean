import Covenant.Proofs.Registry.Paging

/-!
# Loads that stop

A load can stop at many places: the functions of the system do not compile, a storage call fails, the
names of a record cannot be found, a record does not compile, or a name is taken. Names are collected
before anything is registered, and every page is registered as a whole. So a load that stops has
registered some pages, and nothing of the others.
-/

namespace Covenant

namespace Registry

open Stage

/-- The second registry is the first one with all units of those records that it had not loaded, in
the order of the records, and has nothing else besides. -/
def Gains (before : Registry) (records : List ContractRecord) (after : Registry) : Prop :=
  ∃ isKnown staged,
    List.Forall₂ (Compiled isKnown)
      (records.filter fun record => !before.loadedTables.contains record.id) staged ∧
    after = before.addStaged staged

variable {registry after : Registry} {forward : List String} {records : List ContractRecord}

/-- Records that are loaded bring all of their units. -/
theorem gains_of_loadRecords {count : Nat}
    (h : registry.loadRecords forward records = .ok (count, after)) :
    registry.Gains records after := by
  obtain ⟨staged, hstage, -, -, hafter⟩ := loadRecords_eq_ok_iff.mp h
  exact ⟨_, staged, forall₂_of_stage hstage, hafter⟩

namespace Loading

/-! ## Visits of pages -/

/-- A page of records. -/
def page (records : List ContractRecord) (size n : Nat) : List ContractRecord :=
  (records.drop (n * size)).take size

theorem take_succ_mul (records : List ContractRecord) (size n : Nat) :
    records.take ((n + 1) * size) = records.take (n * size) ++ page records size n := by
  rw [Nat.succ_mul, List.take_add]
  rfl

theorem page_sublist (records : List ContractRecord) (size n : Nat) :
    (page records size n).Sublist records :=
  (List.take_sublist _ _).trans (List.drop_sublist _ _)

theorem contractPage_eq (db : Database) (size n : Nat) :
    db.contractPage (n * size) size = page (db.contracts.map Prod.snd) size n := by
  simp only [Database.contractPage, page, List.map_take, List.map_drop]

section Visits

variable {α : Type} {db : Database} {pageSize size : Nat}
  {visit : List ContractRecord → α → Loading α} {P : Nat → α → Registry → Prop}

/-- How visits of pages end: all pages have been visited, or a call has failed before the next one, or
that one has been refused. `P` says what holds once so many pages have been visited. -/
inductive Visited (visit : List ContractRecord → α → Loading α) (records : List ContractRecord)
    (size : Nat) (P : Nat → α → Registry → Prop) : Except RegistryError α × LoadState → Prop
  | through {n : Nat} {a : α} {t : LoadState} (hlast : records.length ≤ n * size)
      (hvisited : P n a t.registry) : Visited visit records size P (.ok a, t)
  | unread {n : Nat} {a : α} {t : LoadState} (cause : StorageError)
      (hmore : n * size < records.length) (hvisited : P n a t.registry) :
      Visited visit records size P (.error (.storage cause), t)
  | refused {n : Nat} {a : α} {s t : LoadState} {e : RegistryError}
      (hmore : n * size < records.length) (hvisited : P n a s.registry)
      (hrefused : (visit (page records size n) a).run s = (.error e, t)) :
      Visited visit records size P (.error e, t)

/-- What every visit of a page carries on holds where the visits end. They begin at a page, and the
place behind the last one is that of a page that is not there. -/
private theorem visitPages_visited_from
    (hvisit : ∀ n a s b t, P n a s.registry →
      (visit (page (db.contracts.map Prod.snd) (max pageSize 1) n) a).run s = (.ok b, t) →
        P (n + 1) b t.registry)
    (fuel n : Nat) (a : α) (s : LoadState)
    (hfuel : db.contracts.length ≤ fuel + n * max pageSize 1) (hstart : P n a s.registry) :
    Visited visit (db.contracts.map Prod.snd) (max pageSize 1) P
      ((visitPages db pageSize db.contracts.length visit fuel
        (min (n * max pageSize 1) db.contracts.length) a).run s) := by
  induction fuel generalizing n a s with
  | zero =>
    have hlast : (db.contracts.map Prod.snd).length ≤ n * max pageSize 1 := by
      rw [List.length_map]
      omega
    exact .through hlast hstart
  | succ fuel ih =>
    by_cases hmore : n * max pageSize 1 < db.contracts.length
    · have hoffset : min (n * max pageSize 1) db.contracts.length = n * max pageSize 1 := by omega
      have hlength : (page (db.contracts.map Prod.snd) (max pageSize 1) n).length =
          min (max pageSize 1) (db.contracts.length - n * max pageSize 1) := by
        rw [page, List.length_take, List.length_drop, List.length_map]
      have hnonempty :
          (page (db.contracts.map Prod.snd) (max pageSize 1) n).isEmpty = false := by
        rw [List.isEmpty_eq_false_iff, ← List.length_pos_iff, hlength]
        omega
      have hmore' : n * max pageSize 1 < (db.contracts.map Prod.snd).length := by
        rwa [List.length_map]
      rw [hoffset, visitPages, if_pos hmore, contractPage_eq]
      cases hnext : s.failures.next .pagedList with
      | some cause =>
        have hlook := run_look .pagedList
          (page (db.contracts.map Prod.snd) (max pageSize 1) n) s
        rw [hnext] at hlook
        rw [run_bind_of_error hlook]
        exact .unread cause hmore' hstart
      | none =>
        have hlook := run_look .pagedList
          (page (db.contracts.map Prod.snd) (max pageSize 1) n) s
        rw [hnext] at hlook
        rw [run_bind_of_ok hlook, hnonempty, if_neg Bool.false_ne_true]
        have hstart' : P n a { s with failures := s.failures.count .pagedList }.registry := hstart
        generalize { s with failures := s.failures.count .pagedList } = u at hstart'
        rcases hrun : (visit (page (db.contracts.map Prod.snd) (max pageSize 1) n) a).run u with
          ⟨e | b, t⟩
        · rw [run_bind_of_error hrun]
          exact .refused hmore' hstart' hrun
        · have hend : n * max pageSize 1 +
              (page (db.contracts.map Prod.snd) (max pageSize 1) n).length =
                min ((n + 1) * max pageSize 1) db.contracts.length := by
            rw [hlength, Nat.succ_mul]
            omega
          rw [run_bind_of_ok hrun, hend]
          refine ih (n + 1) b t ?_ (hvisit n a u b t hstart' hrun)
          rw [Nat.succ_mul]
          omega
    · have hlast : (db.contracts.map Prod.snd).length ≤ n * max pageSize 1 := by
        rw [List.length_map]
        omega
      rw [visitPages, if_neg (by omega)]
      exact .through hlast hstart

/-- What holds at first, and is carried on by every visit of a page, holds where the visits end. -/
theorem visitPages_visited {a : α} {s : LoadState} (hstart : P 0 a s.registry)
    (hvisit : ∀ n a s b t, P n a s.registry →
      (visit (page (db.contracts.map Prod.snd) (max pageSize 1) n) a).run s = (.ok b, t) →
        P (n + 1) b t.registry) :
    Visited visit (db.contracts.map Prod.snd) (max pageSize 1) P
      ((visitPages db pageSize db.contracts.length visit db.contracts.length 0 a).run s) := by
  have hvisited := visitPages_visited_from hvisit db.contracts.length 0 a s (by omega) hstart
  rwa [Nat.zero_mul, Nat.zero_min] at hvisited

end Visits

/-! ## The first pass -/

/-- Adds the names of a page to those that have been collected. -/
def collectPage (loaded : List Int) (part : List ContractRecord) (names : List String) :
    Loading (List String) := do
  return names ++ (← ofExcept (pendingNames loaded part))

/-- What a load does before it compiles the first record: it makes sure that the functions of the
system are there, and collects the names of all contracts. -/
def collectNames (settings : LoadSettings) (db : Database) : Loading (List String) := do
  ensureSystem settings.systemSource
  let total ← look .count db.contracts.length
  let loaded := (← Loading.registry).loadedTables
  visitPages db settings.pageSize total (collectPage loaded) total 0 []

theorem run_ensureSystem_equip (source : String) (s : LoadState) :
    (ensureSystem source).run s =
      match equip s.registry source with
      | .error e => (.error e, s)
      | .ok equipped => (.ok (), { s with registry := equipped }) := by
  rw [run_ensureSystem, equip]
  split
  next => rfl
  next => rfl

theorem look_eq_ok {α : Type} {call : StorageCall} {a b : α} {s t : LoadState}
    (h : (look call a).run s = (.ok b, t)) : b = a ∧ t.registry = s.registry := by
  rw [run_look] at h
  split at h
  next => cases h
  next =>
    obtain ⟨hfound, rfl⟩ := Prod.mk.inj h
    exact ⟨(Except.ok.inj hfound).symm, rfl⟩

theorem look_eq_error {α : Type} {call : StorageCall} {a : α} {s t : LoadState} {e : RegistryError}
    (h : (look call a).run s = (.error e, t)) :
    ∃ cause, e = .storage cause ∧ t.registry = s.registry := by
  rw [run_look] at h
  split at h
  next cause _ =>
    obtain ⟨hcause, rfl⟩ := Prod.mk.inj h
    exact ⟨cause, (Except.error.inj hcause).symm, rfl⟩
  next => cases h

/-- A load collects names, and then compiles and registers the pages. -/
theorem run_all (settings : LoadSettings) (db : Database) (s : LoadState) :
    (all settings db).run s = (collectNames settings db >>= fun forward =>
      visitPages db settings.pageSize db.contracts.length (loadPage forward)
        db.contracts.length 0 0).run s := by
  simp only [all, collectNames, bind_assoc]
  refine run_bind_congr fun _ t _ => run_bind_congr fun total u hlook => ?_
  rw [(look_eq_ok hlook).1]
  rfl

/-- The names of so many pages have been collected, and nothing has been registered. -/
def NamesOfPages (equipped : Registry) (records : List ContractRecord) (size n : Nat)
    (names : List String) (registry : Registry) : Prop :=
  registry = equipped ∧
    pendingNames equipped.loadedTables (records.take (n * size)) = .ok names

theorem run_collectPage (loaded : List Int) (part : List ContractRecord) (names : List String)
    (s : LoadState) :
    (collectPage loaded part names).run s = ((pendingNames loaded part).map (names ++ ·), s) := by
  unfold collectPage
  cases pendingNames loaded part with
  | error e => rfl
  | ok more => rfl

/-- The names of all pages are collected, unless that stops before. -/
theorem collectPages_visited (db : Database) (pageSize : Nat) (s : LoadState) :
    Visited (collectPage s.registry.loadedTables) (db.contracts.map Prod.snd) (max pageSize 1)
      (NamesOfPages s.registry (db.contracts.map Prod.snd) (max pageSize 1))
      ((visitPages db pageSize db.contracts.length (collectPage s.registry.loadedTables)
        db.contracts.length 0 []).run s) := by
  refine visitPages_visited ⟨rfl, by rw [Nat.zero_mul]; rfl⟩ ?_
  rintro n names u more v ⟨hsame, hnames⟩ hrun
  rw [run_collectPage] at hrun
  obtain ⟨hmore, rfl⟩ := Prod.mk.inj hrun
  obtain ⟨found, hfound, rfl⟩ := map_eq_ok.mp hmore
  refine ⟨hsame, ?_⟩
  rw [take_succ_mul]
  exact pendingNames_append.mpr ⟨names, found, hnames, hfound, rfl⟩

/-- Nothing but the functions of the system is registered while names are collected. When all goes
well, these are the names of all records that are not loaded. -/
theorem collectNames_cases {settings : LoadSettings} {db : Database} {s t : LoadState}
    {r : Except RegistryError (List String)} (h : (collectNames settings db).run s = (r, t)) :
    (∃ e, r = .error e ∧ equip s.registry settings.systemSource = .error e ∧
      t.registry = s.registry) ∨
    equip s.registry settings.systemSource = .ok t.registry ∧
      ((∃ cause, r = .error (.storage cause)) ∨
        (∃ e part, r = .error e ∧ part ⊆ db.contracts.map Prod.snd ∧
          pendingNames t.registry.loadedTables part = .error e) ∨
        ∃ forward, r = .ok forward ∧
          pendingNames t.registry.loadedTables (db.contracts.map Prod.snd) = .ok forward) := by
  have hsystem := run_ensureSystem_equip settings.systemSource s
  cases hequip : equip s.registry settings.systemSource with
  | error e =>
    rw [hequip] at hsystem
    rw [collectNames, run_bind_of_error hsystem] at h
    obtain ⟨rfl, rfl⟩ := Prod.mk.inj h
    exact .inl ⟨e, rfl, rfl, rfl⟩
  | ok equipped =>
    right
    rw [hequip] at hsystem
    rw [collectNames, run_bind_of_ok hsystem] at h
    rcases hcount : (look .count db.contracts.length).run { s with registry := equipped } with
      ⟨e | total, u⟩
    · obtain ⟨cause, rfl, hsame⟩ := look_eq_error hcount
      rw [run_bind_of_error hcount] at h
      obtain ⟨rfl, rfl⟩ := Prod.mk.inj h
      exact ⟨by rw [hsame], .inl ⟨cause, rfl⟩⟩
    · obtain ⟨rfl, hsame⟩ := look_eq_ok hcount
      have hvisited := collectPages_visited db settings.pageSize u
      rw [run_bind_of_ok hcount] at h
      change (visitPages db settings.pageSize _ (collectPage u.registry.loadedTables) _ 0 []).run u =
        (r, t) at h
      rw [h] at hvisited
      cases hvisited with
      | through hlast hnames =>
        obtain ⟨hregistry, hforward⟩ := hnames
        rw [List.take_of_length_le hlast] at hforward
        rw [hregistry]
        exact ⟨by rw [hsame], .inr (.inr ⟨_, rfl, hforward⟩)⟩
      | unread cause hmore hnames =>
        rw [hnames.1]
        exact ⟨by rw [hsame], .inl ⟨cause, rfl⟩⟩
      | refused hmore hnames hrefused =>
        rw [run_collectPage] at hrefused
        obtain ⟨hfailed, rfl⟩ := Prod.mk.inj hrefused
        rw [hnames.1]
        exact ⟨by rw [hsame],
          .inr (.inl ⟨_, _, rfl, (page_sublist _ _ _).subset, map_eq_error.mp hfailed⟩)⟩

/-! ## The second pass -/

/-- So many pages have been registered. -/
def RegisteredPages (equipped : Registry) (forward : List String) (records : List ContractRecord)
    (size n count : Nat) (registry : Registry) : Prop :=
  equipped.loadRecords forward (records.take (n * size)) = .ok (count, registry)

theorem run_loadPage (forward : List String) (part : List ContractRecord) (count : Nat)
    (s : LoadState) :
    (loadPage forward part count).run s =
      match s.registry.loadRecords forward part with
      | .error e => (.error e, s)
      | .ok (more, next) => (.ok (count + more), { s with registry := next }) := by
  have hread : Loading.registry.run s = (.ok s.registry, s) := rfl
  rw [loadPage, run_bind_of_ok hread]
  cases s.registry.loadRecords forward part with
  | error e => rfl
  | ok loaded => rfl

/-- All pages are registered, unless that stops before. What has been registered then is what the
records of the first pages bring together. -/
theorem loadPages_visited {db : Database} (hdb : db.Keyed) (pageSize : Nat) {s : LoadState}
    (hforward : pendingNames s.registry.loadedTables (db.contracts.map Prod.snd) = .ok forward) :
    Visited (loadPage forward) (db.contracts.map Prod.snd) (max pageSize 1)
      (RegisteredPages s.registry forward (db.contracts.map Prod.snd) (max pageSize 1))
      ((visitPages db pageSize db.contracts.length (loadPage forward) db.contracts.length 0 0).run
        s) := by
  refine visitPages_visited (by rw [RegisteredPages, Nat.zero_mul]; rfl) ?_
  intro n count u total v hregistered hrun
  rw [run_loadPage] at hrun
  split at hrun
  next => cases hrun
  next more next hload =>
    obtain ⟨htotal, rfl⟩ := Prod.mk.inj hrun
    obtain rfl := Except.ok.inj htotal
    have hparts := take_succ_mul (db.contracts.map Prod.snd) (max pageSize 1) n
    have hdistinct := nodup_ids hdb (List.take_sublist ((n + 1) * max pageSize 1) _)
    have hnamed : Named forward s.registry.loadedTables
        ((db.contracts.map Prod.snd).take (n * max pageSize 1)) :=
      fun record hrecord => named_of_pendingNames hforward record (List.mem_of_mem_take hrecord)
    rw [RegisteredPages, hparts]
    rw [hparts] at hdistinct
    exact (loadRecords_append hdistinct hnamed).mpr
      ⟨count, u.registry, more, hregistered, hload, rfl⟩

/-! ## Ends of loads -/

/-- How a load of records in pages of a size can end, with the registry that it leaves behind. -/
inductive Ends (before : Registry) (source : String) (records : List ContractRecord) (size : Nat) :
    Except RegistryError Nat → Registry → Prop
  /-- The functions of the system are not there, and do not compile. -/
  | unequipped {e : RegistryError} (hequip : equip before source = .error e) :
      Ends before source records size (.error e) before
  /-- The names of some records cannot be found. -/
  | unnamed {equipped : Registry} {part : List ContractRecord} {e : RegistryError}
      (hequip : equip before source = .ok equipped) (hpart : part ⊆ records)
      (hnames : pendingNames equipped.loadedTables part = .error e) :
      Ends before source records size (.error e) equipped
  /-- A storage call fails, when the first pages have been registered. -/
  | unread {equipped after : Registry} {forward : List String} {n count : Nat}
      (cause : StorageError) (hequip : equip before source = .ok equipped)
      (hmore : n = 0 ∨ n * size < records.length)
      (hpages : RegisteredPages equipped forward records size n count after) :
      Ends before source records size (.error (.storage cause)) after
  /-- The next page is refused, when those before it have been registered. -/
  | refused {equipped after : Registry} {forward : List String} {n count : Nat} {e : RegistryError}
      (hequip : equip before source = .ok equipped) (hmore : n * size < records.length)
      (hpages : RegisteredPages equipped forward records size n count after)
      (hrefused : after.loadRecords forward (page records size n) = .error e) :
      Ends before source records size (.error e) after
  /-- All records have been registered. -/
  | loaded {equipped after : Registry} {forward : List String} {count : Nat}
      (hequip : equip before source = .ok equipped)
      (hforward : pendingNames equipped.loadedTables records = .ok forward)
      (hload : equipped.loadRecords forward records = .ok (count, after)) :
      Ends before source records size (.ok count) after

/-- Nothing has been registered yet when the first page is to come. -/
theorem registeredPages_zero (equipped : Registry) (forward : List String)
    (records : List ContractRecord) (size : Nat) :
    RegisteredPages equipped forward records size 0 0 equipped := by
  rw [RegisteredPages, Nat.zero_mul]
  rfl

/-- A load that stops leaves a registry behind that has gained whole pages. -/
theorem Ends.stopped {before after : Registry} {source : String} {size : Nat} {e : RegistryError}
    (h : Ends before source records size (.error e) after) :
    equip before source = .error e ∧ after = before ∨
      ∃ equipped n, equip before source = .ok equipped ∧ (n = 0 ∨ n * size < records.length) ∧
        equipped.Gains (records.take (n * size)) after := by
  cases h with
  | unequipped hequip => exact .inl ⟨hequip, rfl⟩
  | unnamed hequip hpart hnames =>
    have hnothing := gains_of_loadRecords (registeredPages_zero after [] records size)
    exact .inr ⟨after, 0, hequip, .inl rfl, hnothing⟩
  | unread cause hequip hmore hpages =>
    exact .inr ⟨_, _, hequip, hmore, gains_of_loadRecords hpages⟩
  | refused hequip hmore hpages hrefused =>
    exact .inr ⟨_, _, hequip, .inr hmore, gains_of_loadRecords hpages⟩

theorem all_ends {settings : LoadSettings} {db : Database} (hdb : db.Keyed) {s t : LoadState}
    {r : Except RegistryError Nat} (h : (all settings db).run s = (r, t)) :
    Ends s.registry settings.systemSource (db.contracts.map Prod.snd) (max settings.pageSize 1) r
      t.registry := by
  rw [run_all] at h
  rcases hnames : (collectNames settings db).run s with ⟨e | forward, u⟩
  · rw [run_bind_of_error hnames] at h
    obtain ⟨rfl, rfl⟩ := Prod.mk.inj h
    rcases collectNames_cases hnames with ⟨_, ⟨⟩, hequip, hsame⟩ |
      ⟨hequip, ⟨cause, ⟨⟩⟩ | ⟨_, part, ⟨⟩, hpart, hfailed⟩ | ⟨_, ⟨⟩, -⟩⟩
    · rw [hsame]
      exact .unequipped hequip
    · exact .unread cause hequip (.inl rfl) (registeredPages_zero _ [] _ _)
    · exact .unnamed hequip hpart hfailed
  · rcases collectNames_cases hnames with ⟨_, ⟨⟩, -⟩ |
      ⟨hequip, ⟨_, ⟨⟩⟩ | ⟨_, _, ⟨⟩, -⟩ | ⟨_, ⟨⟩, hforward⟩⟩
    rw [run_bind_of_ok hnames] at h
    have hvisited := loadPages_visited hdb settings.pageSize hforward
    rw [h] at hvisited
    cases hvisited with
    | through hlast hpages =>
      rw [RegisteredPages, List.take_of_length_le hlast] at hpages
      exact .loaded hequip hforward hpages
    | unread cause hmore hpages => exact .unread cause hequip (.inr hmore) hpages
    | refused hmore hpages hrefused =>
      rw [run_loadPage] at hrefused
      split at hrefused
      next hload =>
        obtain ⟨hfailed, rfl⟩ := Prod.mk.inj hrefused
        obtain rfl := Except.error.inj hfailed
        exact .refused hequip hmore hpages hload
      next => cases hrefused

/-- The contracts of an ecosystem are loaded as one page. -/
theorem ofEcosystem_ends {settings : LoadSettings} {db : Database} {ecosystem : Int}
    {s t : LoadState} {r : Except RegistryError Nat}
    (h : (ofEcosystem settings db ecosystem).run s = (r, t)) :
    Ends s.registry settings.systemSource (db.contractsOf ecosystem)
      (db.contractsOf ecosystem).length r t.registry := by
  have hsystem := run_ensureSystem_equip settings.systemSource s
  cases hequip : equip s.registry settings.systemSource with
  | error e =>
    rw [hequip] at hsystem
    rw [ofEcosystem, run_bind_of_error hsystem] at h
    obtain ⟨rfl, rfl⟩ := Prod.mk.inj h
    exact .unequipped hequip
  | ok equipped =>
    rw [hequip] at hsystem
    rw [ofEcosystem, run_bind_of_ok hsystem] at h
    rcases hlook : (look .listByEcosystem (db.contractsOf ecosystem)).run
      { s with registry := equipped } with ⟨e | records, u⟩
    · obtain ⟨cause, rfl, hsame⟩ := look_eq_error hlook
      rw [run_bind_of_error hlook] at h
      obtain ⟨rfl, rfl⟩ := Prod.mk.inj h
      rw [hsame]
      exact .unread cause hequip (.inl rfl) (registeredPages_zero _ [] _ _)
    · obtain ⟨rfl, hsame⟩ := look_eq_ok hlook
      obtain rfl : equipped = u.registry := hsame.symm
      have hread : Loading.registry.run u = (.ok u.registry, u) := rfl
      rw [run_bind_of_ok hlook, run_bind_of_ok hread] at h
      dsimp only at h
      cases hnames : pendingNames u.registry.loadedTables (db.contractsOf ecosystem) with
      | error e =>
        have hfailed : (ofExcept (.error e) : Loading (List String)).run u = (.error e, u) := rfl
        rw [hnames, run_bind_of_error hfailed] at h
        obtain ⟨rfl, rfl⟩ := Prod.mk.inj h
        exact .unnamed hequip (List.Subset.refl _) hnames
      | ok forward =>
        have hfound : (ofExcept (.ok forward) : Loading (List String)).run u = (.ok forward, u) := rfl
        rw [hnames, run_bind_of_ok hfound, run_loadPage] at h
        split at h
        next e hload =>
          obtain ⟨rfl, rfl⟩ := Prod.mk.inj h
          have hmore : (db.contractsOf ecosystem).length ≠ 0 := by
            intro hnone
            rw [List.length_eq_zero_iff.mp hnone] at hload
            cases hload
          have honly : page (db.contractsOf ecosystem) (db.contractsOf ecosystem).length 0 =
              db.contractsOf ecosystem := by
            rw [page, Nat.zero_mul, List.drop_zero, List.take_length]
          refine .refused hequip (by omega) (registeredPages_zero _ forward _ _) ?_
          rwa [honly]
        next count after hload =>
          obtain ⟨rfl, rfl⟩ := Prod.mk.inj h
          rw [Nat.zero_add]
          exact .loaded hequip hnames hload

/-- Loads that stop have registered whole pages: what they leave behind is the registry with the
functions of the system, and with all units of the records on the first pages. There are no such pages
if the names could not be collected, and none in a load of one ecosystem. Functions of the system that
do not compile leave the registry as it was. -/
theorem stopped_between_pages (settings : LoadSettings) {db : Database} (hdb : db.Keyed)
    (s : LoadState) :
    (∀ e t, (all settings db).run s = (.error e, t) →
      equip s.registry settings.systemSource = .error e ∧ t.registry = s.registry ∨
      ∃ equipped n, equip s.registry settings.systemSource = .ok equipped ∧
        equipped.Gains ((db.contracts.map Prod.snd).take (n * max settings.pageSize 1)) t.registry ∧
        ∀ e' u, (collectNames settings db).run s = (.error e', u) → n = 0) ∧
    ∀ ecosystem e t, (ofEcosystem settings db ecosystem).run s = (.error e, t) →
      equip s.registry settings.systemSource = .error e ∧ t.registry = s.registry ∨
      equip s.registry settings.systemSource = .ok t.registry := by
  refine ⟨fun e t h => ?all, fun ecosystem e t h => ?ofEcosystem⟩
  case all =>
    rcases hnames : (collectNames settings db).run s with ⟨e' | forward, u⟩
    · rw [run_all, run_bind_of_error hnames] at h
      obtain ⟨hsame, rfl⟩ := Prod.mk.inj h
      obtain rfl := Except.error.inj hsame
      rcases collectNames_cases hnames with ⟨_, ⟨⟩, hequip, hregistry⟩ | ⟨hequip, -⟩
      · exact .inl ⟨hequip, hregistry⟩
      · have hnothing := gains_of_loadRecords (registeredPages_zero u.registry []
          (db.contracts.map Prod.snd) (max settings.pageSize 1))
        exact .inr ⟨u.registry, 0, hequip, hnothing, fun _ _ _ => rfl⟩
    · rcases (all_ends hdb h).stopped with hunequipped | ⟨equipped, n, hequip, -, hgains⟩
      · exact .inl hunequipped
      · exact .inr ⟨equipped, n, hequip, hgains, nofun⟩
  case ofEcosystem =>
    rcases (ofEcosystem_ends h).stopped with hunequipped | ⟨equipped, n, hequip, hn, hgains⟩
    · exact .inl hunequipped
    · have hnone : n = 0 := by
        rcases hn with hn | hn
        · exact hn
        · by_contra hpos
          have hle := Nat.le_mul_of_pos_left (db.contractsOf ecosystem).length
            (Nat.pos_of_ne_zero hpos)
          omega
      rw [hnone, Nat.zero_mul] at hgains
      obtain ⟨_, staged, hall, hafter⟩ := hgains
      cases hall
      rw [hafter]
      exact .inr hequip

/-- The contract of the second record does not compile. -/
def brokenDatabase : Database :=
  { Database.empty with
    contracts := [
      (1, ⟨1, 1, "contract Good \x7b\n action \x7b\n \x7d\n\x7d\n", 3, 1, true, "", 1⟩),
      (2, ⟨2, 1, "contract Bad \x7b\n action \x7b\n  explode\n \x7d\n\x7d\n", 3, 1, true, "",
        1⟩)] }

/-- The first record stays registered, and it alone. -/
theorem stopped_between_pages_sample :
    brokenDatabase.Keyed ∧ ∃ e t,
      (all ⟨1, ""⟩ brokenDatabase).run ⟨.empty, .none⟩ = (.error e, t) ∧
      t.registry.contractNames = ["@1Good"] ∧
      ∃ (equipped : Registry) (n : Nat),
        equipped.Gains ((brokenDatabase.contracts.map Prod.snd).take (n * 1)) t.registry := by
  have hdb : brokenDatabase.Keyed := ⟨by decide, by simp [brokenDatabase]⟩
  have hrun : ((all ⟨1, ""⟩ brokenDatabase).run ⟨.empty, .none⟩).1.toOption = none ∧
      ((all ⟨1, ""⟩ brokenDatabase).run ⟨.empty, .none⟩).2.registry.contractNames =
        ["@1Good"] := by
    decide +kernel
  obtain ⟨hfailed, hnames⟩ := hrun
  rcases hlast : (all ⟨1, ""⟩ brokenDatabase).run ⟨.empty, .none⟩ with ⟨e | count, t⟩
  · rw [hlast] at hnames
    refine ⟨hdb, e, t, rfl, hnames, ?_⟩
    rcases (stopped_between_pages ⟨1, ""⟩ hdb ⟨.empty, .none⟩).1 e t hlast with
      ⟨-, hsame⟩ | ⟨equipped, n, -, hgains, -⟩
    · rw [hsame] at hnames
      cases hnames
    · exact ⟨equipped, n, hgains⟩
  · rw [hlast] at hfailed
    cases hfailed

end Loading

end Registry

end Covenant
