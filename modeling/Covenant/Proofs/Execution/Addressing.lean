import Covenant.Proofs.Access.Read
import Covenant.Proofs.Execution.Disclosure

/-!
# The table that is checked

A table can be spelled in many ways, and its name is put in full and taken apart again several times
between a statement and the row: for the checks of privileged tables, for the look-up of the table's
record, and for the row itself. Unless the ecosystem's number has a sign, the full name is a number
before a lowercase name, which every later pass leaves as it is. So an access to the table depends on the
record under this number and this name, and it changes and shows no rows but those of the full name.
-/

namespace Covenant

open Stage

/-! ## States that an access cannot tell apart -/

/-- The databases have the same parameters, the same record of the table, and the same rows in it. -/
structure Database.SameTable (number name : String) (db other : Database) : Prop where
  parameters : other.parameters = db.parameters
  record : Assoc.find? (number, name) other.tables = Assoc.find? (number, name) db.tables
  rows : other.table (number ++ "_" ++ name) = db.table (number ++ "_" ++ name)

/-- The connections meet the same failures, on databases that have the table in common. -/
structure Connection.SameTable (number name : String) (c d : Connection) : Prop where
  data : c.session.working.SameTable number name d.session.working
  failures : d.failures = c.failures

/-- The states have everything in common but their savepoints, their logs and their databases, and
these have the table in common. -/
structure RunState.SameTable (number name : String) (s t : RunState) : Prop where
  ctx : t.ctx = s.ctx
  registry : t.world.registry = s.world.registry
  clock : t.world.clock = s.world.clock
  connection : s.world.connection.SameTable number name t.world.connection

section Databases

variable {number name : String} {db other : Database}

theorem Database.SameTable.row? (h : db.SameTable number name other) (id : Int) :
    other.row? (number ++ "_" ++ name) id = db.row? (number ++ "_" ++ name) id := by
  unfold Database.row?
  rw [h.rows]

theorem Database.SameTable.nextId? (h : db.SameTable number name other) :
    other.nextId? (number ++ "_" ++ name) = db.nextId? (number ++ "_" ++ name) := by
  unfold Database.nextId?
  rw [h.rows]

/-- The table stays in common when the same row is set in it. -/
theorem Database.SameTable.setRow (h : db.SameTable number name other) (id : Int) (row : Row) :
    (db.setRow (number ++ "_" ++ name) id row).SameTable number name
      (other.setRow (number ++ "_" ++ name) id row) where
  parameters := h.parameters
  record := h.record
  rows := by rw [table_setRow, table_setRow, if_pos rfl, if_pos rfl, h.rows]

end Databases

/-! ## Storage -/

namespace Storing

variable {number name : String} {ε ε' α : Type}

/-- A call respects what its work respects, since it meets the same failures. -/
theorem call_respects {kind : StorageCall} {work : Session → Except StorageError α × Session}
    (hwork : ∀ s t : Session, s.working.SameTable number name t.working →
      (work t).1 = (work s).1 ∧ (work s).2.working.SameTable number name (work t).2.working) :
    Respects (Connection.SameTable number name) (call kind work) := by
  intro c d h
  have hnext : d.failures.next kind = c.failures.next kind := by rw [h.failures]
  have hcount : d.failures.count kind = c.failures.count kind := by rw [h.failures]
  cases hfails : c.failures.next kind with
  | some e =>
    rw [run_call_of_some hfails, run_call_of_some (hnext.trans hfails)]
    exact ⟨rfl, h.data, hcount⟩
  | none =>
    rw [run_call_of_none hfails, run_call_of_none (hnext.trans hfails)]
    obtain ⟨hresult, hdata⟩ := hwork c.session d.session h.data
    exact ⟨hresult, hdata, hcount⟩

theorem look_respects {kind : StorageCall} {read : Database → Except StorageError α}
    (hread : ∀ db other : Database, db.SameTable number name other → read other = read db) :
    Respects (Connection.SameTable number name) (look kind read) :=
  call_respects fun s t h => ⟨hread s.working t.working h, h⟩

theorem mapError_respects {x : Storing ε α} (f : ε → ε')
    (h : Respects (Connection.SameTable number name) x) :
    Respects (Connection.SameTable number name) (x.mapError f) := by
  intro c d hsame
  obtain ⟨hresult, hends⟩ := h c d hsame
  rw [run_mapError, run_mapError, hresult]
  exact ⟨rfl, hends⟩

theorem ofExcept_respects (r : Except ε α) :
    Respects (Connection.SameTable number name) (ofExcept r) := by
  intro c d h
  rw [run_ofExcept, run_ofExcept]
  exact ⟨rfl, h⟩

theorem table_respects (hlower : Text.lowercase name = name) :
    Respects (Connection.SameTable number name) (Storing.table number name) := by
  apply look_respects
  intro db other h
  unfold Database.tableRecord?
  rw [hlower, h.record]

theorem parameter_respects (ecosystem : Int) (parameter : String) :
    Respects (Connection.SameTable number name) (Storing.parameter ecosystem parameter) := by
  apply look_respects
  intro db other h
  unfold Database.parameter?
  rw [h.parameters]

theorem selectRow_respects (id : Int) :
    Respects (Connection.SameTable number name)
      (Storing.selectRow (number ++ "_" ++ name) id) := by
  apply look_respects
  intro db other h
  rw [h.row? id]

theorem insertRow_respects (cells : Row) :
    Respects (Connection.SameTable number name)
      (Storing.insertRow (number ++ "_" ++ name) cells) := by
  apply call_respects
  intro s t h
  have hid := h.nextId?
  dsimp only [Session.insertRow]
  rw [hid]
  cases s.working.nextId? (number ++ "_" ++ name) with
  | none => exact ⟨rfl, h⟩
  | some id => exact ⟨rfl, h.setRow id cells⟩

theorem updateRow_respects (id : Int) (cells : Row) :
    Respects (Connection.SameTable number name)
      (Storing.updateRow (number ++ "_" ++ name) id cells) := by
  apply call_respects
  intro s t h
  have hrow := h.row? id
  dsimp only [Session.updateRow]
  rw [hrow]
  cases s.working.row? (number ++ "_" ++ name) id with
  | none => exact ⟨rfl, h⟩
  | some previous => exact ⟨rfl, h.setRow id _⟩

end Storing

/-! ## Checks -/

namespace Access

open Storing

variable {number name : String} {params : SystemParameters} {ctx : ExecutionContext}
  {action : TableAction} {c d : Connection}

/-- The record that the checks ask for is the one under the number and the name. -/
theorem recordOf_eq (hnumber : TableName.IsNumber number) (hlower : Text.lowercase name = name) :
    recordOf (number ++ "_" ++ name) = (Storing.table number name).mapError .storage := by
  unfold recordOf
  rw [TableName.split_of_number hnumber, hlower]

theorem storedRecord?_eq (hnumber : TableName.IsNumber number) (hlower : Text.lowercase name = name)
    (db : Database) :
    storedRecord? db (number ++ "_" ++ name) = Assoc.find? (number, name) db.tables := by
  unfold storedRecord?
  rw [TableName.split_of_number hnumber]
  simp only [Database.tableRecord?, hlower]

/-- A table is privileged if its full name is. -/
theorem isPrivileged_iff (hnumber : TableName.IsNumber number)
    (hlower : Text.lowercase name = name) (ctx : ExecutionContext) :
    isPrivileged ctx (number ++ "_" ++ name) = true ↔
      number ++ "_" ++ name ∈ privilegedTables := by
  unfold isPrivileged
  rw [TableName.qualify_of_number hnumber hlower, List.contains_iff_mem]

theorem isFounder_respects (ctx : ExecutionContext) :
    Respects (Connection.SameTable number name) (isFounder ctx) :=
  (mapError_respects _ (parameter_respects _ _)).bind fun _ _ => .pure _

section Respects

variable (hnumber : TableName.IsNumber number) (hlower : Text.lowercase name = name)

include hnumber hlower

theorem recordOf_respects :
    Respects (Connection.SameTable number name) (recordOf (number ++ "_" ++ name)) := by
  rw [recordOf_eq hnumber hlower]
  exact mapError_respects _ (table_respects hlower)

theorem tablePermissions_respects (params : SystemParameters) (ctx : ExecutionContext)
    (action : TableAction) :
    Respects (Connection.SameTable number name)
      (tablePermissions params ctx (number ++ "_" ++ name) action) := by
  unfold tablePermissions
  split
  · split
    · exact .pure _
    · refine (isFounder_respects ctx).bind fun founder _ => ?_
      split
      · exact .pure _
      · exact .throw _
  · refine (recordOf_respects hnumber hlower).bind fun found _ => ?_
    cases found with
    | none =>
      dsimp only
      split
      · exact .throw _
      · exact .pure _
    | some record =>
      dsimp only
      split
      · exact .pure _
      · refine (ofExcept_respects _).bind fun granted _ => ?_
        split
        · exact .pure _
        · exact .throw _

theorem checkTable_respects (params : SystemParameters) (ctx : ExecutionContext)
    (action : TableAction) :
    Respects (Connection.SameTable number name)
      (checkTable params ctx (number ++ "_" ++ name) action) := by
  unfold checkTable
  split
  · exact .pure _
  · exact (tablePermissions_respects hnumber hlower params ctx action).bind fun _ _ => .pure _

theorem checkColumns_respects (params : SystemParameters) (ctx : ExecutionContext)
    (columns : List String) (update : Bool) :
    Respects (Connection.SameTable number name)
      (checkColumns params ctx (number ++ "_" ++ name) columns update) := by
  unfold checkColumns
  split
  · exact .pure _
  · split
    · split
      · exact .pure _
      · refine (isFounder_respects ctx).bind fun founder _ => ?_
        split
        · exact .pure _
        · exact .throw _
    · refine (recordOf_respects hnumber hlower).bind fun found _ => ?_
      cases found with
      | none =>
        dsimp only
        split
        · exact .throw _
        · exact .pure _
      | some record => exact ofExcept_respects _

theorem checkRead_respects (params : SystemParameters) (ctx : ExecutionContext)
    {short : String} {ecosystem : Int}
    (hfull : TableName.qualify short ecosystem = number ++ "_" ++ name) (columns : String) :
    Respects (Connection.SameTable number name)
      (checkRead params ctx short columns ecosystem) := by
  unfold checkRead
  rw [hfull]
  dsimp only
  split
  · exact .pure _
  · exact (tablePermissions_respects hnumber hlower params ctx _).bind fun _ _ =>
      (checkColumns_respects hnumber hlower params ctx _ _).bind fun _ _ => .pure _

end Respects

/-- A read that is let pass is one of the table with the full name. -/
theorem table_of_checkRead {short columns : String} {ecosystem : Int} {access : ReadAccess}
    (h : (checkRead params ctx short columns ecosystem).run c = (.ok access, d)) :
    access.table = TableName.qualify short ecosystem := by
  unfold checkRead at h
  dsimp only at h
  split at h
  next => rw [← Except.ok.inj (Prod.mk.inj h).1]
  next =>
    obtain ⟨permissions, c₁, -, h⟩ := run_bind_eq_ok h
    obtain ⟨allowed, c₂, -, h⟩ := run_bind_eq_ok h
    rw [← Except.ok.inj (Prod.mk.inj h).1]

/-- Which columns of the requested ones a read of a table may show. Only reads of tables with a record
are restricted, and only where reads are checked at all. -/
inductive MayRead (params : SystemParameters) (ctx : ExecutionContext) (db : Database)
    (table : String) (requested : List String) : List String → Prop
  | unchecked : params.privateChain = false ∨ ctx.flags.fullAccess = true →
      MayRead params ctx db table requested requested
  | privileged : table ∈ privilegedTables → MayRead params ctx db table requested requested
  | unrecorded : table ∉ privilegedTables → storedRecord? db table = none →
      MayRead params ctx db table requested requested
  | custom {record : TableRecord} : table ∉ privilegedTables →
      storedRecord? db table = some record →
      Granted params ctx.env (record.permission .read) →
      MayRead params ctx db table requested ((expandColumns record.columns requested).filter
        (permits (columnVerdict params ctx record.columns false)))

/-- The table check lets a read pass only if the record grants it. -/
theorem granted_of_tablePermissions {table : String} {record : TableRecord}
    {permissions : Dict String String} (hcustom : isPrivileged ctx table = false)
    (hrecord : storedRecord? c.session.working table = some record)
    (h : (tablePermissions params ctx table action).run c = (.ok permissions, d)) :
    Granted params ctx.env (record.permission action) := by
  unfold tablePermissions at h
  rw [hcustom, if_neg Bool.false_ne_true] at h
  obtain ⟨found, c₁, hfound, h⟩ := run_bind_eq_ok h
  rw [recordOf_eq_ok hfound, hrecord] at h
  dsimp only at h
  split at h
  next hempty => exact .inl (String.isEmpty_iff.mp hempty)
  next =>
    obtain ⟨granted, c₂, hholds, h⟩ := run_bind_eq_ok h
    rw [run_ofExcept] at hholds
    cases granted with
    | false => cases h
    | true => exact granted_of_conditionHolds (Prod.mk.inj hholds).1

/-- A read that is let pass may show the columns that it is given. -/
theorem mayRead_of_checkRead (hnumber : TableName.IsNumber number)
    (hlower : Text.lowercase name = name) {short columns : String} {ecosystem : Int}
    (hfull : TableName.qualify short ecosystem = number ++ "_" ++ name) {access : ReadAccess}
    (h : (checkRead params ctx short columns ecosystem).run c = (.ok access, d)) :
    MayRead params ctx c.session.working (number ++ "_" ++ name) (ColumnName.parseList columns)
      access.columns := by
  have hprivileged := isPrivileged_iff hnumber hlower ctx
  unfold checkRead at h
  rw [hfull] at h
  dsimp only at h
  split at h
  next hfree =>
    obtain rfl := Except.ok.inj (Prod.mk.inj h).1
    exact .unchecked (by simpa using hfree)
  next hchecked =>
    have haccess : ctx.flags.fullAccess = false := by
      simp only [Bool.or_eq_true, not_or] at hchecked
      simpa using hchecked.2
    obtain ⟨permissions, c₁, hpermissions, h⟩ := run_bind_eq_ok h
    obtain ⟨allowed, c₂, hcolumns, h⟩ := run_bind_eq_ok h
    obtain rfl := Except.ok.inj (Prod.mk.inj h).1
    have hsession := session_of_looks (tablePermissions_looks _ _ _ _) hpermissions
    by_cases htable : number ++ "_" ++ name ∈ privilegedTables
    · unfold checkColumns at hcolumns
      rw [haccess, hprivileged.mpr htable] at hcolumns
      obtain rfl := Except.ok.inj (Prod.mk.inj hcolumns).1
      exact .privileged htable
    · have hcustom : isPrivileged ctx (number ++ "_" ++ name) = false :=
        Bool.eq_false_iff.mpr fun hmem => htable (hprivileged.mp hmem)
      cases hrecord : storedRecord? c.session.working (number ++ "_" ++ name) with
      | none =>
        unfold checkColumns at hcolumns
        rw [haccess, hcustom, if_neg Bool.false_ne_true, if_neg Bool.false_ne_true] at hcolumns
        obtain ⟨found, c₃, hfound, hcolumns⟩ := run_bind_eq_ok hcolumns
        rw [recordOf_eq_ok hfound, hsession, hrecord] at hcolumns
        obtain rfl := Except.ok.inj (Prod.mk.inj hcolumns).1
        exact .unrecorded htable hrecord
      | some record =>
        have hgranted := granted_of_tablePermissions hcustom hrecord hpermissions
        rw [← hsession] at hrecord
        have hallowed := checkColumns_read_eq_ok haccess hcustom hrecord hcolumns
        rw [hsession] at hrecord
        dsimp only
        rw [hallowed]
        exact .custom htable hrecord hgranted

end Access

/-! ## Runs -/

namespace Run

open Access

variable {number name short : String} {params : SystemParameters} {s t : RunState} {α : Type}

theorem storing_respects {ε : Type} {x : Storing ε α} (toError : ε → RuntimeError)
    (h : Respects (Connection.SameTable number name) x) :
    Respects (RunState.SameTable number name) (storing toError x) := by
  intro s t hsame
  obtain ⟨hresult, hends⟩ := h _ _ hsame.connection
  change (x.run t.world.connection).1.mapError toError =
      (x.run s.world.connection).1.mapError toError ∧
    (s.on (x.run s.world.connection).2).SameTable number name (t.on (x.run t.world.connection).2)
  rw [hresult]
  exact ⟨rfl, hsame.ctx, hsame.registry, hsame.clock, hends⟩

theorem context_respects : Respects (RunState.SameTable number name) context :=
  fun _ _ h => ⟨congrArg Except.ok h.ctx, h⟩

theorem checking_respects {check : ExecutionContext → Storing AccessError α}
    (h : ∀ ctx, Respects (Connection.SameTable number name) (check ctx)) :
    Respects (RunState.SameTable number name) (checking check) :=
  context_respects.bind fun ctx _ => storing_respects _ (h ctx)

theorem remember_respects (record : RollbackRecord) :
    Respects (RunState.SameTable number name) (remember record) := by
  intro s t h
  refine ⟨rfl, ?_, h.registry, h.clock, h.connection⟩
  change { t.ctx with rollback := t.ctx.rollback ++ [record] } =
    { s.ctx with rollback := s.ctx.rollback ++ [record] }
  rw [h.ctx]

/-- From both states the run comes to the same result, and the states that it ends in have the table in
common as well. -/
def SameEnds (number name : String) (s t : RunState) (x : Run α) : Prop :=
  (x.run t).1 = (x.run s).1 ∧ (x.run s).2.SameTable number name (x.run t).2

/-- A run that first looks at its context looks at the same one. -/
theorem sameEnds_of_context {f : ExecutionContext → Run α} (hsame : s.SameTable number name t)
    (h : Respects (RunState.SameTable number name) (f s.ctx)) :
    SameEnds number name s t (context >>= f) := by
  have hfirst : context.run s = (.ok s.ctx, s) := rfl
  have hsecond : context.run t = (.ok s.ctx, t) := by
    rw [← hsame.ctx]
    rfl
  unfold SameEnds
  rw [run_bind_of_ok hfirst, run_bind_of_ok hsecond]
  exact h s t hsame

section SameEnds

variable (hnumber : TableName.IsNumber number) (hlower : Text.lowercase name = name)
  (hfull : TableName.qualify short s.ctx.ecosystemId = number ++ "_" ++ name)
  (hsame : s.SameTable number name t)

include hnumber hlower

theorem checkWrite_respects (params : SystemParameters) (action : TableAction) (cells : Row) :
    Respects (RunState.SameTable number name)
      (checkWrite params (number ++ "_" ++ name) action cells) :=
  (checking_respects fun ctx => checkTable_respects hnumber hlower params ctx action).bind
    fun _ _ => (checking_respects fun ctx =>
      checkColumns_respects hnumber hlower params ctx _ true).bind fun _ _ => .pure _

include hfull hsame

/-- Adding a row comes to the same on databases that have the table in common. -/
theorem insertRow_sameEnds (params : SystemParameters) (cells : Row) :
    SameEnds number name s t (insertRow params short cells) := by
  apply sameEnds_of_context hsame
  dsimp only
  rw [hfull]
  refine (checkWrite_respects hnumber hlower params _ cells).bind fun _ _ => ?_
  refine (storing_respects _ (Storing.insertRow_respects cells)).bind fun id _ => ?_
  exact (remember_respects _).bind fun _ _ => .pure _

/-- Changing a row comes to the same on databases that have the table in common. -/
theorem updateRow_sameEnds (params : SystemParameters) (id : Int) (cells : Row) :
    SameEnds number name s t (updateRow params short id cells) := by
  apply sameEnds_of_context hsame
  dsimp only
  rw [hfull]
  refine (checkWrite_respects hnumber hlower params _ cells).bind fun _ _ => ?_
  refine (storing_respects _ (Storing.updateRow_respects id cells)).bind fun previous _ => ?_
  exact remember_respects _

/-- Reading a row comes to the same on databases that have the table in common. -/
theorem selectRow_sameEnds (params : SystemParameters) (id : Int) (columns : List String) :
    SameEnds number name s t (selectRow params short id columns) := by
  rw [selectRow, checking, bind_assoc]
  apply sameEnds_of_context hsame
  refine (storing_respects _ (checkRead_respects hnumber hlower params s.ctx hfull _)).bind ?_
  rintro access ⟨u, v, haccess⟩
  have htable := Access.table_of_checkRead (run_storing_eq_ok haccess).1
  rw [htable, hfull]
  exact (storing_respects _ (Storing.selectRow_respects id)).bind fun _ _ => .pure _

end SameEnds

/-- A read that succeeds moves nothing, and shows the row in columns that may be read. -/
theorem selectRow_mayRead (hnumber : TableName.IsNumber number)
    (hlower : Text.lowercase name = name)
    (hfull : TableName.qualify short s.ctx.ecosystemId = number ++ "_" ++ name) {id : Int}
    {columns : List String} {cells : Row}
    (h : (selectRow params short id columns).run s = (.ok cells, t)) :
    s.Unmoved t ∧ ∃ allowed,
      MayRead params s.ctx s.world.data (number ++ "_" ++ name)
        (ColumnName.parseList (",".intercalate columns)) allowed ∧
      cells = visibleCells allowed ((s.world.data.row? (number ++ "_" ++ name) id).getD []) := by
  obtain ⟨access, s₁, hcheck, h⟩ := run_bind_eq_ok h
  obtain ⟨found, s₂, hfound, h⟩ := run_bind_eq_ok h
  obtain ⟨hcheck, hctx₁⟩ := run_checking_eq_ok hcheck
  obtain ⟨hfound, hctx₂⟩ := run_storing_eq_ok hfound
  have htable := table_of_checkRead hcheck
  rw [hfull] at htable
  have hsession₁ := session_of_looks (checkRead_looks params s.ctx short _ _) hcheck
  obtain ⟨hstored, hsession₂⟩ := Storing.run_look_eq_ok hfound
  obtain ⟨hcells, rfl⟩ := Prod.mk.inj h
  refine ⟨⟨hctx₂.trans hctx₁, ?_⟩, access.columns, mayRead_of_checkRead hnumber hlower hfull hcheck,
    ?_⟩
  · rw [World.data, World.data, hsession₂, hsession₁]
  · rw [hsession₁, htable] at hstored
    rw [World.data, Except.ok.inj hstored]
    exact (Except.ok.inj hcells).symm

/-- What the name of a table stands for in a contract: the record that its checks consult is the one
under the number and the name, and the rows that are written and read are those of the full name. What
is stored under other numbers, names and full names does not matter. -/
structure Addresses (params : SystemParameters) (s : RunState) (short number name : String) :
    Prop where
  privileged : isPrivileged s.ctx (number ++ "_" ++ name) = true ↔
    number ++ "_" ++ name ∈ privilegedTables
  consulted : recordOf (number ++ "_" ++ name) = (Storing.table number name).mapError .storage
  stored : storedRecord? s.world.data (number ++ "_" ++ name) =
    Assoc.find? (number, name) s.world.data.tables
  inserts : ∀ cells, Mediated params s (number ++ "_" ++ name) .insert (Dict.keys cells)
    ((insertRow params short cells).run s)
  updates : ∀ id cells, Mediated params s (number ++ "_" ++ name) .update (Dict.keys cells)
    ((updateRow params short id cells).run s)
  reads : ∀ id columns cells t, (selectRow params short id columns).run s = (.ok cells, t) →
    s.Unmoved t ∧ ∃ allowed,
      MayRead params s.ctx s.world.data (number ++ "_" ++ name)
        (ColumnName.parseList (",".intercalate columns)) allowed ∧
      cells = visibleCells allowed ((s.world.data.row? (number ++ "_" ++ name) id).getD [])
  alone : ∀ t, s.SameTable number name t →
    (∀ cells, SameEnds number name s t (insertRow params short cells)) ∧
    (∀ id cells, SameEnds number name s t (updateRow params short id cells)) ∧
    ∀ id columns, SameEnds number name s t (selectRow params short id columns)

/-- The table that is checked is the one that is touched: in every ecosystem whose number has no sign,
the full name of a table is the same for every pass over it and falls apart into a number and a name,
and whatever spelling a contract uses, it addresses the table of this number and this name. -/
theorem checked_is_touched {ecosystem : Int} (hecosystem : 0 ≤ ecosystem) (short : String) :
    ∃ number name, TableName.IsNumber number ∧
      TableName.qualify short ecosystem = number ++ "_" ++ name ∧
      TableName.split (TableName.qualify short ecosystem) = (some number, name) ∧
      (∀ other, TableName.qualify (TableName.qualify short ecosystem) other =
        TableName.qualify short ecosystem) ∧
      ∀ (params : SystemParameters) (s : RunState), s.ctx.ecosystemId = ecosystem →
        Addresses params s short number name := by
  obtain ⟨number, name, hnumber, hlower, hfull⟩ := TableName.exists_number_qualify hecosystem short
  refine ⟨number, name, hnumber, hfull, ?_, ?_, ?_⟩
  · rw [hfull, TableName.split_of_number hnumber, hlower]
  · intro other
    rw [hfull, TableName.qualify_of_number hnumber hlower]
  · rintro params s rfl
    constructor
    · exact isPrivileged_iff hnumber hlower s.ctx
    · exact recordOf_eq hnumber hlower
    · exact storedRecord?_eq hnumber hlower s.world.data
    · intro cells
      rw [← hfull]
      exact insertRow_mediated params short cells s
    · intro id cells
      rw [← hfull]
      exact updateRow_mediated params short id cells s
    · intro id columns cells t h
      exact selectRow_mayRead hnumber hlower hfull h
    · intro t hsame
      exact ⟨insertRow_sameEnds hnumber hlower hfull hsame params,
        updateRow_sameEnds hnumber hlower hfull hsame params,
        selectRow_sameEnds hnumber hlower hfull hsame params⟩

/-- A contract of ecosystem 1 that spells the table in capitals addresses the table all the same. -/
theorem checked_is_touched_sample :
    Addresses Sample.closed (Sample.reading []) "T" "1" "t" := by
  obtain ⟨number, name, -, -, hsplit, -, haddresses⟩ :=
    checked_is_touched (show (0 : Int) ≤ 1 by decide) "T"
  have hparts : TableName.split (TableName.qualify "T" 1) = (some "1", "t") := by decide
  rw [hparts] at hsplit
  obtain ⟨hnumber, rfl⟩ := Prod.mk.inj hsplit
  obtain rfl := Option.some.inj hnumber
  exact haddresses Sample.closed (Sample.reading []) rfl

end Run

end Covenant
