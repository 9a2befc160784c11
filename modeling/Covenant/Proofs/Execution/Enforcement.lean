import Covenant.Proofs.Access.Refusal
import Covenant.Proofs.Execution.Effect
import Covenant.Proofs.Execution.Ending

/-!
# Rules of columns

The check of a write looks up the rule of each column under the column's normal form, but the record
of a table has the rules under the names as they were declared. So a declared rule is enforced on the
column that it names if that name is its own normal form, and not on any other column.
-/

namespace Covenant

open Stage

namespace Run

open Access

variable {params : SystemParameters} {s t : RunState} {record : TableRecord} {table short : String}
  {action : TableAction} {cells : Row} {column : String} {e : RuntimeError} {α β : Type}

/-- Checks that can find out all they have to refuse a write only for a condition that is false: that
of the table's record, or that of a column. -/
theorem refused_of_checkWrite (haccess : s.ctx.flags.fullAccess = false)
    (hcustom : isPrivileged s.ctx table = false)
    (hrecord : storedRecord? s.world.data table = some record)
    (hanswered : Answered params s.ctx s.world.connection.failures record action (Dict.keys cells))
    (h : (checkWrite params table action cells).run s = (.error e, t)) :
    (e = .access (.accessDenied .table) ∧ record.permission action ≠ "") ∨
      e = .access (.accessDenied .column) ∧
        ∃ column ∈ expandColumns record.columns (Dict.keys cells),
          columnVerdict params s.ctx record.columns true (ColumnName.normalize column) =
            .ok false := by
  rcases run_bind_eq_error h with htable | ⟨_, s₁, htable, h⟩
  · obtain ⟨cause, hcause, rfl⟩ := run_checking_eq_error htable
    obtain ⟨hcondition, hfailed⟩ :=
      refused_of_checkTable hanswered.storage haccess hcustom hrecord hcause
    rcases hfailed with ⟨rfl, -⟩ | hfailed
    · exact .inl ⟨rfl, hcondition⟩
    · obtain ⟨b, hb⟩ := hanswered.permission.resolve_left hcondition
      rw [conditionHolds_of_holds hb] at hfailed
      cases hfailed
  · obtain ⟨hpassed, hctx⟩ := run_checking_eq_ok htable
    have hmoves := (checkTable_looks params s.ctx table action).keeps.run hpassed
    rcases run_bind_eq_error h with hcolumns | ⟨_, _, _, hpure⟩
    · obtain ⟨cause, hcause, rfl⟩ := run_checking_eq_error hcolumns
      rw [hctx] at hcause
      have hstorage : ∀ n, s₁.world.connection.failures.schedule .table n = none := by
        rw [hmoves.schedule]
        exact hanswered.storage
      have hsame : storedRecord? s₁.world.connection.session.working table = some record := by
        rw [← hmoves.session]
        exact hrecord
      obtain ⟨column, hmem, hfailed⟩ :=
        refused_of_checkColumns hstorage haccess hcustom hsame hcause
      rcases hfailed with ⟨hverdict, rfl⟩ | hfailed
      · exact .inr ⟨rfl, column, hmem, hverdict⟩
      · obtain ⟨b, hb⟩ := hanswered.rules column hmem
        rw [hb] at hfailed
        cases hfailed
    · cases hpure

/-- A write is refused: it fails and nothing has moved. If the checks can find out all they have to,
the error is that access is denied. -/
def Refused (params : SystemParameters) (s : RunState) (record : TableRecord) (action : TableAction)
    (columns : List String) (r : Except RuntimeError α × RunState) : Prop :=
  ∃ e t, r = (.error e, t) ∧ s.Unmoved t ∧
    (Answered params s.ctx s.world.connection.failures record action columns →
      ∃ scope, e = .access (.accessDenied scope))

/-- What is refused at first is refused altogether. -/
theorem Refused.bind {columns : List String} {x : Run α} {f : α → Run β}
    (h : Refused params s record action columns (x.run s)) :
    Refused params s record action columns ((x >>= f).run s) := by
  obtain ⟨e, t, hrun, hrest⟩ := h
  exact ⟨e, t, run_bind_of_error hrun, hrest⟩

/-- A rule that is found under the normal form of its column is enforced by the checks. -/
theorem checkWrite_refused (haction : action.isWrite = true)
    (haccess : s.ctx.flags.fullAccess = false)
    (hcustom : TableName.qualify short s.ctx.ecosystemId ∉ privilegedTables)
    (hrecord : storedRecord? s.world.data (TableName.qualify short s.ctx.ecosystemId) = some record)
    (hmem : column ∈ Dict.keys cells) (hnormal : ColumnName.normalize column = column)
    (hforbids : Forbids params s.ctx.env record column) :
    Refused params s record action (Dict.keys cells)
      ((checkWrite params (TableName.qualify short s.ctx.ecosystemId) action cells).run s) := by
  have hunmoved := checkWrite_unmoved params (TableName.qualify short s.ctx.ecosystemId)
    action cells s
  rcases hcheck : (checkWrite params (TableName.qualify short s.ctx.ecosystemId) action cells).run s
    with ⟨e | u, t⟩
  · rw [hcheck] at hunmoved
    refine ⟨e, t, rfl, hunmoved, fun hanswered => ?_⟩
    have hprivileged : isPrivileged s.ctx (TableName.qualify short s.ctx.ecosystemId) = false :=
      Bool.eq_false_iff.mpr fun h => hcustom (mem_privilegedTables h)
    rcases refused_of_checkWrite haccess hprivileged hrecord hanswered hcheck with
      ⟨rfl, -⟩ | ⟨rfl, -⟩
    · exact ⟨_, rfl⟩
    · exact ⟨_, rfl⟩
  · cases mayWrite_of_checkWrite haction rfl hcheck haccess with
    | founder hprivileged _ => exact absurd hprivileged hcustom
    | custom hstored _ hrules =>
      obtain rfl := Option.some.inj (hrecord.symm.trans hstored)
      obtain ⟨rule, _, hrule, -⟩ := id hforbids
      obtain ⟨parsed, hparsed, hgranted⟩ := hrules column hmem rule (by rw [hnormal, hrule])
      rw [hnormal] at hparsed
      exact absurd hgranted (not_granted_of_forbids hforbids hrule hparsed)

/-- Rules of the column are enforced: whatever the table, its record and the state, no row with the
column is written if the record has a rule for it that forbids that. -/
def Enforced (column : String) : Prop :=
  ∀ (params : SystemParameters) (s : RunState) (short : String) (record : TableRecord) (cells : Row),
    s.ctx.flags.fullAccess = false →
    TableName.qualify short s.ctx.ecosystemId ∉ privilegedTables →
    storedRecord? s.world.data (TableName.qualify short s.ctx.ecosystemId) = some record →
    column ∈ Dict.keys cells → Forbids params s.ctx.env record column →
      Refused params s record .insert (Dict.keys cells) ((insertRow params short cells).run s) ∧
        ∀ id, Refused params s record .update (Dict.keys cells)
          ((updateRow params short id cells).run s)

theorem enforced_of_normalize (h : ColumnName.normalize column = column) : Enforced column := by
  intro params s short record cells haccess hcustom hrecord hmem hforbids
  have hcontext : context.run s = (.ok s.ctx, s) := rfl
  refine ⟨?_, fun id => ?_⟩
  · rw [insertRow, run_bind_of_ok hcontext]
    exact (checkWrite_refused rfl haccess hcustom hrecord hmem h hforbids).bind
  · rw [updateRow, run_bind_of_ok hcontext]
    exact (checkWrite_refused rfl haccess hcustom hrecord hmem h hforbids).bind

end Run

/-! ## A rule that is not found -/

namespace Sample

/-- The record of a table with one rule, which lets nobody write the column. -/
def guarding (column : String) : TableRecord :=
  ⟨"t", [], [(column, "false")]⟩

/-- A contract runs beside a table with that record. -/
def guarded (column : String) : RunState :=
  let block := (request 0).block
  { ctx := .new (request 0).tx ⟨0, "@1Put", .none, [], [], []⟩ block block .none
    world := ⟨⟨.begin { database with tables := [(("1", "t"), guarding column)] }, .none⟩, .empty, 0⟩ }

theorem qualify_t (column : String) :
    TableName.qualify "t" (guarded column).ctx.ecosystemId = "1_t" := by
  change TableName.qualify "t" 1 = "1_t"
  decide

/-- A table's record is found under the table's full name. -/
theorem storedRecord?_t {db : Database} {record : TableRecord}
    (h : db.tables = [(("1", "t"), record)]) : Access.storedRecord? db "1_t" = some record := by
  have hsplit : TableName.split "1_t" = (some "1", "t") := by decide
  have hname : Text.lowercase "t" = "t" := by decide
  unfold Access.storedRecord? Database.tableRecord?
  rw [hsplit]
  dsimp only
  rw [hname, h]
  rfl

theorem storedRecord?_guarded (column : String) :
    Access.storedRecord? (guarded column).world.data "1_t" = some (guarding column) :=
  storedRecord?_t rfl

/-- The rule says no. -/
theorem forbids_guarding (params : SystemParameters) (column : String) :
    Access.Forbids params (guarded column).ctx.env (guarding column) column :=
  ⟨"false", ⟨"", "false"⟩, by simp [guarding, Dict.find?], rfl, rfl⟩

/-- Nothing is found under a name that is not the column's. -/
theorem columnVerdict_guarding {params : SystemParameters} {ctx : ExecutionContext}
    {column name : String} (h : name ≠ column) :
    Access.columnVerdict params ctx (guarding column).columns true name = .ok true := by
  unfold Access.columnVerdict guarding
  simp [Dict.find?, Ne.symm h]

end Sample

namespace Run

open Access

variable {column : String}

/-- The checks find no rule for a column that is not its own normal form. -/
theorem checkWrite_guarded (h : ColumnName.normalize column ≠ column) :
    ∃ t, (checkWrite .default "1_t" .insert [(column, .int 1)]).run (Sample.guarded column) =
      (.ok (), t) := by
  have hexpanded : ∀ name ∈ expandColumns (Sample.guarding column).columns [column], name = column := by
    intro name hname
    obtain ⟨asked, hasked, hname⟩ := List.mem_flatMap.mp hname
    obtain rfl := List.mem_singleton.mp hasked
    split at hname
    · exact List.mem_singleton.mp hname
    · exact List.mem_singleton.mp hname
  have hverdict : ∀ name ∈ expandColumns (Sample.guarding column).columns
      (Dict.keys [(column, Value.int 1)]),
      columnVerdict .default (Sample.guarded column).ctx (Sample.guarding column).columns true
        (ColumnName.normalize name) = .ok true := by
    intro name hname
    rw [hexpanded name hname]
    exact Sample.columnVerdict_guarding h
  rcases hcheck : (checkWrite .default "1_t" .insert [(column, .int 1)]).run (Sample.guarded column)
    with ⟨e | u, t⟩
  · have hcustom : isPrivileged (Sample.guarded column).ctx "1_t" = false := by
      change privilegedTables.contains (TableName.qualify "1_t" 1) = false
      decide
    have hrefused := refused_of_checkWrite rfl hcustom (Sample.storedRecord?_guarded column)
      ⟨fun _ => rfl, .inl rfl, fun name hname => ⟨true, hverdict name hname⟩⟩ hcheck
    rcases hrefused with ⟨-, hcondition⟩ | ⟨-, name, hname, hfalse⟩
    · exact absurd rfl hcondition
    · rw [hverdict name hname] at hfalse
      cases hfalse
  · exact ⟨t, rfl⟩

/-- The rule of a column that is not its own normal form is not enforced: the column is written. -/
theorem not_enforced_of_normalize_ne (h : ColumnName.normalize column ≠ column) :
    ¬Enforced column := by
  intro hclaim
  have hfull := Sample.qualify_t column
  obtain ⟨⟨e, t, hrefused, -⟩, -⟩ := hclaim .default (Sample.guarded column) "t"
    (Sample.guarding column) [(column, .int 1)] rfl (by rw [hfull]; decide)
    (by rw [hfull]; exact Sample.storedRecord?_guarded column) List.mem_cons_self
    (Sample.forbids_guarding _ column)
  obtain ⟨s₁, hcheck⟩ := checkWrite_guarded h
  have hcontext : context.run (Sample.guarded column) =
    (.ok (Sample.guarded column).ctx, Sample.guarded column) := rfl
  rw [insertRow, run_bind_of_ok hcontext, hfull, run_bind_of_ok hcheck] at hrefused
  rcases run_bind_eq_error hrefused with hadd | ⟨_, _, _, hremember⟩
  · obtain ⟨_, hadd, -, -⟩ := run_storing_eq_error hadd
    rcases (Storing.run_insertRow_eq_error hadd).1 with hnext | hfull
    · have hmoves := ((checkWrite_tame _ _ _).keeps.run hcheck).connection
      rw [Failures.next, hmoves.schedule] at hnext
      cases hnext
    · -- The table is empty, so there is an id for its first row.
      have hdata : s₁.world.data = (Sample.guarded column).world.data :=
        ((checkWrite_unmoved _ _ _ _).run hcheck).data
      change s₁.world.data.nextId? "1_t" = none at hfull
      rw [hdata] at hfull
      cases hfull
  · cases hremember

/-- The rules of a column are enforced if and only if its name is made of small letters, digits,
underscores and stars. -/
theorem rule_enforced_iff (column : String) :
    Enforced column ↔ ∀ c ∈ column.toList, ColumnName.isPlain c = true := by
  rw [← ColumnName.normalize_eq_self_iff]
  constructor
  · intro hclaim
    exact Classical.byContradiction fun h => not_enforced_of_normalize_ne h hclaim
  · exact enforced_of_normalize

/-- A rule for a column with a dash is not enforced. -/
theorem not_rule_enforced : ¬Enforced "full-name" :=
  not_enforced_of_normalize_ne (by decide +kernel)

end Run

end Covenant
