import Covenant.Proofs.Access.Columns
import Covenant.Proofs.Name
import Covenant.Proofs.Storage.Calls

/-!
# Who may write a table

A write is checked twice, once for its table and once for its columns. What both checks together
demand is said here without the walk over columns, its memory and the order in which storage is
asked: the founder may write the privileged tables, and everybody may write a table whose record
grants the action and each of the columns.
-/

namespace Covenant.Access

open Stage Storing

/-- A condition that grants an access is empty, or holds in the environment with full fuel. -/
def Granted (params : SystemParameters) (env : Environment) (condition : String) : Prop :=
  condition = "" ∨ Condition.holds condition (env.setFuel params.maxCost) = .ok true

/-- The record of a table, which is stored under the number in front of the table's name. -/
def storedRecord? (db : Database) (table : String) : Option TableRecord :=
  match TableName.split table with
  | (some number, name) => db.tableRecord? number name
  | (none, _) => none

/-- What it takes for a transaction to write columns of a table, given the environment of the
contract that writes and the data at that time. -/
inductive MayWrite (params : SystemParameters) (tx : Transaction) (env : Environment)
    (db : Database) (table : String) (action : TableAction) (columns : List String) : Prop
  /-- The table is privileged, and the payer is the founder of the transaction's ecosystem. -/
  | founder :
      table ∈ privilegedTables →
      founderOf? (db.parameter? tx.ecosystemId founderParameter) = some tx.keyId →
      MayWrite params tx env db table action columns
  /-- The table has a record, which grants the action, and so does the rule of each column. -/
  | custom {record : TableRecord} :
      storedRecord? db table = some record →
      Granted params env (record.permission action) →
      (∀ column ∈ columns, ∀ rule,
        Dict.find? (ColumnName.normalize column) record.columns = some rule →
          ∃ parsed, ColumnRule.parse (ColumnName.normalize column) rule = .ok parsed ∧
            Granted params env parsed.update) →
      MayWrite params tx env db table action columns

variable {params : SystemParameters} {ctx : ExecutionContext} {table : String}
  {action : TableAction} {columns allowed : List String} {condition : String} {c d : Connection}

/-! ## Conditions -/

theorem conditionHolds_eq_ok {b : Bool} (h : conditionHolds params ctx condition = .ok b) :
    Condition.holds condition (ctx.env.setFuel params.maxCost) = .ok b := by
  unfold conditionHolds conditionEnv at h
  cases hholds : Condition.holds condition (ctx.env.setFuel params.maxCost) with
  | error e =>
    rw [hholds] at h
    cases h
  | ok b' =>
    rw [hholds] at h
    exact congrArg Except.ok (Except.ok.inj h)

theorem granted_of_conditionHolds (h : conditionHolds params ctx condition = .ok true) :
    Granted params ctx.env condition :=
  .inr (conditionHolds_eq_ok h)

/-- A column that passes has no rule, or one that grants updates. -/
theorem granted_of_columnVerdict {rules : Dict String String} {name rule : String}
    (h : columnVerdict params ctx rules true name = .ok true)
    (hrule : Dict.find? name rules = some rule) :
    ∃ parsed, ColumnRule.parse name rule = .ok parsed ∧ Granted params ctx.env parsed.update := by
  unfold columnVerdict at h
  rw [hrule] at h
  by_cases hempty : rule.isEmpty = true
  · obtain rfl := String.isEmpty_iff.mp hempty
    exact ⟨⟨"", ""⟩, rfl, .inl rfl⟩
  · rw [Option.filter_some, if_pos (by simpa using hempty)] at h
    dsimp only at h
    split at h
    next => cases h
    next parsed hparsed =>
      rw [if_pos rfl] at h
      split at h
      next hnone => exact ⟨parsed, hparsed, .inl (String.isEmpty_iff.mp hnone)⟩
      next => exact ⟨parsed, hparsed, granted_of_conditionHolds h⟩

/-! ## Records and founders -/

theorem isFounder_eq_ok {b : Bool} (h : (isFounder ctx).run c = (.ok b, d)) :
    b = (founderOf? (c.session.working.parameter? ctx.ecosystemId founderParameter) ==
      some ctx.tx.keyId) := by
  obtain ⟨parameter, c₁, hparameter, h⟩ := run_bind_eq_ok h
  have hstored := Except.ok.inj (run_look_eq_ok (run_mapError_eq_ok hparameter)).1
  rw [hstored]
  exact (Except.ok.inj (Prod.mk.inj h).1).symm

/-- The record that a check finds is the stored one. -/
theorem recordOf_eq_ok {found : Option TableRecord}
    (h : (recordOf table).run c = (.ok found, d)) :
    found = storedRecord? c.session.working table := by
  unfold recordOf at h
  unfold storedRecord?
  rcases hsplit : TableName.split table with ⟨_ | number, name⟩
  · rw [hsplit] at h
    exact (Except.ok.inj (Prod.mk.inj h).1).symm
  · rw [hsplit] at h
    exact (Except.ok.inj (run_look_eq_ok (run_mapError_eq_ok h)).1).symm

/-- Checks leave the session as it is. -/
theorem session_of_looks {ε α : Type} {x : Storing ε α} {r : Except ε α} (hx : x.Looks)
    (h : x.run c = (r, d)) : d.session = c.session :=
  (Within.keeps hx |>.run h).session.symm

/-! ## The two checks -/

/-- The table check lets a write pass only to founders or with the record's permission. -/
theorem checkTable_eq_ok {u : Unit} (haccess : ctx.flags.fullAccess = false)
    (haction : action.isWrite = true) (h : (checkTable params ctx table action).run c = (.ok u, d)) :
    if isPrivileged ctx table then
      founderOf? (c.session.working.parameter? ctx.ecosystemId founderParameter) =
        some ctx.tx.keyId
    else
      ∃ record, storedRecord? c.session.working table = some record ∧
        Granted params ctx.env (record.permission action) := by
  unfold checkTable at h
  rw [haccess, if_neg Bool.false_ne_true] at h
  obtain ⟨permissions, c₁, h, -⟩ := run_bind_eq_ok h
  unfold tablePermissions at h
  simp only [haction, Bool.not_true, Bool.false_eq_true, if_false, if_true] at h
  split at h
  next hprivileged =>
    rw [if_pos hprivileged]
    obtain ⟨b, c₂, hfounder, h⟩ := run_bind_eq_ok h
    have hb := isFounder_eq_ok hfounder
    cases b with
    | true => simpa using hb.symm
    | false => cases h
  next hprivileged =>
    rw [if_neg hprivileged]
    obtain ⟨found, c₂, hrecord, h⟩ := run_bind_eq_ok h
    have hfound := recordOf_eq_ok hrecord
    cases found with
    | none => cases h
    | some record =>
      refine ⟨record, hfound.symm, ?_⟩
      dsimp only at h
      split at h
      next hempty => exact .inl (String.isEmpty_iff.mp hempty)
      next =>
        obtain ⟨b, c₃, hholds, h⟩ := run_bind_eq_ok h
        rw [run_ofExcept] at hholds
        obtain ⟨hcondition, -⟩ := Prod.mk.inj hholds
        cases b with
        | false => cases h
        | true => exact granted_of_conditionHolds hcondition

variable {record : TableRecord}

/-- The column check lets an update pass only if the rules grant all of its columns. -/
theorem checkColumns_eq_ok (haccess : ctx.flags.fullAccess = false)
    (hcustom : isPrivileged ctx table = false)
    (hrecord : storedRecord? c.session.working table = some record)
    (h : (checkColumns params ctx table columns true).run c = (.ok allowed, d)) :
    ∀ column ∈ columns, ∀ rule,
      Dict.find? (ColumnName.normalize column) record.columns = some rule →
        ∃ parsed, ColumnRule.parse (ColumnName.normalize column) rule = .ok parsed ∧
          Granted params ctx.env parsed.update := by
  unfold checkColumns at h
  rw [haccess, hcustom, if_neg Bool.false_ne_true, if_neg Bool.false_ne_true] at h
  obtain ⟨found, c₁, hfound, h⟩ := run_bind_eq_ok h
  rw [recordOf_eq_ok hfound, hrecord] at h
  dsimp only at h
  rw [run_ofExcept] at h
  obtain ⟨hallowed, -⟩ := Prod.mk.inj h
  have hpermitted := permitted_of_allowedColumns hallowed
  intro column hmem rule hrule
  obtain ⟨expanded, hexpanded, hname⟩ := exists_expandColumns hmem hrule
  have hverdict := hpermitted expanded hexpanded
  rw [hname] at hverdict
  exact granted_of_columnVerdict hverdict hrule

/-- A privileged table is one of the privileged tables, if it goes by its full name. -/
theorem mem_privilegedTables {short : String}
    (h : isPrivileged ctx (TableName.qualify short ctx.ecosystemId) = true) :
    TableName.qualify short ctx.ecosystemId ∈ privilegedTables := by
  have hmem := List.contains_iff_mem.mp h
  have hnumber : TableName.IsNumber "1" := by simp [TableName.IsNumber]
  have hnames : ∀ name ∈ privilegedTables, ∃ bare, name = "1" ++ "_" ++ bare := by
    intro name hname
    rcases List.mem_cons.mp hname with rfl | hname
    · exact ⟨"parameters", by decide⟩
    · obtain rfl := List.mem_singleton.mp hname
      exact ⟨"app_params", by decide⟩
  obtain ⟨bare, hfull⟩ := hnames _ hmem
  rw [TableName.qualify_of_qualify hnumber hfull, ← hfull]
  exact hmem

/-- A write that passes both checks is one that may be made. -/
theorem mayWrite_of_checks {short : String} {u : Unit} {c' : Connection}
    (haccess : ctx.flags.fullAccess = false) (haction : action.isWrite = true)
    (hname : table = TableName.qualify short ctx.ecosystemId)
    (htable : (checkTable params ctx table action).run c = (.ok u, c'))
    (hcolumns : (checkColumns params ctx table columns true).run c' = (.ok allowed, d)) :
    MayWrite params ctx.tx ctx.env c.session.working table action columns := by
  have hgranted := checkTable_eq_ok haccess haction htable
  have hsession := session_of_looks (checkTable_looks params ctx table action) htable
  cases hprivileged : isPrivileged ctx table with
  | true =>
    rw [if_pos hprivileged] at hgranted
    subst hname
    exact .founder (mem_privilegedTables hprivileged) hgranted
  | false =>
    rw [if_neg (by rw [hprivileged]; exact Bool.false_ne_true)] at hgranted
    obtain ⟨record, hrecord, hpermission⟩ := hgranted
    refine .custom hrecord hpermission ?_
    rw [← hsession] at hrecord
    exact checkColumns_eq_ok haccess hprivileged hrecord hcolumns

end Covenant.Access
