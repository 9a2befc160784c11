import Covenant.Proofs.Access.Write

/-!
# Why a write is refused

The other side of the checks: as long as storage answers, the check of a table fails only on account
of the record's condition for the action, and the check of columns only on account of a rule. A rule
whose condition is false is one that the checks must not let pass.
-/

namespace Covenant.Access

open Stage

variable {params : SystemParameters} {ctx : ExecutionContext} {record : TableRecord}
  {table column : String} {action : TableAction} {columns : List String} {c d : Connection}
  {e : AccessError}

/-- The rule that a record has for a column does not let it be written. -/
def Forbids (params : SystemParameters) (env : Environment) (record : TableRecord)
    (column : String) : Prop :=
  ∃ rule parsed, Dict.find? column record.columns = some rule ∧
    ColumnRule.parse column rule = .ok parsed ∧
    Condition.holds parsed.update (env.setFuel params.maxCost) = .ok false

/-- The checks of a write can find out all that they have to: storage gives the records of tables, and
the conditions have values. -/
structure Answered (params : SystemParameters) (ctx : ExecutionContext) (failures : Failures)
    (record : TableRecord) (action : TableAction) (columns : List String) : Prop where
  storage : ∀ n, failures.schedule .table n = none
  permission : record.permission action = "" ∨
    ∃ b, Condition.holds (record.permission action) (ctx.env.setFuel params.maxCost) = .ok b
  rules : ∀ column ∈ expandColumns record.columns columns,
    ∃ b, columnVerdict params ctx record.columns true (ColumnName.normalize column) = .ok b

/-- The empty text is no condition. -/
theorem holds_empty_ne (env : Environment) (b : Bool) : Condition.holds "" env ≠ .ok b :=
  nofun

theorem conditionHolds_of_holds {condition : String} {b : Bool}
    (h : Condition.holds condition (ctx.env.setFuel params.maxCost) = .ok b) :
    conditionHolds params ctx condition = .ok b := by
  unfold conditionHolds conditionEnv
  rw [h]
  rfl

/-- What a rule forbids is not granted. -/
theorem not_granted_of_forbids {rule : String} {parsed : ColumnRule}
    (h : Forbids params ctx.env record column)
    (hrule : Dict.find? column record.columns = some rule)
    (hparsed : ColumnRule.parse column rule = .ok parsed) :
    ¬Granted params ctx.env parsed.update := by
  obtain ⟨_, _, hrule', hparsed', hforbidden⟩ := h
  rw [hrule] at hrule'
  obtain rfl := Option.some.inj hrule'
  rw [hparsed] at hparsed'
  obtain rfl := Except.ok.inj hparsed'
  rintro (hempty | hholds)
  · rw [hempty] at hforbidden
    exact holds_empty_ne _ _ hforbidden
  · rw [hholds] at hforbidden
    cases hforbidden

/-! ## Checks without failures of storage -/

section Answering

variable (hstorage : ∀ n, c.failures.schedule .table n = none)

include hstorage

/-- The stored record is found. -/
theorem run_recordOf (table : String) : ∃ d, (recordOf table).run c =
    (.ok (storedRecord? c.session.working table), d) := by
  unfold recordOf storedRecord?
  rcases TableName.split table with ⟨_ | number, name⟩
  · exact ⟨c, rfl⟩
  · dsimp only
    rw [Storing.run_mapError, Storing.table, Storing.look, Storing.run_call_of_none (hstorage _)]
    exact ⟨_, rfl⟩

variable (haccess : ctx.flags.fullAccess = false) (hcustom : isPrivileged ctx table = false)
  (hrecord : storedRecord? c.session.working table = some record)

include haccess hcustom hrecord

/-- The table check fails only where the record's condition for the action is false or has no
value. -/
theorem refused_of_checkTable (h : (checkTable params ctx table action).run c = (.error e, d)) :
    record.permission action ≠ "" ∧
      (e = .accessDenied .table ∧
        conditionHolds params ctx (record.permission action) = .ok false ∨
          conditionHolds params ctx (record.permission action) = .error e) := by
  obtain ⟨c₁, hfound⟩ := run_recordOf hstorage table
  rw [hrecord] at hfound
  unfold checkTable tablePermissions at h
  rw [haccess, hcustom, if_neg Bool.false_ne_true, if_neg Bool.false_ne_true] at h
  replace h := (run_bind_eq_error h).resolve_right fun ⟨_, _, _, hpure⟩ => nomatch hpure
  rw [run_bind_of_ok hfound] at h
  dsimp only at h
  split at h
  next => cases h
  next hcondition =>
    refine ⟨fun hempty => hcondition (String.isEmpty_iff.mpr hempty), ?_⟩
    obtain h | ⟨b, _, hholds, h⟩ := run_bind_eq_error h
    · rw [Storing.run_ofExcept] at h
      exact .inr (Prod.mk.inj h).1
    · rw [Storing.run_ofExcept] at hholds
      cases b with
      | true => cases h
      | false => exact .inl ⟨(Except.error.inj (Prod.mk.inj h).1).symm, (Prod.mk.inj hholds).1⟩

/-- The column check of an update fails only where the verdict on one of the columns is that it may
not be written, or there is none. -/
theorem refused_of_checkColumns
    (h : (checkColumns params ctx table columns true).run c = (.error e, d)) :
    ∃ column ∈ expandColumns record.columns columns,
      columnVerdict params ctx record.columns true (ColumnName.normalize column) = .ok false ∧
          e = .accessDenied .column ∨
        columnVerdict params ctx record.columns true (ColumnName.normalize column) = .error e := by
  obtain ⟨c₁, hfound⟩ := run_recordOf hstorage table
  rw [hrecord] at hfound
  unfold checkColumns at h
  rw [haccess, hcustom, if_neg Bool.false_ne_true, if_neg Bool.false_ne_true,
    run_bind_of_ok hfound] at h
  dsimp only at h
  rw [Storing.run_ofExcept] at h
  exact refused_of_allowedColumns (Prod.mk.inj h).1

end Answering

end Covenant.Access
