import Covenant.Proofs.Access.Write

/-!
# Who may read a column

On a private chain a read is checked like a write, once for its table and once for its columns. What
passes are the columns asked for whose rules let them be read, the star standing for all columns that
have rules. A rule says this of the column under whose name it is found, so the columns of a read are
told apart by their normal forms.
-/

namespace Covenant.Access

open Stage

variable {params : SystemParameters} {ctx : ExecutionContext} {record : TableRecord}
  {table column : String} {columns allowed : List String} {c d : Connection}

/-- The rule that a record has for a column does not let it be read. -/
def Withholds (params : SystemParameters) (env : Environment) (record : TableRecord)
    (column : String) : Prop :=
  ∃ rule parsed, Dict.find? column record.columns = some rule ∧
    ColumnRule.parse column rule = .ok parsed ∧
    Condition.holds parsed.read (env.setFuel params.maxCost) = .ok false

/-- The record has a rule for a column, and it lets the column be read. -/
def Discloses (params : SystemParameters) (env : Environment) (record : TableRecord)
    (column : String) : Prop :=
  ∃ rule parsed, Dict.find? column record.columns = some rule ∧
    ColumnRule.parse column rule = .ok parsed ∧ Granted params env parsed.read

theorem Discloses.declared {env : Environment} (h : Discloses params env record column) :
    column ∈ Dict.keys record.columns := by
  obtain ⟨_, _, hrule, -⟩ := h
  exact Dict.mem_keys_of_find? hrule

/-! ## Verdicts on reads -/

/-- The verdict on a column with a rule is what the rule's condition comes to, if it has one. -/
theorem columnVerdict_of_rule {rules : Dict String String} {rule : String} {update : Bool}
    (hrule : Dict.find? column rules = some rule) :
    columnVerdict params ctx rules update column =
      match ColumnRule.parse column rule with
      | .error e => .error e
      | .ok parsed =>
        let condition := if update then parsed.update else parsed.read
        if condition.isEmpty then .ok true else conditionHolds params ctx condition := by
  unfold columnVerdict
  rw [hrule]
  by_cases hempty : rule = ""
  · subst hempty
    cases update with
    | true => rfl
    | false => rfl
  · split
    next hnone => exact absurd (by simpa using hnone) hempty
    next kept hkept =>
      obtain ⟨hsame, -⟩ := Option.filter_eq_some_iff.mp hkept
      obtain rfl := Option.some.inj hsame
      rfl

/-- A column that its rule withholds is refused to readers. -/
theorem columnVerdict_of_withholds (h : Withholds params ctx.env record column) :
    columnVerdict params ctx record.columns false column = .ok false := by
  obtain ⟨rule, parsed, hrule, hparsed, hwithheld⟩ := h
  rw [columnVerdict_of_rule hrule, hparsed]
  dsimp only
  rw [if_neg Bool.false_ne_true, if_neg]
  · unfold conditionHolds conditionEnv
    rw [hwithheld]
    rfl
  · intro hempty
    -- the empty text has no value, so it is not what the rule says
    rw [String.isEmpty_iff.mp hempty] at hwithheld
    cases hwithheld

/-- A column with a rule is allowed to readers if and only if the rule lets it be read. -/
theorem discloses_iff (hdeclared : column ∈ Dict.keys record.columns) :
    Discloses params ctx.env record column ↔
      columnVerdict params ctx record.columns false column = .ok true := by
  obtain ⟨rule, hrule⟩ := Dict.exists_find?_of_mem_keys hdeclared
  rw [columnVerdict_of_rule hrule]
  constructor
  · rintro ⟨other, parsed, hother, hparsed, hgranted⟩
    obtain rfl := Option.some.inj (hrule.symm.trans hother)
    rw [hparsed]
    dsimp only
    rw [if_neg Bool.false_ne_true]
    split
    next => rfl
    next hcondition =>
      rcases hgranted with hempty | hholds
      · exact absurd (String.isEmpty_iff.mpr hempty) hcondition
      · unfold conditionHolds conditionEnv
        rw [hholds]
        rfl
  · intro hverdict
    split at hverdict
    next => cases hverdict
    next parsed hparsed =>
      refine ⟨rule, parsed, hrule, hparsed, ?_⟩
      dsimp only at hverdict
      rw [if_neg Bool.false_ne_true] at hverdict
      split at hverdict
      next hempty => exact .inl (String.isEmpty_iff.mp hempty)
      next => exact granted_of_conditionHolds hverdict

/-! ## The checks of a read -/

/-- The column check gives a reader the columns asked for that the rules let be read. -/
theorem checkColumns_read_eq_ok (haccess : ctx.flags.fullAccess = false)
    (hcustom : isPrivileged ctx table = false)
    (hrecord : storedRecord? c.session.working table = some record)
    (h : (checkColumns params ctx table columns false).run c = (.ok allowed, d)) :
    allowed = (expandColumns record.columns columns).filter
      (permits (columnVerdict params ctx record.columns false)) := by
  unfold checkColumns at h
  rw [haccess, hcustom, if_neg Bool.false_ne_true, if_neg Bool.false_ne_true] at h
  obtain ⟨found, c₁, hfound, h⟩ := run_bind_eq_ok h
  rw [recordOf_eq_ok hfound, hrecord] at h
  dsimp only at h
  rw [Storing.run_ofExcept] at h
  exact allowedColumns_read (Prod.mk.inj h).1

/-- A checked read is one of the table that it names, in the columns that may be read. -/
theorem checkRead_eq_ok {short text : String} {access : ReadAccess}
    (hprivate : params.privateChain = true) (haccess : ctx.flags.fullAccess = false)
    (hcustom : TableName.qualify short ctx.ecosystemId ∉ privilegedTables)
    (hrecord : storedRecord? c.session.working (TableName.qualify short ctx.ecosystemId) =
      some record)
    (h : (checkRead params ctx short text ctx.ecosystemId).run c = (.ok access, d)) :
    access.table = TableName.qualify short ctx.ecosystemId ∧
      access.columns = (expandColumns record.columns (ColumnName.parseList text)).filter
        (permits (columnVerdict params ctx record.columns false)) := by
  have hprivileged : isPrivileged ctx (TableName.qualify short ctx.ecosystemId) = false :=
    Bool.eq_false_iff.mpr fun h => hcustom (mem_privilegedTables h)
  unfold checkRead at h
  dsimp only at h
  rw [hprivate, haccess, if_neg (by simp)] at h
  obtain ⟨permissions, c₁, htable, h⟩ := run_bind_eq_ok h
  obtain ⟨found, c₂, hcolumns, h⟩ := run_bind_eq_ok h
  obtain rfl := Except.ok.inj (Prod.mk.inj h).1
  have hsession := session_of_looks (tablePermissions_looks _ _ _ _) htable
  rw [← hsession] at hrecord
  exact ⟨rfl, checkColumns_read_eq_ok haccess hprivileged hrecord hcolumns⟩

end Covenant.Access
