import Covenant.Proofs.Execution.Effect
import Covenant.Proofs.Storage.Rows

/-!
# Tables that contracts cannot write

A table without a record grants nothing to anybody, and without full access only the privileged tables
need no record. So as long as an ecosystem has no records for the tables of its keys and its history,
no contract of any ecosystem can write them, however it spells their names.
-/

namespace Covenant

namespace TableName

variable {front other name bare : String}

/-- Full names are equal only if the names behind their numbers are. -/
theorem rest_inj (hfront : '_' ∉ front.toList) (hother : '_' ∉ other.toList)
    (h : front ++ "_" ++ name = other ++ "_" ++ bare) : name = bare := by
  obtain rfl := front_inj hfront hother h
  exact (String.append_right_inj _).mp h

theorem keys_eq (ecosystem : Int) : keys ecosystem = toString ecosystem ++ "_" ++ "keys" := by
  rw [keys, String.append_assoc]
  rfl

theorem history_eq (ecosystem : Int) :
    history ecosystem = toString ecosystem ++ "_" ++ "history" := by
  rw [history, String.append_assoc]
  rfl

end TableName

namespace Database

/-- Nothing lets a contract write the table: it has no record and is not privileged. -/
structure Barred (db : Database) (table : String) : Prop where
  unrecorded : Access.storedRecord? db table = none
  common : table ∉ Access.privilegedTables

variable {db db' : Database} {table : String}

/-- Records alone decide which tables are barred. -/
theorem Barred.of_tables (h : db.Barred table) (hsame : db'.tables = db.tables) :
    db'.Barred table := by
  refine ⟨?_, h.common⟩
  have hunrecorded := h.unrecorded
  unfold Access.storedRecord? tableRecord? at hunrecorded ⊢
  rwa [hsame]

/-- A table of an ecosystem with a name that is not one of the privileged tables is barred if it has no
record. -/
theorem barred_of_tableRecord? {ecosystem : Int} {name : String}
    (hnone : db.tableRecord? (toString ecosystem) name = none)
    (hlower : Text.lowercase name = name)
    (hname : name ≠ "parameters" ∧ name ≠ "app_params") :
    db.Barred (toString ecosystem ++ "_" ++ name) := by
  have hclean := TableName.noUnderscore_toString ecosystem
  refine ⟨?_, fun hmem => ?_⟩
  · unfold Access.storedRecord?
    by_cases hnumber : TableName.IsNumber (toString ecosystem)
    · rw [TableName.split_of_number hnumber, hlower]
      exact hnone
    · rw [TableName.split_of_not_number hclean hnumber]
  · rcases List.mem_cons.mp hmem with hfirst | hmem
    · have hsplit : toString ecosystem ++ "_" ++ name = "1" ++ "_" ++ "parameters" := hfirst
      exact hname.1 (TableName.rest_inj hclean (by decide) hsplit)
    · have hsplit : toString ecosystem ++ "_" ++ name = "1" ++ "_" ++ "app_params" :=
        List.mem_singleton.mp hmem
      exact hname.2 (TableName.rest_inj hclean (by decide) hsplit)

theorem barred_keys {ecosystem : Int} (h : db.tableRecord? (toString ecosystem) "keys" = none) :
    db.Barred (TableName.keys ecosystem) := by
  rw [TableName.keys_eq]
  exact barred_of_tableRecord? h (by decide) (by decide)

theorem barred_history {ecosystem : Int}
    (h : db.tableRecord? (toString ecosystem) "history" = none) :
    db.Barred (TableName.history ecosystem) := by
  rw [TableName.history_eq]
  exact barred_of_tableRecord? h (by decide) (by decide)

end Database

namespace Access

/-- A barred table may not be written. -/
theorem MayWrite.not_barred {params : SystemParameters} {tx : Transaction} {env : Environment}
    {db : Database} {table : String} {action : TableAction} {columns : List String}
    (h : MayWrite params tx env db table action columns) : ¬ db.Barred table := by
  intro hbarred
  cases h with
  | founder hprivileged _ => exact hbarred.common hprivileged
  | custom hrecord _ _ =>
    rw [hbarred.unrecorded] at hrecord
    cases hrecord

end Access

namespace RunState

/-- The records of tables and the rows of a table stay as they are. -/
structure LeavesTable (table : String) (s t : RunState) : Prop where
  tables : t.world.data.tables = s.world.data.tables
  rows : t.world.data.table table = s.world.data.table table

end RunState

namespace Run

open RunState

variable {node : Node} {table : String}

namespace Moment

/-- A step without full access leaves barred tables as they are. -/
theorem next_leavesTable {m : Moment} (haccess : m.state.ctx.flags.fullAccess = false)
    (hbarred : m.state.world.data.Barred table) :
    m.state.LeavesTable table (m.next node).state := by
  have heffect := next_effect node m
  generalize (m.next node).state = t at heffect
  cases heffect with
  | charge => exact ⟨rfl, rfl⟩
  | @write _ other action _ values _ _ hwrites hmay =>
    obtain ⟨id, row, before, hdata, -, -⟩ := hwrites.row
    have hne : other ≠ table := by
      rintro rfl
      exact (hmay haccess).not_barred hbarred
    refine ⟨by rw [hdata]; rfl, ?_⟩
    rw [hdata, Database.table_setRow, if_neg hne]
  | turn hturns _ => exact ⟨by rw [hturns.data], by rw [hturns.data]⟩
  | aside haside _ => exact ⟨by rw [haside.data], by rw [haside.data]⟩

/-- A run without full access leaves barred tables as they are. -/
theorem nth_leavesTable {s : RunState} (haccess : s.ctx.flags.fullAccess = false)
    (hbarred : s.world.data.Barred table) (k : Nat) :
    s.LeavesTable table (nth node s k).state := by
  suffices hkept : (nth node s k).state.ctx.flags = s.ctx.flags ∧
      s.LeavesTable table (nth node s k).state from hkept.2
  refine nth_invariant
    (motive := fun m => m.state.ctx.flags = s.ctx.flags ∧ s.LeavesTable table m.state)
    ⟨rfl, rfl, rfl⟩ (fun m ih => ?_) k
  obtain ⟨hflags, hleaves⟩ := ih
  have hnext : m.state.LeavesTable table (m.next node).state :=
    next_leavesTable (by rw [hflags, haccess]) (hbarred.of_tables hleaves.tables)
  exact ⟨(next_settled node m).2.1.trans hflags, hnext.tables.trans hleaves.tables,
    hnext.rows.trans hleaves.rows⟩

end Moment

/-- The contract of a transaction without full access, and all that it calls, leave barred tables as
they are. -/
theorem invoke_leavesTable {s : RunState} (haccess : s.ctx.flags.fullAccess = false)
    (hbarred : s.world.data.Barred table) :
    s.LeavesTable table ((invoke node).run s).2 := by
  obtain ⟨k, hk⟩ := Moment.exists_nth_eq_ended node s
  have hleaves : s.LeavesTable table (Moment.nth node s k).state :=
    Moment.nth_leavesTable haccess hbarred k
  rwa [hk] at hleaves

end Run

end Covenant
