import Covenant.Proofs.Access.Read
import Covenant.Proofs.Execution.Enforcement

/-!
# What a read shows

A read shows the cells of a row in the columns that may be read. A withheld column is among them only
by way of the star: the star in a request stands for the columns that have rules, but among the columns
that may be read it stands for every cell. So a column that is itself named by the star, and may be
read, gives the whole row away.
-/

namespace Covenant

open Stage

namespace Run

open Access

variable {params : SystemParameters} {s t : RunState} {record : TableRecord} {short column : String}
  {columns : List String} {id : Int} {row cells : Row}

/-- A cell is shown if all are, or if one of the columns has its name for a normal form. -/
theorem mem_keys_visibleCells :
    column ∈ Dict.keys (visibleCells columns row) ↔
      column ∈ Dict.keys row ∧
        ("*" ∈ columns ∨ ∃ shown ∈ columns, ColumnName.normalize shown = column) := by
  unfold visibleCells
  by_cases hstar : "*" ∈ columns
  · rw [if_pos (List.contains_iff_mem.mpr hstar)]
    exact ⟨fun hmem => ⟨hmem, .inl hstar⟩, And.left⟩
  · rw [if_neg fun h => hstar (List.contains_iff_mem.mp h)]
    constructor
    · intro hmem
      obtain ⟨cell, hcell, rfl⟩ := List.mem_map.mp hmem
      obtain ⟨hrow, hwanted⟩ := List.mem_filter.mp hcell
      exact ⟨List.mem_map_of_mem hrow, .inr (List.mem_map.mp (List.contains_iff_mem.mp hwanted))⟩
    · rintro ⟨hmem, hshown⟩
      obtain ⟨cell, hcell, rfl⟩ := List.mem_map.mp hmem
      have hwanted := List.mem_map.mpr (hshown.resolve_left hstar)
      exact List.mem_map_of_mem (List.mem_filter.mpr ⟨hcell, List.contains_iff_mem.mpr hwanted⟩)

/-- A checked read shows the stored cells in the columns that may be read. -/
theorem selectRow_eq_ok (hprivate : params.privateChain = true)
    (haccess : s.ctx.flags.fullAccess = false)
    (hcustom : TableName.qualify short s.ctx.ecosystemId ∉ privilegedTables)
    (hrecord : storedRecord? s.world.data (TableName.qualify short s.ctx.ecosystemId) = some record)
    (h : (selectRow params short id columns).run s = (.ok cells, t)) :
    cells = visibleCells
      ((expandColumns record.columns (ColumnName.parseList (",".intercalate columns))).filter
        (permits (columnVerdict params s.ctx record.columns false)))
      ((s.world.data.row? (TableName.qualify short s.ctx.ecosystemId) id).getD []) := by
  obtain ⟨access, s₁, hcheck, h⟩ := run_bind_eq_ok h
  obtain ⟨found, s₂, hfound, h⟩ := run_bind_eq_ok h
  obtain ⟨hcheck, -⟩ := run_checking_eq_ok hcheck
  have hsession := session_of_looks (checkRead_looks params s.ctx short _ _) hcheck
  obtain ⟨htable, hcolumns⟩ := checkRead_eq_ok hprivate haccess hcustom hrecord hcheck
  obtain ⟨hfound, -⟩ := run_storing_eq_ok hfound
  have hstored : found =
      s.world.data.row? (TableName.qualify short s.ctx.ecosystemId) id := by
    rw [World.data, ← hsession, ← htable]
    exact (Except.ok.inj (Storing.run_look_eq_ok hfound).1).symm
  rw [← Except.ok.inj (Prod.mk.inj h).1, hcolumns, hstored]

/-- On a private chain, a read of a table with a record hides the withheld columns if and only if it
is not one that asks for the star, of a row with such a column, where the record lets everybody read a
column that is named by the star. -/
theorem selectRow_hides_iff (hprivate : params.privateChain = true)
    (haccess : s.ctx.flags.fullAccess = false)
    (hcustom : TableName.qualify short s.ctx.ecosystemId ∉ privilegedTables)
    (hrecord : storedRecord? s.world.data (TableName.qualify short s.ctx.ecosystemId) = some record)
    (h : (selectRow params short id columns).run s = (.ok cells, t)) :
    (∀ column, Withholds params s.ctx.env record column → column ∉ Dict.keys cells) ↔
      ¬("*" ∈ ColumnName.parseList (",".intercalate columns) ∧
        Discloses params s.ctx.env record "*" ∧
        ∃ column, Withholds params s.ctx.env record column ∧
          column ∈ Dict.keys
            ((s.world.data.row? (TableName.qualify short s.ctx.ecosystemId) id).getD [])) := by
  have hcells := selectRow_eq_ok hprivate haccess hcustom hrecord h
  constructor
  · rintro hhides ⟨hasked, hstar, column, hwithheld, hstored⟩
    have hpermitted := (discloses_iff hstar.declared).mp hstar
    refine hhides column hwithheld ?_
    rw [hcells, mem_keys_visibleCells]
    refine ⟨hstored, .inl (List.mem_filter.mpr ?_)⟩
    refine ⟨star_mem_expandColumns.mpr ⟨hasked, hstar.declared⟩, permits_iff.mpr ?_⟩
    rw [normalize_star]
    exact hpermitted
  · intro hleak column hwithheld hmem
    rw [hcells, mem_keys_visibleCells] at hmem
    obtain ⟨hstored, hstar | ⟨shown, hshown, rfl⟩⟩ := hmem
    · obtain ⟨hexpanded, hpermitted⟩ := List.mem_filter.mp hstar
      obtain ⟨hasked, hdeclared⟩ := star_mem_expandColumns.mp hexpanded
      have hverdict := permits_iff.mp hpermitted
      rw [normalize_star] at hverdict
      exact hleak ⟨hasked, (discloses_iff hdeclared).mpr hverdict, column, hwithheld, hstored⟩
    · -- the column was judged under the name by which it is shown
      have hverdict := permits_iff.mp (List.mem_filter.mp hshown).2
      rw [columnVerdict_of_withholds hwithheld] at hverdict
      cases hverdict

end Run

namespace Sample

open Run Access

/-- A chain on which reads are checked. -/
def closed : SystemParameters :=
  { SystemParameters.default with privateChain := true }

/-- The record of a table that keeps its secrets from everybody. The rules of the other columns come
first. -/
def secretive (others : Dict String String) : TableRecord :=
  ⟨"t", [], others ++ [("secret", "\x7b\"read\":\"false\"\x7d")]⟩

/-- A contract runs beside a table with that record and one row. -/
def reading (others : Dict String String) : RunState :=
  { guarded "secret" with
    world := ⟨⟨.begin { database with
      tables := [(("1", "t"), secretive others)]
      rows := [("1_t", [(1, [("name", .text "alice"), ("secret", .text "hidden")])])] },
      .none⟩, .empty, 0⟩ }

theorem storedRecord?_reading (others : Dict String String) :
    storedRecord? (reading others).world.data
      (TableName.qualify "t" (reading others).ctx.ecosystemId) = some (secretive others) := by
  rw [show TableName.qualify "t" (reading others).ctx.ecosystemId = "1_t" from qualify_t "secret"]
  exact storedRecord?_t rfl

theorem qualify_reading (others : Dict String String) :
    TableName.qualify "t" (reading others).ctx.ecosystemId ∉ privilegedTables := by
  rw [show TableName.qualify "t" (reading others).ctx.ecosystemId = "1_t" from qualify_t "secret"]
  decide

/-- What a read of all columns shows. -/
def shown? (others : Dict String String) : Option Row :=
  ((selectRow closed "t" 1 ["*"]).run (reading others)).1.toOption

/-- A rule for a column that is named by the star makes the difference. -/
theorem keys_shown? :
    (shown? [("name", "")]).map Dict.keys = some ["name"] ∧
      (shown? [("*", "")]).map Dict.keys = some ["name", "secret"] := by
  decide +kernel

end Sample

namespace Run

open Access

/-- Where only the other column has a rule, the read of all columns shows it and hides the secret. -/
theorem selectRow_hides_iff_sample :
    ∃ cells t, (selectRow Sample.closed "t" 1 ["*"]).run (Sample.reading [("name", "")]) =
        (.ok cells, t) ∧ "name" ∈ Dict.keys cells ∧ "secret" ∉ Dict.keys cells := by
  obtain ⟨cells, hcells, hkeys⟩ := Option.map_eq_some_iff.mp Sample.keys_shown?.1
  have hrun := run_of_toOption hcells
  have hhides := (selectRow_hides_iff rfl rfl (Sample.qualify_reading _)
    (Sample.storedRecord?_reading _) hrun).mpr
    fun hleak => absurd hleak.2.1.declared (by decide)
  refine ⟨cells, _, hrun, ?_, hhides "secret" ⟨_, ⟨"false", ""⟩, rfl, rfl, rfl⟩⟩
  rw [hkeys]
  exact List.mem_cons_self

/-- A read of all columns shows the secret if there is a rule for a column that is named by the star
and lets everybody read it. -/
theorem not_selectRow_hides :
    ¬ ∀ (params : SystemParameters) (s t : RunState) (short : String) (id : Int)
        (columns : List String) (record : TableRecord) (cells : Row),
      params.privateChain = true → s.ctx.flags.fullAccess = false →
        TableName.qualify short s.ctx.ecosystemId ∉ privilegedTables →
        storedRecord? s.world.data (TableName.qualify short s.ctx.ecosystemId) = some record →
        (selectRow params short id columns).run s = (.ok cells, t) →
          ∀ column, Withholds params s.ctx.env record column → column ∉ Dict.keys cells := by
  intro hclaim
  obtain ⟨cells, hcells, hkeys⟩ := Option.map_eq_some_iff.mp Sample.keys_shown?.2
  refine hclaim Sample.closed _ _ "t" 1 ["*"] _ cells rfl rfl (Sample.qualify_reading _)
    (Sample.storedRecord?_reading _) (run_of_toOption hcells) "secret"
    ⟨_, ⟨"false", ""⟩, rfl, rfl, rfl⟩ ?_
  rw [hkeys]
  exact List.mem_cons_of_mem _ List.mem_cons_self

end Run

end Covenant
