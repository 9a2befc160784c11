import Covenant.Execution.Record
import Covenant.Proofs.Storage.Rows
import Covenant.Proofs.Value

/-!
# Taking back row writes

A record of a row write holds what is needed to take it back: nothing if the row was new, and
otherwise the row as it was, as a JSON text. Taken back from the last to the first, the records of all
writes bring back the rows as they were, up to the kinds of their values. This fails only where a row
nests so deep that its text is not read again.
-/

namespace Covenant

/-- A row write. -/
structure RowWrite where
  table : String
  id : Int
  /-- The row as it was, if it was there. -/
  previous : Option Row
  /-- The row as it is written. -/
  row : Row

namespace RowWrite

/-- The record that is kept of the write. -/
def record (write : RowWrite) : RollbackRecord :=
  ⟨write.table, write.id,
    match write.previous with
    | none => ""
    | some previous => (Value.map previous).jsonText⟩

/-- The statement that the write leaves in the log. -/
def statement (write : RowWrite) : String :=
  (if write.previous.isNone then "INSERT " else "UPDATE ") ++ write.table ++ " " ++
    toString write.id

/-- The row as it was is one that can occur. -/
def IsProper (write : RowWrite) : Prop :=
  ∀ previous, write.previous = some previous → (Value.map previous).IsProper

/-- The row as it was nests no deeper than texts that are read. -/
def IsShallow (write : RowWrite) : Prop :=
  ∀ previous, write.previous = some previous →
    (Value.map previous).nesting ≤ Value.nestingLimit

end RowWrite

namespace Database

/-- Takes a row away. -/
def eraseRow (db : Database) (table : String) (id : Int) : Database :=
  { db with rows := Dict.insert table (Dict.erase id (db.table table)) db.rows }

/-- Takes a row write back: a row that was new is taken away, and another is put back as its text is
read. There is no such row if the text is not that of one. -/
def undo? (record : RollbackRecord) (db : Database) : Option Database :=
  if record.data = "" then some (db.eraseRow record.table record.rowId)
  else
    match Value.ofJsonText record.data with
    | .ok (.map cells) => some (db.setRow record.table record.rowId cells)
    | _ => none

/-- Takes row writes back, the last one first. -/
def undoAll? (records : List RollbackRecord) (db : Database) : Option Database :=
  records.foldrM undo? db

/-- The two databases have rows under the same ids in the same tables, and each row has the same JSON
text in both. -/
def SameRows (a b : Database) : Prop :=
  ∀ table id, (a.row? table id).map (fun row => (Value.map row).jsonText) =
    (b.row? table id).map fun row => (Value.map row).jsonText

/-- The write can be made on the database: it changes a row that is there, or adds one under the next
id. -/
structure Takes (db : Database) (write : RowWrite) : Prop where
  previous : write.previous = db.row? write.table write.id
  added : write.previous = none → db.nextId? write.table = some write.id

/-- The writes, one after the other, make the second database of the first. -/
inductive Becomes : Database → List RowWrite → Database → Prop
  | nil {db : Database} : Becomes db [] db
  | cons {db after : Database} {write : RowWrite} {writes : List RowWrite} :
      db.Takes write → Becomes (db.setRow write.table write.id write.row) writes after →
      Becomes db (write :: writes) after

variable {db after later : Database} {write : RowWrite} {writes more : List RowWrite}

theorem SameRows.refl (db : Database) : db.SameRows db :=
  fun _ _ => rfl

theorem Takes.update {table : String} {id : Int} {previous row : Row}
    (h : db.row? table id = some previous) : db.Takes ⟨table, id, some previous, row⟩ :=
  ⟨h.symm, fun hnone => by cases hnone⟩

theorem Takes.insert {table : String} {id : Int} {row : Row} (h : db.nextId? table = some id) :
    db.Takes ⟨table, id, none, row⟩ :=
  ⟨(row?_nextId? h).symm, fun _ => h⟩

/-- A row that is added has a quantity for its id. -/
theorem Becomes.inRange (h : db.Becomes writes after) (hwrite : write ∈ writes)
    (hnew : write.previous = none) : Quantity.InRange write.id := by
  induction h with
  | nil => cases hwrite
  | cons htakes _ ih =>
    rcases List.mem_cons.mp hwrite with rfl | hmore
    · exact inRange_of_nextId? (htakes.added hnew)
    · exact ih hmore

theorem Becomes.single (h : db.Takes write) :
    db.Becomes [write] (db.setRow write.table write.id write.row) :=
  .cons h .nil

theorem Becomes.trans (h : db.Becomes writes later) (k : later.Becomes more after) :
    db.Becomes (writes ++ more) after := by
  induction h with
  | nil => exact k
  | cons htakes _ ih => exact .cons htakes (ih k)

/-- A row that is taken away is not found, and no other row changes. -/
theorem row?_eraseRow (db : Database) (name other : String) (id key : Int) :
    (db.eraseRow name id).row? other key =
      if name = other ∧ id = key then none else db.row? other key := by
  unfold row? table eraseRow
  rw [Dict.find?_insert]
  by_cases hname : name = other
  · subst hname
    simp [Dict.find?_erase, table]
  · simp [hname]

/-- A write whose row can be read again is taken back. -/
theorem undo?_record (hprevious : write.previous = db.row? write.table write.id)
    (hproper : write.IsProper) (hshallow : write.IsShallow)
    (hsame : later.SameRows (db.setRow write.table write.id write.row)) :
    ∃ back, later.undo? write.record = some back ∧ back.SameRows db := by
  have hother : ∀ table id, ¬ (write.table = table ∧ write.id = id) →
      (later.row? table id).map (fun row => (Value.map row).jsonText) =
        (db.row? table id).map fun row => (Value.map row).jsonText := by
    intro table id hne
    rw [hsame table id, row?_setRow, if_neg hne]
  unfold undo? RowWrite.record
  cases hrow : write.previous with
  | none =>
    rw [hrow] at hprevious
    refine ⟨later.eraseRow write.table write.id, if_pos rfl, fun table id => ?_⟩
    rw [row?_eraseRow]
    by_cases hplace : write.table = table ∧ write.id = id
    · obtain ⟨rfl, rfl⟩ := hplace
      rw [if_pos ⟨rfl, rfl⟩, ← hprevious]
    · rw [if_neg hplace, hother table id hplace]
  | some previous =>
    rw [hrow] at hprevious
    obtain ⟨cells, hread, htext⟩ :=
      Value.ofJsonText_row (hproper previous hrow) (hshallow previous hrow)
    refine ⟨later.setRow write.table write.id cells, ?_, fun table id => ?_⟩
    · dsimp only
      rw [if_neg (Value.jsonText_row_ne_empty previous), hread]
    · rw [row?_setRow]
      by_cases hplace : write.table = table ∧ write.id = id
      · obtain ⟨rfl, rfl⟩ := hplace
        rw [if_pos ⟨rfl, rfl⟩, ← hprevious, Option.map_some, Option.map_some, htext]
      · rw [if_neg hplace, hother table id hplace]

/-- A write that is taken back is one whose row can be read again. -/
theorem isShallow_of_undo? {back : Database} (hproper : write.IsProper)
    (h : later.undo? write.record = some back) : write.IsShallow := by
  intro previous hprevious
  refine Nat.le_of_not_lt fun hdeep => ?_
  have hread := Value.ofJsonText_jsonText_of_deep (hproper previous hprevious)
    hdeep
  simp only [undo?, RowWrite.record, hprevious, if_neg (Value.jsonText_row_ne_empty previous),
    hread] at h
  cases h

/-- Writes whose rows can be read again are taken back, from the last to the first. -/
theorem undoAll?_records (h : db.Becomes writes after) (hproper : ∀ write ∈ writes, write.IsProper)
    (hshallow : ∀ write ∈ writes, write.IsShallow) :
    ∃ back, after.undoAll? (writes.map RowWrite.record) = some back ∧ back.SameRows db := by
  -- The first write is taken back last, from rows that are already as it left them.
  induction h with
  | nil => exact ⟨_, rfl, .refl _⟩
  | @cons db after write writes htakes _ ih =>
    obtain ⟨hproper, hmoreProper⟩ := List.forall_mem_cons.mp hproper
    obtain ⟨hshallow, hmoreShallow⟩ := List.forall_mem_cons.mp hshallow
    obtain ⟨later, hlater, hsame⟩ := ih hmoreProper hmoreShallow
    obtain ⟨back, hback, hsame⟩ := undo?_record htakes.previous hproper hshallow hsame
    refine ⟨back, ?_, hsame⟩
    rw [undoAll?, List.map_cons, List.foldrM_cons]
    exact Option.bind_eq_some_iff.mpr ⟨later, hlater, hback⟩

/-- Writes that are taken back are ones whose rows can be read again. -/
theorem isShallow_of_undoAll? {back : Database} (hproper : ∀ write ∈ writes, write.IsProper)
    (h : after.undoAll? (writes.map RowWrite.record) = some back) :
    ∀ write ∈ writes, write.IsShallow := by
  induction writes generalizing back with
  | nil => exact fun write hwrite => by cases hwrite
  | cons write writes ih =>
    obtain ⟨hfirst, hmore⟩ := List.forall_mem_cons.mp hproper
    rw [undoAll?, List.map_cons, List.foldrM_cons] at h
    obtain ⟨later, hlater, hback⟩ := Option.bind_eq_some_iff.mp h
    exact List.forall_mem_cons.mpr ⟨isShallow_of_undo? hfirst hback, ih hmore hlater⟩

/-- The records of writes can all be taken back if and only if no row that was written over nests too
deep to be read again. -/
theorem undoAll?_iff (h : db.Becomes writes after) (hproper : ∀ write ∈ writes, write.IsProper) :
    (∃ back, after.undoAll? (writes.map RowWrite.record) = some back) ↔
      ∀ write ∈ writes, write.IsShallow := by
  constructor
  · rintro ⟨back, hback⟩
    exact isShallow_of_undoAll? hproper hback
  · intro hshallow
    obtain ⟨back, hback, -⟩ := undoAll?_records h hproper hshallow
    exact ⟨back, hback⟩

/-- Records that are all taken back bring the rows back. -/
theorem undoAll?_sameRows {back : Database} (h : db.Becomes writes after)
    (hproper : ∀ write ∈ writes, write.IsProper)
    (hback : after.undoAll? (writes.map RowWrite.record) = some back) : back.SameRows db := by
  obtain ⟨other, hother, hsame⟩ :=
    undoAll?_records h hproper (isShallow_of_undoAll? hproper hback)
  rw [hback] at hother
  obtain rfl := Option.some.inj hother
  exact hsame

end Database

end Covenant
