import Covenant.Proofs.Dict
import Covenant.Storage.Session

/-!
# Rows and savepoints

What a row write leaves for later look-ups, and what the latest savepoint of a name restores. Both
hold for every database, whatever tables and savepoints there are besides.
-/

namespace Covenant

namespace Database

/-- A row that is set is in its table, and the other tables are as they were. -/
theorem table_setRow (db : Database) (name other : String) (id : Int) (row : Row) :
    (db.setRow name id row).table other =
      if name = other then Dict.insert id row (db.table name) else db.table other := by
  unfold table setRow
  rw [Dict.find?_insert]
  split <;> rfl

/-- A row that is set is found, and no other row changes. -/
theorem row?_setRow (db : Database) (name other : String) (id key : Int) (row : Row) :
    (db.setRow name id row).row? other key =
      if name = other ∧ id = key then some row else db.row? other key := by
  unfold row?
  rw [table_setRow]
  by_cases hname : name = other
  · subst hname
    simp [Dict.find?_insert]
  · simp [hname]

/-- The next id of a table is a quantity. -/
theorem inRange_of_nextId? {db : Database} {name : String} {next : Int}
    (h : db.nextId? name = some next) : Quantity.InRange next := by
  unfold nextId? at h
  split at h
  next => exact (Quantity.sum?_eq_some_iff.mp h).1
  next =>
    obtain rfl := Option.some.inj h
    decide

/-- The ids of a table's rows are below the next one. -/
theorem lt_nextId? {db : Database} {name : String} {id next : Int} {row : Row}
    (hnext : db.nextId? name = some next) (h : db.row? name id = some row) : id < next := by
  have hmem : id ∈ Dict.keys (db.table name) := Dict.mem_keys_of_find? h
  unfold nextId? at hnext
  split at hnext
  next last hmax =>
    have hle := (List.max?_eq_some_iff.mp hmax).2 id hmem
    have hsum := (Quantity.sum?_eq_some_iff.mp hnext).2
    omega
  next hmax =>
    rw [List.max?_eq_none_iff] at hmax
    simp [hmax] at hmem

/-- The next id of a table is not in use. -/
theorem row?_nextId? {db : Database} {name : String} {next : Int}
    (hnext : db.nextId? name = some next) : db.row? name next = none := by
  cases hrow : db.row? name next with
  | none => rfl
  | some row =>
    have hlt := lt_nextId? hnext hrow
    omega

/-- The rows are added behind those of the table. Their ids are quantities, and each is above all that
were there before it. -/
structure Adds (name : String) (added : Rows) (before after : Database) : Prop where
  rows : after.table name = before.table name ++ added
  inRange : ∀ entry ∈ added, Quantity.InRange entry.1
  above : ∀ id ∈ Dict.keys (before.table name), ∀ entry ∈ added, id < entry.1
  ascending : added.Pairwise fun entry later => entry.1 < later.1

theorem Adds.nil {name : String} {before after : Database}
    (h : after.table name = before.table name) : Adds name [] before after :=
  ⟨by rw [h, List.append_nil], List.forall_mem_nil _, fun _ _ => List.forall_mem_nil _, .nil⟩

theorem Adds.trans {name : String} {added more : Rows} {a b c : Database} (h : Adds name added a b)
    (k : Adds name more b c) : Adds name (added ++ more) a c where
  rows := by rw [k.rows, h.rows, List.append_assoc]
  inRange := List.forall_mem_append.mpr ⟨h.inRange, k.inRange⟩
  above id hid := by
    refine List.forall_mem_append.mpr ⟨h.above id hid, k.above id ?_⟩
    rw [h.rows, Dict.keys, List.map_append]
    exact List.mem_append_left _ hid
  ascending := by
    refine List.pairwise_append.mpr ⟨h.ascending, k.ascending, fun entry hentry => k.above _ ?_⟩
    rw [h.rows, Dict.keys, List.map_append]
    exact List.mem_append_right _ (List.mem_map_of_mem hentry)

/-- A row that is added under the next id comes last in its table. -/
theorem adds_setRow {db : Database} {name : String} {next : Int}
    (hnext : db.nextId? name = some next) (row : Row) :
    Adds name [(next, row)] db (db.setRow name next row) := by
  have hbelow : ∀ id ∈ Dict.keys (db.table name), id < next := by
    intro id hid
    obtain ⟨found, hfound⟩ := Dict.exists_find?_of_mem_keys hid
    exact lt_nextId? hnext hfound
  refine ⟨?_, ?_, fun id hid => ?_, List.pairwise_singleton _ _⟩
  · rw [table_setRow, if_pos rfl]
    exact Dict.insert_of_lt fun id hid => Int.compare_eq_lt.mpr (hbelow id hid)
  · exact List.forall_mem_singleton.mpr (inRange_of_nextId? hnext)
  · exact List.forall_mem_singleton.mpr (hbelow id hid)

/-- Rows of other tables do not count for the next id. -/
theorem nextId?_setRow_of_ne (db : Database) {name other : String} (hne : name ≠ other) (id : Int)
    (row : Row) : (db.setRow name id row).nextId? other = db.nextId? other := by
  unfold nextId?
  rw [table_setRow, if_neg hne]

end Database

namespace Session

/-- The last savepoint is the latest one of its name. -/
theorem savepointsUpTo?_append (older : List (String × Database)) (name : String)
    (data : Database) : savepointsUpTo? name (older ++ [(name, data)]) = some (older, data) := by
  simp [savepointsUpTo?]

variable {session : Session} {older : List (String × Database)} {name : String} {data : Database}

/-- Going back to the last savepoint restores its data. -/
theorem rollbackTo_of_savepoints (h : session.savepoints = older ++ [(name, data)]) :
    session.rollbackTo name = .ok { session with working := data } := by
  simp only [rollbackTo, h, savepointsUpTo?_append]

/-- Closing the last savepoint leaves those before it. -/
theorem release_of_savepoints (h : session.savepoints = older ++ [(name, data)]) :
    session.release name = .ok { session with savepoints := older } := by
  simp only [release, h, savepointsUpTo?_append]

end Session

end Covenant
