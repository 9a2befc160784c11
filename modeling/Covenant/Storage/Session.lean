import Covenant.Storage.Database

/-!
# Storage sessions

A session works on its own copy of the database and publishes it as a whole. Savepoints remember the
copy as it was; the same name may stand for several of them, and the latest counts. Row writes leave
statements in a log, which savepoints do not cover.
-/

namespace Covenant

/-- An open session. -/
structure Session where
  /-- The data as the session sees it. -/
  working : Database
  /-- The open savepoints and the data at each of them, oldest first. -/
  savepoints : List (String × Database)
  /-- The statements since the session began or the log was cleared. -/
  log : List String

namespace Session

/-- A session that has done nothing yet. -/
def begin (db : Database) : Session := ⟨db, [], []⟩

/-- The data to publish. -/
def published (session : Session) : Database := session.working

/-- The names of the open savepoints, oldest first. -/
def savepointNames (session : Session) : List String :=
  session.savepoints.map Prod.fst

/-- Adds a row and gives its id. -/
def insertRow (session : Session) (table : String) (row : Row) :
    Except StorageError (Int × Session) :=
  match session.working.nextId? table with
  | none => .error (.overflow "add")
  | some id =>
    .ok (id, { session with
      working := session.working.setRow table id row
      log := session.log ++ ["INSERT " ++ table ++ " " ++ toString id] })

/-- Puts cells over those of a row, and gives the row as it was. -/
def updateRow (session : Session) (table : String) (id : Int) (cells : Row) :
    Except StorageError (Row × Session) :=
  match session.working.row? table id with
  | none => .error (.rowNotFound table id)
  | some previous =>
    .ok (previous, { session with
      working := session.working.setRow table id (Dict.insertAll cells previous)
      log := session.log ++ ["UPDATE " ++ table ++ " " ++ toString id] })

/-- Opens a savepoint. -/
def createSavepoint (session : Session) (name : String) : Session :=
  { session with savepoints := session.savepoints ++ [(name, session.working)] }

/-- The latest savepoint of a name and those before it, if there is one. -/
def savepointsUpTo? (name : String) (savepoints : List (String × Database)) :
    Option (List (String × Database) × Database) :=
  match (savepoints.reverse.dropWhile fun savepoint => savepoint.1 != name) with
  | [] => none
  | (_, data) :: older => some (older.reverse, data)

/-- Goes back to the latest savepoint of a name, which stays open. -/
def rollbackTo (session : Session) (name : String) : Except StorageError Session :=
  match savepointsUpTo? name session.savepoints with
  | none => .error (.savepointNotFound name)
  | some (older, data) =>
    .ok { session with working := data, savepoints := older ++ [(name, data)] }

/-- Closes the latest savepoint of a name and those after it; the data stays. -/
def release (session : Session) (name : String) : Except StorageError Session :=
  match savepointsUpTo? name session.savepoints with
  | none => .error (.savepointNotFound name)
  | some (older, _) => .ok { session with savepoints := older }

/-- Empties the statement log. -/
def clearLog (session : Session) : Session :=
  { session with log := [] }

end Session

end Covenant
