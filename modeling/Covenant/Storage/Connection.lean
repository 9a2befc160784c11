import Covenant.Storage.Failure
import Covenant.Storage.Session

/-!
# Connections

A session together with the failures that it will meet, and the calls on it. A computation in
`Storing` keeps what it has written when it fails: an error is a result, and undoing is up to the
caller.
-/

namespace Covenant

/-- An open session and the failures ahead of it. -/
structure Connection where
  session : Session
  failures : Failures

/-- Computations with storage. -/
abbrev Storing (ε α : Type) :=
  ExceptT ε (StateM Connection) α

namespace Storing

/-- The same computation with another kind of error. -/
def mapError {ε ε' α : Type} (f : ε → ε') (x : Storing ε α) : Storing ε' α :=
  fun connection =>
    match x.run connection with
    | (.ok a, connection) => (.ok a, connection)
    | (.error e, connection) => (.error (f e), connection)

/-- A computation that uses no storage. -/
def ofExcept {ε α : Type} : Except ε α → Storing ε α
  | .ok a => pure a
  | .error e => throw e

/-- Makes a call, which may fail, and then works on the session. -/
def call {α : Type} (kind : StorageCall)
    (work : Session → Except StorageError α × Session) : Storing StorageError α :=
  fun connection =>
    let failures := connection.failures.count kind
    match connection.failures.next kind with
    | some e => (.error e, { connection with failures })
    | none =>
      let (result, session) := work connection.session
      (result, { session, failures })

/-- Makes a call that only reads. -/
def look {α : Type} (kind : StorageCall) (read : Database → Except StorageError α) :
    Storing StorageError α :=
  call kind fun session => (read session.working, session)

/-- Makes a call that changes the session, or fails and leaves it as it is. -/
def change {α : Type} (kind : StorageCall) (work : Session → Except StorageError (α × Session)) :
    Storing StorageError α :=
  call kind fun session =>
    match work session with
    | .ok (a, session) => (.ok a, session)
    | .error e => (.error e, session)

/-- A key of an ecosystem. -/
def key (ecosystem id : Int) : Storing StorageError (Option KeyRecord) :=
  look .key fun db => db.key? ecosystem id

/-- The permissions of a table. -/
def table (number name : String) : Storing StorageError (Option TableRecord) :=
  look .table fun db => .ok (db.tableRecord? number name)

/-- A parameter of an ecosystem. -/
def parameter (ecosystem : Int) (name : String) : Storing StorageError (Option ParameterRecord) :=
  look .parameter fun db => .ok (db.parameter? ecosystem name)

/-- Whether others may sign for a contract. -/
def isDelayedContract (name : String) : Storing StorageError Bool :=
  look .isDelayedContract fun db => .ok (db.isDelayed name)

/-- A row. -/
def selectRow (table : String) (id : Int) : Storing StorageError (Option Row) :=
  look .selectRow fun db => .ok (db.row? table id)

/-- Adds a row and gives its id. -/
def insertRow (table : String) (row : Row) : Storing StorageError Int :=
  change .insertRow fun session => session.insertRow table row

/-- Puts cells over those of a row, and gives the row as it was. -/
def updateRow (table : String) (id : Int) (cells : Row) : Storing StorageError Row :=
  change .updateRow fun session => session.updateRow table id cells

/-- Opens a savepoint. -/
def createSavepoint (name : String) : Storing StorageError Unit :=
  call .createSavepoint fun session => (.ok (), session.createSavepoint name)

/-- Goes back to a savepoint. -/
def rollbackTo (name : String) : Storing StorageError Unit :=
  call .rollbackTo fun session =>
    match session.rollbackTo name with
    | .ok session => (.ok (), session)
    | .error e => (.error e, session)

/-- Closes a savepoint. -/
def release (name : String) : Storing StorageError Unit :=
  call .release fun session =>
    match session.release name with
    | .ok session => (.ok (), session)
    | .error e => (.error e, session)

/-- Empties the statement log. This cannot fail. -/
def clearLog {ε : Type} : Storing ε Unit :=
  fun connection => (.ok (), { connection with session := connection.session.clearLog })

end Storing

end Covenant
