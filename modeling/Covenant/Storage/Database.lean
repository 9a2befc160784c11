import Covenant.Error.Basic
import Covenant.Name
import Covenant.Record
import Covenant.Value

/-!
# The database of a node

Contract sources, table rows, table permissions, parameters, and the contracts that others may sign
for. Keys are rows of their ecosystem's keys table, so a balance is a cell like any other.
-/

namespace Covenant

/-- The rows of a table under their ids. -/
abbrev Rows :=
  Dict Int Row

/-- All that a node stores. -/
structure Database where
  /-- Contract sources under their ids. -/
  contracts : Dict Int ContractRecord
  /-- Tables under their full names. -/
  rows : Dict String Rows
  /-- Table permissions under the number of the ecosystem and the table's name. -/
  tables : Assoc (String × String) TableRecord
  /-- Parameters under their ecosystem and name. -/
  parameters : Assoc (Int × String) ParameterRecord
  /-- The contracts that others than the payer may sign for. -/
  delayed : List String

namespace Database

/-- Nothing is stored. -/
def empty : Database := ⟨[], [], [], [], []⟩

instance : Inhabited Database := ⟨empty⟩

/-- The rows of a table; a table that is not there has none. -/
def table (db : Database) (name : String) : Rows :=
  (Dict.find? name db.rows).getD []

/-- A row. -/
def row? (db : Database) (table : String) (id : Int) : Option Row :=
  Dict.find? id (db.table table)

/-- Puts a row in its place. -/
def setRow (db : Database) (table : String) (id : Int) (row : Row) : Database :=
  { db with rows := Dict.insert table (Dict.insert id row (db.table table)) db.rows }

/-- The id of the next row of a table: one more than the greatest, or one. There is none if the greatest
id is the greatest quantity. -/
def nextId? (db : Database) (table : String) : Option Int :=
  match (Dict.keys (db.table table)).max? with
  | some last => Quantity.sum? last 1
  | none => some 1

/-- Stores a contract source. -/
def putContract (db : Database) (record : ContractRecord) : Database :=
  { db with contracts := Dict.insert record.id record db.contracts }

/-- Stores the permissions of a table. -/
def putTable (db : Database) (number : String) (record : TableRecord) : Database :=
  { db with tables := Assoc.insert (number, Text.lowercase record.name) record db.tables }

/-- Stores a parameter. -/
def putParameter (db : Database) (ecosystem : Int) (record : ParameterRecord) : Database :=
  { db with parameters := Assoc.insert (ecosystem, record.name) record db.parameters }

/-- Lets others sign for a contract. -/
def putDelayed (db : Database) (name : String) : Database :=
  { db with delayed := name :: db.delayed }

/-- The permissions of a table. -/
def tableRecord? (db : Database) (number name : String) : Option TableRecord :=
  Assoc.find? (number, Text.lowercase name) db.tables

/-- A parameter. -/
def parameter? (db : Database) (ecosystem : Int) (name : String) : Option ParameterRecord :=
  Assoc.find? (ecosystem, name) db.parameters

/-- Others may sign for the contract. -/
def isDelayed (db : Database) (name : String) : Bool :=
  db.delayed.contains name

/-- The contract sources from a place on, at most `limit` of them. -/
def contractPage (db : Database) (offset limit : Nat) : List ContractRecord :=
  ((db.contracts.drop offset).take limit).map Prod.snd

/-- The contract sources of an ecosystem. -/
def contractsOf (db : Database) (ecosystem : Int) : List ContractRecord :=
  (db.contracts.map Prod.snd).filter (·.ecosystemId == ecosystem)

/-- The public key in a row, if the cell holds one or nothing. -/
def publicKeyOf? (row : Row) : Option (List UInt8) :=
  match Dict.find? "pub" row with
  | some (.bytes key) => some key
  | none | some .null => some []
  | some _ => none

/-- The balance in a row, if the cell holds an integer or is missing. -/
def amountOf? (row : Row) : Option Int :=
  match Dict.find? "amount" row with
  | none => some 0
  | some value => value.asInt?

/-- A key as the row that holds it. -/
def keyRow (key : KeyRecord) : Row :=
  Dict.ofList [("pub", .bytes key.publicKey), ("account", .text key.account),
    ("amount", .int key.amount), ("disabled", .bool key.disabled)]

/-- Reads a key from the row that holds it. -/
def keyOfRow (ecosystem id : Int) (row : Row) : Except StorageError KeyRecord :=
  let bad (column : String) : StorageError :=
    .corrupted (TableName.keys ecosystem) ("key " ++ toString id ++ ": bad " ++ column)
  match publicKeyOf? row with
  | none => .error (bad "pub")
  | some publicKey =>
    match amountOf? row with
    | none => .error (bad "amount")
    | some amount =>
      .ok { id, ecosystemId := ecosystem, publicKey, amount,
            account := ((Dict.find? "account" row).map Value.display).getD "",
            disabled := ((Dict.find? "disabled" row).map Value.isTruthy).getD false }

/-- A key of an ecosystem. -/
def key? (db : Database) (ecosystem id : Int) : Except StorageError (Option KeyRecord) :=
  match db.row? (TableName.keys ecosystem) id with
  | none => .ok none
  | some row => (keyOfRow ecosystem id row).map some

/-- Stores a key. -/
def putKey (db : Database) (key : KeyRecord) : Database :=
  db.setRow (TableName.keys key.ecosystemId) key.id (keyRow key)

end Database

end Covenant
