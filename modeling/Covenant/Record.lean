import Covenant.Contract
import Covenant.Json.Shape

/-!
# Stored records

The records that a node keeps in storage, and their JSON forms: contract sources, keys with their
balances, tables with their permissions, and parameters of ecosystems.
-/

namespace Covenant

/-- A contract source. -/
structure ContractRecord where
  id : Int
  ecosystemId : Int
  /-- The source. -/
  value : String
  walletId : Int
  tokenId : Int
  active : Bool
  /-- Who may change the record. -/
  conditions : String
  /-- The application that the contract belongs to. -/
  appId : Int
  deriving DecidableEq, Repr

namespace ContractRecord

/-- What the contracts of the source take over. -/
def owner (record : ContractRecord) : Ownership :=
  ⟨record.ecosystemId, record.id, record.walletId, record.tokenId, record.active⟩

/-- The JSON form. -/
def toJson (record : ContractRecord) : Json :=
  .object [("id", .int record.id), ("ecosystem_id", .int record.ecosystemId),
    ("value", .string record.value), ("wallet_id", .int record.walletId),
    ("token_id", .int record.tokenId), ("active", .bool record.active),
    ("conditions", .string record.conditions), ("app_id", .int record.appId)]

/-- Reads the JSON form. -/
def read : Json.Reader ContractRecord := fun j => do
  let found ← Json.collect
    [.needed "id" Json.readInt, .needed "ecosystem_id" Json.readInt,
      .needed "value" Json.readText, .needed "wallet_id" Json.readInt,
      .needed "token_id" Json.readInt, .needed "active" Json.readBool,
      .needed "conditions" Json.readText, .needed "app_id" Json.readInt] j
  let id ← Json.fieldOf found "id" Json.readInt
  let ecosystemId ← Json.fieldOf found "ecosystem_id" Json.readInt
  let value ← Json.fieldOf found "value" Json.readText
  let walletId ← Json.fieldOf found "wallet_id" Json.readInt
  let tokenId ← Json.fieldOf found "token_id" Json.readInt
  let active ← Json.fieldOf found "active" Json.readBool
  let conditions ← Json.fieldOf found "conditions" Json.readText
  let appId ← Json.fieldOf found "app_id" Json.readInt
  return { id, ecosystemId, value, walletId, tokenId, active, conditions, appId }

end ContractRecord

/-- A key of an ecosystem and its balance. -/
structure KeyRecord where
  id : Int
  ecosystemId : Int
  /-- The account in the form that people see. -/
  account : String
  /-- The public key; empty while none is bound. -/
  publicKey : List UInt8
  /-- The balance. -/
  amount : Int
  /-- The key may not sign. -/
  disabled : Bool
  deriving DecidableEq, Repr

namespace KeyRecord

/-- The JSON form. -/
def toJson (key : KeyRecord) : Json :=
  .object [("id", .int key.id), ("ecosystem_id", .int key.ecosystemId),
    ("account", .string key.account), ("public_key", .string (Text.hexOfBytes key.publicKey)),
    ("amount", .int key.amount), ("disabled", .bool key.disabled)]

/-- Reads the JSON form. -/
def read : Json.Reader KeyRecord := fun j => do
  let found ← Json.collect
    [.needed "id" Json.readInt, .needed "ecosystem_id" Json.readInt,
      .needed "account" Json.readText, .needed "public_key" Json.readHex,
      .needed "amount" Json.readInt, .needed "disabled" Json.readBool] j
  let id ← Json.fieldOf found "id" Json.readInt
  let ecosystemId ← Json.fieldOf found "ecosystem_id" Json.readInt
  let account ← Json.fieldOf found "account" Json.readText
  let publicKey ← Json.fieldOf found "public_key" Json.readHex
  let amount ← Json.fieldOf found "amount" Json.readInt
  let disabled ← Json.fieldOf found "disabled" Json.readBool
  return { id, ecosystemId, account, publicKey, amount, disabled }

end KeyRecord

/-- What a table permission is asked for. -/
inductive TableAction where
  | insert
  | update
  | read
  | newColumn
  deriving DecidableEq, Repr

namespace TableAction

/-- The key of the action among a table's permissions. -/
def name : TableAction → String
  | .insert => "insert"
  | .update => "update"
  | .read => "read"
  | .newColumn => "new_column"

/-- The action changes the table. -/
def isWrite : TableAction → Bool
  | .read => false
  | _ => true

end TableAction

/-- The permissions of a table. -/
structure TableRecord where
  /-- The name without a number. -/
  name : String
  /-- Conditions under the names of actions. -/
  permissions : Dict String String
  /-- Rules under the names of columns. -/
  columns : Dict String String
  deriving DecidableEq, Repr

namespace TableRecord

/-- The condition for an action, empty if there is none. -/
def permission (table : TableRecord) (action : TableAction) : String :=
  (Dict.find? action.name table.permissions).getD ""

/-- Texts under texts, in JSON. -/
def textsToJson (texts : Dict String String) : Json :=
  .object (texts.map fun entry => (entry.1, .string entry.2))

/-- The JSON form. -/
def toJson (table : TableRecord) : Json :=
  .object [("name", .string table.name), ("permissions", textsToJson table.permissions),
    ("columns", textsToJson table.columns)]

/-- Reads the JSON form. -/
def read : Json.Reader TableRecord := fun j => do
  let readTexts := Json.readDict Json.readText
  let found ← Json.collect
    [.needed "name" Json.readText, .needed "permissions" readTexts,
      .needed "columns" readTexts] j
  let name ← Json.fieldOf found "name" Json.readText
  let permissions ← Json.fieldOf found "permissions" readTexts
  let columns ← Json.fieldOf found "columns" readTexts
  return { name, permissions, columns }

end TableRecord

/-- A parameter of an ecosystem. -/
structure ParameterRecord where
  name : String
  value : String
  /-- Who may change the parameter. -/
  conditions : String
  deriving DecidableEq, Repr

namespace ParameterRecord

/-- A parameter without content. -/
def empty : ParameterRecord := ⟨"", "", ""⟩

/-- The JSON form. -/
def toJson (parameter : ParameterRecord) : Json :=
  .object [("name", .string parameter.name), ("value", .string parameter.value),
    ("conditions", .string parameter.conditions)]

/-- Reads the JSON form. -/
def read : Json.Reader ParameterRecord := fun j => do
  let found ← Json.collect
    [.needed "name" Json.readText, .needed "value" Json.readText,
      .needed "conditions" Json.readText] j
  let name ← Json.fieldOf found "name" Json.readText
  let value ← Json.fieldOf found "value" Json.readText
  let conditions ← Json.fieldOf found "conditions" Json.readText
  return { name, value, conditions }

end ParameterRecord

end Covenant
