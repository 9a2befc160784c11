import Covenant.Account
import Covenant.Contract
import Covenant.Json.Shape
import Covenant.Name

/-!
# The registry of contracts

All compiled objects of a node in the order in which they were registered, with an index by full
name and one by the record that an object comes from. Places are never given to another object. The
functions of the system come first; their number is the shift of the registry.
-/

namespace Covenant

/-- An object of the registry. -/
inductive RegistryObject where
  /-- A function, of which only the name is kept. -/
  | function (name : String)
  | contract (contract : Contract)
  deriving DecidableEq, Repr

/-- The contract that an object is, if it is one. -/
def RegistryObject.contract? : RegistryObject → Option Contract
  | .function _ => none
  | .contract c => some c

/-- The registered objects and their indexes. -/
structure Registry where
  objects : List RegistryObject
  /-- Places by full name. -/
  byName : Assoc String Nat
  /-- The places of the contracts of a record. -/
  byTable : Assoc Int (List Nat)
  /-- The number of functions of the system, once they are there. -/
  shift : Option Nat
  deriving DecidableEq, Repr

/-- A contract as clients see it. -/
structure ContractInfo where
  /-- The displayed id. -/
  id : Int
  ecosystem : Int
  active : Bool
  tableId : String
  walletId : String
  tokenId : String
  /-- The account of the wallet. -/
  address : String
  fields : List FieldDeclaration
  name : String
  deriving DecidableEq, Repr

namespace Registry

/-- Nothing is registered. -/
def empty : Registry := ⟨[], [], [], none⟩

instance : Inhabited Registry := ⟨empty⟩

/-- The number of objects. -/
def size (registry : Registry) : Nat :=
  registry.objects.length

/-- The contract at a place, if there is one. -/
def contractAt? (registry : Registry) (index : Nat) : Option Contract :=
  registry.objects[index]?.bind RegistryObject.contract?

/-- All contracts, in the order of their registration. -/
def contracts (registry : Registry) : List Contract :=
  registry.objects.filterMap RegistryObject.contract?

/-- The full names of all contracts, sorted. -/
def contractNames (registry : Registry) : List String :=
  registry.contracts.foldl (fun names contract => Dict.insertKey contract.name names) []

/-- A contract has this full name. -/
def hasContract (registry : Registry) (name : String) : Bool :=
  registry.contracts.any (·.name == name)

/-- The records that contracts come from. -/
def loadedTables (registry : Registry) : List Int :=
  registry.byTable.map Prod.fst

/-- How much displayed ids are above the ids of records. -/
def displayOffset : Int := 5000

/-- The contract with a name in an ecosystem. -/
def lookupByName (registry : Registry) (name : String) (ecosystem : Int) : Option Contract :=
  (Assoc.find? (ContractName.qualify ecosystem name) registry.byName).bind registry.contractAt?

/-- The first contract of a record. -/
def lookupByTable (registry : Registry) (tableId : Int) : Option Contract :=
  (Assoc.find? tableId registry.byTable).bind fun places =>
    places.head?.bind fun index =>
      (registry.contractAt? index).filter (·.owner.tableId == tableId)

/-- The contract with an id, which is displayed if it is above the offset and otherwise a place. -/
def lookupById (registry : Registry) (id : Int) : Option Contract :=
  if displayOffset < id then registry.lookupByTable (id - displayOffset)
  else if 0 ≤ id then registry.contractAt? id.toNat
  else none

/-! ## Changes of contracts -/

/-- Changes the ownership of the contract at a place, if it belongs to an ecosystem. -/
def setOwner (ecosystem : Int) (change : Ownership → Ownership) (index : Nat)
    (objects : List RegistryObject) : List RegistryObject :=
  objects.modify index fun object =>
    match object with
    | .contract contract =>
      if contract.owner.ecosystemId = ecosystem then
        .contract { contract with owner := change contract.owner }
      else object
    | .function _ => object

/-- The contracts of a record in an ecosystem. -/
def contractsOfRecord (registry : Registry) (tableId ecosystem : Int) : List Contract :=
  (((Assoc.find? tableId registry.byTable).getD []).filterMap registry.contractAt?).filter
    (·.owner.ecosystemId == ecosystem)

/-- Changes the ownership of all contracts of a record. Gives the ownership of the first as it was,
or nothing if there is no such contract. -/
def changeOwner (registry : Registry) (tableId ecosystem : Int)
    (change : Ownership → Ownership) : Option Ownership × Registry :=
  match (registry.contractsOfRecord tableId ecosystem).head? with
  | none => (none, registry)
  | some first =>
    let places := (Assoc.find? tableId registry.byTable).getD []
    (some first.owner,
      { registry with
        objects := places.foldl (fun objects index => setOwner ecosystem change index objects)
          registry.objects })

/-- Switches the contracts of a record on or off, and gives the flag as it was. -/
def setActive (registry : Registry) (tableId ecosystem : Int) (active : Bool) :
    Option Bool × Registry :=
  let (previous, registry) :=
    registry.changeOwner tableId ecosystem fun owner => { owner with active }
  (previous.map Ownership.active, registry)

/-- Gives the contracts of a record another wallet, and gives the wallet as it was. -/
def reassignWallet (registry : Registry) (tableId ecosystem walletId : Int) :
    Option Int × Registry :=
  let (previous, registry) :=
    registry.changeOwner tableId ecosystem fun owner => { owner with walletId }
  (previous.map Ownership.walletId, registry)

/-! ## Views -/

/-- A contract as clients see it, if the id that they see is a quantity. -/
def info (registry : Registry) (name : String) (ecosystem : Int) : Option ContractInfo := do
  let contract ← registry.lookupByName name ecosystem
  let owner := contract.owner
  let id ← Quantity.sum? owner.tableId displayOffset
  return { id, ecosystem := owner.ecosystemId, active := owner.active,
           tableId := toString owner.tableId, walletId := toString owner.walletId,
           tokenId := toString owner.tokenId, address := Account.ofKeyId owner.walletId,
           fields := contract.fields, name := contract.name }

end Registry

namespace ContractInfo

/-- The JSON form of a declared input. -/
def fieldToJson (field : FieldDeclaration) : Json :=
  .object [("name", .string field.name), ("type", .string field.typeName),
    ("optional", .bool field.optional)]

/-- Reads the JSON form of a declared input. -/
def readField : Json.Reader FieldDeclaration := fun j => do
  let found ← Json.collect
    [.needed "name" Json.readText, .needed "type" Json.readText,
      .needed "optional" Json.readBool] j
  let name ← Json.fieldOf found "name" Json.readText
  let typeName ← Json.fieldOf found "type" Json.readText
  let optional ← Json.fieldOf found "optional" Json.readBool
  return { name, typeName, optional }

/-- The JSON form. -/
def toJson (info : ContractInfo) : Json :=
  .object [("id", .int info.id), ("state", .int info.ecosystem), ("active", .bool info.active),
    ("tableid", .string info.tableId), ("walletid", .string info.walletId),
    ("tokenid", .string info.tokenId), ("address", .string info.address),
    ("fields", .array (info.fields.map fieldToJson)), ("name", .string info.name)]

/-- Reads the JSON form. -/
def read : Json.Reader ContractInfo := fun j => do
  let readFields := Json.readList readField
  let found ← Json.collect
    [.needed "id" Json.readInt, .needed "state" Json.readInt, .needed "active" Json.readBool,
      .needed "tableid" Json.readText, .needed "walletid" Json.readText,
      .needed "tokenid" Json.readText, .needed "address" Json.readText,
      .needed "fields" readFields, .needed "name" Json.readText] j
  let id ← Json.fieldOf found "id" Json.readInt
  let ecosystem ← Json.fieldOf found "state" Json.readInt
  let active ← Json.fieldOf found "active" Json.readBool
  let tableId ← Json.fieldOf found "tableid" Json.readText
  let walletId ← Json.fieldOf found "walletid" Json.readText
  let tokenId ← Json.fieldOf found "tokenid" Json.readText
  let address ← Json.fieldOf found "address" Json.readText
  let fields ← Json.fieldOf found "fields" readFields
  let name ← Json.fieldOf found "name" Json.readText
  return { id, ecosystem, active, tableId, walletId, tokenId, address, fields, name }

end ContractInfo

end Covenant
