import Covenant.Registry.Basic
import Covenant.Script.Source
import Covenant.Storage.Database
import Covenant.Storage.Failure

/-!
# Loading contracts

How contract sources come into the registry. Sources are read page by page. The names of all sources
are collected first, so that a contract may call one of a later page; then each page is compiled and
registered as a whole. A record whose contracts are registered is passed over.
-/

namespace Covenant.Registry

/-- How a registry is loaded. -/
structure LoadSettings where
  /-- The number of records read at a time; zero counts as one. -/
  pageSize : Nat
  /-- The source of the system's functions. -/
  systemSource : String

/-- What a load changes: the registry, and the failures ahead of it. -/
structure LoadState where
  registry : Registry
  failures : Failures

/-- Computations that load contracts. -/
abbrev Loading (α : Type) :=
  ExceptT RegistryError (StateM LoadState) α

/-- The full name of a unit. Functions have no ecosystem. -/
def unitName (ecosystem : Int) (unit : SourceUnit) : String :=
  match unit.kind with
  | .contract => ContractName.qualify ecosystem unit.name
  | .function => unit.name

/-- Registers a function under its name. -/
def addFunction (registry : Registry) (name : String) : Registry :=
  { registry with
    objects := registry.objects ++ [.function name]
    byName := Assoc.insert name registry.size registry.byName }

/-- Registers a contract. -/
def addContract (registry : Registry) (owner : Ownership) (name : String) (unit : SourceUnit) :
    Registry :=
  let index := registry.size
  let places := (Assoc.find? owner.tableId registry.byTable).getD []
  { registry with
    objects := registry.objects ++ [.contract
      { id := index, name, owner, fields := unit.fields, used := unit.used,
        program := unit.methods }]
    byName := Assoc.insert name index registry.byName
    byTable := Assoc.insert owner.tableId (places ++ [index]) registry.byTable }

/-- Registers a unit of a record. -/
def addUnit (owner : Ownership) (registry : Registry) (unit : SourceUnit) : Registry :=
  let name := unitName owner.ecosystemId unit
  match unit.kind with
  | .contract => registry.addContract owner name unit
  | .function => registry.addFunction name

/-- A record that is compiled. -/
structure StagedRecord where
  owner : Ownership
  units : List SourceUnit

/-- The full names of the units of records, in order. -/
def stagedNames (staged : List StagedRecord) : List String :=
  staged.flatMap fun record => record.units.map (unitName record.owner.ecosystemId)

/-- The first name that is taken, by an object of the registry or by an earlier one of the list. -/
def firstTaken? (registry : Registry) (seen : List String) : List String → Option String
  | [] => none
  | name :: rest =>
    if (Assoc.find? name registry.byName).isSome || seen.contains name then some name
    else firstTaken? registry (name :: seen) rest

/-- Registers all units of records. -/
def addStaged (registry : Registry) (staged : List StagedRecord) : Registry :=
  staged.foldl (fun registry record => record.units.foldl (addUnit record.owner) registry) registry

/-- The number of contracts among the units of records. -/
def contractCount (staged : List StagedRecord) : Nat :=
  (staged.flatMap fun record => record.units.filter (·.kind = .contract)).length

/-- Registers the units of records if no name is taken, and gives the number of contracts. -/
def register (registry : Registry) (staged : List StagedRecord) :
    Except RegistryError (Nat × Registry) :=
  match registry.firstTaken? [] (stagedNames staged) with
  | some name => .error (.duplicate name)
  | none => .ok (contractCount staged, registry.addStaged staged)

/-- The names that the sources of records declare; loaded records are passed over. -/
def pendingNames (loaded : List Int) : List ContractRecord → Except RegistryError (List String)
  | [] => .ok []
  | record :: rest =>
    if loaded.contains record.id then pendingNames loaded rest
    else
      match Script.contractNames record.ecosystemId record.value with
      | .error e => .error (.compile record.id "" e)
      | .ok names => (pendingNames loaded rest).map (names ++ ·)

/-- The error for a source that does not compile, with the names that can be found in it. -/
def compileFailure (record : ContractRecord) (cause : CompileError) : RegistryError :=
  let names := match Script.contractNames record.ecosystemId record.value with
    | .ok names => names
    | .error _ => []
  .compile record.id (",".intercalate names) cause

/-- Compiles the sources of records; loaded records are passed over. -/
def stage (isKnown : String → Bool) (loaded : List Int) :
    List ContractRecord → Except RegistryError (List StagedRecord)
  | [] => .ok []
  | record :: rest =>
    if loaded.contains record.id then stage isKnown loaded rest
    else
      match Script.compile record.ecosystemId isKnown record.value with
      | .error e => .error (compileFailure record e)
      | .ok units => (stage isKnown loaded rest).map (⟨record.owner, units⟩ :: ·)

/-- Compiles and registers records. Contracts may call those of the registry, those of their own
source, and those named in `forward`. -/
def loadRecords (registry : Registry) (forward : List String) (records : List ContractRecord) :
    Except RegistryError (Nat × Registry) :=
  match stage (fun name => registry.hasContract name || forward.contains name)
      registry.loadedTables records with
  | .error e => .error e
  | .ok staged => registry.register staged

/-- Compiles and registers the functions of the system. -/
def addSystemFunctions (registry : Registry) (source : String) : Except RegistryError Registry :=
  match Script.compile 0 (fun _ => false) source with
  | .error e => .error (.systemFunctions e)
  | .ok units =>
    let registry := units.foldl (fun registry unit => registry.addFunction unit.name) registry
    .ok { registry with shift := some registry.size }

namespace Loading

/-- A result that changes nothing. -/
def ofExcept {α : Type} : Except RegistryError α → Loading α
  | .ok a => pure a
  | .error e => throw e

/-- Reads from the contract sources, which may fail. -/
def look {α : Type} (call : StorageCall) (a : α) : Loading α :=
  fun state =>
    let failures := state.failures.count call
    match state.failures.next call with
    | some e => (.error (.storage e), { state with failures })
    | none => (.ok a, { state with failures })

/-- The registry as it is. -/
def registry : Loading Registry :=
  fun state => (.ok state.registry, state)

/-- Replaces the registry. -/
def setRegistry (registry : Registry) : Loading Unit :=
  fun state => (.ok (), { state with registry })

/-- Makes sure that the functions of the system are registered. -/
def ensureSystem (source : String) : Loading Unit := do
  let old ← registry
  if old.shift.isSome then pure ()
  else setRegistry (← ofExcept (old.addSystemFunctions source))

/-- Visits the pages of the contract sources from a place on, by `fuel` at most, and carries a
result from page to page. -/
def visitPages {α : Type} (db : Database) (pageSize total : Nat)
    (visit : List ContractRecord → α → Loading α) : (fuel offset : Nat) → α → Loading α
  | 0, _, a => pure a
  | fuel + 1, offset, a =>
    if offset < total then do
      let page ← look .pagedList (db.contractPage offset (max pageSize 1))
      if page.isEmpty then pure a
      else
        let a ← visit page a
        visitPages db pageSize total visit fuel (offset + page.length) a
    else pure a

/-- Compiles and registers records, and gives the number of contracts. -/
def loadPage (forward : List String) (records : List ContractRecord) (count : Nat) :
    Loading Nat := do
  let (more, new) ← ofExcept ((← registry).loadRecords forward records)
  setRegistry new
  return count + more

/-- Loads all contract sources and gives the number of contracts that are new. -/
def all (settings : LoadSettings) (db : Database) : Loading Nat := do
  ensureSystem settings.systemSource
  let total ← look .count db.contracts.length
  let loaded := (← registry).loadedTables
  let forward ← visitPages db settings.pageSize total
    (fun page names => do return names ++ (← ofExcept (pendingNames loaded page))) total 0 []
  visitPages db settings.pageSize total (loadPage forward) total 0 0

/-- Loads the contract sources of an ecosystem and gives the number of contracts that are new. -/
def ofEcosystem (settings : LoadSettings) (db : Database) (ecosystem : Int) : Loading Nat := do
  ensureSystem settings.systemSource
  let records ← look .listByEcosystem (db.contractsOf ecosystem)
  let loaded := (← registry).loadedTables
  let forward ← ofExcept (pendingNames loaded records)
  loadPage forward records 0

end Loading

end Covenant.Registry
