import Covenant.Registry.Load
import Covenant.Service.Message

/-!
# The service of a node

A node answers messages one after the other. Every message gets a storage session of its own, which
is published unless the transaction is rejected. Registry changes of an accepted transaction stay
also if publishing fails, since the registry is not part of storage.
-/

namespace Covenant

/-- The settings of a service. -/
structure ServiceConfig where
  params : SystemParameters
  /-- The number of contract sources read at a time. -/
  pageSize : Nat
  /-- The service counts what it does. -/
  collectStats : Bool

namespace ServiceConfig

/-- The page size of a service that sets none. -/
def defaultPageSize : Nat := 200

/-- The first setting that is out of range, if any. -/
def validate (config : ServiceConfig) : Except ConfigError Unit :=
  if config.pageSize = 0 then .error (.outOfRange "page_size" "positive" 0)
  else config.params.validate

end ServiceConfig

/-- What a service has done so far. -/
structure ServiceStats where
  executed : Nat
  committed : Nat
  feeCharged : Nat
  rejected : Nat
  /-- The fuel that accepted transactions spent. -/
  totalFuel : Nat
  deriving DecidableEq, Repr

namespace ServiceStats

/-- Nothing has been done. -/
def zero : ServiceStats := ⟨0, 0, 0, 0, 0⟩

/-- The greatest total that is counted. -/
def greatestFuel : Nat := 18446744073709551615

/-- Counts an execution. -/
def record (stats : ServiceStats) (result : Except ExecutionError ExecutionOutcome) :
    ServiceStats :=
  let stats := { stats with executed := stats.executed + 1 }
  match result with
  | .error _ => { stats with rejected := stats.rejected + 1 }
  | .ok outcome =>
    let totalFuel := min (stats.totalFuel + outcome.fuelUsed.toNat) greatestFuel
    match outcome.status with
    | .committed => { stats with committed := stats.committed + 1, totalFuel }
    | .feeCharged => { stats with feeCharged := stats.feeCharged + 1, totalFuel }

end ServiceStats

/-- A service: the node that executes, and how contracts are loaded. -/
structure Service where
  node : Node
  loading : Registry.LoadSettings
  /-- The service counts what it does. -/
  collectStats : Bool

/-- What a service works on. -/
structure ServiceState where
  /-- The published data. -/
  database : Database
  registry : Registry
  /-- The failures that storage has ahead. -/
  failures : Failures
  /-- The time in milliseconds. -/
  clock : Nat
  stats : ServiceStats

namespace ServiceState

/-- Nothing is stored, loaded or done. -/
def empty : ServiceState := ⟨.empty, .empty, .none, 0, .zero⟩

/-- The world of an execution that works on a session. -/
def world (state : ServiceState) (session : Session) : World :=
  ⟨⟨session, state.failures⟩, state.registry, state.clock⟩

/-- The state after an execution, before its session is published. -/
def resume (state : ServiceState) (world : World) : ServiceState :=
  { state with
    registry := world.registry, failures := world.connection.failures, clock := world.clock }

/-- Makes a call that does nothing but fail if a failure is due. -/
def attempt (state : ServiceState) (call : StorageCall) :
    Except StorageError Unit × ServiceState :=
  let result := match state.failures.next call with
    | some e => .error e
    | none => .ok ()
  (result, { state with failures := state.failures.count call })

/-- Publishes a session, unless that fails. -/
def publish (state : ServiceState) (session : Session) : Except StorageError Unit × ServiceState :=
  match state.attempt .commit with
  | (.error e, state) => (.error e, state)
  | (.ok (), state) => (.ok (), { state with database := session.published })

/-- Loads contracts. -/
def load {α : Type} (state : ServiceState) (loading : Registry.Loading α) :
    Except RegistryError α × ServiceState :=
  let (result, loaded) := loading.run ⟨state.registry, state.failures⟩
  (result, { state with registry := loaded.registry, failures := loaded.failures })

end ServiceState

namespace Service

/-- Executes a transaction in a session of its own. -/
def execute (service : Service) (request : ExecutionRequest) (state : ServiceState) :
    Except ExecutionError ExecutionOutcome × ServiceState :=
  match state.attempt .begin with
  | (.error e, state) => (.error (.storage e), state)
  | (.ok (), state) =>
    let (result, world) := service.node.execute request (state.world (.begin state.database))
    let state := state.resume world
    match result with
    | .error e => (.error e, state)
    | .ok outcome =>
      let (published, state) := state.publish world.connection.session
      match published with
      | .error e => (.error (.storage e), state)
      | .ok () => (.ok outcome, state)

/-- Answers a message. -/
def handle (service : Service) (message : ExecutionMessage) (state : ServiceState) :
    ExecutionReply × ServiceState :=
  let (result, state) := service.execute message.request state
  let state :=
    if service.collectStats then { state with stats := state.stats.record result } else state
  (.ofResult message.tx.hash result, state)

/-- Loads all contracts and gives the number of those that are new. -/
def loadAll (service : Service) (state : ServiceState) : Except RegistryError Nat × ServiceState :=
  state.load (Registry.Loading.all service.loading state.database)

/-- Loads the contracts of an ecosystem and gives the number of those that are new. -/
def loadEcosystem (service : Service) (ecosystem : Int) (state : ServiceState) :
    Except RegistryError Nat × ServiceState :=
  state.load (Registry.Loading.ofEcosystem service.loading state.database ecosystem)

end Service

end Covenant
