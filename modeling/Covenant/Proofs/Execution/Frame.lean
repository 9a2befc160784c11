import Covenant.Proofs.Execution.Scripted
import Covenant.Proofs.Registry.Ownership

/-!
# What runs leave alone

A run goes on from state to state without touching what the pipeline relies on: the transaction and
the contract it calls, the savepoints, the schedule of failures, and the registry as it was before
the changes that the run has recorded. Nor does any run notice whether savepoints can be closed.
-/

namespace Covenant

open Stage

/-- The data as the session of the world sees it. -/
def World.data (world : World) : Database :=
  world.connection.session.working

/-- The same world, except that calls of one kind never fail. -/
def World.without (world : World) (call : StorageCall) : World :=
  { world with connection := world.connection.without call }

/-- One context may follow the other before the execution has come to its end: the transaction and
all that was settled before the contract ran are the same. -/
structure ExecutionContext.Continues (ctx next : ExecutionContext) : Prop where
  same : next = { ctx with
    fuel := next.fuel, env := next.env, callStack := next.callStack, rollback := next.rollback,
    notifications := next.notifications, flush := next.flush, state := next.state }
  consumed : 0 ≤ ctx.fuel.consumed → 0 ≤ next.fuel.consumed

namespace ExecutionContext.Continues

variable {ctx next : ExecutionContext}

theorem tx (h : ctx.Continues next) : next.tx = ctx.tx := by
  rw [h.same]

theorem block (h : ctx.Continues next) : next.block = ctx.block := by
  rw [h.same]

theorem contract (h : ctx.Continues next) : next.contract = ctx.contract := by
  rw [h.same]

theorem paymentReserved (h : ctx.Continues next) : next.paymentReserved = ctx.paymentReserved := by
  rw [h.same]

end ExecutionContext.Continues

instance : IsPreorder ExecutionContext ExecutionContext.Continues where
  refl _ := ⟨rfl, id⟩
  trans _ _ _ h k := ⟨k.same.trans (by rw [h.same]), k.consumed ∘ h.consumed⟩

namespace RunState

/-- The same state, except that calls of one kind never fail. -/
def without (s : RunState) (call : StorageCall) : RunState :=
  { s with world := s.world.without call }

/-- The same state with another connection. -/
def on (s : RunState) (connection : Connection) : RunState :=
  { s with world := { s.world with connection } }

/-- The registry before the changes that the execution has recorded. -/
def original (s : RunState) : Registry :=
  Executing.undoChanges s.world.registry s.ctx.flush

/-- One state may follow the other in an execution that has not yet come to its end. -/
structure Continues (s t : RunState) : Prop where
  connection : s.world.connection.Moves Session.SameButRows t.world.connection
  ctx : s.ctx.Continues t.ctx
  coherent : s.world.registry.Coherent → t.world.registry.Coherent
  original : s.world.registry.Coherent → t.original = s.original

instance : IsPreorder RunState Continues where
  refl _ := ⟨Std.Refl.refl _, Std.Refl.refl _, id, fun _ => rfl⟩
  trans _ _ _ hst htu :=
    { connection := IsTrans.trans _ _ _ hst.connection htu.connection
      ctx := IsTrans.trans _ _ _ hst.ctx htu.ctx
      coherent := htu.coherent ∘ hst.coherent
      original := fun h => (htu.original (hst.coherent h)).trans (hst.original h) }

end RunState

namespace Executing

variable {ε ε' α β : Type}

/-- The computation goes on as a run does, and does not notice whether savepoints can be closed. -/
structure Tame (x : Executing ε α) : Prop where
  keeps : Keeps RunState.Continues x
  ignores : Ignores (fun s => s.without .release) x

theorem Tame.pure (a : α) : Tame (Pure.pure a : Executing ε α) :=
  ⟨.pure a, .pure a⟩

theorem Tame.throw (e : ε) : Tame (throw e : Executing ε α) :=
  ⟨.throw e, .throw e⟩

/-- A sequence is tame if its parts are. -/
theorem Tame.bind {x : Executing ε α} {f : α → Executing ε β} (hx : Tame x)
    (hf : ∀ a, Tame (f a)) : Tame (x >>= f) :=
  ⟨hx.keeps.bind fun a => (hf a).keeps, hx.ignores.bind fun a => (hf a).ignores⟩

/-- A computation that gives its error as a result. -/
theorem run_attempt (x : Executing ε α) (s : RunState) :
    (attempt x : Executing ε' _).run s = (.ok (x.run s).1, (x.run s).2) :=
  rfl

theorem attempt_ignores {x : Executing ε α} (hx : Ignores (fun s => s.without .release) x) :
    Ignores (fun s => s.without .release) (attempt x : Executing ε' (Except ε α)) := by
  intro s
  rw [run_attempt, run_attempt, hx s]

/-- What was done before an error counts as well. -/
theorem Tame.attempt {x : Executing ε α} (hx : Tame x) :
    Tame (attempt x : Executing ε' (Except ε α)) :=
  ⟨fun s => hx.keeps s, attempt_ignores hx.ignores⟩

/-- A computation with storage runs on the connection alone. -/
theorem run_storing (toError : ε → ε') (x : Storing ε α) (s : RunState) :
    (storing toError x).run s =
      ((x.run s.world.connection).1.mapError toError, s.on (x.run s.world.connection).2) :=
  rfl

theorem storing_ignores {x : Storing ε α} (hx : Ignores (fun c => c.without .release) x)
    (toError : ε → ε') : Ignores (fun s => s.without .release) (storing toError x) := by
  intro s
  have hsame := hx s.world.connection
  rw [run_storing, run_storing]
  change (Except.mapError toError (x.run (s.world.connection.without .release)).1,
    (s.without .release).on (x.run (s.world.connection.without .release)).2) = _
  rw [hsame]
  rfl

/-- Storage may be used to look around and to write rows. -/
theorem Tame.storing {x : Storing ε α} (hx : x.Within Session.SameButRows) (toError : ε → ε') :
    Tame (storing toError x) :=
  ⟨fun s => ⟨hx.keeps s.world.connection, Std.Refl.refl _, id, fun _ => rfl⟩,
    storing_ignores hx.ignores toError⟩

theorem context_tame : Tame (context : Executing ε ExecutionContext) :=
  ⟨fun _ => Std.Refl.refl _, fun _ => rfl⟩

/-- The context may change as long as registry changes stay recorded. -/
theorem Tame.modifyContext {f : ExecutionContext → ExecutionContext}
    (hf : ∀ ctx : ExecutionContext, ctx.Continues (f ctx))
    (hflush : ∀ ctx, (f ctx).flush = ctx.flush) :
    Tame (modifyContext f : Executing ε Unit) where
  keeps s :=
    { connection := Std.Refl.refl _
      ctx := hf s.ctx
      coherent := id
      original := fun _ => congrArg (undoChanges s.world.registry) (hflush s.ctx) }
  ignores _ := rfl

end Executing

namespace Run

open Executing

variable {params : SystemParameters} {α : Type}

/-- A check of access only looks around. -/
theorem checking_tame {check : ExecutionContext → Storing AccessError α}
    (hcheck : ∀ ctx, (check ctx).Looks) : Tame (checking check) :=
  context_tame.bind fun ctx => Tame.storing (hcheck ctx).leaves _

theorem checkWrite_tame (table : String) (action : TableAction) (cells : Row) :
    Tame (checkWrite params table action cells) :=
  (checking_tame fun ctx => Access.checkTable_looks params ctx table action).bind fun _ =>
    (checking_tame fun ctx => Access.checkColumns_looks params ctx table _ true).bind fun _ =>
      .pure _

theorem modifyContext_tame {f : ExecutionContext → ExecutionContext}
    (hf : ∀ ctx : ExecutionContext, ctx.Continues (f ctx))
    (hflush : ∀ ctx, (f ctx).flush = ctx.flush) :
    Tame (modifyContext f) :=
  Tame.modifyContext hf hflush

theorem modifyEnv_tame (f : Environment → Environment) : Tame (modifyEnv f) :=
  modifyContext_tame (fun _ => ⟨rfl, id⟩) fun _ => rfl

theorem remember_tame (record : RollbackRecord) : Tame (remember record) :=
  modifyContext_tame (fun _ => ⟨rfl, id⟩) fun _ => rfl

theorem charge_tame (amount : Int) : Tame (charge amount) :=
  (modifyEnv_tame _).bind fun _ => context_tame.bind fun ctx => by
    dsimp only
    split
    · exact .throw _
    · exact .pure _

theorem insertRow_tame (table : String) (cells : Row) : Tame (insertRow params table cells) :=
  context_tame.bind fun _ => (checkWrite_tame _ _ _).bind fun _ =>
    (Tame.storing (Storing.insertRow_within _ _) _).bind fun _ =>
      (remember_tame _).bind fun _ => .pure _

theorem updateRow_tame (table : String) (id : Int) (cells : Row) :
    Tame (updateRow params table id cells) :=
  context_tame.bind fun _ => (checkWrite_tame _ _ _).bind fun _ =>
    (Tame.storing (Storing.updateRow_within _ _ _) _).bind fun _ => remember_tame _

theorem selectRow_tame (table : String) (id : Int) (columns : List String) :
    Tame (selectRow params table id columns) :=
  (checking_tame fun ctx => Access.checkRead_looks params ctx table _ _).bind fun _ =>
    (Tame.storing (Storing.selectRow_looks _ _).leaves _).bind fun _ => .pure _

theorem notify_tame (keyId : Int) (payload : String) : Tame (notify keyId payload) :=
  modifyContext_tame (fun _ => ⟨rfl, id⟩) fun _ => rfl

/-- The latest change is the first one to be taken back. -/
theorem undoChanges_append (registry : Registry) (flush : List FlushEntry) (entry : FlushEntry) :
    undoChanges registry (flush ++ [entry]) = undoChanges (undoChange registry entry) flush := by
  simp [undoChanges]

/-- A registry change may be made if the value that it records is enough to take it back. -/
theorem changeContracts_tame {tableId ecosystem : Int} {change : Registry → Option α × Registry}
    {undo : α → FlushChange}
    (hchange : ∀ (registry changed : Registry) (previous : α), registry.Coherent →
      change registry = (some previous, changed) →
        changed.Coherent ∧ undoChange changed ⟨tableId, ecosystem, undo previous⟩ = registry) :
    Tame (changeContracts tableId ecosystem change undo) where
  keeps s := by
    have hread : registry.run s = (.ok s.world.registry, s) := rfl
    rw [changeContracts, run_bind_of_ok hread]
    rcases h : change s.world.registry with ⟨_ | previous, changed⟩
    · exact Std.Refl.refl _
    · refine ⟨Std.Refl.refl _, ⟨rfl, id⟩, fun hs => (hchange _ _ _ hs h).1, fun hs => ?_⟩
      change undoChanges changed (s.ctx.flush ++ [_]) = undoChanges s.world.registry s.ctx.flush
      rw [undoChanges_append, (hchange _ _ _ hs h).2]
  ignores s := by
    have hread : registry.run s = (.ok s.world.registry, s) := rfl
    have hread' : registry.run (s.without .release) =
        (.ok s.world.registry, s.without .release) := rfl
    rw [changeContracts, run_bind_of_ok hread, run_bind_of_ok hread']
    rcases change s.world.registry with ⟨_ | previous, changed⟩
    · rfl
    · rfl

theorem activate_tame (tableId ecosystem : Int) (active : Bool) :
    Tame (activate tableId ecosystem active) :=
  changeContracts_tame fun _ _ _ hregistry h => hregistry.setActive h

theorem setWallet_tame (tableId ecosystem wallet : Int) :
    Tame (setWallet tableId ecosystem wallet) :=
  changeContracts_tame fun _ _ _ hregistry h => hregistry.reassignWallet h

/-! ## Calls -/

theorem attempt_tame {x : Run α} (hx : Tame x) : Tame (attempt x) :=
  Tame.attempt hx

theorem enter_tame (name : String) : Tame (enter name) :=
  context_tame.bind fun ctx => by
    split
    · exact .throw _
    · exact modifyContext_tame (fun _ => ⟨rfl, id⟩) fun _ => rfl

theorem leave_tame (name : String) : Tame (leave name) :=
  modifyContext_tame (fun _ => ⟨rfl, id⟩) fun _ => rfl

theorem observe_tame (view : ExecutionContext → Registry → Nat → α) : Tame (observe view) :=
  ⟨fun _ => Std.Refl.refl _, fun _ => rfl⟩

theorem setClock_tame (clock : Nat) : Tame (setClock clock) :=
  ⟨fun _ => ⟨Std.Refl.refl _, Std.Refl.refl _, id, fun _ => rfl⟩, fun _ => rfl⟩

theorem ofExcept_tame (r : Except RuntimeError α) : Tame (ofExcept r) := by
  cases r with
  | ok a => exact .pure a
  | error e => exact .throw e

theorem callee_tame (target : String) : Tame (callee target) :=
  (observe_tame fun ctx _ _ => ctx).bind fun ctx =>
    (observe_tame fun _ registry _ => registry).bind fun registry => by
      split
      · exact .pure _
      · exact .throw _

/-- A call does what its body does; entering and leaving concern the environment only. -/
theorem nested_tame {body : Run Unit} (hbody : Tame body) (contract : Contract) (fields : Row) :
    Tame (nested contract fields body) :=
  (enter_tame _).bind fun _ => (observe_tame fun ctx _ _ => ctx.env).bind fun caller =>
    (modifyEnv_tame _).bind fun _ => (attempt_tame hbody).bind fun outcome =>
      (observe_tame fun ctx _ _ => ctx.env).bind fun left => (modifyEnv_tame _).bind fun _ =>
        (leave_tame _).bind fun _ => by
          cases outcome with
          | ok u => exact .pure _
          | error e => exact .throw e

/-- Whatever a script does, it goes on as a run does. -/
theorem Scripted.tame {x : Run α} (h : Scripted params x) : Tame x := by
  induction h with
  | pure a => exact .pure a
  | throw e => exact .throw e
  | bind _ _ hx hf => exact hx.bind hf
  | observe view => exact observe_tame view
  | setClock clock => exact setClock_tame clock
  | charge amount => exact charge_tame amount
  | setSlot value _ => exact modifyEnv_tame _
  | insertRow table cells => exact insertRow_tame table cells
  | updateRow table id cells => exact updateRow_tame table id cells
  | selectRow table id columns => exact selectRow_tame table id columns
  | checkCondition param useConditions =>
    exact checking_tame fun ctx => Access.checkCondition_looks params ctx param useConditions
  | activate tableId ecosystem active => exact activate_tame tableId ecosystem active
  | setWallet tableId ecosystem wallet => exact setWallet_tame tableId ecosystem wallet
  | notify keyId payload => exact notify_tame keyId payload
  | call target fields _ hbody =>
    exact (callee_tame target).bind fun contract => nested_tame (hbody contract) contract fields

theorem advance_tame (state : ExecutionState) : Tame (advance state) :=
  modifyContext_tame (fun _ => ⟨rfl, id⟩) fun _ => rfl

theorem renderResult_tame : Tame renderResult :=
  (observe_tame fun ctx _ _ => ctx.env).bind fun env => by
    split
    · exact .pure _
    · exact .throw _

theorem invoke_tame (node : Node) : Tame (invoke node) :=
  (observe_tame fun ctx _ _ => ctx).bind fun _ => (enter_tame _).bind fun _ =>
    (advance_tame _).bind fun _ => (attempt_tame (runTarget_scripted node _).tame).bind fun _ =>
      (leave_tame _).bind fun _ => (advance_tame _).bind fun _ => (ofExcept_tame _).bind fun _ =>
        renderResult_tame

end Run

namespace Executing

variable {ε : Type}

private theorem consumed_record_nonneg {ledger : FuelLedger} (before remaining : Int)
    (h : 0 ≤ ledger.consumed) : 0 ≤ (ledger.record before remaining).consumed := by
  have hspent : 0 ≤ Fuel.spent before remaining := by
    unfold Fuel.spent
    split <;> omega
  exact Quantity.clamp_nonneg (by omega)

/-- Running the contract of a transaction is tame, whatever the contract does. -/
theorem invoke_tame (node : Node) : Tame (invoke node : Executing ε _) :=
  .bind (Run.invoke_tame node).attempt fun _ =>
    .bind (.modifyContext (fun _ => ⟨rfl, consumed_record_nonneg _ _⟩) fun _ => rfl) fun _ => .pure _

/-- Paying is tame, also where it ends early. -/
theorem settle_tame (node : Node) (mode : PaymentMode) : Tame (settle node mode : Executing ε _) :=
  context_tame.bind fun ctx =>
    (Tame.storing (Payment.settle_within node.fees ctx mode) _).attempt

end Executing

end Covenant
