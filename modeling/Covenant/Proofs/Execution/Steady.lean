import Covenant.Proofs.Execution.Prepare
import Covenant.Proofs.Storage.Steady

/-!
# Executions and the calls that fail

Nothing but storage can fail by schedule. Runs, payments and checks make calls about what is stored;
only the pipeline opens, goes back to and closes savepoints. Runs and payments are steady: where they
have met no failure, they do the same on a storage that never fails.
-/

namespace Covenant

open Stage

instance : Calling World where
  failures w := w.connection.failures
  calm w := { w with connection := Calling.calm w.connection }

instance : Calling RunState where
  failures s := s.world.connection.failures
  calm s := { s with world := Calling.calm s.world }

namespace Executing

variable {ε ε' α : Type}

/-- What does not look at the connection makes no calls. -/
theorem working_of_on {x : Executing ε α}
    (h : ∀ s connection, x.run (s.on connection) = ((x.run s).1, (x.run s).2.on connection)) :
    Working x := by
  have hkept : ∀ s, (x.run s).2.world.connection = s.world.connection := by
    intro s
    have hsame : (x.run s).2 = (x.run s).2.on s.world.connection :=
      congrArg Prod.snd (h s s.world.connection)
    rw [hsame]
    rfl
  refine .of_failures (fun s => congrArg Connection.failures (hkept s)) fun s => ?_
  refine (h s (Calling.calm s.world.connection)).trans ?_
  rw [← hkept s]
  rfl

/-- A computation with storage is as steady as it is on the connection alone. -/
theorem storing_steady {x : Storing ε α} {s : RunState} (hx : Steady x s.world.connection)
    (toError : ε → ε') : Steady (storing toError x) s := by
  refine ⟨hx.later, fun hnone => ?_⟩
  have hcalm := hx.calm hnone
  rw [run_storing, run_storing]
  change (Except.mapError toError (x.run (Calling.calm s.world.connection)).1,
    s.on (x.run (Calling.calm s.world.connection)).2) = _
  rw [hcalm]
  rfl

theorem storing_working {x : Storing ε α} (hx : Working x) (toError : ε → ε') :
    Working (storing toError x) :=
  ⟨fun s => storing_steady (hx.steady s.world.connection) toError,
    fun s => hx.plain s.world.connection⟩

theorem context_working : Working (context : Executing ε ExecutionContext) :=
  working_of_on fun _ _ => rfl

theorem modifyContext_working (f : ExecutionContext → ExecutionContext) :
    Working (modifyContext f : Executing ε Unit) :=
  working_of_on fun _ _ => rfl

theorem attempt_working {x : Executing ε α} (hx : Working x) :
    Working (attempt x : Executing ε' (Except ε α)) :=
  hx.of_run Except.ok (run_attempt x)

end Executing

namespace Run

open Executing

variable {params : SystemParameters} {α : Type}

theorem observe_working (view : ExecutionContext → Registry → Nat → α) : Working (observe view) :=
  working_of_on fun _ _ => rfl

theorem modifyContext_working (f : ExecutionContext → ExecutionContext) :
    Working (modifyContext f) :=
  Executing.modifyContext_working f

theorem modifyEnv_working (f : Environment → Environment) : Working (modifyEnv f) :=
  modifyContext_working _

theorem checking_working {check : ExecutionContext → Storing AccessError α}
    (hcheck : ∀ ctx, (check ctx).Looks) : Working (checking check) :=
  context_working.bind fun ctx => storing_working (hcheck ctx).working _

theorem checkWrite_working (table : String) (action : TableAction) (cells : Row) :
    Working (checkWrite params table action cells) :=
  (checking_working fun ctx => Access.checkTable_looks params ctx table action).bind fun _ =>
    (checking_working fun ctx => Access.checkColumns_looks params ctx table _ true).bind fun _ =>
      .pure _

theorem charge_working (amount : Int) : Working (charge amount) :=
  (modifyEnv_working _).bind fun _ => context_working.bind fun ctx => by
    dsimp only
    split
    · exact .throw _
    · exact .pure _

theorem insertRow_working (table : String) (cells : Row) :
    Working (insertRow params table cells) :=
  context_working.bind fun _ => (checkWrite_working _ _ _).bind fun _ =>
    (storing_working (Storing.insertRow_within _ _).working _).bind fun _ =>
      (modifyContext_working _).bind fun _ => .pure _

theorem updateRow_working (table : String) (id : Int) (cells : Row) :
    Working (updateRow params table id cells) :=
  context_working.bind fun _ => (checkWrite_working _ _ _).bind fun _ =>
    (storing_working (Storing.updateRow_within _ _ _).working _).bind fun _ =>
      modifyContext_working _

theorem selectRow_working (table : String) (id : Int) (columns : List String) :
    Working (selectRow params table id columns) :=
  (checking_working fun ctx => Access.checkRead_looks params ctx table _ _).bind fun _ =>
    (storing_working (Storing.selectRow_looks _ _).working _).bind fun _ => .pure _

theorem changeContracts_working (tableId ecosystem : Int)
    (change : Registry → Option α × Registry) (undo : α → FlushChange) :
    Working (changeContracts tableId ecosystem change undo) := by
  refine (observe_working fun _ registry _ => registry).bind fun registry => ?_
  split
  · exact .throw _
  · exact (working_of_on fun _ _ => rfl : Working (setRegistry _)).bind fun _ =>
      modifyContext_working _

/-! ## Calls of contracts -/

theorem enter_working (name : String) : Working (enter name) :=
  context_working.bind fun ctx => by
    split
    · exact .throw _
    · exact modifyContext_working _

theorem leave_working (name : String) : Working (leave name) :=
  modifyContext_working _

theorem ofExcept_working (r : Except RuntimeError α) : Working (ofExcept r) := by
  cases r with
  | ok a => exact .pure a
  | error e => exact .throw e

theorem callee_working (target : String) : Working (callee target) :=
  (observe_working fun ctx _ _ => ctx).bind fun ctx =>
    (observe_working fun _ registry _ => registry).bind fun registry => by
      split
      · exact .pure _
      · exact .throw _

theorem nested_working {body : Run Unit} (hbody : Working body) (contract : Contract)
    (fields : Row) : Working (nested contract fields body) :=
  (enter_working _).bind fun _ => (observe_working fun ctx _ _ => ctx.env).bind fun caller =>
    (modifyEnv_working _).bind fun _ => (attempt_working hbody).bind fun outcome =>
      (observe_working fun ctx _ _ => ctx.env).bind fun left => (modifyEnv_working _).bind fun _ =>
        (leave_working _).bind fun _ => by
          cases outcome with
          | ok u => exact .pure _
          | error e => exact .throw e

/-- Whatever a script does, it makes calls about what is stored alone. -/
theorem Scripted.working {x : Run α} (h : Scripted params x) : Working x := by
  induction h with
  | pure a => exact .pure a
  | throw e => exact .throw e
  | bind _ _ hx hf => exact hx.bind hf
  | observe view => exact observe_working view
  | setClock clock => exact working_of_on fun _ _ => rfl
  | charge amount => exact charge_working amount
  | setSlot value _ => exact modifyEnv_working _
  | insertRow table cells => exact insertRow_working table cells
  | updateRow table id cells => exact updateRow_working table id cells
  | selectRow table id columns => exact selectRow_working table id columns
  | checkCondition param useConditions =>
    exact checking_working fun ctx => Access.checkCondition_looks params ctx param useConditions
  | activate tableId ecosystem active => exact changeContracts_working _ _ _ _
  | setWallet tableId ecosystem wallet => exact changeContracts_working _ _ _ _
  | notify keyId payload => exact modifyContext_working _
  | call target fields _ hbody =>
    exact (callee_working target).bind fun contract =>
      nested_working (hbody contract) contract fields

theorem advance_working (state : ExecutionState) : Working (advance state) :=
  modifyContext_working _

theorem renderResult_working : Working renderResult :=
  (observe_working fun ctx _ _ => ctx.env).bind fun env => by
    split
    · exact .pure _
    · exact .throw _

theorem invoke_working (node : Node) : Working (invoke node) :=
  (observe_working fun ctx _ _ => ctx).bind fun _ => (enter_working _).bind fun _ =>
    (advance_working _).bind fun _ =>
      (attempt_working (runTarget_scripted node _).working).bind fun _ =>
        (leave_working _).bind fun _ => (advance_working _).bind fun _ =>
          (ofExcept_working _).bind fun _ => renderResult_working

end Run

namespace Executing

variable {ε : Type}

theorem invoke_working (node : Node) : Working (invoke node : Executing ε _) :=
  (attempt_working (Run.invoke_working node)).bind fun _ =>
    (modifyContext_working _).bind fun _ => .pure _

theorem settle_working (node : Node) (mode : PaymentMode) :
    Working (settle node mode : Executing ε _) :=
  context_working.bind fun ctx => attempt_working
    (storing_working (Payment.settle_within node.fees ctx mode).working _)

end Executing

end Covenant
