import Covenant.Execution.Pipeline
import Covenant.Proofs.Storage.Calls

/-!
# Runs of scripts

A statement acts on the world only through the services of a run: it looks around, spends fuel, sets
slots, reads and writes rows, changes the registry, sends messages and calls other contracts.
`Scripted` collects the runs that are put together from these services. Every program is one of them
at every depth of calls, so what holds of the services and of sequences and calls of such runs holds
of all programs.
-/

namespace Covenant

namespace Run

open Stage

/-- A result that depends on nothing but the context, the registry and the time. -/
def observe {α : Type} (view : ExecutionContext → Registry → Nat → α) : Run α :=
  fun s => (.ok (view s.ctx s.world.registry s.world.clock), s)

/-- The runs that scripts can bring about. -/
inductive Scripted (params : SystemParameters) : {α : Type} → Run α → Prop
  | pure {α : Type} (a : α) : Scripted params (Pure.pure a : Run α)
  | throw {α : Type} (e : RuntimeError) : Scripted params (throw e : Run α)
  | bind {α β : Type} {x : Run α} {f : α → Run β} :
      Scripted params x → (∀ a, Scripted params (f a)) → Scripted params (x >>= f)
  | observe {α : Type} (view : ExecutionContext → Registry → Nat → α) :
      Scripted params (observe view)
  | setClock (clock : Nat) : Scripted params (setClock clock)
  | charge (amount : Int) : Scripted params (charge amount)
  /-- Scripts set their own slots and the result. -/
  | setSlot {key : EnvKey} (value : Value) :
      key.isWellKnown = false ∨ key = .result → Scripted params (setSlot key value)
  | insertRow (table : String) (cells : Row) : Scripted params (insertRow params table cells)
  | updateRow (table : String) (id : Int) (cells : Row) :
      Scripted params (updateRow params table id cells)
  | selectRow (table : String) (id : Int) (columns : List String) :
      Scripted params (selectRow params table id columns)
  | checkCondition (param : String) (useConditions : Bool) :
      Scripted params (checking fun ctx => Access.checkCondition params ctx param useConditions)
  | activate (tableId ecosystem : Int) (active : Bool) :
      Scripted params (activate tableId ecosystem active)
  | setWallet (tableId ecosystem wallet : Int) :
      Scripted params (setWallet tableId ecosystem wallet)
  | notify (keyId : Int) (payload : String) : Scripted params (notify keyId payload)
  | call (target : String) (fields : Row) {body : Contract → Run Unit} :
      (∀ contract, Scripted params (body contract)) →
        Scripted params (do
          let contract ← callee target
          nested contract fields (body contract))

variable {params : SystemParameters} {call : Call} {timer : Timer}

theorem env_scripted : Scripted params env :=
  .observe fun ctx _ _ => ctx.env

theorem now_scripted : Scripted params now :=
  .observe fun _ _ clock => clock

theorem ofExcept_scripted {α : Type} (r : Except RuntimeError α) :
    Scripted params (ofExcept r) := by
  cases r with
  | ok a => exact .pure a
  | error e => exact .throw e

theorem value_scripted (operand : Operand) : Scripted params (value operand) :=
  .bind env_scripted fun _ => ofExcept_scripted _

theorem int_scripted (operand : Operand) : Scripted params (int operand) :=
  .bind env_scripted fun _ => ofExcept_scripted _

theorem row_scripted (pairs : List (String × Operand)) : Scripted params (row pairs) :=
  .bind env_scripted fun _ => .bind (ofExcept_scripted _) fun _ => .pure _

theorem require_scripted (expression : String) : Scripted params (require expression) := by
  refine .bind env_scripted fun env => ?_
  split
  · exact .throw _
  · exact .pure _
  · exact .throw _

theorem checkTime_scripted : Scripted params (checkTime timer) := by
  unfold checkTime
  split
  · exact .pure _
  · refine .bind now_scripted fun clock => ?_
    dsimp only
    split
    · exact .throw _
    · exact .pure _

theorem wait_scripted (milliseconds : Nat) : Scripted params (wait timer milliseconds) := by
  refine .bind now_scripted fun clock => ?_
  split
  · exact .setClock _
  · dsimp only
    split
    · exact .setClock _
    · exact .bind (.setClock _) fun _ => .throw _

/-- Every statement is scripted, if the calls that it makes are. -/
theorem exec_scripted (hcall : ∀ target fields, Scripted params (call target fields))
    (statement : Statement) : Scripted params (exec params call timer statement) := by
  cases statement with
  | charge amount => exact .charge amount
  | set name operand => exact .bind (value_scripted _) fun _ => .setSlot _ (.inl rfl)
  | call target fields =>
    exact .bind (row_scripted _) fun _ => .bind (hcall _ _) fun _ => .setSlot _ (.inl rfl)
  | insert table pairs =>
    exact .bind (row_scripted _) fun _ => .bind (.insertRow _ _) fun _ => .setSlot _ (.inl rfl)
  | update table id pairs =>
    exact .bind (int_scripted _) fun _ => .bind (row_scripted _) fun _ => .updateRow _ _ _
  | select table id columns =>
    exact .bind (int_scripted _) fun _ => .bind (.selectRow _ _ _) fun _ =>
      .setSlot _ (.inl rfl)
  | require expression => exact require_scripted expression
  | condition param useConditions => exact .checkCondition _ _
  | activate tableId ecosystem active =>
    exact .bind (int_scripted _) fun _ => .bind (int_scripted _) fun _ => .activate _ _ _
  | wallet tableId ecosystem wallet =>
    exact .bind (int_scripted _) fun _ => .bind (int_scripted _) fun _ =>
      .bind (int_scripted _) fun _ => .setWallet _ _ _
  | notify key payload => exact .bind (int_scripted _) fun _ => .notify _ _
  | result operand => exact .bind (value_scripted _) fun _ => .setSlot _ (.inr rfl)
  | resultBytes bytes => exact .setSlot _ (.inr rfl)
  | fail text => exact .throw _
  | spin milliseconds => exact wait_scripted _

theorem runStatements_scripted (hcall : ∀ target fields, Scripted params (call target fields))
    (statements : List Statement) :
    Scripted params (runStatements params call timer statements) := by
  induction statements with
  | nil => exact .pure ()
  | cons statement rest ih =>
    exact .bind (.bind checkTime_scripted fun _ => .bind (.charge 1) fun _ =>
      exec_scripted hcall statement) fun _ => ih

theorem runProgram_scripted (hcall : ∀ target fields, Scripted params (call target fields))
    (program : Program) : Scripted params (runProgram params call program) :=
  .bind (.bind env_scripted fun _ => .bind now_scripted fun _ => .pure _) fun _ =>
    runStatements_scripted hcall _

/-- A call is scripted at every depth: what it runs inside goes one level less deep. -/
theorem callContract_scripted (depth : Nat) (target : String) (fields : Row) :
    Scripted params (callContract params depth target fields) := by
  induction depth generalizing target fields with
  | zero => exact .throw _
  | succ depth ih => exact .call _ _ fun contract => runProgram_scripted ih contract.program

/-- The contract of a transaction is scripted, whatever its program is. -/
theorem runTarget_scripted (node : Node) (contract : Contract) :
    Scripted node.params (runTarget node contract) :=
  .bind (.observe fun ctx _ _ => ctx) fun _ => .bind (.charge _) fun _ =>
    .bind (.observe fun _ registry _ => registry) fun _ =>
      runProgram_scripted (fun _ _ => callContract_scripted _ _ _) _

end Run

end Covenant
