import Covenant.Proofs.Access.Write
import Covenant.Proofs.Environment
import Covenant.Proofs.Execution.Moments

/-!
# What a step can do

From one moment of a run to the next, at most one of four things happens: fuel is taken off, a row is
written, the run turns to another contract, or something is done that concerns none of these. Which
one it is can be seen from the moment alone. This is said here once, for every statement; what is true
of whole runs follows by going through the four cases.
-/

namespace Covenant

open Stage

/-- The statement spends no fuel by itself, writes no row and calls no contract. -/
def Statement.isPlain : Statement → Bool
  | .charge _ | .call _ _ | .insert _ _ | .update _ _ _ => false
  | _ => true

namespace RunState

/-- The state after an amount was taken off the fuel. -/
def charged (s : RunState) (amount : Int) : RunState :=
  { s with ctx := { s.ctx with env := s.ctx.env.charge amount } }

/-- Nothing has moved that a run could see, but for the failures of storage that are still ahead. -/
structure Unmoved (s t : RunState) : Prop where
  ctx : t.ctx = s.ctx
  data : t.world.data = s.world.data

/-- Neither fuel, rows nor calls are concerned: messages may have been queued, the registry may have
changed, and contract code may have set slots of its own and the result. -/
structure Aside (s t : RunState) : Prop where
  ctx : t.ctx = { s.ctx with
    env := t.ctx.env, notifications := t.ctx.notifications, flush := t.ctx.flush }
  slots : ∀ key : EnvKey, key.isWellKnown = true → key ≠ .result →
    t.ctx.env.get? key = s.ctx.env.get? key
  data : t.world.data = s.world.data

/-- The run turns to another contract: the call stack and the environment are another contract's,
but for the fuel. -/
structure Turns (s t : RunState) : Prop where
  ctx : t.ctx = { s.ctx with
    env := t.ctx.env, callStack := t.ctx.callStack, state := t.ctx.state }
  fuel : t.ctx.env.fuel = s.ctx.env.fuel
  data : t.world.data = s.world.data

/-- A row of a table is written, in some columns only, and a record of that is kept. -/
structure Writes (s t : RunState) (table : String) (columns : List String) : Prop where
  ctx : t.ctx = { s.ctx with env := t.ctx.env, rollback := t.ctx.rollback }
  slots : ∀ key : EnvKey, key.isWellKnown = true → t.ctx.env.get? key = s.ctx.env.get? key
  row : ∃ id row before, t.world.data = s.world.data.setRow table id row ∧
    t.ctx.rollback = s.ctx.rollback ++ [⟨table, id, before⟩] ∧
    ∀ column ∉ columns,
      Dict.find? column row = (s.world.data.row? table id).bind (Dict.find? column)

instance : IsPreorder RunState Unmoved where
  refl _ := ⟨rfl, rfl⟩
  trans _ _ _ h k := ⟨k.ctx.trans h.ctx, k.data.trans h.data⟩

instance : IsPreorder RunState Aside where
  refl _ := ⟨rfl, fun _ _ _ => rfl, rfl⟩
  trans _ _ _ h k :=
    ⟨k.ctx.trans (by rw [h.ctx]),
      fun key hknown hresult => (k.slots key hknown hresult).trans (h.slots key hknown hresult),
      k.data.trans h.data⟩

instance : IsPreorder RunState Turns where
  refl _ := ⟨rfl, rfl, rfl⟩
  trans _ _ _ h k :=
    ⟨k.ctx.trans (by rw [h.ctx]), k.fuel.trans h.fuel, k.data.trans h.data⟩

variable {s t : RunState}

theorem Unmoved.aside (h : s.Unmoved t) : s.Aside t :=
  ⟨by rw [h.ctx], fun _ _ _ => by rw [h.ctx], h.data⟩

/-- A write counts from where nothing has moved. -/
theorem Unmoved.writes {u : RunState} {table : String} {columns : List String} (h : s.Unmoved t)
    (hwrites : t.Writes u table columns) : s.Writes u table columns := by
  obtain ⟨hctx, hslots, hrow⟩ := hwrites
  rw [h.ctx] at hctx hslots hrow
  rw [h.data] at hrow
  exact ⟨hctx, hslots, hrow⟩

/-- The state with one more record of a row write. -/
def remembered (s : RunState) (record : RollbackRecord) : RunState :=
  { s with ctx := { s.ctx with rollback := s.ctx.rollback ++ [record] } }

/-- A row that was written counts once a record of it is kept. -/
theorem writes_remembered {table : String} {id : Int} {row : Row} {columns : List String}
    (hctx : t.ctx = s.ctx) (hdata : t.world.data = s.world.data.setRow table id row)
    (hcolumns : ∀ column ∉ columns,
      Dict.find? column row = (s.world.data.row? table id).bind (Dict.find? column))
    (before : String) : s.Writes (t.remembered ⟨table, id, before⟩) table columns := by
  refine ⟨?_, fun key _ => ?_, id, row, before, hdata, ?_, hcolumns⟩
  · simp only [remembered, hctx]
  · simp only [remembered, hctx]
  · simp only [remembered, hctx]

theorem Aside.fuel (h : s.Aside t) : t.ctx.env.fuel = s.ctx.env.fuel :=
  Environment.fuel_congr (h.slots .txCost rfl (by decide))

theorem Writes.fuel {table : String} {columns : List String} (h : s.Writes t table columns) :
    t.ctx.env.fuel = s.ctx.env.fuel :=
  Environment.fuel_congr (h.slots .txCost rfl)

end RunState

namespace Run

open RunState

variable {params : SystemParameters} {node : Node} {call : Call} {timer : Timer} {α : Type}

/-! ## Looking around -/

/-- What leaves the state as it is keeps every relation. -/
theorem keeps_of_eq {R : RunState → RunState → Prop} [IsPreorder RunState R] {x : Run α}
    (h : Keeps Eq x) : Keeps R x := by
  intro s
  rw [← h s]
  exact Std.Refl.refl s

theorem env_keeps : Keeps Eq env :=
  fun _ => rfl

theorem context_keeps : Keeps Eq context :=
  fun _ => rfl

theorem ofExcept_keeps (r : Except RuntimeError α) : Keeps Eq (ofExcept r) := by
  cases r with
  | ok a => exact .pure a
  | error e => exact .throw e

theorem value_keeps (operand : Operand) : Keeps Eq (value operand) :=
  env_keeps.bind fun _ => ofExcept_keeps _

theorem int_keeps (operand : Operand) : Keeps Eq (int operand) :=
  env_keeps.bind fun _ => ofExcept_keeps _

theorem row_keeps (pairs : List (String × Operand)) : Keeps Eq (row pairs) :=
  env_keeps.bind fun _ => (ofExcept_keeps _).bind fun _ => .pure _

theorem require_keeps (expression : String) : Keeps Eq (require expression) := by
  refine env_keeps.bind fun env => ?_
  split
  · exact .throw _
  · exact .pure _
  · exact .throw _

theorem checkTime_keeps (timer : Timer) : Keeps Eq (checkTime timer) := by
  unfold checkTime
  split
  · exact .pure _
  · refine .bind (fun _ => rfl) fun clock => ?_
    dsimp only
    split
    · exact .throw _
    · exact .pure _

theorem callee_keeps (target : String) : Keeps Eq (callee target) :=
  context_keeps.bind fun _ => .bind (fun _ => rfl) fun _ => by
    split
    · exact .pure _
    · exact .throw _

theorem renderResult_keeps : Keeps Eq renderResult :=
  env_keeps.bind fun _ => by
    split
    · exact .pure _
    · exact .throw _

/-- Looking around in storage moves nothing. -/
theorem storing_unmoved {ε : Type} {x : Storing ε α} (hx : x.Looks) (toError : ε → RuntimeError) :
    Keeps Unmoved (storing toError x) := by
  intro s
  have hmoves := hx.keeps s.world.connection
  exact ⟨rfl, congrArg Session.working hmoves.session.symm⟩

theorem checking_unmoved {check : ExecutionContext → Storing AccessError α}
    (hcheck : ∀ ctx, (check ctx).Looks) : Keeps Unmoved (checking check) :=
  (keeps_of_eq context_keeps).bind fun ctx => storing_unmoved (hcheck ctx) _

theorem checkWrite_unmoved (params : SystemParameters) (table : String) (action : TableAction)
    (cells : Row) : Keeps Unmoved (checkWrite params table action cells) :=
  (checking_unmoved fun ctx => Access.checkTable_looks params ctx table action).bind fun _ =>
    (checking_unmoved fun ctx => Access.checkColumns_looks params ctx table _ true).bind fun _ =>
      .pure _

/-! ## Statements that concern neither fuel, rows nor calls -/

/-- Contract code sets slots of its own and the result. -/
theorem setSlot_aside {key : EnvKey} (hkey : key.isWellKnown = false ∨ key = .result)
    (value : Value) : Keeps Aside (setSlot key value) := by
  intro s
  refine ⟨rfl, fun other hknown hresult => ?_, rfl⟩
  refine Environment.get?_set_of_ne _ ?_ _
  rintro rfl
  rcases hkey with hown | rfl
  · rw [hknown] at hown
    cases hown
  · exact hresult rfl

theorem setClock_aside (clock : Nat) : Keeps Aside (setClock clock) :=
  fun _ => ⟨rfl, fun _ _ _ => rfl, rfl⟩

theorem notify_aside (keyId : Int) (payload : String) : Keeps Aside (notify keyId payload) :=
  fun _ => ⟨rfl, fun _ _ _ => rfl, rfl⟩

theorem checking_aside {check : ExecutionContext → Storing AccessError α}
    (hcheck : ∀ ctx, (check ctx).Looks) : Keeps Aside (checking check) :=
  fun s => (checking_unmoved hcheck s).aside

theorem changeContracts_aside {β : Type} (tableId ecosystem : Int)
    (change : Registry → Option β × Registry) (undo : β → FlushChange) :
    Keeps Aside (changeContracts tableId ecosystem change undo) := by
  refine .bind (fun _ => Std.Refl.refl _) fun registry => ?_
  split
  · exact .throw _
  · exact .bind (fun _ => ⟨rfl, fun _ _ _ => rfl, rfl⟩) fun _ _ =>
      ⟨rfl, fun _ _ _ => rfl, rfl⟩

theorem selectRow_aside (table : String) (id : Int) (columns : List String) :
    Keeps Aside (selectRow params table id columns) :=
  (checking_aside fun ctx => Access.checkRead_looks params ctx table _ _).bind fun _ =>
    .bind (fun s => (storing_unmoved (Storing.selectRow_looks _ _) _ s).aside) fun _ => .pure _

theorem wait_aside (timer : Timer) (milliseconds : Nat) :
    Keeps Aside (wait timer milliseconds) := by
  refine .bind (fun _ => Std.Refl.refl _) fun clock => ?_
  split
  · exact setClock_aside _
  · dsimp only
    split
    · exact setClock_aside _
    · exact (setClock_aside _).bind fun _ => .throw _

/-- Most statements concern neither fuel, rows nor calls. -/
theorem exec_aside {statement : Statement} (h : statement.isPlain = true) :
    Keeps Aside (exec params call timer statement) := by
  cases statement with
  | charge => cases h
  | call => cases h
  | insert => cases h
  | update => cases h
  | set name operand =>
    exact (keeps_of_eq (value_keeps operand)).bind fun _ => setSlot_aside (.inl rfl) _
  | select table id columns =>
    exact (keeps_of_eq (int_keeps id)).bind fun _ => (selectRow_aside _ _ _).bind fun _ =>
      setSlot_aside (.inl rfl) _
  | require expression => exact keeps_of_eq (require_keeps expression)
  | condition param useConditions =>
    exact checking_aside fun ctx => Access.checkCondition_looks params ctx param useConditions
  | activate tableId ecosystem active =>
    exact (keeps_of_eq (int_keeps _)).bind fun _ => (keeps_of_eq (int_keeps _)).bind fun _ =>
      changeContracts_aside _ _ _ _
  | wallet tableId ecosystem wallet =>
    exact (keeps_of_eq (int_keeps _)).bind fun _ => (keeps_of_eq (int_keeps _)).bind fun _ =>
      (keeps_of_eq (int_keeps _)).bind fun _ => changeContracts_aside _ _ _ _
  | notify key payload => exact (keeps_of_eq (int_keeps _)).bind fun _ => notify_aside _ _
  | result operand =>
    exact (keeps_of_eq (value_keeps operand)).bind fun _ => setSlot_aside (.inr rfl) _
  | resultBytes bytes => exact setSlot_aside (.inr rfl) _
  | fail text => exact .throw _
  | spin milliseconds => exact wait_aside timer milliseconds

/-! ## Turning to another contract -/

/-- A contract that is entered stands on the call stack. -/
theorem enter_turns (name : String) : Keeps Turns (enter name) := by
  refine (keeps_of_eq context_keeps).bind fun ctx => ?_
  split
  · exact .throw _
  · intro s
    exact ⟨rfl, Environment.fuel_set _ (by decide) _, rfl⟩

theorem leave_turns (name : String) : Keeps Turns (leave name) :=
  fun _ => ⟨rfl, Environment.fuel_set _ (by decide) _, rfl⟩

theorem advance_turns (state : ExecutionState) : Keeps Turns (advance state) :=
  fun _ => ⟨rfl, rfl, rfl⟩

/-- The environment of a called contract holds the fuel of the caller's. -/
theorem fuel_calleeEnv (caller : Environment) (name : String) (fields : Row) :
    (calleeEnv caller name fields).fuel = caller.fuel := by
  refine Environment.fuel_congr ?_
  unfold calleeEnv
  dsimp only
  rw [Environment.get?_addFields _ rfl, Environment.get?_remove_of_ne _ (by decide),
    Environment.get?_set_of_ne _ (by decide), Environment.get?_set_of_ne _ (by decide)]

theorem startTimer_keeps : Keeps Eq startTimer :=
  fun _ => rfl

theorem openCall_turns (contract : Contract) (fields : Row) :
    Keeps Turns (openCall contract fields) :=
  (enter_turns _).bind fun _ => (keeps_of_eq env_keeps).bind fun _ =>
    .bind (fun _ => ⟨rfl, fuel_calleeEnv _ _ _, rfl⟩) fun _ =>
      (keeps_of_eq startTimer_keeps).bind fun _ => .pure _

/-- What a call statement does before its contract runs is to turn to that contract. -/
theorem startCall_turns (depth : Nat) (target : String) (fields : List (String × Operand)) :
    Keeps Turns (startCall depth target fields) := by
  refine (keeps_of_eq (row_keeps fields)).bind fun cells => ?_
  split
  · exact .throw _
  · exact (keeps_of_eq (callee_keeps target)).bind fun _ => openCall_turns _ _

theorem closeCall_turns (name : String) (caller : Environment) :
    Keeps Turns (closeCall name caller) := by
  intro s
  refine ⟨rfl, ?_, rfl⟩
  change ((caller.setFuel s.ctx.env.fuel).set .stack _).fuel = _
  rw [Environment.fuel_set _ (by decide), Environment.fuel_setFuel]

theorem setSlot_turns {key : EnvKey} (hkey : key ≠ .txCost) (value : Value) :
    Keeps Turns (setSlot key value) :=
  fun _ => ⟨rfl, Environment.fuel_set _ hkey _, rfl⟩

/-- The end of a run leaves its contract. -/
theorem finish_turns (contract : String) (outcome : Except RuntimeError Unit) :
    Keeps Turns (finish contract outcome) :=
  (leave_turns _).bind fun _ => (advance_turns _).bind fun _ =>
    (keeps_of_eq (ofExcept_keeps _)).bind fun _ => keeps_of_eq renderResult_keeps

/-! ## Writing rows -/

variable {s t : RunState} {table : String} {action : TableAction} {cells : Row}

/-- A computation with storage that succeeds has changed the connection and nothing else. -/
theorem run_storing_eq_ok {ε : Type} {toError : ε → RuntimeError} {x : Storing ε α} {a : α}
    (h : (storing toError x).run s = (.ok a, t)) :
    x.run s.world.connection = (.ok a, t.world.connection) ∧ t.ctx = s.ctx := by
  change ((x.run s.world.connection).1.mapError toError, s.on (x.run s.world.connection).2) = _ at h
  rcases hrun : x.run s.world.connection with ⟨e | b, c⟩
  · rw [hrun] at h
    cases h
  · rw [hrun] at h
    obtain ⟨hresult, rfl⟩ := Prod.mk.inj h
    rw [Except.ok.inj hresult]
    exact ⟨rfl, rfl⟩

theorem run_storing_eq_error {ε : Type} {toError : ε → RuntimeError} {x : Storing ε α}
    {e : RuntimeError} (h : (storing toError x).run s = (.error e, t)) :
    ∃ cause, x.run s.world.connection = (.error cause, t.world.connection) ∧ e = toError cause ∧
      t.ctx = s.ctx := by
  change ((x.run s.world.connection).1.mapError toError, s.on (x.run s.world.connection).2) = _ at h
  rcases hrun : x.run s.world.connection with ⟨cause | b, c⟩
  · rw [hrun] at h
    obtain ⟨hresult, rfl⟩ := Prod.mk.inj h
    exact ⟨cause, rfl, (Except.error.inj hresult).symm, rfl⟩
  · rw [hrun] at h
    cases (Prod.mk.inj h).1

theorem run_checking_eq_ok {check : ExecutionContext → Storing AccessError α} {a : α}
    (h : (checking check).run s = (.ok a, t)) :
    (check s.ctx).run s.world.connection = (.ok a, t.world.connection) ∧ t.ctx = s.ctx := by
  have hcontext : context.run s = (.ok s.ctx, s) := rfl
  rw [checking, run_bind_of_ok hcontext] at h
  exact run_storing_eq_ok h

theorem run_checking_eq_error {check : ExecutionContext → Storing AccessError α} {e : RuntimeError}
    (h : (checking check).run s = (.error e, t)) :
    ∃ cause, (check s.ctx).run s.world.connection = (.error cause, t.world.connection) ∧
      e = .access cause := by
  have hcontext : context.run s = (.ok s.ctx, s) := rfl
  rw [checking, run_bind_of_ok hcontext] at h
  obtain ⟨cause, hrun, hcause, -⟩ := run_storing_eq_error h
  exact ⟨cause, hrun, hcause⟩

/-- A write that passes its checks is one that may be made. -/
theorem mayWrite_of_checkWrite {short : String} {u : Unit} (haction : action.isWrite = true)
    (hname : table = TableName.qualify short s.ctx.ecosystemId)
    (h : (checkWrite params table action cells).run s = (.ok u, t))
    (haccess : s.ctx.flags.fullAccess = false) :
    Access.MayWrite params s.ctx.tx s.ctx.env s.world.data table action (Dict.keys cells) := by
  obtain ⟨_, s₁, htable, h⟩ := run_bind_eq_ok h
  obtain ⟨allowed, s₂, hcolumns, -⟩ := run_bind_eq_ok h
  obtain ⟨htable, hctx⟩ := run_checking_eq_ok htable
  obtain ⟨hcolumns, -⟩ := run_checking_eq_ok hcolumns
  rw [hctx] at hcolumns
  exact Access.mayWrite_of_checks haccess haction hname htable hcolumns

/-- What an attempt to write a row comes to: it fails and nothing has moved, or a row of the table is
written. -/
def WritesIfOk (s : RunState) (table : String) (columns : List String) :
    Except RuntimeError α × RunState → Prop
  | (.error _, t) => s.Unmoved t
  | (.ok _, t) => s.Writes t table columns

/-- What a checked write comes to: it fails and nothing has moved, or a row of the table is written,
and may be. -/
def Mediated (params : SystemParameters) (s : RunState) (table : String) (action : TableAction)
    (columns : List String) : Except RuntimeError α × RunState → Prop
  | (.error _, t) => s.Unmoved t
  | (.ok _, t) => s.Writes t table columns ∧ (s.ctx.flags.fullAccess = false →
      Access.MayWrite params s.ctx.tx s.ctx.env s.world.data table action columns)

/-- The checks come before a write, and let it pass only if it may be made. -/
theorem mediated_of_checkWrite {short : String} {write : Run α}
    (haction : action.isWrite = true)
    (hname : table = TableName.qualify short s.ctx.ecosystemId)
    (hwrite : ∀ s : RunState, WritesIfOk s table (Dict.keys cells) (write.run s)) :
    Mediated params s table action (Dict.keys cells)
      ((checkWrite params table action cells >>= fun _ => write).run s) := by
  have hchecked := checkWrite_unmoved params table action cells s
  rcases hcheck : (checkWrite params table action cells).run s with ⟨e | u, s₁⟩
  · rw [hcheck] at hchecked
    rw [run_bind_of_error hcheck]
    exact hchecked
  · rw [hcheck] at hchecked
    rw [run_bind_of_ok hcheck]
    have hwritten := hwrite s₁
    rcases hrun : write.run s₁ with ⟨e | a, t⟩
    · rw [hrun] at hwritten
      exact IsTrans.trans _ _ _ hchecked hwritten
    · rw [hrun] at hwritten
      exact ⟨hchecked.writes hwritten, mayWrite_of_checkWrite haction hname hcheck⟩

/-- A cell in another column than the new ones is as it was. -/
theorem find?_insertAll_of_notMem {column : String} (h : column ∉ Dict.keys cells) (row : Row) :
    Dict.find? column (Dict.insertAll cells row) = Dict.find? column row := by
  unfold Dict.insertAll
  induction cells generalizing row with
  | nil => rfl
  | cons cell rest ih =>
    obtain ⟨hne, hrest⟩ := List.mem_cons.not.mp h |> not_or.mp
    rw [List.foldl_cons, ih hrest, Dict.find?_insert, if_neg fun heq => hne heq.symm]

/-- Adding a row and keeping a record of it. -/
theorem addRow_writes (table : String) (cells : Row) (s : RunState) :
    let write : Run Int := do
      let id ← storing .storage (Storing.insertRow table cells)
      remember ⟨table, id, ""⟩
      return id
    WritesIfOk s table (Dict.keys cells) (write.run s) := by
  intro write
  rcases hadd : (storing .storage (Storing.insertRow table cells) : Run Int).run s with
    ⟨e | id, s₁⟩
  · obtain ⟨_, hadd', -, hctx⟩ := run_storing_eq_error hadd
    have hdata := congrArg Session.working (Storing.run_insertRow_eq_error hadd').2
    rw [show write.run s = _ from run_bind_of_error hadd]
    exact ⟨hctx, hdata⟩
  · obtain ⟨hadd', hctx⟩ := run_storing_eq_ok hadd
    obtain ⟨hnext, hdata⟩ := Storing.run_insertRow_eq_ok hadd'
    have hnew : s.world.data.row? table id = none := Database.row?_nextId? hnext
    rw [show write.run s = _ from run_bind_of_ok hadd]
    refine writes_remembered hctx hdata (fun column hcolumn => ?_) ""
    rw [hnew]
    cases hfind : Dict.find? column cells with
    | none => rfl
    | some value => exact absurd (Dict.mem_keys_of_find? hfind) hcolumn

/-- Changing a row and keeping a record of how it was. -/
theorem changeRow_writes (table : String) (id : Int) (cells : Row) (s : RunState) :
    let write : Run Unit := do
      let previous ← storing .storage (Storing.updateRow table id cells)
      remember ⟨table, id, (Value.map previous).jsonText⟩
    WritesIfOk s table (Dict.keys cells) (write.run s) := by
  intro write
  rcases hchange : (storing .storage (Storing.updateRow table id cells) : Run Row).run s with
    ⟨e | previous, s₁⟩
  · obtain ⟨_, hchange', -, hctx⟩ := run_storing_eq_error hchange
    have hdata := congrArg Session.working (Storing.run_updateRow_eq_error hchange')
    rw [show write.run s = _ from run_bind_of_error hchange]
    exact ⟨hctx, hdata⟩
  · obtain ⟨hchange', hctx⟩ := run_storing_eq_ok hchange
    obtain ⟨hprevious, hdata⟩ := Storing.run_updateRow_eq_ok hchange'
    rw [show write.run s = _ from run_bind_of_ok hchange]
    refine writes_remembered hctx hdata (fun column hcolumn => ?_) _
    rw [show s.world.data.row? table id = some previous from hprevious]
    exact find?_insertAll_of_notMem hcolumn previous

/-- A row is added only after the checks, and if they fail nothing is. -/
theorem insertRow_mediated (params : SystemParameters) (short : String) (cells : Row)
    (s : RunState) :
    Mediated params s (TableName.qualify short s.ctx.ecosystemId) .insert (Dict.keys cells)
      ((insertRow params short cells).run s) := by
  have hcontext : context.run s = (.ok s.ctx, s) := rfl
  rw [insertRow, run_bind_of_ok hcontext]
  exact mediated_of_checkWrite rfl rfl (addRow_writes _ _)

/-- A row is changed only after the checks, and if they fail nothing is. -/
theorem updateRow_mediated (params : SystemParameters) (short : String) (id : Int) (cells : Row)
    (s : RunState) :
    Mediated params s (TableName.qualify short s.ctx.ecosystemId) .update (Dict.keys cells)
      ((updateRow params short id cells).run s) := by
  have hcontext : context.run s = (.ok s.ctx, s) := rfl
  rw [updateRow, run_bind_of_ok hcontext]
  exact mediated_of_checkWrite rfl rfl (changeRow_writes _ _ _)

/-- The cells of a row are the values of its operands. -/
theorem run_row (pairs : List (String × Operand)) (s : RunState) :
    (row pairs).run s = ((resolvePairs s.ctx.env pairs).map Dict.ofList, s) := by
  have henv : env.run s = (.ok s.ctx.env, s) := rfl
  rw [row, run_bind_of_ok henv]
  cases resolvePairs s.ctx.env pairs with
  | error e => rfl
  | ok values => rfl

/-- What a statement comes to that writes the values of `pairs` as a row: it fails and nothing has
moved, or the row is written, and may be. -/
def MediatedValues (params : SystemParameters) (s : RunState) (table : String)
    (action : TableAction) (pairs : List (String × Operand)) :
    Except RuntimeError α × RunState → Prop
  | (.error _, t) => s.Unmoved t
  | (.ok _, t) => ∃ values, resolvePairs s.ctx.env pairs = .ok values ∧
      s.Writes t table (Dict.keys (Dict.ofList values)) ∧
      (s.ctx.flags.fullAccess = false →
        Access.MayWrite params s.ctx.tx s.ctx.env s.world.data table action
          (Dict.keys (Dict.ofList values)))

/-- A slot of contract code that is set after a write is not concerned by it. -/
theorem writes_setSlot {columns : List String} (h : s.Writes t table columns) (name : String)
    (value : Value) : s.Writes ((setSlot (.field name) value).run t).2 table columns := by
  refine ⟨?_, fun key hknown => ?_, h.row⟩
  · exact congrArg (fun ctx : ExecutionContext =>
      { ctx with env := t.ctx.env.set (.field name) value }) h.ctx
  · change (t.ctx.env.set (.field name) value).get? key = _
    rw [Environment.get?_set_of_ne _ (by rintro rfl; cases hknown), h.slots key hknown]

/-- Computing the cells of a row and writing them. -/
theorem row_bind_mediated {write : Row → Run α}
    (hwrite : ∀ cells, Mediated params s table action (Dict.keys cells) ((write cells).run s))
    (pairs : List (String × Operand)) :
    MediatedValues params s table action pairs ((row pairs >>= write).run s) := by
  have hrow := run_row pairs s
  cases hvalues : resolvePairs s.ctx.env pairs with
  | error e =>
    rw [hvalues] at hrow
    rw [run_bind_of_error hrow]
    exact Std.Refl.refl s
  | ok values =>
    rw [hvalues] at hrow
    rw [run_bind_of_ok hrow]
    have hmediated := hwrite (Dict.ofList values)
    rcases hrun : (write (Dict.ofList values)).run s with ⟨e | a, t⟩
    · rw [hrun] at hmediated
      exact hmediated
    · rw [hrun] at hmediated
      exact ⟨values, hvalues, hmediated⟩

/-- An insertion writes one row, in the columns that it names. -/
theorem exec_insert_mediated (table : String) (pairs : List (String × Operand)) (s : RunState) :
    MediatedValues params s (TableName.qualify table s.ctx.ecosystemId) .insert pairs
      ((exec params call timer (.insert table pairs)).run s) := by
  rw [exec]
  refine row_bind_mediated (fun cells => ?_) pairs
  have hmediated := insertRow_mediated params table cells s
  rcases hinsert : (insertRow params table cells).run s with ⟨e | id, t⟩
  · rw [hinsert] at hmediated
    rw [run_bind_of_error hinsert]
    exact hmediated
  · rw [hinsert] at hmediated
    rw [run_bind_of_ok hinsert]
    exact ⟨writes_setSlot hmediated.1 _ _, hmediated.2⟩

/-- An update writes one row, in the columns that it names. -/
theorem exec_update_mediated (table : String) (id : Operand) (pairs : List (String × Operand))
    (s : RunState) :
    MediatedValues params s (TableName.qualify table s.ctx.ecosystemId) .update pairs
      ((exec params call timer (.update table id pairs)).run s) := by
  have hsame := int_keeps id s
  rw [exec]
  rcases hint : (int id).run s with ⟨e | n, s₁⟩
  · rw [hint] at hsame
    obtain rfl : s = s₁ := hsame
    rw [run_bind_of_error hint]
    exact (Std.Refl.refl s : s.Unmoved s)
  · rw [hint] at hsame
    obtain rfl : s = s₁ := hsame
    rw [run_bind_of_ok hint]
    exact row_bind_mediated (fun cells => updateRow_mediated params table n cells s) pairs

/-! ## Fuel -/

/-- What is charged is taken off, also where it is too much. -/
theorem state_charge (amount : Int) (s : RunState) :
    ((charge amount).run s).2 = s.charged amount := by
  have hmodify : (modifyEnv fun env => env.charge amount).run s = (.ok (), s.charged amount) := rfl
  have hcontext : context.run (s.charged amount) = (.ok (s.charged amount).ctx, s.charged amount) :=
    rfl
  rw [charge, run_bind_of_ok hmodify, run_bind_of_ok hcontext]
  dsimp only
  split
  · rfl
  · rfl

/-- Looking at the time leaves the state as it is. -/
theorem state_bind_startTimer (x : Run Unit) (s : RunState) :
    ((x >>= fun _ => startTimer).run s).2 = (x.run s).2 := by
  rcases hrun : x.run s with ⟨e | u, t⟩
  · rw [run_bind_of_error hrun]
  · rw [run_bind_of_ok hrun]
    rfl

/-! ## Steps -/

namespace Moment

/-- The amount that the next step takes off the fuel, unless time is up. -/
def due (node : Node) : Moment → Int
  | entered s => Fuel.forSize node.params.sizeFuel s.ctx.tx.size
  | ready _ (_ :: _) _ => 1
  | paid _ (.charge amount) _ _ => amount
  | _ => 0

/-- The row write that is executed next: the full name of the table, the action, and the operands
for the cells. -/
def write? : Moment → Option (String × TableAction × List (String × Operand))
  | paid _ (.insert table pairs) _ s =>
    some (TableName.qualify table s.ctx.ecosystemId, .insert, pairs)
  | paid _ (.update table _ pairs) _ s =>
    some (TableName.qualify table s.ctx.ecosystemId, .update, pairs)
  | _ => none

/-- What the next step does to the state. -/
inductive Effect (node : Node) (m : Moment) : RunState → Prop
  /-- What is due is taken off the fuel. -/
  | charge : Effect node m (m.state.charged (m.due node))
  /-- A row is written, as it may be. -/
  | write {t : RunState} {table : String} {action : TableAction}
      {pairs : List (String × Operand)} {values : List (String × Value)} :
      m.write? = some (table, action, pairs) →
      resolvePairs m.state.ctx.env pairs = .ok values →
      m.state.Writes t table (Dict.keys (Dict.ofList values)) →
      (m.state.ctx.flags.fullAccess = false →
        Access.MayWrite node.params m.state.ctx.tx m.state.ctx.env m.state.world.data table action
          (Dict.keys (Dict.ofList values))) →
      Effect node m t
  /-- The run turns to another contract. -/
  | turn {t : RunState} : m.state.Turns t → m.due node = 0 → Effect node m t
  /-- Something else is done, or nothing. -/
  | aside {t : RunState} : m.state.Aside t → 0 ≤ m.due node → Effect node m t

/-- The next moment has the state in which the computation ends. -/
theorem state_after {x : Run α} {failed : RuntimeError → RunState → Moment}
    {next : α → RunState → Moment} (hfailed : ∀ e t, (failed e t).state = t)
    (hnext : ∀ a t, (next a t).state = t) (s : RunState) :
    (after x s failed next).state = (x.run s).2 := by
  refine after_cases (motive := fun m => m.state = (x.run s).2) (fun e t hrun => ?_)
    fun a t hrun => ?_
  · rw [hfailed, hrun]
  · rw [hnext, hrun]

/-- A write as it may be, or else nothing, is what a write statement comes to. -/
theorem effect_of_mediated {place : Place} {statement : Statement} {rest : List Statement}
    {pairs : List (String × Operand)} {r : Except RuntimeError Unit × RunState}
    (hwrite : (paid place statement rest s).write? = some (table, action, pairs))
    (hdue : (paid place statement rest s).due node = 0)
    (h : MediatedValues node.params s table action pairs r) :
    Effect node (paid place statement rest s) r.2 := by
  obtain ⟨e | u, t⟩ := r
  · exact .aside (Unmoved.aside h) (Int.le_of_eq hdue.symm)
  · obtain ⟨values, hvalues, hwrites, hmay⟩ := h
    exact .write hwrite hvalues hwrites hmay

theorem conclude_effect {m : Moment} (hdue : m.due node = 0) (outcome : Except RuntimeError Unit) :
    Effect node m (conclude outcome m.state).state := by
  rw [conclude, state_after (fun _ _ => rfl) fun _ _ => rfl]
  exact .turn (finish_turns _ _ _) hdue

/-- After a statement other than a call, the state is the one in which the statement ends. -/
theorem state_next_paid {place : Place} {statement : Statement} {rest : List Statement}
    (hcall : ∀ target fields, statement ≠ .call target fields) (s : RunState) :
    ((paid place statement rest s).next node).state =
      ((exec node.params (callContract node.params 0) place.timer statement).run s).2 := by
  rw [next_paid hcall, state_after (fun _ _ => rfl) fun _ _ => rfl]

/-- Executing a statement has one of the four effects. -/
theorem paid_effect (node : Node) (place : Place) (statement : Statement) (rest : List Statement)
    (s : RunState) :
    Effect node (paid place statement rest s)
      ((paid place statement rest s).next node).state := by
  cases statement with
  | charge amount =>
    rw [state_next_paid (by simp), exec, state_charge]
    exact .charge
  | call target fields =>
    rw [next, state_after (fun _ _ => rfl) fun _ _ => rfl]
    exact .turn (startCall_turns _ _ _ s) rfl
  | insert table pairs =>
    rw [state_next_paid (by simp)]
    exact effect_of_mediated rfl rfl (exec_insert_mediated table pairs s)
  | update table id pairs =>
    rw [state_next_paid (by simp)]
    exact effect_of_mediated rfl rfl (exec_update_mediated table id pairs s)
  | _ =>
    rw [state_next_paid (by simp)]
    exact .aside (exec_aside rfl s) (Int.le_refl 0)

/-- Each step of a run has one of the four effects. -/
theorem next_effect (node : Node) (m : Moment) : m.Effect node (m.next node).state := by
  cases m with
  | opening s =>
    rw [next, state_after (fun _ _ => rfl) fun _ _ => rfl]
    exact .turn (((enter_turns _).bind fun _ => advance_turns _) s) rfl
  | entered s =>
    rw [next, state_after (fun _ _ => rfl) fun _ _ => rfl, state_bind_startTimer, state_charge]
    exact .charge
  | ready place todo s =>
    cases todo with
    | nil =>
      obtain ⟨frames, depth, timer⟩ := place
      cases frames with
      | nil => exact conclude_effect rfl _
      | cons frame frames =>
        rw [next, state_after (fun _ _ => rfl) fun _ _ => rfl]
        exact .turn (((closeCall_turns _ _).bind fun _ => setSlot_turns (by decide) _) s) rfl
    | cons statement rest =>
      rw [next, state_after (fun _ _ => rfl) fun _ _ => rfl]
      have hsame := checkTime_keeps place.timer s
      rcases htime : (checkTime place.timer).run s with ⟨e | u, t⟩
      · rw [htime] at hsame
        rw [run_bind_of_error htime]
        exact .aside (hsame ▸ Std.Refl.refl s) Int.one_nonneg
      · rw [htime] at hsame
        obtain rfl : s = t := hsame
        rw [run_bind_of_ok htime, state_charge]
        exact .charge
  | paid place statement rest s => exact paid_effect node place statement rest s
  | failing frames e s =>
    cases frames with
    | nil => exact conclude_effect rfl _
    | cons frame frames =>
      rw [next, state_after (fun _ _ => rfl) fun _ _ => rfl]
      exact .turn (closeCall_turns _ _ s) rfl
  | ended result s => exact .aside (Std.Refl.refl s) (Int.le_refl 0)

/-- What is settled before a run stays as it is: the transaction, the flags and the limit. -/
theorem next_settled (node : Node) (m : Moment) :
    (m.next node).state.ctx.tx = m.state.ctx.tx ∧
      (m.next node).state.ctx.flags = m.state.ctx.flags ∧
      (m.next node).state.ctx.fuel = m.state.ctx.fuel := by
  have heffect := next_effect node m
  generalize (m.next node).state = t at heffect
  cases heffect with
  | charge => exact ⟨rfl, rfl, rfl⟩
  | write _ _ hwrites _ =>
    rw [hwrites.ctx]
    exact ⟨rfl, rfl, rfl⟩
  | turn hturns _ =>
    rw [hturns.ctx]
    exact ⟨rfl, rfl, rfl⟩
  | aside haside _ =>
    rw [haside.ctx]
    exact ⟨rfl, rfl, rfl⟩

/-- What is settled before a run is the same at every moment. -/
theorem nth_settled (node : Node) (s : RunState) (k : Nat) :
    (nth node s k).state.ctx.tx = s.ctx.tx ∧ (nth node s k).state.ctx.flags = s.ctx.flags ∧
      (nth node s k).state.ctx.fuel = s.ctx.fuel := by
  refine nth_invariant (motive := fun m => m.state.ctx.tx = s.ctx.tx ∧
    m.state.ctx.flags = s.ctx.flags ∧ m.state.ctx.fuel = s.ctx.fuel) ⟨rfl, rfl, rfl⟩
      (fun m ih => ?_) k
  obtain ⟨htx, hflags, hfuel⟩ := next_settled node m
  exact ⟨htx.trans ih.1, hflags.trans ih.2.1, hfuel.trans ih.2.2⟩

end Moment

end Run

end Covenant
