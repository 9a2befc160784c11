import Covenant.Proofs.Execution.Proper
import Covenant.Proofs.Storage.Undo

/-!
# The row writes of a run

A run writes rows one after the other, and keeps a record and leaves a statement for each. This is
said here of whole runs, with the runs of called contracts inside them: the writes make the data at
the end of the data at the beginning, the records are theirs, and so are the statements. The rows that
are written over are proper if all values that the run starts from are, and if the ids of new rows are
in range, which is left to the end of the run.
-/

namespace Covenant

open Stage

/-! ## What a run writes -/

namespace RunState

/-- From one state to the other these rows were written, and a record was kept and a statement left for
each. -/
structure Wrote (writes : List RowWrite) (s t : RunState) : Prop where
  data : s.world.data.Becomes writes t.world.data
  rollback : t.ctx.rollback = s.ctx.rollback ++ writes.map RowWrite.record
  log : t.world.connection.session.log =
    s.world.connection.session.log ++ writes.map RowWrite.statement

/-- From one state to the other some rows were written. If the premise holds, the rows that were written
over are proper, and the conclusion holds. -/
def Leads (premise conclusion : Prop) (s t : RunState) : Prop :=
  ∃ writes, Wrote writes s t ∧ (premise → conclusion ∧ ∀ write ∈ writes, write.IsProper)

/-- Some rows were written, and all that the run may come upon is proper still. -/
abbrev Goes (premise : Prop) (s t : RunState) : Prop :=
  Leads premise t.IsProper s t

/-- Neither slots nor rows are concerned, and programs stay as they are. -/
structure Untouched (s t : RunState) : Prop where
  env : t.ctx.env = s.ctx.env
  rollback : t.ctx.rollback = s.ctx.rollback
  session : t.world.connection.session = s.world.connection.session
  programs : t.world.registry.contracts.map Contract.program =
    s.world.registry.contracts.map Contract.program

instance : IsPreorder RunState Untouched where
  refl _ := ⟨rfl, rfl, rfl, rfl⟩
  trans _ _ _ h k :=
    ⟨k.env.trans h.env, k.rollback.trans h.rollback, k.session.trans h.session,
      k.programs.trans h.programs⟩

variable {premise further conclusion : Prop} {s t u : RunState}

theorem Wrote.trans {writes more : List RowWrite} (h : Wrote writes s t) (k : Wrote more t u) :
    Wrote (writes ++ more) s u where
  data := h.data.trans k.data
  rollback := by rw [k.rollback, h.rollback, List.map_append, List.append_assoc]
  log := by rw [k.log, h.log, List.map_append, List.append_assoc]

/-- Where no row is written, only the conclusion has to be looked at. -/
theorem Leads.still (hrollback : t.ctx.rollback = s.ctx.rollback)
    (hsession : t.world.connection.session = s.world.connection.session)
    (hholds : premise → conclusion) : Leads premise conclusion s t := by
  have hwrote : Wrote [] s t := by
    refine ⟨?_, ?_, ?_⟩
    · rw [World.data, World.data, hsession]
      exact .nil
    · rw [hrollback, List.map_nil, List.append_nil]
    · rw [hsession, List.map_nil, List.append_nil]
  exact ⟨[], hwrote, fun hpremise => ⟨hholds hpremise, fun write hwrite => by cases hwrite⟩⟩

theorem Leads.refl (s : RunState) : Leads premise premise s s :=
  .still rfl rfl id

theorem Leads.trans (h : Leads premise further s t) (k : Leads further conclusion t u) :
    Leads premise conclusion s u := by
  obtain ⟨writes, hwrote, hproper⟩ := h
  obtain ⟨more, hmore, hfurther⟩ := k
  refine ⟨writes ++ more, hwrote.trans hmore, fun hholds => ?_⟩
  obtain ⟨ht, hwrites⟩ := hproper hholds
  obtain ⟨hu, hothers⟩ := hfurther ht
  exact ⟨hu, List.forall_mem_append.mpr ⟨hwrites, hothers⟩⟩

theorem Leads.imp (h : Leads premise further s t) (himp : premise → further → conclusion) :
    Leads premise conclusion s t := by
  obtain ⟨writes, hwrote, hproper⟩ := h
  exact ⟨writes, hwrote, fun hholds => (hproper hholds).imp_left (himp hholds)⟩

/-- What is done next may count on what was proper before and is proper still. -/
theorem Goes.trans (h : Goes premise s t) (k : Goes (premise ∧ t.IsProper) t u) :
    Goes premise s u :=
  (h.imp fun hholds ht => ⟨hholds, ht⟩).trans k

theorem IsProper.of_untouched (h : s.IsProper) (huntouched : s.Untouched t) : t.IsProper where
  env := by
    rw [huntouched.env]
    exact h.env
  rows := by
    rw [World.data, huntouched.session]
    exact h.rows
  programs := by
    unfold Registry.IsProper
    rw [huntouched.programs]
    exact h.programs

theorem Goes.of_untouched (hpremise : premise → s.IsProper) (h : s.Untouched t) :
    Goes premise s t :=
  .still h.rollback h.session fun hholds => (hpremise hholds).of_untouched h

/-- The slots of the environment are changed. -/
theorem Goes.withEnv {env : Environment} (hpremise : premise → s.IsProper)
    (henv : premise → env.IsProper) : Goes premise s (s.withEnv env) :=
  .still rfl rfl fun hholds => ⟨henv hholds, (hpremise hholds).rows, (hpremise hholds).programs⟩

theorem Goes.stacked {callStack : CallStack} (hpremise : premise → s.IsProper) :
    Goes premise s (s.stacked callStack) :=
  .still rfl rfl fun hholds =>
    ⟨(hpremise hholds).env.stack _, (hpremise hholds).rows, (hpremise hholds).programs⟩

end RunState

namespace Run

open RunState

variable {params : SystemParameters} {call : Call} {timer : Timer} {premise : Prop} {α β : Type}
  {s t : RunState}

/-- A sequence goes where its parts go. -/
theorem goes_bind {x : Run α} {f : α → Run β} (hx : Goes premise s (x.run s).2)
    (hf : ∀ a t, x.run s = (.ok a, t) → Goes (premise ∧ t.IsProper) t ((f a).run t).2) :
    Goes premise s ((x >>= f).run s).2 := by
  rcases hrun : x.run s with ⟨e | a, t⟩
  · rw [run_bind_of_error hrun]
    rwa [hrun] at hx
  · rw [run_bind_of_ok hrun]
    rw [hrun] at hx
    exact hx.trans (hf a t hrun)

/-- Looking around first writes no row. -/
theorem goes_looking {x : Run α} {f : α → Run β} (hx : Keeps Eq x) (hs : premise → s.IsProper)
    (hf : ∀ a, x.run s = (.ok a, s) → Goes premise s ((f a).run s).2) :
    Goes premise s ((x >>= f).run s).2 := by
  have hsame := hx s
  rcases hrun : x.run s with ⟨e | a, t⟩
  · rw [hrun] at hsame
    obtain rfl : s = t := hsame
    rw [run_bind_of_error hrun]
    exact .of_untouched hs (Std.Refl.refl s)
  · rw [hrun] at hsame
    obtain rfl : s = t := hsame
    rw [run_bind_of_ok hrun]
    exact hf a hrun

/-! ## Statements that write no row -/

theorem storing_untouched {ε : Type} {x : Storing ε α} (hx : x.Looks)
    (toError : ε → RuntimeError) : Keeps Untouched (storing toError x) :=
  fun s => ⟨rfl, rfl, (hx.keeps s.world.connection).session.symm, rfl⟩

theorem checking_untouched {check : ExecutionContext → Storing AccessError α}
    (hcheck : ∀ ctx, (check ctx).Looks) : Keeps Untouched (checking check) :=
  (keeps_of_eq context_keeps).bind fun ctx => storing_untouched (hcheck ctx) _

theorem checkWrite_untouched (table : String) (action : TableAction) (cells : Row) :
    Keeps Untouched (checkWrite params table action cells) :=
  (checking_untouched fun ctx => Access.checkTable_looks params ctx table action).bind fun _ =>
    (checking_untouched fun ctx => Access.checkColumns_looks params ctx table _ true).bind fun _ =>
      .pure _

theorem setClock_untouched (clock : Nat) : Keeps Untouched (setClock clock) :=
  fun _ => ⟨rfl, rfl, rfl, rfl⟩

theorem wait_untouched (milliseconds : Nat) : Keeps Untouched (wait timer milliseconds) := by
  refine .bind (fun _ => Std.Refl.refl _) fun clock => ?_
  split
  · exact setClock_untouched _
  · dsimp only
    split
    · exact setClock_untouched _
    · exact (setClock_untouched _).bind fun _ => .throw _

theorem changeContracts_untouched {tableId ecosystem : Int}
    {change : Registry → Option α × Registry} {undo : α → FlushChange}
    (hchange : ∀ registry, (change registry).2.contracts.map Contract.program =
      registry.contracts.map Contract.program) :
    Keeps Untouched (changeContracts tableId ecosystem change undo) := by
  intro s
  have hprograms := hchange s.world.registry
  have hregistry : registry.run s = (.ok s.world.registry, s) := rfl
  rw [changeContracts, run_bind_of_ok hregistry]
  rcases hchanged : change s.world.registry with ⟨_ | previous, changed⟩
  · exact Std.Refl.refl _
  · rw [hchanged] at hprograms
    exact ⟨rfl, rfl, rfl, hprograms⟩

/-! ## Slots -/

/-- An operand is looked up in the environment as it is. -/
theorem run_value (operand : Operand) (s : RunState) :
    (value operand).run s = (resolve s.ctx.env operand, s) := by
  have henv : env.run s = (.ok s.ctx.env, s) := rfl
  rw [value, run_bind_of_ok henv]
  cases resolve s.ctx.env operand with
  | error e => rfl
  | ok value => rfl

theorem setSlot_goes (key : EnvKey) {value : Value} (hs : premise → s.IsProper)
    (hvalue : premise → value.IsProper) : Goes premise s ((setSlot key value).run s).2 :=
  .withEnv hs fun hholds => (hs hholds).env.set key (hvalue hholds)

/-- A slot is set to what an operand stands for. -/
theorem value_bind_setSlot_goes (key : EnvKey) {operand : Operand} (hs : premise → s.IsProper)
    (hoperand : premise → operand.IsProper) :
    Goes premise s ((value operand >>= fun v => setSlot key v).run s).2 := by
  refine goes_looking (value_keeps operand) hs fun v hvalue => setSlot_goes key hs fun hholds => ?_
  rw [run_value] at hvalue
  exact resolve_isProper (hs hholds).env (hoperand hholds) (Prod.mk.inj hvalue).1

/-- What is done with the values of named operands. -/
theorem row_bind_goes {pairs : List (String × Operand)} {f : Row → Run α}
    (hs : premise → s.IsProper) (hpairs : premise → ∀ operand ∈ pairs.map Prod.snd, operand.IsProper)
    (hf : ∀ cells : Row, (premise → (Value.map cells).IsProper) →
      Goes premise s ((f cells).run s).2) :
    Goes premise s ((row pairs >>= f).run s).2 := by
  refine goes_looking (row_keeps pairs) hs fun cells hcells => hf cells fun hholds => ?_
  rw [run_row] at hcells
  cases hvalues : resolvePairs s.ctx.env pairs with
  | error e =>
    rw [hvalues] at hcells
    cases hcells
  | ok values =>
    rw [hvalues] at hcells
    obtain rfl := Except.ok.inj (Prod.mk.inj hcells).1
    exact Value.map_ofList_isProper
      (resolvePairs_isProper (hs hholds).env (hpairs hholds) hvalues)

/-! ## Rows -/

/-- A computation with storage runs on the connection alone. -/
theorem run_storing {ε : Type} (toError : ε → RuntimeError) (x : Storing ε α) (s : RunState) :
    (storing toError x).run s =
      ((x.run s.world.connection).1.mapError toError, s.on (x.run s.world.connection).2) :=
  rfl

/-- A row is added, and a record of it kept. -/
theorem addRow_goes (table : String) {cells : Row} (hs : premise → s.IsProper)
    (hcells : premise → (Value.map cells).IsProper) :
    let write : Run Int := do
      let id ← storing .storage (Storing.insertRow table cells)
      remember ⟨table, id, ""⟩
      return id
    Goes premise s (write.run s).2 := by
  intro write
  have hstoring := run_storing RuntimeError.storage (Storing.insertRow table cells) s
  rcases hinsert : (Storing.insertRow table cells).run s.world.connection with ⟨e | id, c⟩
  · rw [hinsert] at hstoring
    rw [show write.run s = _ from run_bind_of_error hstoring]
    exact .of_untouched hs ⟨rfl, rfl, (Storing.run_insertRow_eq_error hinsert).2, rfl⟩
  · rw [hinsert] at hstoring
    rw [show write.run s = _ from run_bind_of_ok hstoring]
    obtain ⟨hnext, hsession⟩ := Storing.insertRow_eq_ok (Storing.run_change_eq_ok hinsert)
    have hdata : c.session.working = s.world.data.setRow table id cells := by
      rw [hsession]
      rfl
    have hlog : c.session.log = s.world.connection.session.log ++
        ["INSERT " ++ table ++ " " ++ toString id] := by
      rw [hsession]
    refine ⟨[⟨table, id, none, cells⟩], ⟨?_, rfl, hlog⟩, fun hholds => ⟨?_, ?_⟩⟩
    · change s.world.data.Becomes _ c.session.working
      rw [hdata]
      exact .single (.insert hnext)
    · refine ⟨(hs hholds).env, ?_, (hs hholds).programs⟩
      change c.session.working.IsProper
      rw [hdata]
      exact (hs hholds).rows.setRow (hcells hholds) table id
    · intro write hwrite previous hprevious
      obtain rfl := List.mem_singleton.mp hwrite
      cases hprevious

/-- A row is changed, and a record of it as it was is kept. -/
theorem changeRow_goes (table : String) (id : Int) {cells : Row} (hs : premise → s.IsProper)
    (hcells : premise → (Value.map cells).IsProper) :
    let write : Run Unit := do
      let previous ← storing .storage (Storing.updateRow table id cells)
      remember ⟨table, id, (Value.map previous).jsonText⟩
    Goes premise s (write.run s).2 := by
  intro write
  have hstoring := run_storing RuntimeError.storage (Storing.updateRow table id cells) s
  rcases hupdate : (Storing.updateRow table id cells).run s.world.connection with ⟨e | previous, c⟩
  · rw [hupdate] at hstoring
    rw [show write.run s = _ from run_bind_of_error hstoring]
    exact .of_untouched hs ⟨rfl, rfl, Storing.run_updateRow_eq_error hupdate, rfl⟩
  · rw [hupdate] at hstoring
    rw [show write.run s = _ from run_bind_of_ok hstoring]
    obtain ⟨hprevious, hsession⟩ :=
      Storing.updateRow_eq_ok (Storing.run_change_eq_ok hupdate)
    have hrow : premise → (Value.map previous).IsProper := fun hholds =>
      (hs hholds).rows table id previous hprevious
    have hdata : c.session.working =
        s.world.data.setRow table id (Dict.insertAll cells previous) := by
      rw [hsession]
      rfl
    have hlog : c.session.log = s.world.connection.session.log ++
        ["UPDATE " ++ table ++ " " ++ toString id] := by
      rw [hsession]
    refine ⟨[⟨table, id, some previous, Dict.insertAll cells previous⟩], ⟨?_, rfl, hlog⟩,
      fun hholds => ⟨?_, ?_⟩⟩
    · change s.world.data.Becomes _ c.session.working
      rw [hdata]
      exact .single (.update hprevious)
    · refine ⟨(hs hholds).env, ?_, (hs hholds).programs⟩
      change c.session.working.IsProper
      rw [hdata]
      exact (hs hholds).rows.setRow (Value.map_insertAll_isProper (hrow hholds)
        (Value.map_isProper_iff.mp (hcells hholds)).2) table id
    · intro write hwrite found hfound
      obtain rfl := List.mem_singleton.mp hwrite
      obtain rfl := Option.some.inj hfound
      exact hrow hholds

theorem insertRow_goes (table : String) {cells : Row} (hs : premise → s.IsProper)
    (hcells : premise → (Value.map cells).IsProper) :
    Goes premise s ((insertRow params table cells).run s).2 := by
  have hcontext : context.run s = (.ok s.ctx, s) := rfl
  rw [insertRow, run_bind_of_ok hcontext]
  refine goes_bind (.of_untouched hs (checkWrite_untouched _ _ _ s)) fun _ t _ => ?_
  exact addRow_goes _ And.right fun hholds => hcells hholds.1

theorem updateRow_goes (table : String) (id : Int) {cells : Row} (hs : premise → s.IsProper)
    (hcells : premise → (Value.map cells).IsProper) :
    Goes premise s ((updateRow params table id cells).run s).2 := by
  have hcontext : context.run s = (.ok s.ctx, s) := rfl
  rw [updateRow, run_bind_of_ok hcontext]
  refine goes_bind (.of_untouched hs (checkWrite_untouched _ _ _ s)) fun _ t _ => ?_
  exact changeRow_goes _ _ And.right fun hholds => hcells hholds.1

/-- The id of a row that was added is a quantity. -/
theorem insertRow_inRange {table : String} {cells : Row} {id : Int}
    (h : (insertRow params table cells).run s = (.ok id, t)) : Quantity.InRange id := by
  obtain ⟨ctx, s₁, -, h⟩ := run_bind_eq_ok h
  obtain ⟨_, s₂, -, h⟩ := run_bind_eq_ok h
  obtain ⟨added, s₃, hadd, h⟩ := run_bind_eq_ok h
  obtain ⟨_, s₄, -, h⟩ := run_bind_eq_ok h
  obtain rfl : added = id := Except.ok.inj (Prod.mk.inj h).1
  exact Database.inRange_of_nextId? (Storing.run_insertRow_eq_ok (run_storing_eq_ok hadd).1).1

theorem selectRow_untouched (table : String) (id : Int) (columns : List String) :
    Keeps Untouched (selectRow params table id columns) :=
  (checking_untouched fun ctx => Access.checkRead_looks params ctx table _ _).bind fun _ =>
    (storing_untouched (Storing.selectRow_looks _ _) _).bind fun _ => .pure _

/-- The cells that are read of a row are proper if the row is. -/
theorem selectRow_isProper {table : String} {id : Int} {columns : List String} {cells : Row}
    (h : (selectRow params table id columns).run s = (.ok cells, t))
    (hrows : s.world.data.IsProper) : (Value.map cells).IsProper := by
  obtain ⟨access, s₁, hchecked, h⟩ := run_bind_eq_ok h
  obtain ⟨found, s₂, hselected, h⟩ := run_bind_eq_ok h
  obtain rfl : visibleCells access.columns (found.getD []) = cells :=
    Except.ok.inj (Prod.mk.inj h).1
  have hrow : (Value.map (found.getD [])).IsProper := by
    have hsame : s.Untouched s₁ :=
      (checking_untouched fun ctx => Access.checkRead_looks params ctx table _ _).run hchecked
    obtain ⟨hread, -⟩ := Storing.run_look_eq_ok (run_storing_eq_ok hselected).1
    have hfound : s.world.data.row? access.table id = found := by
      rw [World.data, ← hsame.session]
      exact Except.ok.inj hread
    cases found with
    | none => exact ⟨Dict.ascending_nil, trivial⟩
    | some row => exact hrows _ _ row hfound
  unfold visibleCells
  split
  next => exact hrow
  next => exact Value.map_filter_isProper hrow _

/-! ## Statements -/

theorem charge_goes (amount : Int) (hs : premise → s.IsProper) :
    Goes premise s ((charge amount).run s).2 := by
  rw [state_charge]
  exact .withEnv hs fun hholds => (hs hholds).env.charge amount

/-- A statement other than a call writes a row and keeps a record, or writes none. -/
theorem exec_goes {statement : Statement}
    (hcall : ∀ target fields, statement ≠ .call target fields) (hs : premise → s.IsProper)
    (hstatement : premise → statement.IsProper) :
    Goes premise s ((exec params call timer statement).run s).2 := by
  have hstill {x : Run Unit} (hx : Keeps Untouched x) : Goes premise s (x.run s).2 :=
    .of_untouched hs (hx s)
  cases statement with
  | call target fields => exact absurd rfl (hcall target fields)
  | charge amount => exact charge_goes amount hs
  | set name operand =>
    exact value_bind_setSlot_goes _ hs fun hholds => hstatement hholds _ (List.mem_singleton_self _)
  | insert table pairs =>
    refine row_bind_goes hs hstatement fun cells hcells => ?_
    refine goes_bind (insertRow_goes table hs hcells) fun id t hinsert => ?_
    -- The new id is a value of contract code from now on.
    exact setSlot_goes _ And.right fun _ => insertRow_inRange hinsert
  | update table id pairs =>
    refine goes_looking (int_keeps id) hs fun n _ => ?_
    exact row_bind_goes hs
      (fun hholds operand hoperand => hstatement hholds _ (List.mem_cons_of_mem _ hoperand))
      fun cells hcells => updateRow_goes table n hs hcells
  | select table id columns =>
    refine goes_looking (int_keeps id) hs fun n _ => ?_
    refine goes_bind (.of_untouched hs (selectRow_untouched table n columns s))
      fun cells t hselect => ?_
    exact setSlot_goes _ And.right fun hholds =>
      selectRow_isProper hselect (hs hholds.1).rows
  | require expression => exact hstill (keeps_of_eq (require_keeps expression))
  | condition param useConditions =>
    exact hstill (checking_untouched fun ctx =>
      Access.checkCondition_looks params ctx param useConditions)
  | activate tableId ecosystem active =>
    refine goes_looking (int_keeps _) hs fun tableId _ =>
      goes_looking (int_keeps _) hs fun ecosystem _ => hstill ?_
    exact changeContracts_untouched fun registry =>
      registry.map_changeOwner (fun _ _ => rfl) _ _ _
  | wallet tableId ecosystem owner =>
    refine goes_looking (int_keeps _) hs fun tableId _ =>
      goes_looking (int_keeps _) hs fun ecosystem _ =>
        goes_looking (int_keeps _) hs fun owner _ => hstill ?_
    exact changeContracts_untouched fun registry =>
      registry.map_changeOwner (fun _ _ => rfl) _ _ _
  | notify key payload =>
    exact goes_looking (int_keeps key) hs fun n _ => hstill fun _ => ⟨rfl, rfl, rfl, rfl⟩
  | result operand =>
    exact value_bind_setSlot_goes _ hs fun hholds => hstatement hholds _ (List.mem_singleton_self _)
  | resultBytes bytes => exact setSlot_goes _ hs fun _ => trivial
  | fail text => exact hstill (.throw _)
  | spin milliseconds => exact hstill (wait_untouched milliseconds)

/-! ## Calls -/

theorem enter_goes (name : String) (hs : premise → s.IsProper) :
    Goes premise s ((enter name).run s).2 := by
  rw [run_enter]
  split
  next => exact .of_untouched hs (Std.Refl.refl s)
  next => exact .stacked hs

/-- A contract that is called finds proper values in its environment. -/
theorem startCall_goes (depth : Nat) (target : String) {fields : List (String × Operand)}
    (hs : premise → s.IsProper) (hfields : premise → (Statement.call target fields).IsProper) :
    Goes premise s ((startCall depth target fields).run s).2 := by
  rcases hstart : (startCall depth target fields).run s with ⟨e | opened, t⟩
  · obtain rfl := startCall_eq_error hstart
    exact .of_untouched hs (Std.Refl.refl _)
  · obtain ⟨values, callStack, hvalues, -, -, hcaller, rfl⟩ := startCall_eq_ok hstart
    have hstacked : Goes premise s (s.stacked callStack) := .stacked hs
    refine hstacked.trans (.withEnv And.right fun hholds => ?_)
    rw [hcaller]
    exact hholds.2.env.calleeEnv _ (Value.map_ofList_isProper
      (resolvePairs_isProper (hs hholds.1).env (hfields hholds.1) hvalues))

theorem closeCall_goes (name : String) {caller : Environment} (hs : premise → s.IsProper)
    (hcaller : premise → caller.IsProper) :
    Goes premise s ((closeCall name caller).run s).2 := by
  rw [run_closeCall]
  refine Goes.trans (.withEnv hs fun hholds => ?_) (.stacked And.right)
  exact (hcaller hholds).setFuel (hs hholds).env.fuel_inRange

/-- A contract that waited goes on in its environment, with the result of the one that it called. -/
theorem resume_goes (name : String) {caller : Environment} (hs : premise → s.IsProper)
    (hcaller : premise → caller.IsProper) :
    Goes premise s
      ((do setSlot (.field "ret") (← closeCall name caller) : Run Unit).run s).2 := by
  refine goes_bind (closeCall_goes name hs hcaller) fun value t hclose => ?_
  refine setSlot_goes _ And.right fun hholds => ?_
  rw [run_closeCall] at hclose
  obtain rfl := Except.ok.inj (Prod.mk.inj hclose).1
  exact (hs hholds.1).env.result

/-! ## From moment to moment -/

/-- The values that a contract that waits will come upon are proper. -/
structure Frame.IsProper (frame : Frame) : Prop where
  caller : frame.caller.IsProper
  rest : ∀ statement ∈ frame.rest, statement.IsProper

namespace Moment

variable {node : Node} {m m' : Moment}

/-- All values that the run may come upon from now on are proper. -/
def IsProper : Moment → Prop
  | opening s | entered s => s.IsProper ∧ s.ctx.contract.program.IsProper
  | ready place todo s =>
    s.IsProper ∧ (∀ frame ∈ place.frames, frame.IsProper) ∧ ∀ statement ∈ todo, statement.IsProper
  | paid place statement rest s =>
    s.IsProper ∧ (∀ frame ∈ place.frames, frame.IsProper) ∧
      ∀ todo ∈ statement :: rest, todo.IsProper
  | failing frames _ s => s.IsProper ∧ ∀ frame ∈ frames, frame.IsProper
  | ended _ s => s.IsProper

theorem IsProper.state (h : m.IsProper) : m.state.IsProper := by
  cases m with
  | ended result s => exact h
  | _ => exact h.1

/-- From one moment to the other some rows were written. If all that the run may come upon is proper
at the first and the ids are in range at the other, it is so there too, and so are the rows that were
written over. -/
abbrev Goes (m m' : Moment) : Prop :=
  Leads m.IsProper m'.IsProper m.state m'.state

/-- A moment is proper if its state is and if that is enough for what comes then. -/
theorem goes_of_state (h : RunState.Goes m.IsProper m.state t) (hstate : m'.state = t)
    (hproper : m.IsProper → t.IsProper → m'.IsProper) : m.Goes m' := by
  subst hstate
  exact h.imp hproper

/-- A computation goes to the next moment, if that needs no more than what is proper already. -/
theorem goes_after {x : Run α} {failed : RuntimeError → RunState → Moment}
    {next : α → RunState → Moment} (hx : RunState.Goes m.IsProper m.state (x.run m.state).2)
    (hfailed : ∀ e t, (failed e t).state = t ∧ (m.IsProper → t.IsProper → (failed e t).IsProper))
    (hnext : ∀ a t, x.run m.state = (.ok a, t) →
      (next a t).state = t ∧ (m.IsProper → t.IsProper → (next a t).IsProper)) :
    m.Goes (after x m.state failed next) := by
  refine after_cases (fun e t hrun => ?_) fun a t hrun => ?_
  · rw [hrun] at hx
    exact goes_of_state hx (hfailed e t).1 (hfailed e t).2
  · rw [hrun] at hx
    exact goes_of_state hx (hnext a t hrun).1 (hnext a t hrun).2

/-- The end of a run writes no row. -/
theorem goes_conclude (hstate : m.state = s) (outcome : Except RuntimeError Unit) :
    m.Goes (conclude outcome s) := by
  subst hstate
  refine goes_after ?_ (fun e t => ⟨rfl, fun _ ht => ht⟩) fun text t _ => ⟨rfl, fun _ ht => ht⟩
  rw [state_finish]
  exact .trans (.stacked IsProper.state) (.of_untouched And.right ⟨rfl, rfl, rfl, rfl⟩)

/-- What is done with a statement in a contract goes on there. -/
theorem goes_resumed (place : Place) {rest : List Statement} {x : Run Unit}
    (hx : RunState.Goes m.IsProper m.state (x.run m.state).2)
    (hframes : m.IsProper → ∀ frame ∈ place.frames, frame.IsProper)
    (hrest : m.IsProper → ∀ statement ∈ rest, statement.IsProper) :
    m.Goes (after x m.state (failing place.frames) fun _ => ready place rest) :=
  goes_after hx (fun _ _ => ⟨rfl, fun hm ht => ⟨ht, hframes hm⟩⟩) fun _ _ _ =>
    ⟨rfl, fun hm ht => ⟨ht, hframes hm, hrest hm⟩⟩

/-- From each moment to the next the run keeps a record of every row that it writes. -/
theorem next_goes (node : Node) (m : Moment) : m.Goes (m.next node) := by
  cases m with
  | opening s =>
    rw [next]
    refine goes_after (m := opening s) ?_ (fun e t => ⟨rfl, fun _ ht => ht⟩)
      fun _ t hrun => ⟨rfl, fun hm ht => ⟨ht, ?_⟩⟩
    · exact goes_bind (enter_goes _ And.left) fun _ t _ =>
        .of_untouched And.right ⟨rfl, rfl, rfl, rfl⟩
    · have hentered := ((enter_tame _).bind fun _ => advance_tame _).keeps.run hrun
      rw [hentered.ctx.contract]
      exact hm.2
  | entered s =>
    rw [next]
    refine goes_after (m := entered s) ?_
      (fun e t => ⟨rfl, fun _ ht => ⟨ht, fun frame hframe => by cases hframe⟩⟩) fun timer t _ =>
        ⟨rfl, fun hm ht =>
          ⟨ht, fun frame hframe => (by cases hframe), entryStatements_isProper hm.2⟩⟩
    rw [state_bind_startTimer]
    exact charge_goes _ And.left
  | ready place todo s =>
    obtain ⟨frames, depth, timer⟩ := place
    cases todo with
    | cons statement rest =>
      rw [next]
      refine goes_after (m := ready ⟨frames, depth, timer⟩ (statement :: rest) s) ?_
        (fun e t => ⟨rfl, fun hm ht => ⟨ht, hm.2.1⟩⟩) fun _ t _ =>
          ⟨rfl, fun hm ht => ⟨ht, hm.2⟩⟩
      exact goes_bind (.of_untouched And.left (keeps_of_eq (checkTime_keeps timer) s))
        fun _ t _ => charge_goes 1 And.right
    | nil =>
      cases frames with
      | nil =>
        rw [next]
        exact goes_conclude rfl _
      | cons frame frames =>
        rw [next]
        exact goes_resumed (m := ready ⟨frame :: frames, depth, timer⟩ [] s)
          ⟨frames, depth + 1, frame.timer⟩
          (resume_goes frame.callee And.left fun hm => (hm.2.1 frame (List.mem_cons_self ..)).caller)
          (fun hm other hother => hm.2.1 other (List.mem_cons_of_mem _ hother))
          fun hm => (hm.2.1 frame (List.mem_cons_self ..)).rest
  | paid place statement rest s =>
    rcases call_or_other statement with ⟨target, fields, rfl⟩ | hother
    · rw [next]
      refine goes_after (m := paid place (.call target fields) rest s)
        (startCall_goes _ _ And.left fun hm => hm.2.2 _ (List.mem_cons_self ..))
        (fun e t => ⟨rfl, fun hm ht => ⟨ht, hm.2.1⟩⟩) fun opened t hstart =>
          ⟨rfl, fun hm ht => ⟨ht, ?_, ?_⟩⟩
      · obtain ⟨-, callStack, -, -, -, hcaller, -⟩ := startCall_eq_ok hstart
        refine List.forall_mem_cons.mpr ⟨⟨?_, ?_⟩, hm.2.1⟩
        · dsimp only
          rw [hcaller]
          exact hm.1.env.stack _
        · exact (List.forall_mem_cons.mp hm.2.2).2
      · obtain ⟨-, -, -, hcontract, -⟩ := startCall_eq_ok hstart
        exact entryStatements_isProper
          (hm.1.programs.program (Registry.mem_contracts_of_lookupByName hcontract))
    · rw [next_paid hother]
      exact goes_resumed (m := paid place statement rest s) place
        (exec_goes hother And.left fun hm => hm.2.2 _ (List.mem_cons_self ..))
        (fun hm => hm.2.1) fun hm => (List.forall_mem_cons.mp hm.2.2).2
  | failing frames e s =>
    cases frames with
    | nil =>
      rw [next]
      exact goes_conclude rfl _
    | cons frame frames =>
      rw [next]
      refine goes_after (m := failing (frame :: frames) e s)
        (closeCall_goes frame.callee And.left fun hm => (hm.2 frame (List.mem_cons_self ..)).caller)
        (fun _ t => ⟨rfl, fun hm ht => ⟨ht, ?_⟩⟩) fun _ t _ => ⟨rfl, fun hm ht => ⟨ht, ?_⟩⟩
      · exact fun other hother => hm.2 other (List.mem_cons_of_mem _ hother)
      · exact fun other hother => hm.2 other (List.mem_cons_of_mem _ hother)
  | ended result s => exact .refl _

/-- A run keeps a record of every row that it writes, in the order in which it writes them. -/
theorem nth_goes (node : Node) (s : RunState) (k : Nat) : (opening s).Goes (nth node s k) :=
  nth_invariant (motive := fun m => (opening s).Goes m) (.refl _)
    (fun m hm => hm.trans (next_goes node m)) k

end Moment

/-- What the run of a contract writes, it keeps records of. -/
theorem invoke_goes (node : Node) (s : RunState) :
    Goes (s.IsProper ∧ s.ctx.contract.program.IsProper) s ((invoke node).run s).2 := by
  obtain ⟨k, hended⟩ := Moment.exists_nth_eq_ended node s
  have hgoes := Moment.nth_goes node s k
  rw [hended] at hgoes
  exact hgoes

end Run

end Covenant
