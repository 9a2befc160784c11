import Mathlib.Data.List.Nodup
import Mathlib.Data.List.Perm.Subperm
import Covenant.Proofs.Execution.Effect
import Covenant.Proofs.Execution.Prepare

/-!
# Calls inside calls

The call stack names the contract of the transaction and the contracts that were called, outermost
first. A contract is entered only if it is registered and not on the stack, and what a script does
between entering a contract and leaving it leaves the stack as it was. So at every moment of a run the
stack says which contracts wait and which one runs, and no contract is on it twice.
-/

namespace Covenant

open Stage

namespace CallStack

variable {stack next : CallStack} {name : String}

/-- Only a contract that is not on the stack is put on top of it. -/
theorem push?_eq_some_iff :
    stack.push? name = some next ↔ name ∉ stack.names ∧ next = ⟨stack.names ++ [name]⟩ := by
  unfold push? contains
  by_cases hmem : name ∈ stack.names
  · simp [hmem]
  · simp [hmem, eq_comm]

theorem push?_eq_none_iff : stack.push? name = none ↔ name ∈ stack.names := by
  unfold push? contains
  by_cases hmem : name ∈ stack.names
  · simp [hmem]
  · simp [hmem]

/-- The contract that was entered last is the one that is left. -/
theorem pop_append (names : List String) (name : String) :
    (⟨names ++ [name]⟩ : CallStack).pop name = ⟨names⟩ := by
  unfold pop pop?
  rw [if_pos List.getLast?_concat, List.dropLast_concat]
  rfl

end CallStack

namespace Registry

variable {registry : Registry} {contract : Contract}

/-- The full names of all contracts, in the order of their registration. -/
def names (registry : Registry) : List String :=
  registry.contracts.map Contract.name

theorem length_names (registry : Registry) : registry.names.length = registry.contracts.length :=
  List.length_map _

theorem mem_contracts_of_contractAt? {i : Nat} (h : registry.contractAt? i = some contract) :
    contract ∈ registry.contracts := by
  obtain ⟨object, hobject, hcontract⟩ := Option.bind_eq_some_iff.mp h
  exact List.mem_filterMap.mpr ⟨object, List.mem_of_getElem? hobject, hcontract⟩

theorem mem_contracts_of_lookupByName {name : String} {ecosystem : Int}
    (h : registry.lookupByName name ecosystem = some contract) : contract ∈ registry.contracts := by
  obtain ⟨i, -, hat⟩ := Option.bind_eq_some_iff.mp h
  exact mem_contracts_of_contractAt? hat

theorem mem_contracts_of_lookupById {id : Int} (h : registry.lookupById id = some contract) :
    contract ∈ registry.contracts := by
  unfold lookupById at h
  split at h
  next =>
    obtain ⟨places, -, hplaces⟩ := Option.bind_eq_some_iff.mp h
    obtain ⟨i, -, hat⟩ := Option.bind_eq_some_iff.mp hplaces
    exact mem_contracts_of_contractAt? (Option.filter_eq_some_iff.mp hat).1
  next =>
    split at h
    next => exact mem_contracts_of_contractAt? h
    next => cases h

theorem mem_names_of_lookupByName {name : String} {ecosystem : Int}
    (h : registry.lookupByName name ecosystem = some contract) : contract.name ∈ registry.names :=
  List.mem_map_of_mem (mem_contracts_of_lookupByName h)

theorem mem_names_of_lookupById {id : Int} (h : registry.lookupById id = some contract) :
    contract.name ∈ registry.names :=
  List.mem_map_of_mem (mem_contracts_of_lookupById h)

section Owners

variable {α : Type} {view : Contract → α}

/-- Another ownership is not another contract to those who do not look at it. -/
theorem map_setOwner (hview : ∀ contract owner, view { contract with owner } = view contract)
    (ecosystem : Int) (change : Ownership → Ownership) (index : Nat)
    (objects : List RegistryObject) :
    ((setOwner ecosystem change index objects).filterMap RegistryObject.contract?).map view =
      (objects.filterMap RegistryObject.contract?).map view := by
  unfold setOwner
  induction objects generalizing index with
  | nil => simp
  | cons object rest ih =>
    cases index with
    | zero =>
      cases object with
      | function name => rfl
      | contract contract =>
        dsimp only [List.modify_zero_cons]
        split
        next => exact congrArg (· :: _) (hview contract _)
        next => rfl
    | succ index =>
      have hrest := ih index
      cases object with
      | function name => exact hrest
      | contract contract => exact congrArg (view contract :: ·) hrest

theorem map_changeOwner (hview : ∀ contract owner, view { contract with owner } = view contract)
    (registry : Registry) (tableId ecosystem : Int) (change : Ownership → Ownership) :
    (registry.changeOwner tableId ecosystem change).2.contracts.map view =
      registry.contracts.map view := by
  unfold changeOwner
  split
  next => rfl
  next =>
    unfold contracts
    dsimp only
    generalize (Assoc.find? tableId registry.byTable).getD [] = places
    generalize registry.objects = objects
    induction places generalizing objects with
    | nil => rfl
    | cons index rest ih =>
      rw [List.foldl_cons, ih, map_setOwner hview]

end Owners

theorem names_changeOwner (registry : Registry) (tableId ecosystem : Int)
    (change : Ownership → Ownership) :
    (registry.changeOwner tableId ecosystem change).2.names = registry.names :=
  map_changeOwner (fun _ _ => rfl) registry tableId ecosystem change

end Registry

/-! ## What is on the stack again when a script is through -/

namespace RunState

/-- The same contract, the same call stack, and contracts of the same names. -/
structure Level (s t : RunState) : Prop where
  contract : t.ctx.contract = s.ctx.contract
  callStack : t.ctx.callStack = s.ctx.callStack
  names : t.world.registry.names = s.world.registry.names

instance : IsPreorder RunState Level where
  refl _ := ⟨rfl, rfl, rfl⟩
  trans _ _ _ h k :=
    ⟨k.contract.trans h.contract, k.callStack.trans h.callStack, k.names.trans h.names⟩

/-- The state with another call stack, which contract code sees. -/
def stacked (s : RunState) (callStack : CallStack) : RunState :=
  { s with ctx := { s.ctx with callStack }.syncStack }

/-- The state with another environment. -/
def withEnv (s : RunState) (env : Environment) : RunState :=
  { s with ctx := { s.ctx with env } }

/-- The state in another phase of the execution. -/
def advanced (s : RunState) (state : ExecutionState) : RunState :=
  { s with ctx := { s.ctx with state } }

/-- The contracts have these names, and some of them are on the call stack, none twice. -/
structure Sound (names : List String) (s : RunState) : Prop where
  known : s.world.registry.names = names
  nodup : s.ctx.callStack.names.Nodup
  registered : ∀ name ∈ s.ctx.callStack.names, name ∈ names

variable {names : List String} {s t : RunState}

theorem Sound.of_level (h : s.Sound names) (hlevel : s.Level t) : t.Sound names := by
  obtain ⟨hnames, hnodup, hregistered⟩ := h
  rw [← hlevel.callStack] at hnodup hregistered
  exact ⟨hlevel.names.trans hnames, hnodup, hregistered⟩

theorem sound_of_empty (hempty : s.ctx.callStack = .empty)
    (hknown : s.world.registry.names = names) : s.Sound names := by
  refine ⟨hknown, ?_, fun name hname => ?_⟩
  · rw [hempty]
    exact List.nodup_nil
  · rw [hempty] at hname
    cases hname

/-- There are no more names on the stack than contracts. -/
theorem Sound.length_le (h : s.Sound names) : s.ctx.callStack.names.length ≤ names.length :=
  (h.nodup.subperm h.registered).length_le

/-- A registered contract that is not on the stack may be put on top. -/
theorem Sound.push {name : String} {callStack : CallStack} (h : s.Sound names)
    (hname : name ∈ names) (hpush : s.ctx.callStack.push? name = some callStack) :
    (s.stacked callStack).Sound names := by
  obtain ⟨hnew, rfl⟩ := CallStack.push?_eq_some_iff.mp hpush
  refine ⟨h.known, List.nodup_append.mpr ⟨h.nodup, List.nodup_singleton name, ?_⟩,
    fun other hother => ?_⟩
  · rintro other hother _ hname rfl
    rw [List.mem_singleton.mp hname] at hother
    exact hnew hother
  · rcases List.mem_append.mp hother with hother | hother
    · exact h.registered other hother
    · rw [List.mem_singleton.mp hother]
      exact hname

end RunState

namespace Run

open RunState

variable {params : SystemParameters} {node : Node} {s t : RunState} {α β : Type}

/-- A contract is entered unless it is on the stack. -/
theorem run_enter (name : String) (s : RunState) :
    (enter name).run s =
      match s.ctx.callStack.push? name with
      | none => (.error (.contractLoop name), s)
      | some callStack => (.ok (), s.stacked callStack) := by
  have hcontext : context.run s = (.ok s.ctx, s) := rfl
  rw [enter, run_bind_of_ok hcontext]
  cases s.ctx.callStack.push? name with
  | none => rfl
  | some callStack => rfl

/-- The contract that a call statement means is looked up among the contracts as they are. -/
theorem run_callee (target : String) (s : RunState) :
    (callee target).run s =
      match s.world.registry.lookupByName (ContractName.qualify s.ctx.ecosystemId target)
        s.ctx.ecosystemId with
      | none => (.error (.unknownContract (ContractName.qualify s.ctx.ecosystemId target)), s)
      | some contract => (.ok contract, s) := by
  have hcontext : context.run s = (.ok s.ctx, s) := rfl
  have hregistry : registry.run s = (.ok s.world.registry, s) := rfl
  rw [callee, run_bind_of_ok hcontext, run_bind_of_ok hregistry]
  cases s.world.registry.lookupByName (ContractName.qualify s.ctx.ecosystemId target)
    s.ctx.ecosystemId with
  | none => rfl
  | some contract => rfl

/-- The end of a call gives the caller its environment back and takes the contract off the stack. -/
theorem run_closeCall (name : String) (caller : Environment) (s : RunState) :
    (closeCall name caller).run s =
      (.ok s.ctx.env.result,
        (s.withEnv (caller.setFuel s.ctx.env.fuel)).stacked (s.ctx.callStack.pop name)) :=
  rfl

/-- What a call is, from entering its contract to leaving it. -/
theorem run_nested (contract : Contract) (fields : Row) (body : Run Unit) (s : RunState) :
    (nested contract fields body).run s =
      match s.ctx.callStack.push? contract.name with
      | none => (.error (.contractLoop contract.name), s)
      | some callStack =>
        let opened := s.stacked callStack
        let ran := body.run (opened.withEnv (calleeEnv opened.ctx.env contract.name fields))
        let closed := (closeCall contract.name opened.ctx.env).run ran.2
        (ran.1.bind fun _ => closed.1, closed.2) := by
  have henter := run_enter contract.name s
  cases hpush : s.ctx.callStack.push? contract.name with
  | none =>
    rw [hpush] at henter
    rw [nested, run_bind_of_error henter]
  | some callStack =>
    rw [hpush] at henter
    have henv : env.run (s.stacked callStack) =
      (.ok (s.stacked callStack).ctx.env, s.stacked callStack) := rfl
    have hmodify : (modifyEnv fun env => calleeEnv env contract.name fields).run
        (s.stacked callStack) = (.ok (), (s.stacked callStack).withEnv
          (calleeEnv (s.stacked callStack).ctx.env contract.name fields)) := rfl
    rw [nested, run_bind_of_ok henter, run_bind_of_ok henv, run_bind_of_ok hmodify,
      run_bind_attempt]
    dsimp only
    rcases body.run ((s.stacked callStack).withEnv
      (calleeEnv (s.stacked callStack).ctx.env contract.name fields)) with ⟨e | u, t⟩
    · rfl
    · rfl

/-! ## Services of a run -/

theorem storing_level {ε : Type} (toError : ε → RuntimeError) (x : Storing ε α) :
    Keeps Level (storing toError x) :=
  fun _ => ⟨rfl, rfl, rfl⟩

theorem remember_level (record : RollbackRecord) : Keeps Level (remember record) :=
  fun _ => ⟨rfl, rfl, rfl⟩

theorem modifyEnv_level (f : Environment → Environment) : Keeps Level (modifyEnv f) :=
  fun _ => ⟨rfl, rfl, rfl⟩

theorem checking_level (check : ExecutionContext → Storing AccessError α) :
    Keeps Level (checking check) :=
  (keeps_of_eq context_keeps).bind fun _ => storing_level _ _

theorem checkWrite_level (table : String) (action : TableAction) (cells : Row) :
    Keeps Level (checkWrite params table action cells) :=
  (checking_level _).bind fun _ => (checking_level _).bind fun _ => .pure _

theorem charge_level (amount : Int) : Keeps Level (charge amount) := by
  intro s
  rw [state_charge]
  exact ⟨rfl, rfl, rfl⟩

theorem insertRow_level (table : String) (cells : Row) :
    Keeps Level (insertRow params table cells) :=
  (keeps_of_eq context_keeps).bind fun _ => (checkWrite_level _ _ _).bind fun _ =>
    (storing_level _ _).bind fun _ =>
      (remember_level _).bind fun _ => .pure _

theorem updateRow_level (table : String) (id : Int) (cells : Row) :
    Keeps Level (updateRow params table id cells) :=
  (keeps_of_eq context_keeps).bind fun _ => (checkWrite_level _ _ _).bind fun _ =>
    (storing_level _ _).bind fun _ => remember_level _

theorem selectRow_level (table : String) (id : Int) (columns : List String) :
    Keeps Level (selectRow params table id columns) :=
  (checking_level _).bind fun _ => (storing_level _ _).bind fun _ => .pure _

theorem changeContracts_level {tableId ecosystem : Int} {change : Registry → Option α × Registry}
    {undo : α → FlushChange} (hchange : ∀ registry, (change registry).2.names = registry.names) :
    Keeps Level (changeContracts tableId ecosystem change undo) := by
  intro s
  have hnames := hchange s.world.registry
  have hregistry : registry.run s = (.ok s.world.registry, s) := rfl
  rw [changeContracts, run_bind_of_ok hregistry]
  rcases hchanged : change s.world.registry with ⟨_ | previous, changed⟩
  · exact Std.Refl.refl _
  · rw [hchanged] at hnames
    exact ⟨rfl, rfl, hnames⟩

/-- A call takes its contract off the stack again, whether it has failed or not. -/
theorem nested_level {body : Run Unit} (hbody : Keeps Level body) (contract : Contract)
    (fields : Row) : Keeps Level (nested contract fields body) := by
  intro s
  rw [run_nested]
  cases hpush : s.ctx.callStack.push? contract.name with
  | none => exact Std.Refl.refl _
  | some callStack =>
    obtain ⟨-, rfl⟩ := CallStack.push?_eq_some_iff.mp hpush
    dsimp only
    generalize hopened : s.stacked ⟨s.ctx.callStack.names ++ [contract.name]⟩ = opened
    have hran := hbody (opened.withEnv (calleeEnv opened.ctx.env contract.name fields))
    rw [run_closeCall]
    subst hopened
    refine ⟨hran.contract, ?_, hran.names⟩
    have hstack := congrArg (CallStack.pop · contract.name) hran.callStack
    exact hstack.trans (CallStack.pop_append _ _)

/-- Whatever a script does, it leaves the call stack as it was. -/
theorem Scripted.level {x : Run α} (h : Scripted params x) : Keeps Level x := by
  induction h with
  | pure a => exact .pure a
  | throw e => exact .throw e
  | bind _ _ hx hf => exact hx.bind hf
  | observe view => exact fun _ => Std.Refl.refl _
  | setClock clock => exact fun _ => ⟨rfl, rfl, rfl⟩
  | charge amount => exact charge_level amount
  | setSlot value _ => exact modifyEnv_level _
  | insertRow table cells => exact insertRow_level table cells
  | updateRow table id cells => exact updateRow_level table id cells
  | selectRow table id columns => exact selectRow_level table id columns
  | checkCondition param useConditions => exact checking_level _
  | activate tableId ecosystem active =>
    exact changeContracts_level fun registry => registry.names_changeOwner _ _ _
  | setWallet tableId ecosystem wallet =>
    exact changeContracts_level fun registry => registry.names_changeOwner _ _ _
  | notify keyId payload => exact fun _ => ⟨rfl, rfl, rfl⟩
  | call target fields _ hbody =>
    exact (keeps_of_eq (callee_keeps target)).bind fun contract =>
      nested_level (hbody contract) contract fields

/-! ## Calls as steps -/

/-- A call statement has its contract entered, or fails and does nothing. -/
theorem startCall_eq_ok {depth : Nat} {target : String} {fields : List (String × Operand)}
    {opened : OpenCall} (h : (startCall depth target fields).run s = (.ok opened, t)) :
    ∃ values callStack, resolvePairs s.ctx.env fields = .ok values ∧
      s.world.registry.lookupByName (ContractName.qualify s.ctx.ecosystemId target)
        s.ctx.ecosystemId = some opened.contract ∧
      s.ctx.callStack.push? opened.contract.name = some callStack ∧
      opened.caller = (s.stacked callStack).ctx.env ∧
      t = (s.stacked callStack).withEnv
        (calleeEnv opened.caller opened.contract.name (Dict.ofList values)) := by
  obtain ⟨cells, s₁, hcells, h⟩ := run_bind_eq_ok h
  rw [run_row] at hcells
  cases hvalues : resolvePairs s.ctx.env fields with
  | error e =>
    rw [hvalues] at hcells
    cases hcells
  | ok values =>
    rw [hvalues] at hcells
    obtain ⟨hsame, rfl⟩ := Prod.mk.inj hcells
    obtain rfl : Dict.ofList values = cells := Except.ok.inj hsame
    cases depth with
    | zero => cases h
    | succ depth =>
      obtain ⟨contract, s₂, hcontract, h⟩ := run_bind_eq_ok h
      rw [run_callee] at hcontract
      split at hcontract
      next => cases hcontract
      next found hfound =>
        obtain ⟨hsame, rfl⟩ := Prod.mk.inj hcontract
        obtain rfl := Except.ok.inj hsame
        obtain ⟨u, s₃, henter, h⟩ := run_bind_eq_ok h
        rw [run_enter] at henter
        split at henter
        next => cases henter
        next callStack hpush =>
          obtain ⟨-, rfl⟩ := Prod.mk.inj henter
          obtain ⟨hopened, rfl⟩ := Prod.mk.inj h
          obtain rfl := Except.ok.inj hopened
          exact ⟨values, callStack, rfl, hfound, hpush, rfl, rfl⟩

theorem startCall_eq_error {depth : Nat} {target : String} {fields : List (String × Operand)}
    {e : RuntimeError} (h : (startCall depth target fields).run s = (.error e, t)) : t = s := by
  rcases run_bind_eq_error h with hcells | ⟨cells, s₁, hcells, h⟩
  · exact ((row_keeps fields).run hcells).symm
  · obtain rfl := (row_keeps fields).run hcells
    cases depth with
    | zero => exact (Prod.mk.inj h).2.symm
    | succ depth =>
      rcases run_bind_eq_error h with hcontract | ⟨contract, s₂, hcontract, h⟩
      · exact ((callee_keeps target).run hcontract).symm
      · obtain rfl := (callee_keeps target).run hcontract
        rcases run_bind_eq_error h with henter | ⟨_, _, _, hrest⟩
        · rw [run_enter] at henter
          split at henter
          next => exact (Prod.mk.inj henter).2.symm
          next => cases henter
        · cases hrest

/-- A call of a contract that is on the stack fails, and names the contract. -/
theorem startCall_of_mem {depth : Nat} {target : String} {fields : List (String × Operand)}
    {values : List (String × Value)} {contract : Contract}
    (hvalues : resolvePairs s.ctx.env fields = .ok values)
    (hcontract : s.world.registry.lookupByName (ContractName.qualify s.ctx.ecosystemId target)
      s.ctx.ecosystemId = some contract)
    (hmem : contract.name ∈ s.ctx.callStack.names) :
    (startCall (depth + 1) target fields).run s = (.error (.contractLoop contract.name), s) := by
  have hcells := run_row fields s
  rw [hvalues] at hcells
  have hcallee := run_callee target s
  rw [hcontract] at hcallee
  have henter := run_enter contract.name s
  rw [CallStack.push?_eq_none_iff.mpr hmem] at henter
  rw [startCall, run_bind_of_ok hcells]
  dsimp only
  rw [run_bind_of_ok hcallee, openCall, run_bind_of_error henter]

/-- The end of a run takes its contract off the stack. -/
theorem state_finish (contract : String) (outcome : Except RuntimeError Unit) (s : RunState) :
    ((finish contract outcome).run s).2 =
      (s.stacked (s.ctx.callStack.pop contract)).advanced .invoked := by
  have hrest : Keeps Eq (ofExcept outcome >>= fun _ => renderResult) :=
    (ofExcept_keeps _).bind fun _ => renderResult_keeps
  have hleave : (leave contract).run s =
    (.ok (), s.stacked (s.ctx.callStack.pop contract)) := rfl
  have hadvance : (advance .invoked).run (s.stacked (s.ctx.callStack.pop contract)) =
    (.ok (), (s.stacked (s.ctx.callStack.pop contract)).advanced .invoked) := rfl
  rw [finish, run_bind_of_ok hleave, run_bind_of_ok hadvance]
  exact (hrest _).symm

/-! ## The call stack at every moment -/

/-- The contracts that are active, outermost first, where some wait for those that they called. -/
def active (outermost : String) (frames : List Frame) : List String :=
  outermost :: (frames.map Frame.callee).reverse

theorem active_cons (outermost : String) (frame : Frame) (frames : List Frame) :
    active outermost (frame :: frames) = active outermost frames ++ [frame.callee] := by
  simp [active]

theorem length_active (outermost : String) (frames : List Frame) :
    (active outermost frames).length = frames.length + 1 := by
  simp [active]

end Run

namespace RunState

open Run

/-- The call stack names the contract of the transaction and those that were called. -/
structure Nested (names : List String) (frames : List Frame) (s : RunState) : Prop where
  callStack : s.ctx.callStack = ⟨active s.ctx.contract.name frames⟩
  sound : s.Sound names

variable {names : List String} {s t : RunState} {frame : Frame} {frames : List Frame}

theorem Nested.of_level (h : s.Nested names frames) (hlevel : s.Level t) :
    t.Nested names frames := by
  refine ⟨?_, h.sound.of_level hlevel⟩
  rw [hlevel.callStack, hlevel.contract]
  exact h.callStack

theorem Nested.length_lt (h : s.Nested names frames) : frames.length < names.length := by
  have hle := h.sound.length_le
  rw [h.callStack, length_active] at hle
  exact hle

/-- A contract that is called comes on top. -/
theorem Nested.push {callStack : CallStack} (h : s.Nested names frames)
    (hname : frame.callee ∈ names)
    (hpush : s.ctx.callStack.push? frame.callee = some callStack) :
    (s.stacked callStack).Nested names (frame :: frames) := by
  refine ⟨?_, h.sound.push hname hpush⟩
  obtain ⟨-, rfl⟩ := CallStack.push?_eq_some_iff.mp hpush
  rw [active_cons, h.callStack]
  rfl

/-- The contract that is left is the innermost. -/
theorem Nested.pop (h : s.Nested names (frame :: frames)) :
    s.ctx.callStack.pop frame.callee = ⟨active s.ctx.contract.name frames⟩ := by
  rw [h.callStack, active_cons, CallStack.pop_append]

/-- The end of a call leaves the contract that was called. -/
theorem Nested.closed (h : s.Nested names (frame :: frames)) :
    ((closeCall frame.callee frame.caller).run s).2.Nested names frames := by
  rw [run_closeCall, h.pop]
  have hstack := h.callStack
  rw [active_cons] at hstack
  refine ⟨rfl, h.sound.known, ?_, fun name hname => h.sound.registered name ?_⟩
  · have hnodup := h.sound.nodup
    rw [hstack] at hnodup
    exact (List.nodup_append.mp hnodup).1
  · rw [hstack]
    exact List.mem_append_left _ hname

/-- The contract of a transaction is the first to be entered. -/
theorem enter_nested (hempty : s.ctx.callStack = .empty) (hknown : s.world.registry.names = names)
    (hname : s.ctx.contract.name ∈ names) :
    ∃ t, (enter s.ctx.contract.name).run s = (.ok (), t) ∧ t.Nested names [] := by
  have hpush : s.ctx.callStack.push? s.ctx.contract.name = some ⟨[s.ctx.contract.name]⟩ := by
    rw [hempty]
    rfl
  have henter := run_enter s.ctx.contract.name s
  rw [hpush] at henter
  exact ⟨_, henter, rfl, (sound_of_empty hempty hknown).push hname hpush⟩

end RunState

namespace Run.Moment

open RunState

variable {node : Node} {m : Moment} {names : List String} {s t : RunState}

/-- The call stack says where the run is, and as many more calls inside each other are allowed as
there are more contracts. -/
def Nested (names : List String) : Moment → Prop
  | opening s =>
    s.ctx.callStack = .empty ∧ s.world.registry.names = names ∧ s.ctx.contract.name ∈ names
  | entered s => s.Nested names []
  | ready place _ s | paid place _ _ s =>
    s.Nested names place.frames ∧ place.depth + place.frames.length = names.length
  | failing frames _ s => s.Nested names frames
  | ended _ s => s.ctx.callStack = .empty ∧ s.world.registry.names = names

/-- A call is always allowed. -/
theorem Nested.exists_depth {place : Place} {statement : Statement} {rest : List Statement}
    (h : (paid place statement rest s).Nested names) : ∃ depth, place.depth = depth + 1 := by
  have hlt := h.1.length_lt
  have hdepth := h.2
  exact ⟨place.depth - 1, by omega⟩

/-- At no moment is a contract on the stack twice, or one that is not registered. -/
theorem Nested.sound (h : m.Nested names) : m.state.Sound names := by
  cases m with
  | opening s => exact sound_of_empty h.1 h.2.1
  | entered s => exact RunState.Nested.sound h
  | ready place todo s => exact h.1.sound
  | paid place statement rest s => exact h.1.sound
  | failing frames e s => exact RunState.Nested.sound h
  | ended result s => exact sound_of_empty h.1 h.2

theorem nested_conclude (h : s.Nested names []) (outcome : Except RuntimeError Unit) :
    (conclude outcome s).Nested names := by
  have hended : ((finish s.ctx.contract.name outcome).run s).2.ctx.callStack = .empty ∧
      ((finish s.ctx.contract.name outcome).run s).2.world.registry.names = names := by
    rw [state_finish, h.callStack]
    exact ⟨CallStack.pop_append [] _, h.sound.known⟩
  unfold conclude
  refine after_cases (fun e t hrun => ?_) fun text t hrun => ?_
  · rw [hrun] at hended
    exact hended
  · rw [hrun] at hended
    exact hended

/-- A computation that leaves the stack as it was leads on, or makes the contract fail. -/
theorem nested_after {place : Place} {x : Run Unit} {next : RunState → Moment}
    (hx : Keeps Level x) (h : s.Nested names place.frames)
    (hnext : ∀ t, t.Nested names place.frames → (next t).Nested names) :
    (after x s (failing place.frames) fun _ => next).Nested names :=
  after_cases (fun _ _ hrun => h.of_level (hx.run hrun)) fun _ t hrun =>
    hnext t (h.of_level (hx.run hrun))

/-- Each step keeps the call stack in line with the contracts that wait. -/
theorem nested_next (h : m.Nested names) : (m.next node).Nested names := by
  cases m with
  | opening s =>
    obtain ⟨hempty, hknown, hname⟩ := h
    obtain ⟨t, henter, hnested⟩ := enter_nested hempty hknown hname
    rw [next, after_of_ok ((run_bind_of_ok henter).trans rfl)]
    exact hnested.of_level ⟨rfl, rfl, rfl⟩
  | entered s =>
    rw [next]
    have hcharge : Keeps Level (do
        charge (Fuel.forSize node.params.sizeFuel s.ctx.tx.size); startTimer) :=
      (charge_level _).bind fun _ => keeps_of_eq startTimer_keeps
    refine after_cases (fun e t hrun => h.of_level (hcharge.run hrun)) fun timer t hrun => ?_
    have hnested : t.Nested names [] := h.of_level (hcharge.run hrun)
    refine ⟨hnested, ?_⟩
    rw [← hnested.sound.known, Registry.length_names]
    rfl
  | ready place todo s =>
    obtain ⟨hnested, hdepth⟩ := h
    obtain ⟨frames, depth, timer⟩ := place
    cases todo with
    | cons statement rest =>
      rw [next]
      exact nested_after ((keeps_of_eq (checkTime_keeps _)).bind fun _ => charge_level _) hnested
        fun t ht => ⟨ht, hdepth⟩
    | nil =>
      cases frames with
      | nil =>
        rw [next]
        exact nested_conclude hnested _
      | cons frame frames =>
        rw [next]
        refine after_cases (fun e t hrun => by cases hrun) fun u t hrun => ?_
        obtain rfl := (Prod.mk.inj hrun).2
        refine ⟨hnested.closed.of_level ⟨rfl, rfl, rfl⟩, ?_⟩
        change depth + (frames.length + 1) = _ at hdepth
        -- The caller's frame is gone, and one more call is allowed for it.
        change depth + 1 + frames.length = _
        omega
  | paid place statement rest s =>
    obtain ⟨hnested, hdepth⟩ := h
    rcases call_or_other statement with ⟨target, fields, rfl⟩ | hother
    · rw [next]
      refine after_cases (fun e t hrun => ?_) fun opened t hrun => ?_
      · obtain rfl := startCall_eq_error hrun
        exact hnested
      · obtain ⟨values, callStack, -, hcontract, hpush, -, rfl⟩ := startCall_eq_ok hrun
        have hname := Registry.mem_names_of_lookupByName hcontract
        rw [hnested.sound.known] at hname
        have hlt := hnested.length_lt
        refine ⟨(hnested.push hname hpush).of_level ⟨rfl, rfl, rfl⟩, ?_⟩
        change place.depth - 1 + (place.frames.length + 1) = names.length
        omega
    · rw [next_paid hother]
      exact nested_after (exec_scripted (fun _ _ => callContract_scripted _ _ _) _).level hnested
        fun t ht => ⟨ht, hdepth⟩
  | failing frames e s =>
    cases frames with
    | nil =>
      rw [next]
      exact nested_conclude h _
    | cons frame frames =>
      rw [next]
      refine after_cases (fun e t hrun => by cases hrun) fun value t hrun => ?_
      obtain rfl := (Prod.mk.inj hrun).2
      exact RunState.Nested.closed h
  | ended result s => exact h

/-- The call stack of a prepared execution is in line at every moment. -/
theorem nth_nested {request : ExecutionRequest} {world w : World} {ctx : ExecutionContext}
    (h : (Preparing.prepare node request).run world = (.ok ctx, w)) (k : Nat) :
    (nth node ⟨ctx, w⟩ k).Nested world.registry.names := by
  refine nth_invariant (motive := Moment.Nested world.registry.names) ?_
    (fun _ => nested_next) k
  have hprepared := Preparing.prepare_ok h
  obtain ⟨_, _, _, _, rfl⟩ := Preparing.prepare_context h
  exact ⟨rfl, congrArg Registry.names hprepared.same.registry,
    Registry.mem_names_of_lookupById hprepared.contract⟩

end Run.Moment

end Covenant
