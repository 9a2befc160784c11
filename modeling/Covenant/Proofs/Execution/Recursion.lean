import Covenant.Proofs.Execution.Ending
import Covenant.Proofs.Execution.Nesting

/-!
# Contracts that call each other

Contracts may call themselves and each other in any way, and programs say nothing about how deep. What
ends every run is that a contract on the call stack cannot be called again: calls inside each other are
calls of different contracts, so there are no more of them than there are contracts. The bound on the
depth of calls is therefore never met, and any larger bound, whatever is done there, gives the same run.
-/

namespace Covenant

open Stage

namespace Run

open RunState

variable {params : SystemParameters} {node : Node} {call call' last : Call} {timer : Timer}
  {names : List String} {s t : RunState}

/-! ## Runs with other calls -/

/-- Calls with at most `depth` calls inside each other, the innermost of which do `last`. -/
def callUpTo (params : SystemParameters) (last : Call) : (depth : Nat) → Call
  | 0 => last
  | depth + 1 => fun target fields => do
    let contract ← callee target
    nested contract fields (runProgram params (callUpTo params last depth) contract.program)

/-- Runs the contract of a transaction, with calls as given. -/
def runTargetBy (node : Node) (call : Call) (contract : Contract) : Run Unit := do
  charge (Fuel.forSize node.params.sizeFuel (← context).tx.size)
  runProgram node.params call contract.program

/-- Runs the contract of a transaction and gives its result, with calls as given. -/
def invokeBy (node : Node) (call : Call) : Run String := do
  let contract := (← context).contract
  enter contract.name
  advance .stackPushed
  let outcome ← attempt (runTargetBy node call contract)
  finish contract.name outcome

/-- Calls that do the same wherever the invariant holds. -/
structure Agree (params : SystemParameters) (P : RunState → Prop) (call call' : Call) : Prop where
  same : ∀ target fields s, P s → (call target fields).run s = (call' target fields).run s
  scripted : ∀ target fields, Scripted params (call' target fields)
  level : ∀ s t, P s → s.Level t → P t

variable {P : RunState → Prop}

theorem Agree.exec (h : Agree params P call call') (statement : Statement) (hs : P s) :
    (exec params call timer statement).run s = (exec params call' timer statement).run s := by
  cases statement with
  | call target fields =>
    refine run_bind_congr fun cells t hcells => ?_
    obtain rfl := (row_keeps fields).run hcells
    rw [run_bind, run_bind, h.same target cells s hs]
  | _ => rfl

theorem Agree.runStatements (h : Agree params P call call') (statements : List Statement)
    (hs : P s) :
    (runStatements params call timer statements).run s =
      (runStatements params call' timer statements).run s := by
  induction statements generalizing s with
  | nil => rfl
  | cons statement rest ih =>
    have hstep : (step params call timer statement).run s =
        (step params call' timer statement).run s := by
      refine run_bind_congr fun _ t htime => run_bind_congr fun _ u hcharge => ?_
      have hlevel : s.Level u :=
        IsTrans.trans _ _ _ ((keeps_of_eq (checkTime_keeps timer)).run htime)
          ((charge_level 1).run hcharge)
      exact h.exec statement (h.level s u hs hlevel)
    have hscripted : Scripted params (step params call' timer statement) :=
      .bind checkTime_scripted fun _ => .bind (.charge 1) fun _ => exec_scripted h.scripted statement
    unfold Run.runStatements
    rw [run_bind, hstep, ← run_bind]
    exact run_bind_congr fun _ t ht => ih (h.level s t hs (hscripted.level.run ht))

theorem Agree.runProgram (h : Agree params P call call') (program : Program) (hs : P s) :
    (runProgram params call program).run s = (runProgram params call' program).run s := by
  refine run_bind_congr fun timer t htimer => ?_
  obtain rfl := startTimer_keeps.run htimer
  exact h.runStatements _ hs

/-! ## The bound is never met -/

/-- More calls are allowed than there are contracts that are not on the stack. -/
structure Roomy (names : List String) (depth : Nat) (s : RunState) : Prop where
  sound : s.Sound names
  length_lt : names.length < depth + s.ctx.callStack.names.length

theorem Roomy.of_level {depth : Nat} (h : Roomy names depth s) (hlevel : s.Level t) :
    Roomy names depth t := by
  refine ⟨h.sound.of_level hlevel, ?_⟩
  rw [hlevel.callStack]
  exact h.length_lt

/-- Where there is room, another call is allowed. -/
theorem Roomy.exists_depth {depth : Nat} (h : Roomy names depth s) : ∃ n, depth = n + 1 := by
  have hle := h.sound.length_le
  have hlt := h.length_lt
  exact ⟨depth - 1, by omega⟩

/-- A call takes one contract onto the stack, and leaves as much room. -/
theorem Roomy.push {depth : Nat} {name : String} {callStack : CallStack}
    (h : Roomy names (depth + 1) s) (hname : name ∈ names)
    (hpush : s.ctx.callStack.push? name = some callStack) (env : Environment) :
    Roomy names depth ((s.stacked callStack).withEnv env) := by
  have hsound := h.sound.push hname hpush
  obtain ⟨-, rfl⟩ := CallStack.push?_eq_some_iff.mp hpush
  refine ⟨hsound.of_level ⟨rfl, rfl, rfl⟩, ?_⟩
  have hlt := h.length_lt
  change names.length < depth + (s.ctx.callStack.names ++ [name]).length
  rw [List.length_append, List.length_singleton]
  omega

/-- With room on the stack, calls do not depend on how deep they may go. The induction is on one of the
two bounds, and each call uses up one of both. -/
theorem agree_callUpTo (names : List String) (last : Call) (depth depth' : Nat) :
    Agree params (fun s => Roomy names depth s ∧ Roomy names depth' s)
      (callUpTo params last depth) (callContract params depth') where
  scripted target fields := callContract_scripted depth' target fields
  level s t hs hlevel := ⟨hs.1.of_level hlevel, hs.2.of_level hlevel⟩
  same target fields s hs := by
    obtain ⟨h, h'⟩ := hs
    induction depth generalizing depth' s target fields with
    | zero =>
      obtain ⟨_, hzero⟩ := h.exists_depth
      cases hzero
    | succ depth ih =>
      obtain ⟨n, rfl⟩ := h'.exists_depth
      refine run_bind_congr fun contract t hcontract => ?_
      obtain rfl := (callee_keeps target).run hcontract
      rw [run_callee] at hcontract
      split at hcontract
      next => cases hcontract
      next found hfound =>
        obtain rfl := Except.ok.inj (Prod.mk.inj hcontract).1
        have hname := Registry.mem_names_of_lookupByName hfound
        rw [h.sound.known] at hname
        rw [run_nested, run_nested]
        cases hpush : s.ctx.callStack.push? found.name with
        -- A contract on the stack is refused before either bound matters.
        | none => rfl
        | some callStack =>
          have hinner : Agree params (fun u => Roomy names depth u ∧ Roomy names n u)
              (callUpTo params last depth) (callContract params n) :=
            { scripted := fun target fields => callContract_scripted n target fields
              level := fun u v hu hlevel => ⟨hu.1.of_level hlevel, hu.2.of_level hlevel⟩
              same := fun target fields u hu => ih n target fields u hu.1 hu.2 }
          dsimp only
          rw [hinner.runProgram found.program ⟨h.push hname hpush _, h'.push hname hpush _⟩]

/-- Nor does the contract of a transaction, which is the only one on the stack. -/
theorem run_runTargetBy {depth : Nat} (h : s.Nested names []) (hdepth : names.length ≤ depth)
    (contract : Contract) :
    (runTargetBy node (callUpTo node.params last depth) contract).run s =
      (runTarget node contract).run s := by
  refine run_bind_congr fun ctx t hcontext => run_bind_congr fun _ u hcharge => ?_
  obtain rfl := context_keeps.run hcontext
  have hnested : u.Nested names [] := h.of_level ((charge_level _).run hcharge)
  have hregistry : registry.run u = (.ok u.world.registry, u) := rfl
  have hlength : u.world.registry.contracts.length = names.length := by
    rw [← hnested.sound.known, Registry.length_names]
  have hroomy : ∀ n, names.length ≤ n → Roomy names n u := by
    intro n hn
    refine ⟨hnested.sound, ?_⟩
    rw [hnested.callStack, length_active]
    exact Nat.lt_succ_of_le hn
  have hagree : Agree node.params (fun v => Roomy names depth v ∧ Roomy names names.length v)
      (callUpTo node.params last depth) (callContract node.params names.length) :=
    agree_callUpTo names last depth names.length
  rw [run_bind_of_ok hregistry, hlength]
  exact hagree.runProgram contract.program ⟨hroomy depth hdepth, hroomy _ (Nat.le_refl _)⟩

/-- A run does not depend on how deep calls may go, if that is no less than the number of contracts. -/
theorem run_invokeBy {depth : Nat} (hempty : s.ctx.callStack = .empty)
    (hknown : s.world.registry.names = names) (hname : s.ctx.contract.name ∈ names)
    (hdepth : names.length ≤ depth) (last : Call) :
    (invokeBy node (callUpTo node.params last depth)).run s = (invoke node).run s := by
  have hcontext : context.run s = (.ok s.ctx, s) := rfl
  obtain ⟨t, henter, hnested⟩ := enter_nested hempty hknown hname
  have hadvance : (advance .stackPushed).run t = (.ok (), t.advanced .stackPushed) := rfl
  have hentered : (t.advanced .stackPushed).Nested names [] := hnested.of_level ⟨rfl, rfl, rfl⟩
  rw [invokeBy, invoke, run_bind_of_ok hcontext, run_bind_of_ok hcontext]
  dsimp only
  rw [run_bind_of_ok henter, run_bind_of_ok henter, run_bind_of_ok hadvance,
    run_bind_of_ok hadvance, run_bind_attempt, run_bind_attempt, run_runTargetBy hentered hdepth]
  rfl

namespace Moment

/-- The call statement that is executed next. -/
def call? : Moment → Option (String × List (String × Operand))
  | paid _ (.call target fields) _ _ => some (target, fields)
  | _ => none

theorem exists_eq_paid_of_call? {m : Moment} {target : String} {fields : List (String × Operand)}
    (h : m.call? = some (target, fields)) :
    ∃ place rest, m = paid place (.call target fields) rest m.state := by
  cases m with
  | paid place statement rest s =>
    cases statement with
    | call other others =>
      obtain ⟨rfl, rfl⟩ := Prod.mk.inj (Option.some.inj h)
      exact ⟨place, rest, rfl⟩
    | _ => cases h
  | _ => cases h

end Moment

end Run

namespace Sample

/-- Two contracts call each other. -/
def circular : World :=
  running database
    ("contract Ping \x7b\n action \x7b\n  call Pong\n \x7d\n\x7d\n" ++
      "contract Pong \x7b\n action \x7b\n  call Ping\n \x7d\n\x7d\n")

end Sample

namespace Node

open Preparing Run Run.Moment

variable {node : Node} {request : ExecutionRequest} {world w : World} {ctx : ExecutionContext}

/-- Every run ends, and no bound on the depth of calls has a part in that. At every moment the call
stack holds the names of different registered contracts, no more than there are. A call of a contract
that is on the stack fails on the spot and names it, and in the end the stack is as it was. -/
theorem calls_nest (h : (prepare node request).run world = (.ok ctx, w)) :
    (∃ k, nth node ⟨ctx, w⟩ k =
      ended ((invoke node).run ⟨ctx, w⟩).1 ((invoke node).run ⟨ctx, w⟩).2) ∧
    (∀ (last : Call) (depth : Nat), world.registry.contracts.length ≤ depth →
      (invokeBy node (callUpTo node.params last depth)).run ⟨ctx, w⟩ =
        (invoke node).run ⟨ctx, w⟩) ∧
    (∀ k, (nth node ⟨ctx, w⟩ k).state.ctx.callStack.names.Nodup ∧
      (∀ name ∈ (nth node ⟨ctx, w⟩ k).state.ctx.callStack.names,
        ∃ contract ∈ world.registry.contracts, contract.name = name) ∧
      (nth node ⟨ctx, w⟩ k).state.ctx.callStack.names.length ≤ world.registry.contracts.length) ∧
    (∀ k place target fields rest t values contract,
      nth node ⟨ctx, w⟩ k = paid place (.call target fields) rest t →
      resolvePairs t.ctx.env fields = .ok values →
      t.world.registry.lookupByName (ContractName.qualify t.ctx.ecosystemId target)
        t.ctx.ecosystemId = some contract →
      contract.name ∈ t.ctx.callStack.names →
        nth node ⟨ctx, w⟩ (k + 1) = failing place.frames (.contractLoop contract.name) t) ∧
    ((invoke node).run ⟨ctx, w⟩).2.ctx.callStack = ctx.callStack := by
  have hopening := nth_nested h 0
  have hended := exists_nth_eq_ended node ⟨ctx, w⟩
  refine ⟨hended, fun last depth hdepth => ?_, fun k => ?_, ?_, ?_⟩
  · rw [← Registry.length_names] at hdepth
    exact run_invokeBy hopening.1 hopening.2.1 hopening.2.2 hdepth last
  · have hsound := (nth_nested h k).sound
    have hlength := hsound.length_le
    rw [Registry.length_names] at hlength
    exact ⟨hsound.nodup, fun name hname => List.mem_map.mp (hsound.registered name hname), hlength⟩
  · intro k place target fields rest t values contract hk hvalues hcontract hmem
    have hnested := nth_nested h k
    rw [hk] at hnested
    obtain ⟨depth, hdepth⟩ := hnested.exists_depth
    rw [nth_succ, hk, next, hdepth]
    exact after_of_error (startCall_of_mem hvalues hcontract hmem)
  · obtain ⟨k, hk⟩ := hended
    have hnested := nth_nested h k
    rw [hk] at hnested
    exact hnested.1.trans hopening.1.symm

/-- The second contract calls the first one again, which fails before that has run. -/
theorem calls_nest_sample :
    ∃ s : RunState, (prepare Sample.node (Sample.request 0)).run Sample.circular =
        (.ok s.ctx, s.world) ∧
      ∃ frames t, t.ctx.callStack.names = ["@1Ping", "@1Pong"] ∧
        nth Sample.node s 6 = failing frames (.contractLoop "@1Ping") t := by
  have hstopped : (Sample.start? Sample.circular).map (fun s =>
      ((nth Sample.node s 5).call?, (nth Sample.node s 5).state.ctx.callStack.names,
        ((nth Sample.node s 5).state.world.registry.lookupByName
          (ContractName.qualify (nth Sample.node s 5).state.ctx.ecosystemId "@1Ping")
          (nth Sample.node s 5).state.ctx.ecosystemId).map Contract.name)) =
      some (some ("@1Ping", []), ["@1Ping", "@1Pong"], some "@1Ping") := by decide +kernel
  obtain ⟨s, hstart, hstopped⟩ := Option.map_eq_some_iff.mp hstopped
  obtain ⟨hcall, hrest⟩ := Prod.mk.inj hstopped
  obtain ⟨hstack, hfound⟩ := Prod.mk.inj hrest
  obtain ⟨place, rest, hk⟩ := exists_eq_paid_of_call? hcall
  obtain ⟨contract, hcontract, hname⟩ := Option.map_eq_some_iff.mp hfound
  obtain ⟨-, -, -, hloop, -⟩ := calls_nest (Sample.prepare_of_start? hstart)
  generalize (nth Sample.node s 5).state = t at hk hcontract hstack
  refine ⟨s, Sample.prepare_of_start? hstart, place.frames, t, hstack, ?_⟩
  rw [← hname]
  refine hloop 5 place "@1Ping" [] rest t [] contract hk rfl hcontract ?_
  rw [hname, hstack]
  exact List.mem_cons_self

end Node

end Covenant
