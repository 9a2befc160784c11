import Covenant.Proofs.Execution.Recursion
import Covenant.Proofs.Execution.Slots

/-!
# What a caller finds when a call returns

A called contract runs in an environment made from its caller's, and may set slots, call others and
fail there. None of that reaches the caller: whether a call returns a value or an error, every slot
but the fuel is as it was before the call, and so is the call stack. The slot that lists the call
stack is written anew when a call returns, so it is as before because it went with the call stack
already then.
-/

namespace Covenant

open Stage

namespace RunState

/-- The contract that calls finds its environment and the call stack as they were, but for the
fuel. -/
structure Returned (s t : RunState) : Prop where
  callStack : t.ctx.callStack = s.ctx.callStack
  slots : ∀ key ≠ EnvKey.txCost, t.ctx.env.get? key = s.ctx.env.get? key

/-- The slot for the call stack lists the contracts that are on it. -/
def Mirrored (s : RunState) : Prop :=
  s.ctx.env.get? .stack = some (.list (s.ctx.callStack.names.map .text))

variable {s t : RunState}

theorem Returned.refl (s : RunState) : s.Returned s :=
  ⟨rfl, fun _ _ => rfl⟩

/-- The environment that is put aside for a call and given back afterwards is the caller's. -/
theorem Mirrored.returned (h : s.Mirrored) (callStack : CallStack) (fuel : Int) (t : RunState) :
    s.Returned ((t.withEnv ((s.stacked callStack).ctx.env.setFuel fuel)).stacked
      s.ctx.callStack) := by
  refine ⟨rfl, fun key hcost => ?_⟩
  change (((s.ctx.env.set .stack _).set .txCost _).set .stack _).get? key = _
  by_cases hstack : key = .stack
  · subst hstack
    rw [Environment.get?_set_self]
    exact h.symm
  · rw [Environment.get?_set_of_ne _ hstack, Environment.get?_set_of_ne _ hcost,
      Environment.get?_set_of_ne _ hstack]

end RunState

namespace Run

open RunState

variable {params : SystemParameters} {s t : RunState}

/-- A call returns to its caller whatever the called contract does, if it leaves the call stack as it
was when it was entered. -/
theorem nested_returned {body : Run Unit} (hbody : Keeps Level body) (contract : Contract)
    (fields : Row) (h : s.Mirrored) : s.Returned ((nested contract fields body).run s).2 := by
  rw [run_nested]
  cases hpush : s.ctx.callStack.push? contract.name with
  | none => exact .refl s
  | some callStack =>
    dsimp only
    have hran := hbody ((s.stacked callStack).withEnv
      (calleeEnv (s.stacked callStack).ctx.env contract.name fields))
    generalize body.run ((s.stacked callStack).withEnv
      (calleeEnv (s.stacked callStack).ctx.env contract.name fields)) = ran at hran ⊢
    have hpop : ran.2.ctx.callStack.pop contract.name = s.ctx.callStack := by
      obtain ⟨-, rfl⟩ := CallStack.push?_eq_some_iff.mp hpush
      exact (congrArg (CallStack.pop · contract.name) hran.callStack).trans
        (CallStack.pop_append _ _)
    rw [run_closeCall, hpop]
    exact h.returned callStack _ _

/-- A call returns to its caller, by a value or by an error, and whether or not its contract was found
and entered. -/
theorem callContract_returned (depth : Nat) (target : String) (cells : Row) (h : s.Mirrored) :
    s.Returned ((callContract params depth target cells).run s).2 := by
  cases depth with
  | zero => exact .refl s
  | succ depth =>
    rw [callContract]
    rcases hcallee : (callee target).run s with ⟨e | contract, u⟩
    · obtain rfl := (callee_keeps target).run hcallee
      rw [run_bind_of_error hcallee]
      exact .refl s
    · obtain rfl := (callee_keeps target).run hcallee
      rw [run_bind_of_ok hcallee]
      exact nested_returned
        (runProgram_scripted (fun _ _ => callContract_scripted depth _ _) _).level contract cells h

/-- What a call statement comes to: its own fields cannot be computed or its call fails, and then the
caller finds all as it was; or the call gives a value, which is what `ret` holds afterwards, and all
else is as it was. -/
inductive CallReturns (params : SystemParameters) (depth : Nat) (target : String)
    (fields : List (String × Operand)) (s : RunState) : Except RuntimeError Unit → RunState → Prop
  | error {e : RuntimeError} {t : RunState} : s.Returned t →
      CallReturns params depth target fields s (.error e) t
  | value {values : List (String × Value)} {value : Value} {t : RunState} :
      resolvePairs s.ctx.env fields = .ok values →
      ((callContract params depth target (Dict.ofList values)).run s).1 = .ok value →
      t.ctx.callStack = s.ctx.callStack →
      t.ctx.env.get? (.field "ret") = some value →
      (∀ key : EnvKey, key ≠ .txCost → key ≠ .field "ret" →
        t.ctx.env.get? key = s.ctx.env.get? key) →
      CallReturns params depth target fields s (.ok ()) t

/-- A call statement leaves the value that its call returns, and nothing else. -/
theorem exec_call_returns {depth : Nat} {timer : Timer} (target : String)
    (fields : List (String × Operand)) (h : s.Mirrored) :
    CallReturns params depth target fields s
      ((exec params (callContract params depth) timer (.call target fields)).run s).1
      ((exec params (callContract params depth) timer (.call target fields)).run s).2 := by
  have hrow := run_row fields s
  rw [exec]
  cases hvalues : resolvePairs s.ctx.env fields with
  | error e =>
    rw [hvalues] at hrow
    rw [run_bind_of_error hrow]
    exact .error (.refl s)
  | ok values =>
    rw [hvalues] at hrow
    rw [run_bind_of_ok hrow]
    have hreturned : s.Returned
        ((callContract params depth target (Dict.ofList values)).run s).2 :=
      callContract_returned depth target (Dict.ofList values) h
    rcases hcall : (callContract params depth target (Dict.ofList values)).run s with
      ⟨e | value, u⟩
    · rw [hcall] at hreturned
      rw [run_bind_of_error hcall]
      exact .error hreturned
    · rw [hcall] at hreturned
      rw [run_bind_of_ok hcall]
      refine .value hvalues (by rw [hcall]) hreturned.callStack (Environment.get?_set_self _ _ _)
        fun key hcost hret => ?_
      exact (Environment.get?_set_of_ne _ hret _).trans (hreturned.slots key hcost)

end Run

namespace Run.Moment

variable {m : Moment} {names : List String} {place : Place}

/-- The contract that runs may make one more call. -/
theorem Nested.exists_depth_of_place? (h : m.Nested names) (hplace : m.place? = some place) :
    ∃ depth, place.depth = depth + 1 := by
  have hroom : place.frames.length < names.length ∧
      place.depth + place.frames.length = names.length := by
    cases m with
    | ready other todo s =>
      obtain rfl := Option.some.inj hplace
      exact ⟨h.1.length_lt, h.2⟩
    | paid other statement rest s =>
      obtain rfl := Option.some.inj hplace
      exact ⟨h.1.length_lt, h.2⟩
    | _ => cases hplace
  obtain ⟨hlt, hdepth⟩ := hroom
  exact ⟨place.depth - 1, by omega⟩

end Run.Moment

namespace Preparing

open Run Run.Moment

variable {node : Node} {request : ExecutionRequest} {world w : World} {ctx : ExecutionContext}

/-- Wherever a contract of a prepared execution runs, the slot for the call stack goes with it. -/
theorem mirrored_nth (h : (prepare node request).run world = (.ok ctx, w)) {k : Nat} {place : Place}
    (hplace : (nth node ⟨ctx, w⟩ k).place? = some place) :
    (nth node ⟨ctx, w⟩ k).state.Mirrored := by
  obtain ⟨signer, key, -, -, hslots⟩ := prepare_slots h
  have hopening : (opening ⟨ctx, w⟩).Furnished ctx.env ctx.contract.name := by
    refine ⟨⟨fun _ _ => rfl, ?_, ?_⟩, Fuel.limitFor request.tx.maxSum node.params.maxCost, ?_⟩
    · exact hslots (.thisContract, _) (by simp [firstSlots])
    · exact hslots (.parentContract, _) (by simp [firstSlots])
    · exact hslots (.txCost, _) (by simp [firstSlots])
  exact (furnished_nested_of_place? hplace (furnished_nth hopening k) (nth_nested h k)).1.stack

end Preparing

namespace Sample

/-- A contract sets a slot, and so does the one that it calls, which also leaves a result. -/
def sharing : World :=
  running database
    ("contract Outer \x7b\n action \x7b\n  set x 1\n  result 5\n  call Inner x=2\n \x7d\n\x7d\n" ++
      "contract Inner \x7b\n action \x7b\n  set x 3\n  set y 4\n  result 9\n \x7d\n\x7d\n")

end Sample

namespace Node

open Preparing Run Run.Moment

variable {node : Node} {request : ExecutionRequest} {world w : World} {ctx : ExecutionContext}

/-- Wherever a contract runs, and whatever it calls with whatever fields, the call leaves the call stack
and every slot but the fuel as they were. So the run of a call statement comes to the moment at which
the caller goes on with its own environment and the value of the call, or fails with its own. -/
theorem calls_return (h : (prepare node request).run world = (.ok ctx, w)) {k : Nat} {place : Place}
    (hplace : (nth node ⟨ctx, w⟩ k).place? = some place) :
    (∃ depth, place.depth = depth + 1) ∧
      (∀ target cells, (nth node ⟨ctx, w⟩ k).state.Returned
        ((callContract node.params place.depth target cells).run
          (nth node ⟨ctx, w⟩ k).state).2) ∧
      ∀ target fields rest s, nth node ⟨ctx, w⟩ k = paid place (.call target fields) rest s →
        ∃ r t, Reaches node (paid place (.call target fields) rest s) (resumed place rest r t) ∧
          CallReturns node.params place.depth target fields s r t := by
  have hmirrored := mirrored_nth h hplace
  obtain ⟨depth, hdepth⟩ := (nth_nested h k).exists_depth_of_place? hplace
  refine ⟨⟨depth, hdepth⟩, fun target cells => callContract_returned _ _ _ hmirrored, ?_⟩
  intro target fields rest s hmoment
  rw [hmoment] at hmirrored
  exact ⟨_, _, reaches_call hdepth (runsThrough node depth) target fields s,
    exec_call_returns target fields hmirrored⟩

/-- The caller goes on with the slot and the result that it had set, though the called contract has set
them too. -/
theorem calls_return_sample :
    ∃ s : RunState, (prepare Sample.node (Sample.request 0)).run Sample.sharing =
        (.ok s.ctx, s.world) ∧
      ∃ place rest r t, Reaches Sample.node (nth Sample.node s 7) (resumed place rest r t) ∧
        (t.ctx.env.get? (.field "x")).bind Value.asInt? = some 1 ∧
        (t.ctx.env.get? .result).bind Value.asInt? = some 5 := by
  have hcalls : (Sample.start? Sample.sharing).map (fun s =>
      ((nth Sample.node s 7).call?,
        ((nth Sample.node s 7).state.ctx.env.get? (.field "x")).bind Value.asInt?,
        ((nth Sample.node s 7).state.ctx.env.get? .result).bind Value.asInt?)) =
      some (some ("@1Inner", [("x", .int 2)]), some 1, some 5) := by decide +kernel
  obtain ⟨s, hstart, hcalls⟩ := Option.map_eq_some_iff.mp hcalls
  obtain ⟨hcall, hslots⟩ := Prod.mk.inj hcalls
  obtain ⟨hx, hresult⟩ := Prod.mk.inj hslots
  obtain ⟨place, rest, hpaid⟩ := exists_eq_paid_of_call? hcall
  have hprepare := Sample.prepare_of_start? hstart
  have hplace : (nth Sample.node s 7).place? = some place := by
    rw [hpaid]
    rfl
  obtain ⟨-, -, hreturns⟩ := calls_return hprepare hplace
  obtain ⟨r, t, hreaches, hreturned⟩ := hreturns _ _ _ _ hpaid
  rw [← hpaid] at hreaches
  refine ⟨s, hprepare, place, rest, r, t, hreaches, ?_⟩
  rw [hpaid] at hx hresult
  cases hreturned with
  | error hback =>
    rw [hback.slots _ (by decide), hback.slots _ (by decide)]
    exact ⟨hx, hresult⟩
  | value _ _ _ _ hback =>
    rw [hback _ (by decide) (by decide), hback _ (by decide) (by decide)]
    exact ⟨hx, hresult⟩

end Node

end Covenant
