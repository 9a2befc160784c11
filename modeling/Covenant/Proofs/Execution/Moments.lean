import Mathlib.Logic.Function.Iterate
import Covenant.Proofs.Execution.Scripted
import Covenant.Proofs.Execution.Frame

/-!
# Runs, moment by moment

The meaning of a program says what a whole run does, with the runs of called contracts inside it.
Here the same run goes from moment to moment: one statement is paid for or executed at a time, and a
contract that waits for another is a frame in a list. Both come to the same end in the same state. So
what holds from each moment to the next holds throughout every run, nested calls included.
-/

namespace Covenant

namespace Run

open Stage

/-- What is done after a computation whose error is a result starts where that ends. -/
theorem run_bind_attempt {α β : Type} (x : Run α) (f : Except RuntimeError α → Run β)
    (s : RunState) : (attempt x >>= f).run s = (f (x.run s).1).run (x.run s).2 :=
  rfl

/-! ## Calls in two halves -/

/-- What a call has set up when its contract is about to run. -/
structure OpenCall where
  contract : Contract
  /-- The environment of the contract that calls. -/
  caller : Environment
  timer : Timer

/-- Enters a contract that is called, and gives the environment of the one that calls. -/
def openCall (contract : Contract) (fields : Row) : Run OpenCall := do
  enter contract.name
  let caller ← env
  modifyEnv fun env => calleeEnv env contract.name fields
  return ⟨contract, caller, ← startTimer⟩

/-- Leaves a contract that was called, and gives what stands in its result slot. -/
def closeCall (name : String) (caller : Environment) : Run Value := do
  let left ← env
  modifyEnv fun _ => caller.setFuel left.fuel
  leave name
  return left.result

/-- Does what a call statement does before its contract runs. With `depth` calls inside each other
left there has to be one. -/
def startCall (depth : Nat) (target : String) (fields : List (String × Operand)) : Run OpenCall := do
  let cells ← row fields
  match depth with
  | 0 => throw (.contractLoop target)
  | _ + 1 => openCall (← callee target) cells

/-- Does what is left when the contract of a transaction has run. -/
def finish (contract : String) (outcome : Except RuntimeError Unit) : Run String := do
  leave contract
  advance .invoked
  ofExcept outcome
  renderResult

variable {params : SystemParameters} {node : Node}

theorem bind_attempt_startTimer {α : Type} (body : Timer → Run Unit)
    (k : Except RuntimeError Unit → Run α) :
    (attempt (startTimer >>= body) >>= k) =
      startTimer >>= fun timer => attempt (body timer) >>= k :=
  rfl

/-- The middle of a call is the run of the called contract's statements. -/
theorem exec_call_succ (depth : Nat) (timer : Timer) (target : String)
    (fields : List (String × Operand)) :
    exec params (callContract params (depth + 1)) timer (.call target fields) =
      startCall (depth + 1) target fields >>= fun opened =>
        attempt (runStatements params (callContract params depth) opened.timer
          (entryStatements opened.contract.program)) >>= fun outcome =>
          closeCall opened.contract.name opened.caller >>= fun value =>
            ofExcept outcome >>= fun _ => setSlot (.field "ret") value := by
  simp only [exec, callContract, nested, startCall, openCall, closeCall, runProgram, bind_assoc,
    pure_bind, bind_attempt_startTimer]
  refine bind_congr fun cells => bind_congr fun contract => bind_congr fun _ => ?_
  refine bind_congr fun caller => bind_congr fun _ => bind_congr fun timer => ?_
  refine bind_congr fun outcome => bind_congr fun left => bind_congr fun _ => ?_
  refine bind_congr fun _ => ?_
  cases outcome with
  | ok u => rfl
  | error e => rfl

/-- Without a call left, a call statement fails before it has done anything. -/
theorem exec_call_zero (timer : Timer) (target : String) (fields : List (String × Operand)) :
    exec params (callContract params 0) timer (.call target fields) =
      startCall 0 target fields >>= fun _ => pure () := by
  simp only [exec, callContract, startCall, bind_assoc]
  rfl

/-! ## Moments -/

/-- A contract that waits for one that it called. -/
structure Frame where
  /-- The name of the contract that it called. -/
  callee : String
  /-- Its environment, which it gets back. -/
  caller : Environment
  timer : Timer
  /-- The statements behind the call. -/
  rest : List Statement

/-- Where in a run a contract stands. -/
structure Place where
  /-- The contracts that wait, innermost first. -/
  frames : List Frame
  /-- How many calls inside each other are left. -/
  depth : Nat
  timer : Timer

/-- A moment of a run, with the state at that time. -/
inductive Moment where
  /-- The run is about to begin. -/
  | opening (s : RunState)
  /-- The contract of the transaction is entered, and the size of the transaction not yet paid. -/
  | entered (s : RunState)
  /-- A contract is about to pay for its next statement, or is through. -/
  | ready (place : Place) (todo : List Statement) (s : RunState)
  /-- A contract is about to execute a statement that is paid for. -/
  | paid (place : Place) (statement : Statement) (rest : List Statement) (s : RunState)
  /-- A contract has failed, and so will those that wait for it. -/
  | failing (frames : List Frame) (error : RuntimeError) (s : RunState)
  /-- The run is over. -/
  | ended (result : Except RuntimeError String) (s : RunState)

namespace Moment

/-- The state at a moment. -/
def state : Moment → RunState
  | opening s | entered s | ready _ _ s | paid _ _ _ s | failing _ _ s | ended _ s => s

/-- Goes on from the end of a computation. -/
def after {α : Type} (x : Run α) (s : RunState) (failed : RuntimeError → RunState → Moment)
    (next : α → RunState → Moment) : Moment :=
  match x.run s with
  | (.ok a, t) => next a t
  | (.error e, t) => failed e t

/-- The end of a run whose contract is through or has failed. -/
def conclude (outcome : Except RuntimeError Unit) (s : RunState) : Moment :=
  after (finish s.ctx.contract.name outcome) s (fun e => ended (.error e)) fun text => ended (.ok text)

/-- The next moment. A run that is over stays as it is. -/
def next (node : Node) : Moment → Moment
  | opening s =>
    after (do enter s.ctx.contract.name; advance .stackPushed) s (fun e => ended (.error e))
      fun _ => entered
  | entered s =>
    after (do charge (Fuel.forSize node.params.sizeFuel s.ctx.tx.size); startTimer) s (failing [])
      fun timer t =>
        ready ⟨[], t.world.registry.contracts.length, timer⟩
          (entryStatements s.ctx.contract.program) t
  | ready place (statement :: rest) s =>
    after (do checkTime place.timer; charge 1) s (failing place.frames)
      fun _ => paid place statement rest
  | ready ⟨[], _, _⟩ [] s => conclude (.ok ()) s
  | ready ⟨frame :: frames, depth, _⟩ [] s =>
    after (do setSlot (.field "ret") (← closeCall frame.callee frame.caller)) s (failing frames)
      fun _ => ready ⟨frames, depth + 1, frame.timer⟩ frame.rest
  | paid place (.call target fields) rest s =>
    after (startCall place.depth target fields) s (failing place.frames) fun opened =>
      ready
        ⟨⟨opened.contract.name, opened.caller, place.timer, rest⟩ :: place.frames,
          place.depth - 1, opened.timer⟩
        (entryStatements opened.contract.program)
  | paid place statement rest s =>
    after (exec node.params (callContract node.params 0) place.timer statement) s
      (failing place.frames) fun _ => ready place rest
  | failing [] e s => conclude (.error e) s
  | failing (frame :: frames) e s =>
    after (closeCall frame.callee frame.caller) s (failing frames) fun _ => failing frames e
  | ended result s => ended result s

/-- A statement other than a call is executed in one step. -/
theorem next_paid {place : Place} {statement : Statement} {rest : List Statement} {s : RunState}
    (hcall : ∀ target fields, statement ≠ .call target fields) :
    (paid place statement rest s).next node =
      after (exec node.params (callContract node.params 0) place.timer statement) s
        (failing place.frames) fun _ => ready place rest := by
  cases statement with
  | call target fields => exact absurd rfl (hcall target fields)
  | _ => rfl

/-- The moments of a run, counted from its beginning. -/
def nth (node : Node) (s : RunState) (k : Nat) : Moment :=
  (next node)^[k] (opening s)

theorem nth_zero (node : Node) (s : RunState) : nth node s 0 = opening s :=
  rfl

theorem nth_succ (node : Node) (s : RunState) (k : Nat) :
    nth node s (k + 1) = (nth node s k).next node :=
  Function.iterate_succ_apply' _ _ _

/-- What holds where a run begins, and after each step if it did before, holds at every moment. -/
theorem nth_invariant {motive : Moment → Prop} {s : RunState} (hopening : motive (opening s))
    (hnext : ∀ m, motive m → motive (m.next node)) (k : Nat) : motive (nth node s k) := by
  induction k with
  | zero => exact hopening
  | succ k ih =>
    rw [nth_succ]
    exact hnext _ ih

/-! ## The same run -/

/-- One moment comes after another in a run. -/
def Reaches (node : Node) (m m' : Moment) : Prop :=
  ∃ k, (next node)^[k] m = m'

variable {m m' m'' : Moment} {s t : RunState} {e : RuntimeError}

theorem Reaches.refl (m : Moment) : Reaches node m m :=
  ⟨0, rfl⟩

theorem Reaches.trans (h : Reaches node m m') (h' : Reaches node m' m'') : Reaches node m m'' := by
  obtain ⟨k, rfl⟩ := h
  obtain ⟨l, rfl⟩ := h'
  exact ⟨l + k, Function.iterate_add_apply _ _ _ _⟩

/-- What the next moment reaches is reached from here. -/
theorem Reaches.of_next (h : Reaches node (m.next node) m') : Reaches node m m' := by
  obtain ⟨k, rfl⟩ := h
  exact ⟨k + 1, rfl⟩

theorem after_of_ok {α : Type} {x : Run α} {a : α} {failed : RuntimeError → RunState → Moment}
    {next : α → RunState → Moment} (h : x.run s = (.ok a, t)) :
    after x s failed next = next a t := by
  rw [after, h]

theorem after_of_error {α : Type} {x : Run α} {failed : RuntimeError → RunState → Moment}
    {next : α → RunState → Moment} (h : x.run s = (.error e, t)) :
    after x s failed next = failed e t := by
  rw [after, h]

/-- A computation leads to a moment with a property if both its ends do. -/
theorem after_cases {α : Type} {motive : Moment → Prop} {x : Run α}
    {failed : RuntimeError → RunState → Moment} {next : α → RunState → Moment}
    (hfailed : ∀ e t, x.run s = (.error e, t) → motive (failed e t))
    (hnext : ∀ a t, x.run s = (.ok a, t) → motive (next a t)) : motive (after x s failed next) := by
  rcases hrun : x.run s with ⟨e | a, t⟩
  · rw [after_of_error hrun]
    exact hfailed e t hrun
  · rw [after_of_ok hrun]
    exact hnext a t hrun

/-- A statement calls another contract, or it does not. -/
theorem call_or_other (statement : Statement) :
    (∃ target fields, statement = .call target fields) ∨
      ∀ target fields, statement ≠ .call target fields := by
  cases statement with
  | call target fields => exact .inl ⟨target, fields, rfl⟩
  | _ => exact .inr fun _ _ h => by cases h

/-- What kind of moment can come next: a contract is entered only where the run begins, and a
statement is paid for only where a contract is about to pay for one. -/
theorem next_cases {motive : Moment → Prop}
    (hentered : ∀ s t, m = opening s → motive (entered t))
    (hready : ∀ place todo t, motive (ready place todo t))
    (hpaid : ∀ place statement rest s t, m = ready place (statement :: rest) s →
      motive (paid place statement rest t))
    (hfailing : ∀ frames e t, motive (failing frames e t))
    (hended : ∀ result t, motive (ended result t)) : motive (m.next node) := by
  have hconclude : ∀ outcome s, motive (conclude outcome s) := fun _ _ =>
    after_cases (fun _ t _ => hended _ t) fun _ t _ => hended _ t
  cases m with
  | opening s =>
    rw [next]
    exact after_cases (fun _ t _ => hended _ t) fun _ t _ => hentered s t rfl
  | entered s =>
    rw [next]
    exact after_cases (fun _ t _ => hfailing _ _ t) fun _ t _ => hready _ _ t
  | ready place todo s =>
    obtain ⟨frames, depth, timer⟩ := place
    cases todo with
    | cons statement rest =>
      rw [next]
      exact after_cases (fun _ t _ => hfailing _ _ t) fun _ t _ => hpaid _ _ _ s t rfl
    | nil =>
      cases frames with
      | nil => exact hconclude _ s
      | cons frame frames =>
        rw [next]
        exact after_cases (fun _ t _ => hfailing _ _ t) fun _ t _ => hready _ _ t
  | paid place statement rest s =>
    rcases call_or_other statement with ⟨target, fields, rfl⟩ | hother
    · rw [next]
      exact after_cases (fun _ t _ => hfailing _ _ t) fun _ t _ => hready _ _ t
    · rw [next_paid hother]
      exact after_cases (fun _ t _ => hfailing _ _ t) fun _ t _ => hready _ _ t
  | failing frames e s =>
    cases frames with
    | nil => exact hconclude _ s
    | cons frame frames =>
      rw [next]
      exact after_cases (fun _ t _ => hfailing _ _ t) fun _ t _ => hfailing _ _ t
  | ended result s => exact hended result s

/-- The moment at which a contract goes on with what is left of it, unless it has failed. -/
def resumed (place : Place) (rest : List Statement) : Except RuntimeError Unit → RunState → Moment
  | .ok () => ready place rest
  | .error e => failing place.frames e

/-- A computation that the next step consists of leads to where it ends. -/
theorem reaches_resumed {place : Place} {rest : List Statement} {x : Run Unit}
    (hnext : m.next node = after x s (failing place.frames) fun _ => ready place rest) :
    Reaches node m (resumed place rest (x.run s).1 (x.run s).2) := by
  refine .of_next ?_
  rw [hnext]
  rcases hrun : x.run s with ⟨e | u, t⟩
  · rw [after_of_error hrun]
    exact .refl _
  · rw [after_of_ok hrun]
    exact .refl _

/-- The statements of a contract at every place with so many calls left are run one after the other,
with the statements of the contracts that it calls in between. -/
def RunsThrough (node : Node) (depth : Nat) : Prop :=
  ∀ (frames : List Frame) (timer : Timer) (todo : List Statement) (s : RunState),
    Reaches node (ready ⟨frames, depth, timer⟩ todo s)
      (resumed ⟨frames, depth, timer⟩ []
        ((runStatements node.params (callContract node.params depth) timer todo).run s).1
        ((runStatements node.params (callContract node.params depth) timer todo).run s).2)

variable {place : Place} {rest : List Statement}

/-- A call leads through the contract that is called and back. -/
theorem reaches_call {depth : Nat} (hdepth : place.depth = depth + 1)
    (hinner : RunsThrough node depth) (target : String) (fields : List (String × Operand))
    (s : RunState) :
    Reaches node (paid place (.call target fields) rest s)
      (resumed place rest
        ((exec node.params (callContract node.params place.depth) place.timer
          (.call target fields)).run s).1
        ((exec node.params (callContract node.params place.depth) place.timer
          (.call target fields)).run s).2) := by
  obtain ⟨frames, _, timer⟩ := place
  obtain rfl : _ = depth + 1 := hdepth
  rw [exec_call_succ]
  rcases hstart : (startCall (depth + 1) target fields).run s with ⟨e | opened, t⟩
  · rw [run_bind_of_error hstart]
    refine .of_next ?_
    rw [next, after_of_error hstart]
    exact .refl _
  · rw [run_bind_of_ok hstart]
    have hopened : Reaches node (paid ⟨frames, depth + 1, timer⟩ (.call target fields) rest s)
        (ready ⟨⟨opened.contract.name, opened.caller, timer, rest⟩ :: frames, depth, opened.timer⟩
          (entryStatements opened.contract.program) t) := by
      refine .of_next ?_
      rw [next, after_of_ok hstart]
      exact .refl _
    refine hopened.trans ((hinner _ _ _ _).trans ?_)
    rcases hbody : (runStatements node.params (callContract node.params depth) opened.timer
      (entryStatements opened.contract.program)).run t with ⟨e | u, v⟩
    · refine .of_next ?_
      rw [run_bind_attempt, hbody]
      exact .refl _
    · refine .of_next ?_
      rw [run_bind_attempt, hbody]
      exact .refl _

/-- Every statement that is paid for is executed, in one step or in those of a call. -/
theorem reaches_exec (place : Place)
    (hinner : ∀ depth, place.depth = depth + 1 → RunsThrough node depth)
    (statement : Statement) (s : RunState) :
    Reaches node (paid place statement rest s)
      (resumed place rest
        ((exec node.params (callContract node.params place.depth) place.timer statement).run s).1
        ((exec node.params (callContract node.params place.depth) place.timer
          statement).run s).2) := by
  cases statement with
  | call target fields =>
    cases hdepth : place.depth with
    | zero =>
      rw [exec_call_zero]
      rcases hstart : (startCall 0 target fields).run s with ⟨e | opened, t⟩
      · rw [run_bind_of_error hstart]
        refine .of_next ?_
        rw [next, hdepth, after_of_error hstart]
        exact .refl _
      · obtain ⟨cells, u, -, hloop⟩ := run_bind_eq_ok hstart
        cases hloop
    | succ depth =>
      rw [← hdepth]
      exact reaches_call hdepth (hinner depth hdepth) target fields s
  | _ => exact reaches_resumed rfl

/-- The statements of a contract run through if those of the contracts that it calls do. The induction
is on the statements. -/
theorem runsThrough_of_inner {depth : Nat}
    (hinner : ∀ inner, depth = inner + 1 → RunsThrough node inner) : RunsThrough node depth := by
  intro frames timer todo s
  induction todo generalizing s with
  | nil => exact .refl _
  | cons statement rest ih =>
    have hsplit : runStatements node.params (callContract node.params depth) timer
        (statement :: rest) =
        (do checkTime timer; charge 1) >>= fun _ =>
          exec node.params (callContract node.params depth) timer statement >>= fun _ =>
            runStatements node.params (callContract node.params depth) timer rest := by
      simp only [runStatements, step, bind_assoc]
    rw [hsplit]
    refine .of_next ?_
    rw [next]
    rcases hpay : (do checkTime timer; charge 1 : Run Unit).run s with ⟨e | u, t⟩
    · rw [run_bind_of_error hpay, after_of_error hpay]
      exact .refl _
    · rw [run_bind_of_ok hpay, after_of_ok hpay]
      refine (reaches_exec ⟨frames, depth, timer⟩ hinner statement t).trans ?_
      dsimp only
      rcases hexec : (exec node.params (callContract node.params depth) timer statement).run t with
        ⟨e | u, v⟩
      · rw [run_bind_of_error hexec]
        exact .refl _
      · rw [run_bind_of_ok hexec]
        exact ih v

/-- Contracts run through at every depth of calls. -/
theorem runsThrough (node : Node) (depth : Nat) : RunsThrough node depth := by
  induction depth with
  | zero => exact runsThrough_of_inner fun inner h => by cases h
  | succ depth ih =>
    refine runsThrough_of_inner fun inner h => ?_
    obtain rfl := Nat.succ.inj h
    exact ih

/-- The end of a run is reached from wherever its contract is through or has failed. -/
theorem reaches_conclude {timer : Timer} {depth : Nat} {contract : Contract}
    (r : Except RuntimeError Unit) (hcontract : s.ctx.contract = contract) :
    Reaches node (resumed ⟨[], depth, timer⟩ [] r s)
      (ended ((finish contract.name r).run s).1 ((finish contract.name r).run s).2) := by
  subst hcontract
  have hconclude : conclude r s = ended ((finish s.ctx.contract.name r).run s).1
      ((finish s.ctx.contract.name r).run s).2 := by
    unfold conclude
    rcases hrun : (finish s.ctx.contract.name r).run s with ⟨e | text, t⟩
    · exact after_of_error hrun
    · exact after_of_ok hrun
  rw [← hconclude]
  cases r with
  | ok u => exact .of_next (.refl _)
  | error e => exact .of_next (.refl _)

/-- The contract of a transaction is run once its size is paid for. -/
theorem reaches_runTarget (node : Node) (s : RunState) :
    ∃ depth timer, Reaches node (entered s)
      (resumed ⟨[], depth, timer⟩ [] ((runTarget node s.ctx.contract).run s).1
        ((runTarget node s.ctx.contract).run s).2) := by
  have hcontext : context.run s = (.ok s.ctx, s) := rfl
  rw [runTarget, run_bind_of_ok hcontext]
  rcases hcharge : (charge (Fuel.forSize node.params.sizeFuel s.ctx.tx.size)).run s with ⟨e | u, t⟩
  · rw [run_bind_of_error hcharge]
    refine ⟨0, ⟨0, none⟩, .of_next ?_⟩
    rw [next, after_of_error (run_bind_of_error hcharge)]
    exact .refl _
  · have hregistry : registry.run t = (.ok t.world.registry, t) := rfl
    obtain ⟨timer, htimer⟩ : ∃ timer, startTimer.run t = (.ok timer, t) := ⟨_, rfl⟩
    rw [run_bind_of_ok hcharge, run_bind_of_ok hregistry, runProgram, run_bind_of_ok htimer]
    refine ⟨t.world.registry.contracts.length, timer, .of_next ?_⟩
    have hpaid : (charge (Fuel.forSize node.params.sizeFuel s.ctx.tx.size) >>= fun _ =>
        startTimer).run s = (.ok timer, t) := by
      rw [run_bind_of_ok hcharge]
      exact htimer
    rw [next, after_of_ok hpaid]
    exact runsThrough node _ [] timer _ t

/-- The moments of a run come to the end that the run has. -/
theorem exists_nth_eq_ended (node : Node) (s : RunState) :
    ∃ k, nth node s k = ended ((invoke node).run s).1 ((invoke node).run s).2 := by
  have hcontext : context.run s = (.ok s.ctx, s) := rfl
  have hsplit : invoke node = context >>= fun ctx =>
      (do enter ctx.contract.name; advance .stackPushed) >>= fun _ =>
        attempt (runTarget node ctx.contract) >>= finish ctx.contract.name := by
    simp only [invoke, bind_assoc]
    rfl
  rw [hsplit, run_bind_of_ok hcontext]
  suffices h : Reaches node (opening s) _ from h
  refine .of_next ?_
  rw [next]
  rcases henter : (do enter s.ctx.contract.name; advance .stackPushed : Run Unit).run s with
    ⟨e | u, t⟩
  · rw [run_bind_of_error henter, after_of_error henter]
    exact .refl _
  · rw [run_bind_of_ok henter, after_of_ok henter, run_bind_attempt]
    have hentered := ((enter_tame _).bind fun _ => advance_tame _).keeps.run henter
    obtain ⟨depth, timer, htarget⟩ := reaches_runTarget node t
    have hran := (runTarget_scripted node t.ctx.contract).tame.keeps t
    rw [hentered.ctx.contract] at htarget hran
    exact htarget.trans (reaches_conclude _ (hran.ctx.contract.trans hentered.ctx.contract))

end Moment

end Run

end Covenant
