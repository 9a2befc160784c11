import Mathlib.Algebra.Ring.Int.Defs
import Covenant.Proofs.Execution.Fuel
import Covenant.Proofs.Execution.Nesting

/-!
# What a run is charged

Fuel is taken off at three places: for the size of the transaction, for every statement that is reached
in time, and by `charge` statements. Every other step of a run finds the fuel that the step before has
left, whether it checks permissions, writes rows, calls a contract or returns from one. So the fuel at
any moment is the limit less the charges so far, as long as that is a quantity, and what an execution
tells to have spent is settled from the fuel at the end.
-/

namespace Covenant

open Stage

namespace Run

open RunState

variable {node : Node} {s t : RunState}

/-- A run with this timer has taken too long at a time. -/
def Timer.isUp (timer : Timer) (clock : Nat) : Bool :=
  match timer.limit with
  | none => false
  | some limit => limit < clock - timer.started

/-- Looking at the time fails if it is up, and does nothing else. -/
theorem run_checkTime (timer : Timer) (s : RunState) :
    ∃ e, (checkTime timer).run s =
      if timer.isUp s.world.clock then (.error e, s) else (.ok (), s) := by
  have hnow : now.run s = (.ok s.world.clock, s) := rfl
  unfold checkTime Timer.isUp
  cases hlimit : timer.limit with
  | none => exact ⟨.notText, rfl⟩
  | some limit =>
    refine ⟨.timeout (s.world.clock - timer.started) limit, ?_⟩
    rw [run_bind_of_ok hnow]
    by_cases hup : limit < s.world.clock - timer.started
    · simp only [hup, if_true, decide_true]
      rfl
    · simp only [hup, if_false, decide_false, Bool.false_eq_true]
      rfl

/-- A write statement sets no slot with a meaning of its own, whether it is refused or not. -/
theorem slots_of_mediated {params : SystemParameters} {table : String} {action : TableAction}
    {pairs : List (String × Operand)} {r : Except RuntimeError Unit × RunState}
    (h : MediatedValues params s table action pairs r) (key : EnvKey)
    (hknown : key.isWellKnown = true) : r.2.ctx.env.get? key = s.ctx.env.get? key := by
  obtain ⟨e | u, t⟩ := r
  · exact congrArg (fun ctx : ExecutionContext => ctx.env.get? key) h.ctx
  · obtain ⟨values, -, hwrites, -⟩ := h
    exact hwrites.slots key hknown

namespace Moment

variable {m : Moment}

/-! ## One step -/

/-- The next step charges for a statement, which it does in time. -/
def isUnit : Moment → Bool
  | ready place (_ :: _) s => !place.timer.isUp s.world.clock
  | _ => false

/-- The amount of the `charge` statement that is executed next. -/
def amount? : Moment → Option Int
  | paid _ (.charge amount) _ _ => some amount
  | _ => none

/-- The charge for the size of the transaction, where it is due. -/
def base? (node : Node) : Moment → Option Int
  | entered s => some (Fuel.forSize node.params.sizeFuel s.ctx.tx.size)
  | _ => none

/-- The amount that the next step takes off the fuel, if it takes any. -/
def charge? (node : Node) (m : Moment) : Option Int :=
  (m.base? node).or (if m.isUnit then some 1 else m.amount?)

/-- A charge is taken off the fuel, whether there was enough or not. -/
theorem fuel_next_of_charge? {amount : Int} (h : m.charge? node = some amount) :
    (m.next node).fuel = Quantity.sub m.fuel amount := by
  have hcharged : ∀ s : RunState,
      (s.charged amount).ctx.env.fuel = Quantity.sub s.ctx.env.fuel amount :=
    fun s => Environment.fuel_charge _ _
  unfold fuel
  cases m with
  | entered s =>
    obtain rfl := Option.some.inj h
    rw [next, state_after (fun _ _ => rfl) fun _ _ => rfl, state_bind_startTimer, state_charge]
    exact hcharged s
  | ready place todo s =>
    cases todo with
    | nil => cases h
    | cons statement rest =>
      obtain ⟨e, htime⟩ := run_checkTime place.timer s
      cases hup : place.timer.isUp s.world.clock with
      | true => simp [charge?, base?, isUnit, amount?, hup] at h
      | false =>
        have hamount : 1 = amount := by simpa [charge?, base?, isUnit, hup] using h
        subst hamount
        rw [hup, if_neg Bool.false_ne_true] at htime
        rw [next, state_after (fun _ _ => rfl) fun _ _ => rfl, run_bind_of_ok htime, state_charge]
        exact hcharged s
  | paid place statement rest s =>
    cases statement with
    | charge other =>
      obtain rfl := Option.some.inj h
      rw [state_next_paid (by simp), exec, state_charge]
      exact hcharged s
    | _ => cases h
  | _ => cases h

/-- A step that charges nothing leaves the fuel as it is. -/
theorem fuel_next_of_none (h : m.charge? node = none) : (m.next node).fuel = m.fuel := by
  unfold fuel
  cases m with
  | opening s =>
    rw [next, state_after (fun _ _ => rfl) fun _ _ => rfl]
    exact (((enter_turns _).bind fun _ => advance_turns _) s).fuel
  | entered s => cases h
  | ready place todo s =>
    cases todo with
    | nil =>
      obtain ⟨_ | ⟨frame, frames⟩, depth, timer⟩ := place
      · rw [next, conclude, state_after (fun _ _ => rfl) fun _ _ => rfl]
        exact (finish_turns _ _ s).fuel
      · rw [next, state_after (fun _ _ => rfl) fun _ _ => rfl]
        exact (((closeCall_turns _ _).bind fun _ => setSlot_turns (by decide) _) s).fuel
    | cons statement rest =>
      obtain ⟨e, htime⟩ := run_checkTime place.timer s
      cases hup : place.timer.isUp s.world.clock with
      | true =>
        rw [hup, if_pos rfl] at htime
        rw [next, state_after (fun _ _ => rfl) fun _ _ => rfl, run_bind_of_error htime]
        rfl
      | false => simp [charge?, base?, isUnit, hup] at h
  | paid place statement rest s =>
    cases statement with
    | charge amount => cases h
    | call target fields =>
      rw [next, state_after (fun _ _ => rfl) fun _ _ => rfl]
      exact (startCall_turns _ _ _ s).fuel
    | insert table pairs =>
      rw [state_next_paid (by simp)]
      exact Environment.fuel_congr (slots_of_mediated (exec_insert_mediated table pairs s) _ rfl)
    | update table id pairs =>
      rw [state_next_paid (by simp)]
      exact Environment.fuel_congr (slots_of_mediated (exec_update_mediated table id pairs s) _ rfl)
    | _ =>
      rw [state_next_paid (by simp)]
      exact (exec_aside rfl s).fuel
  | failing frames e s =>
    cases frames with
    | nil =>
      rw [next, conclude, state_after (fun _ _ => rfl) fun _ _ => rfl]
      exact (finish_turns _ _ s).fuel
    | cons frame frames =>
      rw [next, state_after (fun _ _ => rfl) fun _ _ => rfl]
      exact (closeCall_turns _ _ s).fuel
  | ended result s => rfl

/-! ## All steps -/

/-- The amounts that the first `k` steps of a run take off the fuel, in order. -/
def charges (node : Node) (s : RunState) (k : Nat) : List Int :=
  (List.range k).filterMap fun i => (nth node s i).charge? node

theorem filterMap_range_succ {α : Type} (f : Nat → Option α) (k : Nat) :
    (List.range (k + 1)).filterMap f = (List.range k).filterMap f ++ (f k).toList := by
  rw [List.range_succ, List.filterMap_append]
  cases hf : f k with
  | none => simp [hf]
  | some a => simp [hf]

theorem charges_succ (node : Node) (s : RunState) (k : Nat) :
    charges node s (k + 1) = charges node s k ++ ((nth node s k).charge? node).toList :=
  filterMap_range_succ _ k

/-- The fuel at any moment is what the charges so far have left. -/
theorem fuel_nth (node : Node) (s : RunState) (k : Nat) :
    (nth node s k).fuel = (charges node s k).foldl Quantity.sub s.ctx.env.fuel := by
  induction k with
  | zero => rfl
  | succ k ih =>
    rw [nth_succ, charges_succ, List.foldl_append, ← ih]
    cases hcharge : (nth node s k).charge? node with
    | none => exact fuel_next_of_none hcharge
    | some amount => exact fuel_next_of_charge? hcharge

/-- As long as the fuel stays in range, it is the fuel at first less the sum of the charges. -/
theorem fuel_nth_of_inRange
    (h : ∀ k, Quantity.InRange (s.ctx.env.fuel - (charges node s k).sum)) (k : Nat) :
    (nth node s k).fuel = s.ctx.env.fuel - (charges node s k).sum := by
  rw [fuel_nth]
  induction k with
  | zero => exact (Int.sub_zero _).symm
  | succ k ih =>
    have hnext := h (k + 1)
    rw [charges_succ] at hnext ⊢
    rw [List.foldl_append, ih]
    cases hcharge : (nth node s k).charge? node with
    | none => simp
    | some amount =>
      rw [hcharge, Option.toList_some, List.sum_append, List.sum_singleton] at hnext
      rw [Option.toList_some, List.sum_append, List.sum_singleton, List.foldl_cons, List.foldl_nil]
      unfold Quantity.sub
      rw [← Int.sub_sub] at hnext ⊢
      exact Quantity.clamp_of_inRange hnext

/-- A run has one end. -/
theorem run_invoke_of_ended {k : Nat} {result : Except RuntimeError String}
    (h : nth node s k = ended result t) : (invoke node).run s = (result, t) := by
  obtain ⟨l, hl⟩ := exists_nth_eq_ended node s
  have hmax := nth_of_ended (Nat.le_max_left k l) h
  rw [nth_of_ended (Nat.le_max_right k l) hl] at hmax
  obtain ⟨hresult, hstate⟩ := ended.inj hmax
  exact Prod.ext hresult hstate

/-- The run is over. -/
def isEnded : Moment → Bool
  | ended _ _ => true
  | _ => false

theorem exists_eq_ended_of_isEnded (h : m.isEnded = true) : ∃ result, m = ended result m.state := by
  cases m with
  | ended result s => exact ⟨result, rfl⟩
  | _ => cases h

/-- After the end nothing is charged. -/
theorem charges_of_ended {k l : Nat} {result : Except RuntimeError String} (hkl : k ≤ l)
    (h : nth node s k = ended result t) : charges node s l = charges node s k := by
  induction hkl with
  | refl => rfl
  | @step l hkl ih =>
    rw [charges_succ, nth_of_ended hkl h, ih]
    exact List.append_nil _

/-! ## What the charges are for -/

/-- How many of the first `k` steps charge for a statement, nested calls included. -/
def units (node : Node) (s : RunState) (k : Nat) : Nat :=
  (List.range k).countP fun i => (nth node s i).isUnit

/-- The amounts of the `charge` statements among the first `k` steps, nested calls included. -/
def amounts (node : Node) (s : RunState) (k : Nat) : List Int :=
  (List.range k).filterMap fun i => (nth node s i).amount?

/-- The charges for the size of the transaction among the first `k` steps. -/
def bases (node : Node) (s : RunState) (k : Nat) : List Int :=
  (List.range k).filterMap fun i => (nth node s i).base? node

/-- A step is charged for one thing only. -/
theorem sum_charge? (node : Node) (m : Moment) :
    (m.charge? node).toList.sum =
      (m.base? node).toList.sum + (if m.isUnit then 1 else 0) + m.amount?.toList.sum := by
  unfold charge?
  cases m with
  | entered s => simp [base?, isUnit, amount?]
  | ready place todo s =>
    cases hunit : (ready place todo s).isUnit with
    | true => simp [base?, amount?]
    | false => simp [base?, amount?]
  | paid place statement rest s => simp [base?, isUnit]
  | _ => rfl

/-- All charges are for the size of the transaction, for statements, or made by `charge` statements. -/
theorem sum_charges (node : Node) (s : RunState) (k : Nat) :
    (charges node s k).sum = (bases node s k).sum + units node s k + (amounts node s k).sum := by
  induction k with
  | zero => rfl
  | succ k ih =>
    have hbases : bases node s (k + 1) = bases node s k ++ ((nth node s k).base? node).toList :=
      filterMap_range_succ _ k
    have hamounts : amounts node s (k + 1) = amounts node s k ++ (nth node s k).amount?.toList :=
      filterMap_range_succ _ k
    have hunits : units node s (k + 1) =
        units node s k + if (nth node s k).isUnit then 1 else 0 :=
      countP_range_succ _ k
    have hstep := sum_charge? node (nth node s k)
    rw [charges_succ, hbases, hamounts, hunits, List.sum_append, List.sum_append, List.sum_append,
      ih, hstep]
    by_cases hunit : (nth node s k).isUnit = true
    · rw [if_pos hunit, if_pos hunit]
      omega
    · rw [if_neg hunit, if_neg hunit]
      omega

/-- The run has gone past the charge for the size of the transaction. -/
def hasBegun : Moment → Bool
  | opening _ | entered _ => false
  | _ => true

/-- No step leads back to where the run begins. -/
theorem hasBegun_next (hopening : ∀ s, m ≠ opening s) : (m.next node).hasBegun = true :=
  next_cases (motive := fun m => m.hasBegun = true) (fun s _ h => absurd h (hopening s))
    (fun _ _ _ => rfl) (fun _ _ _ _ _ _ => rfl) (fun _ _ _ => rfl) fun _ _ => rfl

/-- What happens after the first two moments is never charged for the size of the transaction. -/
theorem hasBegun_nth (hentered : nth node s 1 = entered t) (k : Nat) :
    (nth node s (k + 2)).hasBegun = true := by
  induction k with
  | zero =>
    rw [nth_succ, hentered]
    exact hasBegun_next fun _ h => by cases h
  | succ k ih =>
    rw [nth_succ]
    refine hasBegun_next fun u h => ?_
    rw [h] at ih
    cases ih

theorem base?_of_hasBegun (h : m.hasBegun = true) : m.base? node = none := by
  cases m with
  | entered s => cases h
  | _ => rfl

/-- The size of the transaction is charged for once. -/
theorem bases_of_entered (hentered : nth node s 1 = entered t) (k : Nat) :
    bases node s (k + 2) = [Fuel.forSize node.params.sizeFuel t.ctx.tx.size] := by
  induction k with
  | zero =>
    have hsecond : (nth node s 1).base? node =
        some (Fuel.forSize node.params.sizeFuel t.ctx.tx.size) := by
      rw [hentered]
      rfl
    rw [bases, filterMap_range_succ, hsecond, filterMap_range_succ]
    rfl
  | succ k ih =>
    have hnone : (nth node s (k + 2)).base? node = none :=
      base?_of_hasBegun (hasBegun_nth hentered k)
    rw [bases, filterMap_range_succ, hnone, Option.toList_none, List.append_nil]
    exact ih

/-- A prepared execution has its contract entered first. -/
theorem nth_one {request : ExecutionRequest} {world w : World} {ctx : ExecutionContext}
    (h : (Preparing.prepare node request).run world = (.ok ctx, w)) :
    ∃ t, nth node ⟨ctx, w⟩ 1 = entered t ∧ t.ctx.tx = request.tx := by
  obtain ⟨hempty, hknown, hname⟩ := nth_nested h 0
  obtain ⟨t, henter, -⟩ := enter_nested hempty hknown hname
  have hentered : nth node ⟨ctx, w⟩ 1 = entered (t.advanced .stackPushed) := by
    rw [nth_succ, nth_zero, next, after_of_ok ((run_bind_of_ok henter).trans rfl)]
    rfl
  have htx := (nth_settled node ⟨ctx, w⟩ 1).1
  rw [hentered] at htx
  exact ⟨_, hentered, htx.trans (Preparing.prepare_ok h).tx⟩

/-- The fuel at the end of a run is what is left after the charges for the size of the transaction, for
the statements, and by `charge` statements. -/
theorem fuel_of_ended {node : Node} {request : ExecutionRequest} {world w : World}
    {ctx : ExecutionContext} {k : Nat} {result : Except RuntimeError String}
    (h : (Preparing.prepare node request).run world = (.ok ctx, w))
    (hrange : ∀ k, Quantity.InRange (ctx.env.fuel - (charges node ⟨ctx, w⟩ k).sum))
    (hended : nth node ⟨ctx, w⟩ k = ended result t) :
    t.ctx.env.fuel = ctx.env.fuel - Fuel.forSize node.params.sizeFuel request.tx.size -
      units node ⟨ctx, w⟩ k - (amounts node ⟨ctx, w⟩ k).sum := by
  obtain ⟨u, hentered, htx⟩ := nth_one h
  obtain ⟨l, rfl⟩ : ∃ l, k = l + 2 := by
    rcases k with _ | _ | l
    · cases hended
    · rw [Nat.zero_add, hentered] at hended
      cases hended
    · exact ⟨l, rfl⟩
  have hfuel := fuel_nth_of_inRange (s := ⟨ctx, w⟩) hrange (l + 2)
  rw [hended, sum_charges, bases_of_entered hentered, List.sum_singleton, htx] at hfuel
  change t.ctx.env.fuel = ctx.env.fuel - _ at hfuel
  omega

end Moment

end Run

/-! ## What is told to be spent -/

namespace RunState

/-- The limit and what has been entered as spent are the same. -/
def SameLedger (s t : RunState) : Prop :=
  t.ctx.fuel = s.ctx.fuel

instance : IsPreorder RunState SameLedger where
  refl _ := rfl
  trans _ _ _ h k := k.trans h

end RunState

namespace Executing

open RunState

variable {ε ε' α : Type}

theorem modifyContext_ledger {f : ExecutionContext → ExecutionContext}
    (hf : ∀ ctx, (f ctx).fuel = ctx.fuel) :
    Keeps SameLedger (modifyContext f : Executing ε Unit) :=
  fun s => hf s.ctx

theorem storing_ledger (toError : ε → ε') (x : Storing ε α) :
    Keeps SameLedger (storing toError x : Executing ε' α) :=
  fun _ => rfl

theorem attempt_ledger {x : Executing ε α} (hx : Keeps SameLedger x) :
    Keeps SameLedger (attempt x : Executing ε' (Except ε α)) :=
  fun s => hx s

theorem context_ledger : Keeps SameLedger (context : Executing ε ExecutionContext) :=
  fun _ => rfl

theorem settle_ledger (node : Node) (mode : PaymentMode) :
    Keeps SameLedger (settle node mode : Executing ε _) :=
  context_ledger.bind fun _ => attempt_ledger (storing_ledger _ _)

theorem undoFlush_ledger : Keeps SameLedger (undoFlush : Executing ε Unit) :=
  fun _ => rfl

theorem rollBack_ledger (savepoint : String) : Keeps SameLedger (rollBack savepoint) :=
  (modifyContext_ledger (f := ExecutionContext.discardRecords) fun _ => rfl).bind fun _ =>
    undoFlush_ledger.bind fun _ => (storing_ledger _ _).bind fun _ => storing_ledger _ _

theorem orReject_ledger {x : Executing StorageError α} (hx : Keeps SameLedger x) :
    Keeps SameLedger (orReject x) := by
  refine (attempt_ledger hx).bind fun r => ?_
  cases r with
  | ok a => exact .pure a
  | error e => exact .throw _

/-- An outcome tells what was entered as spent when it was about to be settled. -/
def Tells (x : Executing ExecutionError ExecutionOutcome) : Prop :=
  ∀ s outcome t, x.run s = (.ok outcome, t) → outcome.fuelUsed = s.ctx.fuel.consumed

theorem Tells.throw (e : ExecutionError) : Tells (throw e) :=
  fun _ _ _ h => by cases h

theorem Tells.bind {x : Executing ExecutionError α}
    {f : α → Executing ExecutionError ExecutionOutcome} (hx : Keeps SameLedger x)
    (hf : ∀ a, Tells (f a)) : Tells (x >>= f) := by
  intro s outcome t h
  obtain ⟨a, u, ha, h⟩ := run_bind_eq_ok h
  have hsame : u.ctx.fuel = s.ctx.fuel := hx.run ha
  rw [hf a u outcome t h, hsame]

theorem fail_tells (node : Node) (savepoint : String) (error : RuntimeError) :
    Tells (fail node savepoint error) := by
  refine .bind (orReject_ledger (rollBack_ledger savepoint)) fun _ =>
    .bind context_ledger fun ctx => ?_
  split
  · exact .bind (orReject_ledger (storing_ledger _ _)) fun _ =>
      .bind (modifyContext_ledger fun _ => rfl) fun _ => .throw _
  · refine .bind (settle_ledger _ _) fun paid => ?_
    cases paid with
    | error unpaid =>
      exact .bind (orReject_ledger (rollBack_ledger savepoint)) fun _ =>
        .bind (orReject_ledger (storing_ledger _ _)) fun _ =>
          .bind (modifyContext_ledger fun _ => rfl) fun _ => .throw _
    | ok u =>
      refine .bind (orReject_ledger (storing_ledger _ _)) fun _ =>
        .bind (modifyContext_ledger fun _ => rfl) fun _ => ?_
      intro s outcome t h
      obtain rfl := Except.ok.inj (Prod.mk.inj h).1
      rfl

theorem keep_tells (savepoint result : String) : Tells (keep savepoint result) := by
  refine .bind (attempt_ledger (storing_ledger _ _)) fun released => ?_
  cases released with
  | error e =>
    exact .bind (attempt_ledger (rollBack_ledger savepoint)) fun _ =>
      .bind (modifyContext_ledger fun _ => rfl) fun _ => .throw _
  | ok u =>
    refine .bind (modifyContext_ledger fun _ => rfl) fun _ => ?_
    intro s outcome t h
    obtain rfl := Except.ok.inj (Prod.mk.inj h).1
    rfl

theorem commit_tells (node : Node) (savepoint result : String) :
    Tells (commit node savepoint result) := by
  refine .bind context_ledger fun ctx => ?_
  split
  · refine .bind (settle_ledger _ _) fun paid => ?_
    cases paid with
    | error unpaid => exact fail_tells _ _ _
    | ok u => exact keep_tells _ _
  · exact keep_tells _ _

/-- What a run has left is entered when it is over. -/
theorem run_invoke (node : Node) (s : RunState) :
    (invoke node : Executing ε _).run s =
      let t := ((Run.invoke node).run s).2
      (.ok ((Run.invoke node).run s).1,
        { t with ctx := { t.ctx with fuel := t.ctx.fuel.record t.ctx.fuel.limit t.ctx.env.fuel } }) :=
  rfl

/-- The first entry into a ledger is the fuel that was spent. -/
theorem consumed_new {limit : Int} (hlimit : Quantity.InRange limit) (left : Int) :
    ((FuelLedger.new limit).record limit left).consumed = Fuel.spent limit left := by
  have hspent : Quantity.InRange (Fuel.spent limit left) := by
    have hsub := Quantity.sub_inRange limit left
    unfold Quantity.InRange Quantity.least Quantity.greatest at *
    unfold Fuel.spent
    split
    · omega
    · omega
  change Quantity.clamp (0 + Fuel.spent limit left) = _
  rw [Int.zero_add, Quantity.clamp_of_inRange hspent]

/-- Every outcome of an execution tells what its run has spent. -/
theorem fuelUsed_of_complete {node : Node} {savepoint : String} {s t : RunState}
    {outcome : ExecutionOutcome} (h : (complete node savepoint).run s = (.ok outcome, t)) :
    outcome.fuelUsed =
      ((invoke node : Executing ExecutionError _).run s).2.ctx.fuel.consumed := by
  rw [complete, run_bind_of_ok (run_invoke node s)] at h
  cases hresult : ((Run.invoke node).run s).1 with
  | ok result =>
    rw [hresult] at h
    exact commit_tells node savepoint result _ _ _ h
  | error e =>
    rw [hresult] at h
    exact fail_tells node savepoint e _ _ _ h

end Executing

namespace Sample

/-- A contract charges for itself and calls another one, which charges as well. -/
def charging : World :=
  running database
    ("contract Pay \x7b\n action \x7b\n  charge 5\n  call Add\n  result done\n \x7d\n\x7d\n" ++
      "contract Add \x7b\n action \x7b\n  charge 7\n \x7d\n\x7d\n")

end Sample

namespace Node

open Preparing Run.Moment

variable {node : Node} {request : ExecutionRequest} {world w : World} {ctx : ExecutionContext}

/-- As long as the fuel stays in range, a run that ends has left of its limit what was not charged for
the size of the transaction, for a statement or by one, and that is what is told to be spent. A step
that charges nothing leaves the fuel as it is. -/
theorem fuel_metered (h : (prepare node request).run world = (.ok ctx, w))
    (hrange : ∀ k, Quantity.InRange
      (Fuel.limitFor request.tx.maxSum node.params.maxCost - (charges node ⟨ctx, w⟩ k).sum)) :
    (∃ k, nth node ⟨ctx, w⟩ k =
      ended ((Run.invoke node).run ⟨ctx, w⟩).1 ((Run.invoke node).run ⟨ctx, w⟩).2) ∧
    (∀ k result t, nth node ⟨ctx, w⟩ k = ended result t →
      t.ctx.env.fuel = Fuel.limitFor request.tx.maxSum node.params.maxCost -
        Fuel.forSize node.params.sizeFuel request.tx.size -
        units node ⟨ctx, w⟩ k - (amounts node ⟨ctx, w⟩ k).sum) ∧
    ((Executing.invoke node : Executing ExecutionError _).run ⟨ctx, w⟩).2.ctx.fuel.consumed =
      Fuel.spent (Fuel.limitFor request.tx.maxSum node.params.maxCost)
        ((Run.invoke node).run ⟨ctx, w⟩).2.ctx.env.fuel ∧
    (∀ outcome w', node.execute request world = (.ok outcome, w') →
      outcome.fuelUsed = Fuel.spent (Fuel.limitFor request.tx.maxSum node.params.maxCost)
        ((Run.invoke node).run ⟨ctx, w⟩).2.ctx.env.fuel) ∧
    (∀ k, (nth node ⟨ctx, w⟩ k).charge? node = none →
      (nth node ⟨ctx, w⟩ (k + 1)).fuel = (nth node ⟨ctx, w⟩ k).fuel) := by
  obtain ⟨hledger, hlimit⟩ := prepare_fuel h
  have hfirst := hrange 0
  rw [← hlimit] at hrange
  have hleft : ∀ k result t, nth node ⟨ctx, w⟩ k = ended result t →
      t.ctx.env.fuel = ctx.env.fuel - Fuel.forSize node.params.sizeFuel request.tx.size -
        units node ⟨ctx, w⟩ k - (amounts node ⟨ctx, w⟩ k).sum :=
    fun k result t hended => fuel_of_ended h hrange hended
  rw [hlimit] at hleft
  generalize Fuel.limitFor request.tx.maxSum node.params.maxCost = limit at *
  have hinRange : Quantity.InRange limit := by simpa [charges] using hfirst
  obtain ⟨k, hk⟩ := exists_nth_eq_ended node ⟨ctx, w⟩
  have hspent : ((Executing.invoke node : Executing ExecutionError _).run
      ⟨ctx, w⟩).2.ctx.fuel.consumed =
        Fuel.spent limit ((Run.invoke node).run ⟨ctx, w⟩).2.ctx.env.fuel := by
    have hsettled := (nth_settled node ⟨ctx, w⟩ k).2.2
    rw [hk] at hsettled
    have hsame : ((Run.invoke node).run ⟨ctx, w⟩).2.ctx.fuel = .new limit := hsettled.trans hledger
    rw [Executing.run_invoke]
    dsimp only
    rw [hsame]
    exact Executing.consumed_new hinRange _
  refine ⟨⟨k, hk⟩, hleft, hspent, fun outcome w' hexecute => ?_, fun l hnone => ?_⟩
  · unfold execute at hexecute
    rw [h] at hexecute
    rw [Executing.fuelUsed_of_complete (Prod.ext (Prod.mk.inj hexecute).1 rfl)]
    exact hspent
  · rw [nth_succ]
    exact fuel_next_of_none hnone

/-- The two contracts have four statements, two of which charge five and seven. -/
theorem fuel_metered_sample :
    ∃ s : RunState, (prepare Sample.node (Sample.request 0)).run Sample.charging =
        (.ok s.ctx, s.world) ∧
      ((Run.invoke Sample.node).run s).2.ctx.env.fuel = 10000000 - 0 - 4 - (5 + 7) := by
  have hover : (Sample.start? Sample.charging).map (fun s =>
      ((nth Sample.node s 12).isEnded, units Sample.node s 12, amounts Sample.node s 12,
        (List.range 13).all fun k =>
          decide (Quantity.InRange (10000000 - (charges Sample.node s k).sum)))) =
      some (true, 4, [5, 7], true) := by decide +kernel
  obtain ⟨s, hstart, hover⟩ := Option.map_eq_some_iff.mp hover
  obtain ⟨hended, hrest⟩ := Prod.mk.inj hover
  obtain ⟨hunits, hrest⟩ := Prod.mk.inj hrest
  obtain ⟨hamounts, hsmall⟩ := Prod.mk.inj hrest
  obtain ⟨result, hk⟩ := exists_eq_ended_of_isEnded hended
  -- The charges stay the same from the end on, so it is enough to look at the moments before.
  have hrange : ∀ k, Quantity.InRange (10000000 - (charges Sample.node s k).sum) := by
    intro k
    rcases Nat.lt_or_ge k 13 with hlt | hge
    · exact of_decide_eq_true (List.all_eq_true.mp hsmall k (List.mem_range.mpr hlt))
    · rw [charges_of_ended (Nat.le_of_lt hge) hk]
      exact of_decide_eq_true (List.all_eq_true.mp hsmall 12 (by decide))
  have hprepare := Sample.prepare_of_start? hstart
  have hleft := (fuel_metered hprepare hrange).2.1 12 result _ hk
  refine ⟨s, hprepare, ?_⟩
  rw [run_invoke_of_ended hk, hleft, hunits, hamounts]
  rfl

end Node

end Covenant
