import Covenant.Proofs.Execution.Acceptance
import Covenant.Proofs.Execution.Effect

/-!
# Fuel over a run

Fuel moves only where something is charged, so it never rises unless a negative amount is charged: a
`charge` statement may name one, and the charge for a transaction's size is negative if the size is.
Where neither happens, every statement costs at least its one unit, and a run that is committed has
paid for all of them out of its limit.
-/

namespace Covenant.Run.Moment

open Stage

variable {node : Node} {m : Moment} {s t : RunState}

/-- The fuel that is left. -/
def fuel (m : Moment) : Int :=
  m.state.ctx.env.fuel

/-- The next step gives fuel back: it takes off a negative amount, and there is room for more. -/
def Refunds (node : Node) (m : Moment) : Prop :=
  m.due node < 0 ∧ m.fuel < Quantity.greatest

/-! ## One step -/

theorem due_of_write? {write : String × TableAction × List (String × Operand)}
    (h : m.write? = some write) : m.due node = 0 := by
  cases m with
  | paid place statement rest s =>
    cases statement with
    | charge amount => cases h
    | _ => rfl
  | _ => cases h

/-- What is due is taken off the fuel, or else time is up. -/
theorem fuel_next (node : Node) (m : Moment) :
    (m.next node).fuel = Quantity.sub m.fuel (m.due node) ∨
      0 ≤ m.due node ∧ (m.next node).fuel = m.fuel := by
  have heffect := next_effect node m
  unfold fuel
  generalize (m.next node).state = t at heffect
  cases heffect with
  | charge => exact .inl (Environment.fuel_charge _ _)
  | write hwrite _ hwrites _ =>
    exact .inr ⟨Int.le_of_eq (due_of_write? hwrite).symm, hwrites.fuel⟩
  | turn hturns hdue => exact .inr ⟨Int.le_of_eq hdue.symm, hturns.fuel⟩
  | aside haside hdue => exact .inr ⟨hdue, haside.fuel⟩

theorem sub_le_iff {fuel amount : Int} (h : Quantity.least ≤ fuel) :
    Quantity.sub fuel amount ≤ fuel ↔ ¬(amount < 0 ∧ fuel < Quantity.greatest) := by
  unfold Quantity.least at h
  unfold Quantity.sub Quantity.clamp Quantity.least Quantity.greatest
  split
  · omega
  · split <;> omega

/-- A step leaves no more fuel than there was, unless it gives some back. -/
theorem fuel_next_le_iff (h : Quantity.least ≤ m.fuel) :
    (m.next node).fuel ≤ m.fuel ↔ ¬m.Refunds node := by
  rcases fuel_next node m with hcharged | ⟨hdue, hsame⟩
  · rw [hcharged]
    exact sub_le_iff h
  · refine iff_of_true (Int.le_of_eq hsame) fun hrefunds => ?_
    have hnegative := hrefunds.1
    omega

/-! ## All steps -/

/-- Fuel does not leave the range of quantities at its lower end. -/
theorem least_le_fuel_nth (h : Quantity.least ≤ s.ctx.env.fuel) (k : Nat) :
    Quantity.least ≤ (nth node s k).fuel := by
  refine nth_invariant (motive := fun m => Quantity.least ≤ m.fuel) h (fun m ih => ?_) k
  rcases fuel_next node m with hcharged | ⟨-, hsame⟩
  · rw [hcharged]
    exact (Quantity.sub_inRange _ _).1
  · rw [hsame]
    exact ih

/-- Over a whole run, fuel never rises above what it was if and only if no step gives some back. -/
theorem fuel_falls_iff_of_least (h : Quantity.least ≤ s.ctx.env.fuel) :
    (∀ i k, i ≤ k → (nth node s k).fuel ≤ (nth node s i).fuel) ↔
      ∀ k, ¬(nth node s k).Refunds node := by
  constructor
  · intro hfalls k
    have hstep := hfalls k (k + 1) (Nat.le_succ k)
    rw [nth_succ] at hstep
    exact (fuel_next_le_iff (least_le_fuel_nth h k)).mp hstep
  · intro hnone i k hik
    induction hik with
    | refl => exact Int.le_refl _
    | @step k _ ih =>
      rw [nth_succ]
      exact Int.le_trans ((fuel_next_le_iff (least_le_fuel_nth h k)).mpr (hnone k)) ih

/-! ## Counting statements -/

/-- A statement that is paid for is executed next. -/
def isPaid : Moment → Bool
  | paid .. => true
  | _ => false

theorem countP_range_succ (p : Nat → Bool) (k : Nat) :
    (List.range (k + 1)).countP p = (List.range k).countP p + if p k then 1 else 0 := by
  rw [List.range_succ, List.countP_append, List.countP_singleton]

/-- The number of statements that a run has executed after so many steps, nested calls included. -/
def executed (node : Node) (s : RunState) (k : Nat) : Nat :=
  (List.range k).countP fun i => (nth node s i).isPaid

theorem executed_succ (node : Node) (s : RunState) (k : Nat) :
    executed node s (k + 1) = executed node s k + if (nth node s k).isPaid then 1 else 0 :=
  countP_range_succ _ k

theorem executed_mono (node : Node) (s : RunState) {k l : Nat} (h : k ≤ l) :
    executed node s k ≤ executed node s l :=
  (List.range_sublist.mpr h).countP_le

/-- A charge that is accepted leaves fuel that is not negative. -/
theorem charge_eq_ok {amount : Int} {u : Unit} (h : (charge amount).run s = (.ok u, t)) :
    t = s.charged amount ∧ 0 ≤ t.ctx.env.fuel := by
  have hstate := state_charge amount s
  rw [h] at hstate
  obtain rfl : t = s.charged amount := hstate
  refine ⟨rfl, ?_⟩
  have hmodify : (modifyEnv fun env => env.charge amount).run s = (.ok (), s.charged amount) := rfl
  have hcontext : context.run (s.charged amount) = (.ok (s.charged amount).ctx, s.charged amount) :=
    rfl
  rw [charge, run_bind_of_ok hmodify, run_bind_of_ok hcontext] at h
  dsimp only at h
  split at h
  next => cases h
  next hleft => exact Int.not_lt.mp hleft

/-- Statements are paid for only where a contract is about to pay for one. -/
theorem not_isPaid_next
    (hready : ∀ place statement rest s, m ≠ ready place (statement :: rest) s) :
    (m.next node).isPaid = false :=
  next_cases (motive := fun m => m.isPaid = false) (fun _ _ _ => rfl) (fun _ _ _ => rfl)
    (fun place statement rest s _ h => absurd h (hready place statement rest s)) (fun _ _ _ => rfl)
    fun _ _ => rfl

/-- A statement is executed only after a unit of fuel was taken off for it. -/
theorem fuel_of_isPaid (h : (m.next node).isPaid = true) : (m.next node).fuel + 1 ≤ m.fuel := by
  obtain ⟨place, statement, rest, s, rfl⟩ :
      ∃ place statement rest s, m = ready place (statement :: rest) s := by
    refine Classical.byContradiction fun hready => ?_
    rw [not_isPaid_next fun place statement rest s hm => hready ⟨place, statement, rest, s, hm⟩] at h
    cases h
  rw [next] at h ⊢
  rcases hrun : (do checkTime place.timer; charge 1 : Run Unit).run s with ⟨e | u, t⟩
  · rw [after_of_error hrun] at h
    cases h
  · rw [after_of_ok hrun]
    obtain ⟨_, s', htime, hcharge⟩ := run_bind_eq_ok hrun
    obtain rfl : s = s' := (checkTime_keeps place.timer).run htime
    obtain ⟨rfl, hleft⟩ := charge_eq_ok hcharge
    have hfuel : (s.charged 1).ctx.env.fuel = Quantity.sub s.ctx.env.fuel 1 :=
      Environment.fuel_charge _ _
    change (s.charged 1).ctx.env.fuel + 1 ≤ s.ctx.env.fuel
    rw [hfuel] at hleft ⊢
    unfold Quantity.sub Quantity.clamp Quantity.least Quantity.greatest at hleft ⊢
    split at hleft
    · omega
    · split <;> omega

/-- Where a contract is running, or has run without an error, the fuel is not overdrawn. -/
def Solvent : Moment → Prop
  | ready _ _ s | paid _ _ _ s | ended (.ok _) s => 0 ≤ s.ctx.env.fuel
  | _ => True

theorem solvent_of_nonneg (h : 0 ≤ m.fuel) : m.Solvent := by
  cases m with
  | ready => exact h
  | paid => exact h
  | ended result s =>
    cases result with
    | ok text => exact h
    | error e => trivial
  | _ => trivial

/-- A step that charges nothing leaves solvent what was not overdrawn. -/
theorem solvent_next_of_due (hdue : m.due node = 0) (h : 0 ≤ m.fuel) : (m.next node).Solvent := by
  refine solvent_of_nonneg ?_
  rcases fuel_next node m with hcharged | ⟨-, hsame⟩
  · rw [hcharged, hdue]
    exact Quantity.clamp_nonneg (by omega)
  · rw [hsame]
    exact h

/-- Charges are refused before a contract goes on with overdrawn fuel. -/
theorem solvent_next (h : m.Solvent) : (m.next node).Solvent := by
  cases m with
  | opening s =>
    rw [next]
    exact after_cases (fun _ _ _ => trivial) fun _ _ _ => trivial
  | entered s =>
    rw [next]
    refine after_cases (fun _ _ _ => trivial) fun timer t hrun => ?_
    obtain ⟨_, s', hcharge, htimer⟩ := run_bind_eq_ok hrun
    obtain rfl : s' = t := startTimer_keeps.run htimer
    exact (charge_eq_ok hcharge).2
  | ready place todo s =>
    cases todo with
    | nil => exact solvent_next_of_due rfl h
    | cons statement rest =>
      rw [next]
      refine after_cases (fun _ _ _ => trivial) fun u t hrun => ?_
      obtain ⟨_, s', -, hcharge⟩ := run_bind_eq_ok hrun
      exact (charge_eq_ok hcharge).2
  | paid place statement rest s =>
    cases statement with
    | charge amount =>
      rw [next_paid (by simp)]
      exact after_cases (fun _ _ _ => trivial) fun u t hrun => (charge_eq_ok hrun).2
    | _ => exact solvent_next_of_due rfl h
  | failing frames e s =>
    cases frames with
    | nil =>
      rw [next, conclude]
      refine after_cases (fun _ _ _ => trivial) fun text t hrun => ?_
      obtain ⟨_, s₁, -, hrun⟩ := run_bind_eq_ok hrun
      obtain ⟨_, s₂, -, hrun⟩ := run_bind_eq_ok hrun
      cases hrun
    | cons frame frames =>
      rw [next]
      exact after_cases (fun _ _ _ => trivial) fun _ _ _ => trivial
  | ended result s => exact h

theorem solvent_nth (node : Node) (s : RunState) (k : Nat) : (nth node s k).Solvent :=
  nth_invariant (motive := Solvent) trivial (fun _ => solvent_next) k

/-- Without refunds, the fuel that is left and the statements that were executed, the next one
included, stay within the fuel at the beginning. -/
theorem fuel_add_executed_le (hfuel : Quantity.least ≤ s.ctx.env.fuel)
    (hnone : ∀ k, ¬(nth node s k).Refunds node) (k : Nat) :
    (nth node s k).fuel + executed node s (k + 1) ≤ s.ctx.env.fuel := by
  induction k with
  | zero =>
    rw [executed_succ]
    exact Int.le_of_eq (Int.add_zero _)
  | succ k ih =>
    rw [executed_succ]
    by_cases hpaid : (nth node s (k + 1)).isPaid = true
    · rw [if_pos hpaid]
      rw [nth_succ] at hpaid ⊢
      have hunit := fuel_of_isPaid hpaid
      push_cast
      omega
    · rw [if_neg hpaid]
      have hfalls := (fuel_next_le_iff (least_le_fuel_nth hfuel k)).mpr (hnone k)
      rw [nth_succ]
      push_cast
      omega

/-- A run that is over stays as it is. -/
theorem nth_of_ended {k l : Nat} {result : Except RuntimeError String} (hkl : k ≤ l)
    (h : nth node s k = ended result t) : nth node s l = ended result t := by
  induction hkl with
  | refl => exact h
  | step _ ih =>
    rw [nth_succ, ih]
    rfl

/-- A run without refunds that ends without an error has paid for all its statements. -/
theorem executed_add_fuel_le {text : String} (hfuel : Quantity.least ≤ s.ctx.env.fuel)
    (hnone : ∀ k, ¬(nth node s k).Refunds node)
    (h : (invoke node).run s = (.ok text, t)) (k : Nat) :
    executed node s k + t.ctx.env.fuel ≤ s.ctx.env.fuel ∧ 0 ≤ t.ctx.env.fuel := by
  obtain ⟨last, hlast⟩ := exists_nth_eq_ended node s
  rw [h] at hlast
  have hended := nth_of_ended (Nat.le_max_right k last) hlast
  have hbound := fuel_add_executed_le hfuel hnone (max k last)
  have hsolvent := solvent_nth node s (max k last)
  have hmono : executed node s k ≤ executed node s (max k last + 1) :=
    executed_mono node s (by omega)
  rw [hended] at hbound hsolvent
  have hleft : 0 ≤ t.ctx.env.fuel := hsolvent
  change t.ctx.env.fuel + _ ≤ _ at hbound
  refine ⟨?_, hleft⟩
  omega

end Covenant.Run.Moment

namespace Covenant.Sample

/-- The contract charges a negative amount. -/
def refunding : World :=
  running database "contract Refund \x7b\n action \x7b\n  charge -5\n  result done\n \x7d\n\x7d\n"

end Covenant.Sample

namespace Covenant.Node

open Preparing Run.Moment

variable {node : Node} {request : ExecutionRequest} {world w : World} {ctx : ExecutionContext}

/-- The limit is what stands in the slot for the fuel at first. -/
theorem fuel_environment (node : Node) (ctx : ExecutionContext) (limit : Int) :
    (environment node ctx limit).fuel = limit := by
  unfold environment Environment.fuel
  dsimp only
  rw [Environment.get?_addFields _ rfl]
  simp [Environment.addKnownAccounts, Environment.get?_set_of_ne, Value.asInt?]

/-- The limit of a transaction is a quantity. -/
theorem limitFor_inRange (declared : Option String) {maxCost : Int}
    (hmax : Quantity.InRange maxCost) : Quantity.InRange (Fuel.limitFor declared maxCost) := by
  unfold Fuel.limitFor
  split
  next amount hread =>
    split
    · obtain ⟨text, -, hread⟩ := Option.bind_eq_some_iff.mp hread
      obtain ⟨-, hrange⟩ := Option.filter_eq_some_iff.mp hread
      exact of_decide_eq_true hrange
    · exact hmax
  next => exact hmax

/-- A prepared execution has its limit to spend and has spent nothing. -/
theorem prepare_fuel (h : (prepare node request).run world = (.ok ctx, w)) :
    ctx.fuel = .new (Fuel.limitFor request.tx.maxSum node.params.maxCost) ∧
      ctx.env.fuel = Fuel.limitFor request.tx.maxSum node.params.maxCost := by
  obtain ⟨contract, key, signer, reserved, rfl⟩ := prepare_context h
  exact ⟨rfl, fuel_environment _ _ _⟩

/-- What a run has spent that was not overdrawn and left no more than its limit. -/
theorem consumed_record {limit left : Int} (hlimit : Quantity.InRange limit) (hleft : 0 ≤ left)
    (hle : left ≤ limit) : ((FuelLedger.new limit).record limit left).consumed = limit - left := by
  unfold Quantity.InRange Quantity.least Quantity.greatest at hlimit
  unfold FuelLedger.record FuelLedger.new Fuel.spent
  rw [if_neg (by omega)]
  have hspent : Quantity.sub limit left = limit - left := by
    refine Quantity.clamp_of_inRange ?_
    unfold Quantity.InRange Quantity.least Quantity.greatest
    omega
  rw [hspent]
  change Quantity.clamp (0 + max (limit - left) 0) = _
  rw [Quantity.clamp_of_inRange]
  · omega
  · unfold Quantity.InRange Quantity.least Quantity.greatest
    omega

/-- From the moment at which the limit is set until a run ends, the fuel never rises if and only if
no step gives some back. Then a committed run has executed no more statements than its limit allows
and than it tells to have spent. -/
theorem fuel_falls_iff (hmax : Quantity.InRange node.params.maxCost)
    (h : (prepare node request).run world = (.ok ctx, w)) :
    (nth node ⟨ctx, w⟩ 0).fuel = Fuel.limitFor request.tx.maxSum node.params.maxCost ∧
      (∃ k, nth node ⟨ctx, w⟩ k =
        ended ((Run.invoke node).run ⟨ctx, w⟩).1 ((Run.invoke node).run ⟨ctx, w⟩).2) ∧
      ((∀ i k, i ≤ k → (nth node ⟨ctx, w⟩ k).fuel ≤ (nth node ⟨ctx, w⟩ i).fuel) ↔
        ∀ k, ¬(nth node ⟨ctx, w⟩ k).Refunds node) ∧
      ((∀ k, ¬(nth node ⟨ctx, w⟩ k).Refunds node) →
        ∀ outcome w', node.execute request world = (.ok outcome, w') →
          outcome.status = .committed → ∀ k,
            (executed node ⟨ctx, w⟩ k : Int) ≤ Fuel.limitFor request.tx.maxSum node.params.maxCost ∧
              (executed node ⟨ctx, w⟩ k : Int) ≤ outcome.fuelUsed) := by
  obtain ⟨hledger, hlimit⟩ := prepare_fuel h
  have hrange := limitFor_inRange request.tx.maxSum hmax
  generalize Fuel.limitFor request.tx.maxSum node.params.maxCost = limit at *
  have hleast : Quantity.least ≤ (⟨ctx, w⟩ : RunState).ctx.env.fuel := by
    rw [hlimit]
    exact hrange.1
  refine ⟨hlimit, exists_nth_eq_ended node _, fuel_falls_iff_of_least hleast, ?_⟩
  intro hnone outcome w' hexecute hstatus k
  obtain ⟨ctx', v, text, t, hprepare, hinvoke, hused⟩ := execute_eq_committed hexecute hstatus
  rw [h] at hprepare
  obtain ⟨hctx, rfl⟩ := Prod.mk.inj hprepare
  obtain rfl := Except.ok.inj hctx
  obtain ⟨hpaid, hleft⟩ := executed_add_fuel_le hleast hnone hinvoke k
  have hsame : t.ctx.fuel = .new limit := by
    obtain ⟨last, hlast⟩ := exists_nth_eq_ended node ⟨ctx, w⟩
    have hsettled := (nth_settled node ⟨ctx, w⟩ last).2.2
    rw [hlast, hinvoke] at hsettled
    exact hsettled.trans hledger
  change _ ≤ ctx.env.fuel at hpaid
  rw [hlimit] at hpaid
  have hspent : outcome.fuelUsed = limit - t.ctx.env.fuel := by
    rw [hused, hsame]
    exact consumed_record hrange hleft (by omega)
  omega

/-- The contract charges a negative amount: it has more fuel at the end than it began with, and its
two statements have cost nothing. -/
private theorem fuel_given_back :
    ∃ s : RunState, (prepare Sample.node (Sample.request 0)).run Sample.refunding =
        (.ok s.ctx, s.world) ∧
      (nth Sample.node s 0).fuel < (nth Sample.node s 6).fuel ∧
      ∃ outcome w', Sample.node.execute (Sample.request 0) Sample.refunding = (.ok outcome, w') ∧
        outcome.status = .committed ∧ outcome.fuelUsed < (executed Sample.node s 6 : Int) := by
  obtain ⟨s, hstart⟩ : ∃ s, Sample.start? Sample.refunding = some s :=
    Option.isSome_iff_exists.mp (by decide +kernel)
  have hprogress : (Sample.start? Sample.refunding).map (fun s =>
      ((nth Sample.node s 0).fuel, (nth Sample.node s 6).fuel, executed Sample.node s 6)) =
        some (10000000, 10000003, 2) := by decide +kernel
  have hcommitted : (Sample.node.execute (Sample.request 0) Sample.refunding).1.toOption.map
      (fun outcome => (outcome.status, outcome.fuelUsed)) = some (.committed, 0) := by
    decide +kernel
  rw [hstart] at hprogress
  rcases hexecute : Sample.node.execute (Sample.request 0) Sample.refunding with ⟨e | outcome, w'⟩
  · rw [hexecute] at hcommitted
    cases hcommitted
  rw [hexecute] at hcommitted
  obtain ⟨hfirst, hrest⟩ := Prod.mk.inj (Option.some.inj hprogress)
  obtain ⟨hlast, hcount⟩ := Prod.mk.inj hrest
  obtain ⟨hstatus, hused⟩ := Prod.mk.inj (Option.some.inj hcommitted)
  refine ⟨s, Sample.prepare_of_start? hstart, ?_, outcome, w', rfl, hstatus, ?_⟩
  · rw [hfirst, hlast]
    decide
  · rw [hused, hcount]
    decide

/-- A step gives fuel back to the contract that charges a negative amount. -/
theorem fuel_falls_iff_sample :
    ∃ s : RunState, (prepare Sample.node (Sample.request 0)).run Sample.refunding =
        (.ok s.ctx, s.world) ∧
      ∃ k, (nth Sample.node s k).Refunds Sample.node := by
  obtain ⟨s, hprepare, hrises, -⟩ := fuel_given_back
  obtain ⟨-, -, hexact, -⟩ := fuel_falls_iff (by decide) hprepare
  refine ⟨s, hprepare, Classical.byContradiction fun hnone => ?_⟩
  have hfalls := hexact.mpr fun k hrefunds => hnone ⟨k, hrefunds⟩
  exact Int.not_lt.mpr (hfalls 0 6 (Nat.zero_le 6)) hrises

/-- The fuel may rise during a run, and a committed run may tell to have spent less than it has
executed statements. -/
theorem not_fuel_falls :
    (¬ ∀ (node : Node) (request : ExecutionRequest) (world w : World) (ctx : ExecutionContext),
      (prepare node request).run world = (.ok ctx, w) →
        ∀ i k, i ≤ k → (nth node ⟨ctx, w⟩ k).fuel ≤ (nth node ⟨ctx, w⟩ i).fuel) ∧
    ¬ ∀ (node : Node) (request : ExecutionRequest) (world w w' : World) (ctx : ExecutionContext)
        (outcome : ExecutionOutcome) (k : Nat),
      (prepare node request).run world = (.ok ctx, w) →
        node.execute request world = (.ok outcome, w') → outcome.status = .committed →
          (executed node ⟨ctx, w⟩ k : Int) ≤ outcome.fuelUsed := by
  obtain ⟨s, hprepare, hrises, outcome, w', hexecute, hstatus, hused⟩ := fuel_given_back
  refine ⟨fun hclaim => ?_, fun hclaim => ?_⟩
  · exact Int.not_lt.mpr (hclaim _ _ _ _ _ hprepare 0 6 (Nat.zero_le 6)) hrises
  · exact Int.not_lt.mpr (hclaim _ _ _ _ _ _ _ 6 hprepare hexecute hstatus) hused

end Covenant.Node
