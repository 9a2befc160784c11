import Covenant.Proofs.Execution.Metering

/-!
# What holds when an execution is over

Once the savepoint is open, an execution ends with its fuel settled, and with nothing on record of
what the contract did unless it is committed. A failing execution clears its records before it asks
storage for anything, so storage that refuses to go back to the savepoint or to close it does not
matter.

The invariants are checked where an execution is about to end. The checked execution is stated for
every reaction to a violation. That it is the same as the unchecked one, whatever the reaction, says
that no check ever finds a violation.
-/

namespace Covenant

open Stage

/-! ## The invariants of a context -/

namespace FuelLedger

/-- What was spent is not negative and not above the limit. -/
structure IsSettled (ledger : FuelLedger) : Prop where
  nonneg : 0 ≤ ledger.consumed
  le_limit : ledger.consumed ≤ max ledger.limit 0

/-- Whatever a run has left of a limit, what is entered for it is within the limit. -/
theorem isSettled_record (limit left : Int) : ((new limit).record limit left).IsSettled := by
  have hspent : 0 ≤ Fuel.spent limit left ∧ Fuel.spent limit left ≤ max limit 0 := by
    unfold Fuel.spent
    split
    · omega
    · unfold Quantity.sub Quantity.clamp Quantity.least Quantity.greatest
      omega
  have hconsumed : 0 ≤ Quantity.clamp (0 + Fuel.spent limit left) ∧
      Quantity.clamp (0 + Fuel.spent limit left) ≤ max limit 0 := by
    unfold Quantity.clamp Quantity.least Quantity.greatest
    omega
  exact ⟨hconsumed.1, hconsumed.2⟩

end FuelLedger

namespace ExecutionContext

variable {ctx : ExecutionContext} {ledger : FuelLedger} {result : String}

/-- Nothing that the contract did is on record. -/
structure Blank (ctx : ExecutionContext) : Prop where
  flush : ctx.flush = []
  rollback : ctx.rollback = []
  notifications : ctx.notifications = []

/-- The fuel is settled and nothing is on record. -/
structure AtRest (ledger : FuelLedger) (ctx : ExecutionContext) : Prop extends ctx.Blank where
  fuel : ctx.fuel = ledger
  settled : ledger.IsSettled

theorem AtRest.advance (h : ctx.AtRest ledger) (state : ExecutionState) :
    AtRest ledger { ctx with state } :=
  ⟨⟨h.flush, h.rollback, h.notifications⟩, h.fuel, h.settled⟩

theorem fuelIsSettled_iff : ctx.fuelIsSettled = true ↔ ctx.fuel.IsSettled := by
  simp only [fuelIsSettled, Bool.and_eq_true, decide_eq_true_eq]
  exact ⟨fun h => ⟨h.1, h.2⟩, fun h => ⟨h.nonneg, h.le_limit⟩⟩

theorem violations_eq_nil_iff :
    ctx.violations result = [] ↔ ctx.fuelIsSettled = true ∧ resultFits result = true ∧
      ctx.flushIsUndone = true ∧ ctx.recordsAreDiscarded = true := by
  simp [violations]

/-- A context at rest violates nothing, in whatever state it is. -/
theorem AtRest.violations (h : ctx.AtRest ledger) (hresult : resultFits result = true) :
    ctx.violations result = [] := by
  rw [violations_eq_nil_iff, fuelIsSettled_iff, flushIsUndone, recordsAreDiscarded, h.fuel,
    h.flush, h.rollback, h.notifications]
  exact ⟨h.settled, hresult, by simp, by simp⟩

/-- A committed context may have records. -/
theorem violations_of_committed (hfuel : ctx.fuel.IsSettled)
    (hresult : resultFits result = true) (hstate : ctx.state = .committed) :
    ctx.violations result = [] := by
  rw [violations_eq_nil_iff, fuelIsSettled_iff, flushIsUndone, recordsAreDiscarded, hstate]
  exact ⟨hfuel, hresult, rfl, rfl⟩

theorem resultFits_truncateResult (result : String) :
    resultFits (truncateResult result) = true := by
  have hmark : cutMark.length = 3 := by decide
  unfold resultFits truncateResult
  split
  next hshort => simp only [decide_eq_true_eq]; omega
  next hlong =>
    have hkept : (result.toList.take resultLimit).length = resultLimit := by
      rw [List.length_take, String.length_toList]
      omega
    simp only [decide_eq_true_eq, String.length_append, String.length_ofList, hkept, Nat.le_refl]

end ExecutionContext

namespace Executing

/-! ## Executions with checks -/

/-- The execution is kept after a check. -/
def keepChecked (check : String → Executing ExecutionError Unit) (savepoint result : String) :
    Executing ExecutionError ExecutionOutcome := do
  match ← attempt (release savepoint) with
  | .error e => abort savepoint e
  | .ok () =>
    advance .committed
    check result
    let ctx ← context
    modifyContext ExecutionContext.discardRecords
    return { status := .committed, result, fuelUsed := ctx.fuel.consumed,
             rollback := ctx.rollback, notifications := ctx.notifications }

/-- The execution of a contract that failed, with a check before each of its ends but those where
storage fails. -/
def failChecked (check : String → Executing ExecutionError Unit) (node : Node) (savepoint : String)
    (error : RuntimeError) : Executing ExecutionError ExecutionOutcome := do
  orReject (rollBack savepoint)
  if !(← context).paymentReserved then
    orReject (release savepoint)
    advance .rolledBack
    check ""
    throw (.runtime error)
  else
    match ← settle node .failure with
    | .ok () =>
      orReject (release savepoint)
      advance .feeCharged
      check ""
      return { status := .feeCharged, result := error.clientMessage,
               fuelUsed := (← context).fuel.consumed, rollback := [], notifications := [] }
    | .error unpaid =>
      orReject (rollBack savepoint)
      orReject (release savepoint)
      advance .rolledBack
      check ""
      throw (.settlement error unpaid)

/-- The execution of a contract that succeeded, with checks. -/
def commitChecked (check : String → Executing ExecutionError Unit) (node : Node)
    (savepoint result : String) : Executing ExecutionError ExecutionOutcome := do
  let result := ExecutionContext.truncateResult result
  if (← context).paymentReserved then
    match ← settle node .success with
    | .error unpaid => failChecked check node savepoint (.payment unpaid)
    | .ok () => keepChecked check savepoint result
  else keepChecked check savepoint result

/-- All that comes after the savepoint is open, with checks. -/
def completeChecked (check : String → Executing ExecutionError Unit) (node : Node)
    (savepoint : String) : Executing ExecutionError ExecutionOutcome := do
  match ← invoke node with
  | .ok result => commitChecked check node savepoint result
  | .error e => failChecked check node savepoint e

/-- A check does something only where an invariant is violated. -/
def Quiet (check : String → Executing ExecutionError Unit) : Prop :=
  ∀ result s, s.ctx.violations result = [] → (check result).run s = (.ok (), s)

/-- A check that makes an execution fail where an invariant is violated. -/
def stopping (e : ExecutionError) (result : String) : Executing ExecutionError Unit :=
  fun s => if s.ctx.violations result = [] then (.ok (), s) else (.error e, s)

theorem quiet_stopping (e : ExecutionError) : Quiet (stopping e) :=
  fun _ _ hnone => if_pos hnone

/-! ## Ends without a violation -/

/-- The fuel stands as it was settled, and an execution that has not been committed has nothing on
record. -/
structure Terminal (ledger : FuelLedger) (r : Except ExecutionError ExecutionOutcome)
    (t : RunState) : Prop where
  fuel : t.ctx.fuel = ledger
  blank : (∀ outcome, r = .ok outcome → outcome.status ≠ .committed) → t.ctx.Blank

/-- From `s` on, an execution comes to a terminal end, and checks make no difference. -/
structure Ends (ledger : FuelLedger) (x checked : Executing ExecutionError ExecutionOutcome)
    (s : RunState) : Prop where
  terminal : Terminal ledger (x.run s).1 (x.run s).2
  same : checked.run s = x.run s

variable {check : String → Executing ExecutionError Unit} {ledger : FuelLedger} {s : RunState}
  {savepoint : String}

theorem Ends.throw (h : s.ctx.AtRest ledger) (e : ExecutionError) :
    Ends ledger (throw e) (throw e) s :=
  ⟨⟨h.fuel, fun _ => h.toBlank⟩, rfl⟩

/-- An execution ends well if it may stop at its first part, and its second part ends well. -/
theorem Ends.bind {α : Type} {x : Executing ExecutionError α}
    {f checked : α → Executing ExecutionError ExecutionOutcome}
    (herror : ∀ e t, x.run s = (.error e, t) → t.ctx.AtRest ledger)
    (hok : ∀ a t, x.run s = (.ok a, t) → Ends ledger (f a) (checked a) t) :
    Ends ledger (x >>= f) (x >>= checked) s := by
  rcases hrun : x.run s with ⟨e | a, t⟩
  · refine ⟨?_, ?_⟩
    · rw [run_bind_of_error hrun]
      exact ⟨(herror e t hrun).fuel, fun _ => (herror e t hrun).toBlank⟩
    · rw [run_bind_of_error hrun, run_bind_of_error hrun]
  · refine ⟨?_, ?_⟩
    · rw [run_bind_of_ok hrun]
      exact (hok a t hrun).terminal
    · rw [run_bind_of_ok hrun, run_bind_of_ok hrun]
      exact (hok a t hrun).same

/-- A part that only calls storage leaves a context at rest as it is. -/
theorem Ends.calling {α : Type} {x : Executing ExecutionError α}
    {f checked : α → Executing ExecutionError ExecutionOutcome} (h : s.ctx.AtRest ledger)
    (hx : (x.run s).2.ctx = s.ctx)
    (hrest : ∀ a t, t.ctx.AtRest ledger → Ends ledger (f a) (checked a) t) :
    Ends ledger (x >>= f) (x >>= checked) s := by
  have hctx : ∀ r t, x.run s = (r, t) → t.ctx.AtRest ledger := by
    intro r t hrun
    rw [hrun] at hx
    rwa [hx]
  exact .bind (fun e t hrun => hctx _ t hrun) fun a t hrun => hrest a t (hctx _ t hrun)

/-- Clearing the records brings the context to rest, whether or not storage goes back. -/
theorem Ends.rollBack {f checked : Unit → Executing ExecutionError ExecutionOutcome}
    (h : s.ctx.fuel = ledger) (hsettled : ledger.IsSettled)
    (hrest : ∀ a t, t.ctx.AtRest ledger → Ends ledger (f a) (checked a) t) :
    Ends ledger (orReject (rollBack savepoint) >>= f) (orReject (rollBack savepoint) >>= checked)
      s := by
  have hrun : ∀ r t, (orReject (Executing.rollBack savepoint)).run s = (r, t) →
      t.ctx.AtRest ledger := by
    intro r t hrun
    rw [run_orReject] at hrun
    obtain ⟨-, rfl⟩ := Prod.mk.inj hrun
    exact ⟨⟨rfl, rfl, rfl⟩, h, hsettled⟩
  exact .bind (fun e t h => hrun _ t h) fun a t h => hrest a t (hrun _ t h)

/-- A state that is entered at rest is left without a violation. -/
theorem Ends.advance {f : Unit → Executing ExecutionError ExecutionOutcome} (hquiet : Quiet check)
    (h : s.ctx.AtRest ledger) (state : ExecutionState)
    (hrest : ∀ t, t.ctx.AtRest ledger → Ends ledger (f ()) (f ()) t) :
    Ends ledger (Executing.advance state >>= f)
      (Executing.advance state >>= fun _ => check "" >>= f) s := by
  have hadvance : (Executing.advance state : Executing ExecutionError Unit).run s =
      (.ok (), { s with ctx := { s.ctx with state } }) := rfl
  have hends := hrest { s with ctx := { s.ctx with state } } (h.advance state)
  have hcheck := hquiet "" { s with ctx := { s.ctx with state } }
    ((h.advance state).violations rfl)
  refine ⟨?_, ?_⟩
  · rw [run_bind_of_ok hadvance]
    exact hends.terminal
  · rw [run_bind_of_ok hadvance, run_bind_of_ok hadvance, run_bind_of_ok hcheck]

private theorem ctx_orReject_release (savepoint : String) (t : RunState) :
    ((orReject (release savepoint)).run t).2.ctx = t.ctx := by
  rw [run_orReject]
  rfl

private theorem ctx_settle (node : Node) (mode : PaymentMode) (t : RunState) :
    ((settle node mode : Executing ExecutionError _).run t).2.ctx = t.ctx := by
  rw [run_settle]
  rfl

/-- A failing execution ends with nothing on record, wherever storage fails. -/
theorem fail_ends (hquiet : Quiet check) (node : Node) (savepoint : String) (error : RuntimeError)
    (h : s.ctx.fuel = ledger) (hsettled : ledger.IsSettled) :
    Ends ledger (fail node savepoint error) (failChecked check node savepoint error) s := by
  refine .rollBack h hsettled fun _ t ht => .calling ht rfl fun ctx t ht => ?_
  split
  · exact .calling ht (ctx_orReject_release savepoint t) fun _ t ht =>
      .advance hquiet ht _ fun t ht => .throw ht _
  · refine .calling ht (ctx_settle node .failure t) fun paid t ht => ?_
    cases paid with
    | ok u =>
      refine .calling ht (ctx_orReject_release savepoint t) fun _ t ht =>
        .advance hquiet ht _ fun t ht => ?_
      exact ⟨⟨ht.fuel, fun _ => ht.toBlank⟩, rfl⟩
    | error unpaid =>
      exact .rollBack ht.fuel hsettled fun _ t ht =>
        .calling ht (ctx_orReject_release savepoint t) fun _ t ht =>
          .advance hquiet ht _ fun t ht => .throw ht _

/-- An execution that is kept is committed, or given up with nothing on record. -/
theorem keep_ends (hquiet : Quiet check) (savepoint : String) {result : String}
    (hresult : ExecutionContext.resultFits result = true) (h : s.ctx.fuel = ledger)
    (hsettled : ledger.IsSettled) :
    Ends ledger (keep savepoint result) (keepChecked check savepoint result) s := by
  refine .bind (fun e t hrun => ?_) fun released t hrun => ?_
  · rw [run_attempt] at hrun
    cases hrun
  · have hctx : t.ctx = s.ctx := by
      rw [run_attempt] at hrun
      rw [← (Prod.mk.inj hrun).2]
      rfl
    rw [← hctx] at h
    cases released with
    | error e => exact ⟨⟨h, fun _ => ⟨rfl, rfl, rfl⟩⟩, rfl⟩
    | ok u =>
      have hadvance : (Executing.advance .committed : Executing ExecutionError Unit).run t =
          (.ok (), { t with ctx := { t.ctx with state := .committed } }) := rfl
      have hcheck := hquiet result { t with ctx := { t.ctx with state := .committed } }
        (ExecutionContext.violations_of_committed (h ▸ hsettled) hresult rfl)
      refine ⟨⟨h, fun hnot => absurd rfl (hnot _ rfl)⟩, ?_⟩
      dsimp only
      rw [run_bind_of_ok hadvance, run_bind_of_ok hadvance, run_bind_of_ok hcheck]

/-- An execution whose contract succeeded is kept, or fails for want of its fee. -/
theorem commit_ends (hquiet : Quiet check) (node : Node) (savepoint result : String)
    (h : s.ctx.fuel = ledger) (hsettled : ledger.IsSettled) :
    Ends ledger (commit node savepoint result) (commitChecked check node savepoint result) s := by
  have hfits := ExecutionContext.resultFits_truncateResult result
  refine .bind (fun e t hrun => by cases hrun) fun ctx t hrun => ?_
  obtain ⟨-, rfl⟩ := Prod.mk.inj hrun
  split
  · refine .bind (fun e t hrun => ?_) fun paid t hrun => ?_
    · rw [run_settle] at hrun
      cases hrun
    · rw [run_settle] at hrun
      obtain ⟨-, rfl⟩ := Prod.mk.inj hrun
      cases paid with
      | error unpaid => exact fail_ends hquiet node savepoint _ h hsettled
      | ok u => exact keep_ends hquiet savepoint hfits h hsettled
  · exact keep_ends hquiet savepoint hfits h hsettled

/-- What was spent is entered before the execution ends, and it is within the limit. -/
theorem complete_ends (hquiet : Quiet check) (node : Node) (savepoint : String) {limit : Int}
    (h : s.ctx.fuel = .new limit) :
    Ends ((FuelLedger.new limit).record limit ((Run.invoke node).run s).2.ctx.env.fuel)
      (complete node savepoint) (completeChecked check node savepoint) s := by
  obtain ⟨k, hk⟩ := Run.Moment.exists_nth_eq_ended node s
  have hledger := (Run.Moment.nth_settled node s k).2.2
  rw [hk, h] at hledger
  change ((Run.invoke node).run s).2.ctx.fuel = .new limit at hledger
  have hsettled := FuelLedger.isSettled_record limit ((Run.invoke node).run s).2.ctx.env.fuel
  refine .bind (fun e t hrun => ?_) fun outcome t hrun => ?_
  · rw [run_invoke] at hrun
    cases hrun
  · have hentered : t.ctx.fuel =
        (FuelLedger.new limit).record limit ((Run.invoke node).run s).2.ctx.env.fuel := by
      rw [run_invoke] at hrun
      obtain ⟨-, rfl⟩ := Prod.mk.inj hrun
      dsimp only
      rw [hledger]
      rfl
    cases outcome with
    | ok result => exact commit_ends hquiet node savepoint result hentered hsettled
    | error e => exact fail_ends hquiet node savepoint e hentered hsettled

end Executing

namespace Sample

/-- A contract changes a wallet, queues a message and fails, and storage cannot go back to the
savepoint. -/
def stranded : World :=
  let world := running database
    "contract Stop \x7b\n action \x7b\n  wallet 1 1 8\n  notify 7 hello\n  fail no\n \x7d\n\x7d\n"
  { world with connection := { world.connection with failures := ⟨failing .rollbackTo, []⟩ } }

end Sample

namespace Node

open Preparing Executing

variable {node : Node} {request : ExecutionRequest} {world w : World} {ctx : ExecutionContext}

/-- Once the savepoint is open, an execution ends with what was spent within its limit, and with no
registry change, row write or message on record unless it is committed. Checks of the invariants make
no difference, so none of them finds a violation. -/
theorem execute_terminal (h : (prepare node request).run world = (.ok ctx, w)) :
    ∃ r t, (complete node request.savepoint).run ⟨ctx, w⟩ = (r, t) ∧
      node.execute request world = (r, t.world) ∧
      t.ctx.fuel.limit = Fuel.limitFor request.tx.maxSum node.params.maxCost ∧
      0 ≤ t.ctx.fuel.consumed ∧ t.ctx.fuel.consumed ≤ max t.ctx.fuel.limit 0 ∧
      ((∀ outcome, r = .ok outcome → outcome.status ≠ .committed) →
        t.ctx.flush = [] ∧ t.ctx.rollback = [] ∧ t.ctx.notifications = []) ∧
      ∀ check, Quiet check →
        (completeChecked check node request.savepoint).run ⟨ctx, w⟩ = (r, t) := by
  have hends := fun check (hquiet : Quiet check) =>
    complete_ends hquiet node request.savepoint (s := ⟨ctx, w⟩) (prepare_fuel h).1
  have hsettled := FuelLedger.isSettled_record
    (Fuel.limitFor request.tx.maxSum node.params.maxCost)
    ((Run.invoke node).run ⟨ctx, w⟩).2.ctx.env.fuel
  have hexecute : node.execute request world =
      (((complete node request.savepoint).run ⟨ctx, w⟩).1,
        ((complete node request.savepoint).run ⟨ctx, w⟩).2.world) := by
    rw [execute, h]
    rfl
  obtain ⟨hfuel, hblank⟩ := (hends (fun _ => pure ()) fun _ _ _ => rfl).terminal
  rcases hrun : (complete node request.savepoint).run ⟨ctx, w⟩ with ⟨r, t⟩
  rw [hrun] at hexecute hfuel hblank
  refine ⟨r, t, rfl, hexecute, ?_, ?_, ?_, fun hnot => ?_, fun check hquiet => ?_⟩
  · rw [hfuel]
    rfl
  · rw [hfuel]
    exact hsettled.nonneg
  · rw [hfuel]
    exact hsettled.le_limit
  · exact ⟨(hblank hnot).flush, (hblank hnot).rollback, (hblank hnot).notifications⟩
  · rw [(hends check hquiet).same, hrun]

/-- The contract fails and storage refuses to go back, but nothing of what the contract did is left on
record, which a check would have noticed. -/
theorem execute_terminal_sample :
    ∃ s e t, (prepare Sample.node (Sample.request 0)).run Sample.stranded =
        (.ok s.ctx, s.world) ∧
      (completeChecked (stopping (.storage (.other "violated"))) Sample.node "sp").run s =
        (.error e, t) ∧
      t.ctx.flush = [] ∧ t.ctx.rollback = [] ∧ t.ctx.notifications = [] := by
  have hfails : (Sample.start? Sample.stranded).map (fun s =>
      ((complete Sample.node "sp").run s).1.toOption.isSome) = some false := by decide +kernel
  obtain ⟨s, hstart, hfails⟩ := Option.map_eq_some_iff.mp hfails
  have hprepare := Sample.prepare_of_start? hstart
  obtain ⟨r, t, hrun, -, -, -, -, hblank, hchecked⟩ := execute_terminal hprepare
  change (complete Sample.node "sp").run s = (r, t) at hrun
  rw [hrun] at hfails
  cases r with
  | ok outcome => cases hfails
  | error e =>
    exact ⟨s, e, t, hprepare, hchecked _ (quiet_stopping _), hblank fun _ h => by cases h⟩

end Node

end Covenant
