import Covenant.Proofs.Execution.Ending

/-!
# What an accepted execution has done

A transaction is accepted in two ways only. Either its contract ran without an error, its fee was paid
if one is due, and the savepoint was closed; or its contract failed, everything was undone, and the
fee for the failure was paid. What is stored in the end, and what the outcome tells about it, is read
off from the run and the payment alone.
-/

namespace Covenant

open Stage

namespace RunState

/-- The state of a run that is over, with what was spent entered. -/
def entered (s : RunState) : RunState :=
  { s with ctx := { s.ctx with
    fuel := s.ctx.fuel.record s.ctx.fuel.limit s.ctx.env.fuel } }

end RunState

namespace Storing

/-- A savepoint that is closed takes neither data nor statements with it. -/
theorem run_release_eq_ok {name : String} {u : Unit} {c d : Connection}
    (h : (release name).run c = (.ok u, d)) :
    d.session.working = c.session.working ∧ d.session.log = c.session.log := by
  unfold release at h
  have hwork := run_call_eq_ok h
  unfold Session.release at hwork
  cases hfound : Session.savepointsUpTo? name c.session.savepoints with
  | none =>
    rw [hfound] at hwork
    cases hwork
  | some found =>
    rw [hfound] at hwork
    rw [← (Prod.mk.inj hwork).2]
    exact ⟨rfl, rfl⟩

end Storing

namespace Executing

variable {node : Node} {s t : RunState} {savepoint : String}

/-- What becomes of a run that succeeded when it is kept: nothing more, or the fee is paid. -/
inductive Kept (node : Node) (s : RunState) : RunState → Prop
  | free : s.ctx.paymentReserved = false → Kept node s s
  | paid {connection : Connection} : s.ctx.paymentReserved = true →
      (Payment.settle node.fees s.ctx .success).run s.world.connection = (.ok (), connection) →
      Kept node s (s.on connection)

theorem Kept.ctx (h : Kept node s t) : t.ctx = s.ctx := by
  cases h with
  | free => rfl
  | paid => rfl

/-- Why an execution is not kept: its contract fails with the error, or it succeeds and its fee cannot be
paid. -/
inductive Fails (node : Node) (s : RunState) : RuntimeError → Prop
  | run {error : RuntimeError} {t : RunState} :
      (Run.invoke node).run s = (.error error, t) → Fails node s error
  | unpaid {text : String} {t : RunState} {cause : PaymentError} {connection : Connection} :
      (Run.invoke node).run s = (.ok text, t) → t.ctx.paymentReserved = true →
      (Payment.settle node.fees t.entered.ctx .success).run t.world.connection =
        (.error cause, connection) → Fails node s (.payment cause)

/-- Either the execution fails, and a failure is what the verdict is about, or what the contract did is
kept, and the verdict has its result. -/
theorem run_verdict (node : Node) (savepoint : String) (s : RunState) :
    (∃ error t, Fails node s error ∧
      (verdict node savepoint).run s = (failVerdict node savepoint error).run t) ∨
    ∃ text u t, (Run.invoke node).run s = (.ok text, u) ∧ Kept node u.entered t ∧
      (verdict node savepoint).run s =
        (.ok (.keep (ExecutionContext.truncateResult text)), t) := by
  have hinvoke : (invoke node : Executing ExecutionError _).run s =
      (.ok ((Run.invoke node).run s).1, ((Run.invoke node).run s).2.entered) := by
    rw [invoke, run_bind_of_ok (run_attempt _ s)]
    rfl
  rw [verdict, run_bind_of_ok hinvoke]
  rcases hrun : (Run.invoke node).run s with ⟨error | text, u⟩
  · exact .inl ⟨error, u.entered, .run hrun, rfl⟩
  · have hcontext : (context : Executing ExecutionError _).run u.entered =
        (.ok u.entered.ctx, u.entered) := rfl
    dsimp only
    rw [commitVerdict, run_bind_of_ok hcontext]
    split
    next hreserved =>
      rw [run_bind_of_ok (run_settle node .success _)]
      rcases hpaid : (Payment.settle node.fees u.entered.ctx .success).run
        u.entered.world.connection with ⟨cause | _, connection⟩
      · exact .inl ⟨.payment cause, u.entered.on connection, .unpaid hrun hreserved hpaid, rfl⟩
      · exact .inr ⟨text, u, u.entered.on connection, rfl, .paid hreserved hpaid, rfl⟩
    next hfree =>
      exact .inr ⟨text, u, u.entered, rfl, .free (Bool.eq_false_iff.mpr hfree), rfl⟩

/-- What is kept is a run that succeeded, with its fee paid. -/
theorem kept_of_verdict {result : String}
    (h : (verdict node savepoint).run s = (.ok (.keep result), t)) :
    ∃ text u, (Run.invoke node).run s = (.ok text, u) ∧ Kept node u.entered t := by
  rcases run_verdict node savepoint s with ⟨error, u, -, hverdict⟩ |
    ⟨text, u, t', hrun, hkept, hverdict⟩
  · exact absurd (hverdict.symm.trans h) failVerdict_ne_keep
  · obtain ⟨-, rfl⟩ := Prod.mk.inj (hverdict.symm.trans h)
    exact ⟨text, u, hrun, hkept⟩

/-- A fee for a failure is charged only if one is due. -/
theorem reserved_of_failVerdict {error error' : RuntimeError}
    (h : (failVerdict node savepoint error).run s = (.ok (.charge error'), t)) :
    t.ctx.paymentReserved = true := by
  obtain ⟨_, u, -, h⟩ := run_bind_eq_ok h
  obtain ⟨ctx, v, hctx, h⟩ := run_bind_eq_ok h
  obtain ⟨rfl, rfl⟩ : u.ctx = ctx ∧ u = v :=
    ⟨Except.ok.inj (Prod.mk.inj hctx).1, (Prod.mk.inj hctx).2⟩
  split at h
  next => cases h
  next hreserved =>
    rw [run_bind_of_ok (run_settle node .failure u)] at h
    split at h
    · rw [← (Prod.mk.inj h).2]
      change u.ctx.paymentReserved = true
      simpa using hreserved
    · obtain ⟨_, v, -, h⟩ := run_bind_eq_ok h
      cases h

theorem reserved_of_verdict {error : RuntimeError}
    (h : (verdict node savepoint).run s = (.ok (.charge error), t)) :
    t.ctx.paymentReserved = true := by
  rcases run_verdict node savepoint s with ⟨_, _, -, hverdict⟩ | ⟨_, _, _, -, -, hverdict⟩
  · exact reserved_of_failVerdict (hverdict.symm.trans h)
  · cases hverdict.symm.trans h

/-- A committed outcome tells what was spent and which rows were written, and leaves the data as they
are. -/
structure Reports (outcome : ExecutionOutcome) (s : RunState) (w : World) : Prop where
  fuelUsed : outcome.fuelUsed = s.ctx.fuel.consumed
  rollback : outcome.rollback = s.ctx.rollback
  data : w.data = s.world.data
  log : w.connection.session.log = s.world.connection.session.log

private theorem eq_ok_of_mapError {ε ε' α : Type} {r : Except ε α} {f : ε → ε'} {a : α}
    (h : r.mapError f = .ok a) : r = .ok a := by
  cases r with
  | error e => cases h
  | ok b => exact congrArg Except.ok (Except.ok.inj h)

/-- Closing the savepoint concerns neither the context nor what is stored. -/
theorem release_eq_ok {u : Unit} (h : (release savepoint).run s = (.ok u, t)) :
    t.ctx = s.ctx ∧ t.world.data = s.world.data ∧
      t.world.connection.session.log = s.world.connection.session.log := by
  rw [release, run_storing] at h
  obtain ⟨hresult, rfl⟩ := Prod.mk.inj h
  obtain ⟨hdata, hlog⟩ := Storing.run_release_eq_ok (Prod.ext (eq_ok_of_mapError hresult) rfl)
  exact ⟨rfl, hdata, hlog⟩

/-- An execution that comes to an outcome was to be kept, or to be charged for its failure. -/
theorem conclude_eq_ok {v : Verdict} {outcome : ExecutionOutcome}
    (h : (conclude savepoint v).run s = (.ok outcome, t)) :
    (∃ result, v = .keep result ∧ outcome.status = .committed ∧ outcome.result = result ∧
        Reports outcome s t.world) ∨
      ∃ error, v = .charge error ∧ outcome.status = .feeCharged ∧
        outcome.result = error.clientMessage ∧ outcome.fuelUsed = s.ctx.fuel.consumed ∧
        t.world.data = s.world.data := by
  cases v with
  | keep result =>
    rw [conclude, keep, run_bind_of_ok (run_attempt _ s)] at h
    rcases hrelease : (release savepoint).run s with ⟨e | u, v⟩
    · rw [hrelease] at h
      obtain ⟨_, x, -, h⟩ := run_bind_eq_ok h
      obtain ⟨_, y, -, h⟩ := run_bind_eq_ok h
      cases h
    · obtain ⟨hctx, hdata, hlog⟩ := release_eq_ok hrelease
      rw [hrelease] at h
      obtain ⟨houtcome, rfl⟩ := Prod.mk.inj h
      obtain rfl := Except.ok.inj houtcome
      exact .inl ⟨result, rfl, rfl, rfl, congrArg (·.fuel.consumed) hctx,
        congrArg (·.rollback) hctx, hdata, hlog⟩
  | charge error =>
    obtain ⟨_, v, hrelease, h⟩ := run_bind_eq_ok h
    rw [run_orReject] at hrelease
    obtain ⟨hresult, rfl⟩ := Prod.mk.inj hrelease
    obtain ⟨hctx, hdata, -⟩ := release_eq_ok (Prod.ext (eq_ok_of_mapError hresult) rfl)
    obtain ⟨houtcome, rfl⟩ := Prod.mk.inj h
    obtain rfl := Except.ok.inj houtcome
    exact .inr ⟨error, rfl, rfl, rfl, congrArg (·.fuel.consumed) hctx, hdata⟩
  | reject error =>
    obtain ⟨_, u, -, h⟩ := run_bind_eq_ok h
    obtain ⟨_, v, -, h⟩ := run_bind_eq_ok h
    cases h

end Executing

namespace Node

open Preparing Executing

variable {node : Node} {request : ExecutionRequest} {world w : World} {s : RunState}
  {outcome : ExecutionOutcome}

/-- How an execution that is about to run its contract comes to be accepted. -/
inductive Accepted (node : Node) (s : RunState) (outcome : ExecutionOutcome) (w : World) : Prop
  | committed {text : String} {u t : RunState} :
      (Run.invoke node).run s = (.ok text, u) → Kept node u.entered t →
      outcome.status = .committed → Reports outcome t w → Accepted node s outcome w
  | charged {t : RunState} {paid : Connection} :
      s.Cleared t → t.world.data = s.world.data → t.ctx.paymentReserved = true →
      (Payment.settle node.fees t.ctx .failure).run t.world.connection = (.ok (), paid) →
      outcome.status = .feeCharged → outcome.fuelUsed = t.ctx.fuel.consumed →
      w.data = paid.session.working → Accepted node s outcome w

/-- Every outcome is that of a prepared execution. -/
theorem exists_complete_of_execute (h : node.execute request world = (.ok outcome, w)) :
    ∃ s t, (prepare node request).run world = (.ok s.ctx, s.world) ∧
      (complete node request.savepoint).run s = (.ok outcome, t) ∧ t.world = w := by
  unfold execute at h
  rcases hprepare : (prepare node request).run world with ⟨e | ctx, v⟩
  · rw [hprepare] at h
    cases h
  · rcases hcomplete : (complete node request.savepoint).run ⟨ctx, v⟩ with ⟨r, t⟩
    simp only [hprepare, hcomplete] at h
    obtain ⟨rfl, rfl⟩ := Prod.mk.inj h
    exact ⟨⟨ctx, v⟩, t, rfl, hcomplete, rfl⟩

/-- Every outcome is that of a prepared execution which has come to be accepted. -/
theorem execute_accepted (h : node.execute request world = (.ok outcome, w)) :
    ∃ s, (prepare node request).run world = (.ok s.ctx, s.world) ∧
      Accepted node s outcome w := by
  obtain ⟨s, u, hprepare, hcomplete, rfl⟩ := exists_complete_of_execute h
  refine ⟨s, hprepare, ?_⟩
  rw [complete_eq] at hcomplete
  obtain ⟨verdict, t, hverdict, hconclude⟩ := run_bind_eq_ok hcomplete
  rcases conclude_eq_ok hconclude with ⟨result, rfl, hstatus, -, hreports⟩ |
    ⟨error, rfl, hstatus, -, hfuel, hdata⟩
  · obtain ⟨text, u, hinvoke, hkept⟩ := kept_of_verdict hverdict
    exact .committed hinvoke hkept hstatus hreports
  · have hreserved := reserved_of_verdict hverdict
    have hsettled := verdict_settled node (prepare_ok hprepare).opened
    rw [hverdict] at hsettled
    cases hsettled with
    | charge _ hcleared hsame hpaid =>
      exact .charged hcleared hsame hreserved hpaid hstatus hfuel hdata

/-- A committed execution is one whose contract has run without an error, and tells what was spent
of the limit. -/
theorem execute_eq_committed (h : node.execute request world = (.ok outcome, w))
    (hstatus : outcome.status = .committed) :
    ∃ ctx v text t, (prepare node request).run world = (.ok ctx, v) ∧
      (Run.invoke node).run ⟨ctx, v⟩ = (.ok text, t) ∧
      outcome.fuelUsed = (t.ctx.fuel.record t.ctx.fuel.limit t.ctx.env.fuel).consumed := by
  obtain ⟨s, hprepare, haccepted⟩ := execute_accepted h
  cases haccepted with
  | @committed text u t hinvoke hkept _ hreports =>
    refine ⟨s.ctx, s.world, text, u, hprepare, hinvoke, ?_⟩
    rw [hreports.fuelUsed, hkept.ctx]
    rfl
  | charged _ _ _ _ hcharged _ _ =>
    rw [hcharged] at hstatus
    cases hstatus

end Node

end Covenant
