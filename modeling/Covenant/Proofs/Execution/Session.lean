import Covenant.Proofs.Execution.Acceptance

/-!
# What an execution leaves in its session

An execution is one of many on a session that somebody else has opened: there may be savepoints and
statements already, and the savepoint of the execution may have the name of another one. As long as no
storage call fails, the session that is left is known in full. The data are those of a run or of a
payment or as they were, the savepoint of the execution is gone, and the statement log is emptied
whenever something is undone.
-/

namespace Covenant

open Stage

/-- Moves of a connection do not make calls fail. -/
theorem Connection.Moves.never {R : Session → Session → Prop} {c d : Connection}
    (h : c.Moves R d) (hnever : c.failures.Never) : d.failures.Never := by
  intro call made
  rw [h.schedule]
  exact hnever call made

/-! ## Up to the savepoint -/

namespace Preparing

/-- The two worlds have the same session. -/
def SameSession (v w : World) : Prop :=
  w.connection.session = v.connection.session

instance : IsPreorder World SameSession where
  refl _ := rfl
  trans _ _ _ h k := Eq.trans k h

theorem looking_sameSession {ε α : Type} {x : Storing ε α} (hx : x.Looks)
    (toError : ε → ExecutionError) : Keeps SameSession (storing toError x) :=
  fun w => (hx.keeps w.connection).session.symm

theorem findContract_sameSession (tx : Transaction) : Keeps SameSession (findContract tx) := by
  intro w
  rw [run_findContract]
  split
  · exact rfl
  · exact rfl

theorem authenticate_sameSession (node : Node) (ctx : ExecutionContext) :
    Keeps SameSession (authenticate node ctx) :=
  (looking_sameSession (Auth.resolveSigner_looks _ _ _ _) _).bind fun _ =>
    (looking_sameSession (Auth.verifySignature_looks _ _ _) _).bind fun _ => .pure _

theorem reserve_sameSession (node : Node) (ctx : ExecutionContext) :
    Keeps SameSession (reserve node ctx) := by
  unfold reserve
  split
  · exact (looking_sameSession (Payment.prepare_looks _ _) _).bind fun _ => .pure _
  · exact .pure _

/-- Opening a savepoint either fails without a trace or opens it. -/
private theorem createSavepoint_session {name : String} {r : Except ExecutionError Unit}
    {w w' : World}
    (h : (storing ExecutionError.storage (Storing.createSavepoint name)).run w = (r, w')) :
    w'.connection.session =
      match r with
      | .ok _ => w.connection.session.createSavepoint name
      | .error _ => w.connection.session := by
  rw [run_storing] at h
  cases hnext : w.connection.failures.next .createSavepoint with
  | some e =>
    rw [Storing.createSavepoint, Storing.run_call_of_some hnext] at h
    obtain ⟨rfl, rfl⟩ := Prod.mk.inj h
    rfl
  | none =>
    rw [Storing.createSavepoint, Storing.run_call_of_none hnext] at h
    obtain ⟨rfl, rfl⟩ := Prod.mk.inj h
    rfl

/-- What is prepared has opened its savepoint, and what is not has left the session alone. -/
theorem prepare_session {node : Node} {request : ExecutionRequest} {world w : World}
    {r : Except ExecutionError ExecutionContext}
    (h : (prepare node request).run world = (r, w)) :
    w.connection.session =
      match r with
      | .ok _ => world.connection.session.createSavepoint request.savepoint
      | .error _ => world.connection.session := by
  -- All that comes before the savepoint is a computation of its own.
  let reserved : Preparing ExecutionContext := do
    let contract ← findContract request.tx
    let ctx ← authenticate node (.new request.tx contract request.block request.prevBlock
      request.flags)
    reserve node ctx
  have hsplit : prepare node request = reserved >>= fun ctx =>
      storing .storage (Storing.createSavepoint request.savepoint) >>= fun _ =>
        pure (equip node ctx) := by
    simp only [prepare, reserved, bind_assoc]
  have hreserved : Keeps SameSession reserved :=
    (findContract_sameSession _).bind fun _ => (authenticate_sameSession node _).bind fun _ =>
      reserve_sameSession node _
  rw [hsplit] at h
  rcases r with e | ctx
  · rcases run_bind_eq_error h with hfailed | ⟨ctx, v, hran, hfailed⟩
    · exact hreserved.run hfailed
    · rcases run_bind_eq_error hfailed with hfailed | ⟨_, _, -, hpure⟩
      · exact (createSavepoint_session hfailed).trans (hreserved.run hran)
      · cases hpure
  · obtain ⟨ctx, v, hran, hopens⟩ := run_bind_eq_ok h
    obtain ⟨u, v', hopened, hpure⟩ := run_bind_eq_ok hopens
    obtain ⟨-, rfl⟩ := Prod.mk.inj hpure
    have hsession : v.connection.session = world.connection.session := hreserved.run hran
    rw [createSavepoint_session hopened, hsession]

end Preparing

/-! ## From the savepoint on -/

/-- What the verdict lets an execution give as its result when it has ended with a context. -/
def Verdict.Tells (ctx : ExecutionContext) (r : Except ExecutionError ExecutionOutcome) :
    Verdict → Prop
  | .keep _ => ∃ outcome, r = .ok outcome ∧ outcome.status = .committed ∧
      outcome.rollback = ctx.rollback
  | .charge _ => ∃ outcome, r = .ok outcome ∧ outcome.status = .feeCharged ∧ outcome.rollback = []
  | .reject error => r = .error error

namespace Executing

variable {node : Node} {s t : RunState} {savepoint : String}

/-- Going back empties the statement log, also where storage refuses to restore the data. -/
theorem log_rollBack (savepoint : String) (t : RunState) :
    ((rollBack savepoint).run t).2.world.connection.session.log = [] := by
  have hpreorder : IsPreorder Session fun s t : Session => t.log = s.log :=
    { refl := fun _ => rfl, trans := fun _ _ _ h k => k.trans h }
  have hback : Keeps (Connection.Moves fun s t : Session => t.log = s.log)
      (Storing.rollbackTo savepoint) := by
    refine Storing.call_keeps fun session => ?_
    unfold Session.rollbackTo
    split
    next h =>
      split at h
      · cases h
      · rw [← Except.ok.inj h]
    next => rfl
  exact (hback t.undone.world.connection).session

/-- If no call fails, an execution that is undone leaves the session as it was when the contract
began, but with an empty log. -/
theorem run_rollBack_of_never (hnever : s.world.connection.failures.Never)
    (hs : s.Opened savepoint) (h : s.Continues t) :
    ∃ u, (orReject (rollBack savepoint)).run t = (.ok (), u) ∧ s.Cleared u ∧
      u.world.connection.session = s.world.connection.session.clearLog := by
  obtain ⟨u, hcleared, ⟨hrun, hdata⟩ | ⟨e, n, -, hfailure⟩⟩ := run_rollBack hs h
  · refine ⟨u, by rw [run_orReject, hrun]; rfl, hcleared, ?_⟩
    have hlog : u.world.connection.session.log = [] := by
      rw [← log_rollBack savepoint t, hrun]
    have hsavepoints := hcleared.connection.session.savepoints
    change u.world.connection.session.working = s.world.connection.session.working at hdata
    rcases hu : u.world.connection.session with ⟨working, savepoints, log⟩
    rw [hu] at hlog hsavepoints hdata
    simp only [Session.clearLog, ← hlog, ← hsavepoints, ← hdata]
  · rw [hnever] at hfailure
    cases hfailure

/-- How an execution that is not kept stands when its savepoint is to be closed: everything is undone,
and the fee for the failure may have been paid after that. -/
inductive Undone (node : Node) (s : RunState) : Verdict → RunState → Prop
  | charge {error : RuntimeError} {t : RunState} {paid : Connection} :
      s.Cleared t → t.world.connection.session = s.world.connection.session.clearLog →
      (Payment.settle node.fees t.ctx .failure).run t.world.connection = (.ok (), paid) →
      Undone node s (.charge error) (t.on paid)
  | reject {error : ExecutionError} {t : RunState} :
      t.world.connection.session = s.world.connection.session.clearLog →
      Undone node s (.reject error) t

/-- Whatever becomes of an execution, its savepoint and those before it are open until it is closed. -/
theorem Settled.connection {v : Verdict} (h : Settled node s (.ok v) t) :
    s.world.connection.Moves Session.SameButRows t.world.connection := by
  cases h with
  | keep _ hcontinues => exact hcontinues.connection
  | charge _ hcleared _ hpaid =>
    exact (continues_settle node .failure hcleared.toContinues hpaid).connection
  | reject _ hcleared _ => exact hcleared.connection

/-- If no call fails, an execution that fails is undone. -/
theorem failVerdict_undone (hnever : s.world.connection.failures.Never) (hs : s.Opened savepoint)
    (h : s.Continues t) (error : RuntimeError) :
    ∃ v u, (failVerdict node savepoint error).run t = (.ok v, u) ∧ Undone node s v u := by
  obtain ⟨u, hback, hcleared, hsession⟩ := run_rollBack_of_never hnever hs h
  have hcontext : (context : Executing ExecutionError _).run u = (.ok u.ctx, u) := rfl
  rw [failVerdict, run_bind_of_ok hback, run_bind_of_ok hcontext]
  split
  · exact ⟨_, _, rfl, .reject hsession⟩
  · rw [run_bind_of_ok (run_settle node .failure u)]
    rcases hpaid : (Payment.settle node.fees u.ctx .failure).run u.world.connection with
      ⟨unpaid | _, paid⟩
    · obtain ⟨v, hagain, -, hsession⟩ := run_rollBack_of_never hnever hs
        (continues_settle node .failure hcleared.toContinues hpaid)
      dsimp only
      rw [run_bind_of_ok hagain]
      exact ⟨_, _, rfl, .reject hsession⟩
    · exact ⟨_, _, rfl, .charge hcleared hsession hpaid⟩

/-- If no call fails, an execution is kept or undone. -/
theorem verdict_undone (hnever : s.world.connection.failures.Never) (hs : s.Opened savepoint) :
    ∃ v u, (verdict node savepoint).run s = (.ok v, u) ∧
      ((∃ result, v = .keep result) ∨ Undone node s v u) := by
  obtain ⟨outcome, t, hrun⟩ : ∃ outcome t,
      (invoke node : Executing ExecutionError _).run s = (.ok outcome, t) := by
    rw [invoke, run_bind_of_ok (run_attempt _ s)]
    exact ⟨_, _, rfl⟩
  have hinvoked : s.Continues t := (invoke_tame node).keeps.run hrun
  rw [verdict, run_bind_of_ok hrun]
  cases outcome with
  | error e =>
    obtain ⟨v, u, hverdict, hundone⟩ := failVerdict_undone hnever hs hinvoked e
    exact ⟨v, u, hverdict, .inr hundone⟩
  | ok text =>
    have hcontext : (context : Executing ExecutionError _).run t = (.ok t.ctx, t) := rfl
    dsimp only
    rw [commitVerdict, run_bind_of_ok hcontext]
    split
    · rw [run_bind_of_ok (run_settle node .success t)]
      rcases hpaid : (Payment.settle node.fees t.ctx .success).run t.world.connection with
        ⟨unpaid | _, paid⟩
      · obtain ⟨v, u, hverdict, hundone⟩ := failVerdict_undone hnever hs
          (continues_settle node .success hinvoked hpaid) (.payment unpaid)
        exact ⟨v, u, hverdict, .inr hundone⟩
      · exact ⟨_, _, rfl, .inl ⟨_, rfl⟩⟩
    · exact ⟨_, _, rfl, .inl ⟨_, rfl⟩⟩

/-- If no call fails, the savepoint is closed, and the result is what the verdict says. -/
theorem run_conclude_of_never {older : List (String × Database)} {data : Database}
    (hnever : t.world.connection.failures.Never)
    (hopen : t.world.connection.session.savepoints = older ++ [(savepoint, data)]) (v : Verdict) :
    ∃ r u, (conclude savepoint v).run t = (r, u) ∧
      u.world.connection.session = { t.world.connection.session with savepoints := older } ∧
      v.Tells t.ctx r := by
  have hrelease : (release savepoint).run t = (.ok (),
      t.on ⟨{ t.world.connection.session with savepoints := older },
        t.world.connection.failures.count .release⟩) := by
    rw [release, run_storing, Storing.run_release hopen (hnever.next _)]
    rfl
  have hclosed := run_orReject (release savepoint) t
  rw [hrelease] at hclosed
  cases v with
  | keep result =>
    rw [conclude, keep, run_bind_of_ok (run_attempt _ t), hrelease]
    exact ⟨_, _, rfl, rfl, _, rfl, rfl, rfl⟩
  | charge error =>
    rw [conclude, run_bind_of_ok hclosed]
    exact ⟨_, _, rfl, rfl, _, rfl, rfl, rfl⟩
  | reject error =>
    rw [conclude, run_bind_of_ok hclosed]
    exact ⟨_, _, rfl, rfl, rfl⟩

end Executing

/-! ## Whole executions -/

namespace Node

open Preparing Executing

/-- What an execution leaves of the session, if no call fails. -/
inductive Left (node : Node) (request : ExecutionRequest) (world : World) :
    Except ExecutionError ExecutionOutcome → Session → Prop
  /-- The contract has not run. -/
  | refused {e : ExecutionError} {w : World} :
      (prepare node request).run world = (.error e, w) →
      Left node request world (.error e) world.connection.session
  /-- Everything is undone, and the log is emptied. -/
  | rejected {e : ExecutionError} {s : RunState} :
      (prepare node request).run world = (.ok s.ctx, s.world) →
      Left node request world (.error e) world.connection.session.clearLog
  /-- Everything is undone, the log is emptied, and then the fee for the failure is paid. -/
  | charged {outcome : ExecutionOutcome} {s t : RunState} {paid : Connection} :
      (prepare node request).run world = (.ok s.ctx, s.world) → s.Cleared t →
      t.world.connection.session = s.world.connection.session.clearLog →
      (Payment.settle node.fees t.ctx .failure).run t.world.connection = (.ok (), paid) →
      outcome.status = .feeCharged → outcome.rollback = [] →
      Left node request world (.ok outcome)
        { paid.session with savepoints := world.connection.session.savepoints }
  /-- What the contract did is kept, and its fee is paid if one is due. -/
  | committed {outcome : ExecutionOutcome} {text : String} {s u t : RunState} :
      (prepare node request).run world = (.ok s.ctx, s.world) →
      (Run.invoke node).run s = (.ok text, u) → Kept node u.entered t →
      outcome.status = .committed → outcome.rollback = t.ctx.rollback →
      Left node request world (.ok outcome)
        { t.world.connection.session with savepoints := world.connection.session.savepoints }

variable {node : Node} {request : ExecutionRequest} {world w : World}
  {r : Except ExecutionError ExecutionOutcome}

/-- If no call fails, every execution leaves one of these sessions. -/
theorem execute_left (hnever : world.connection.failures.Never)
    (h : node.execute request world = (r, w)) :
    Left node request world r w.connection.session := by
  unfold execute at h
  rcases hprepare : (prepare node request).run world with ⟨e | ctx, v⟩
  · simp only [hprepare] at h
    obtain ⟨rfl, rfl⟩ := Prod.mk.inj h
    rw [prepare_session hprepare]
    exact .refused hprepare
  · obtain ⟨s, hs⟩ : ∃ s : RunState, s = ⟨ctx, v⟩ := ⟨_, rfl⟩
    have hprepared : (prepare node request).run world = (.ok s.ctx, s.world) := by
      rw [hs, hprepare]
    have hopened := (prepare_ok hprepared).opened
    have hstart : s.world.connection.session =
        world.connection.session.createSavepoint request.savepoint := prepare_session hprepared
    have hnever : s.world.connection.failures.Never := by
      intro call made
      rw [(prepare_ok hprepared).same.schedule]
      exact hnever call made
    obtain ⟨v', t, hverdict, hend⟩ := verdict_undone hnever hopened
    have hsettled := verdict_settled node hopened
    rw [hverdict] at hsettled
    have hmoved := hsettled.connection
    have hopen : t.world.connection.session.savepoints =
        world.connection.session.savepoints ++
          [(request.savepoint, world.connection.session.working)] := by
      rw [hmoved.session.savepoints, hstart]
      rfl
    obtain ⟨r', u, hconclude, hclosed, htells⟩ :=
      run_conclude_of_never (hmoved.never hnever) hopen v'
    simp only [hprepare, ← hs, complete_eq, run_bind_of_ok hverdict, hconclude] at h
    obtain ⟨rfl, rfl⟩ := Prod.mk.inj h
    rw [hclosed]
    rcases hend with ⟨result, rfl⟩ | hundone
    · obtain ⟨text, u', hinvoke, hkept⟩ := kept_of_verdict hverdict
      obtain ⟨outcome, rfl, hstatus, hrollback⟩ := htells
      exact .committed hprepared hinvoke hkept hstatus hrollback
    · cases hundone with
      | charge hcleared hsession hpaid =>
        obtain ⟨outcome, rfl, hstatus, hrollback⟩ := htells
        exact .charged hprepared hcleared hsession hpaid hstatus hrollback
      | reject hsession =>
        obtain rfl := htells
        rw [hsession, hstart]
        exact .rejected hprepared

end Node

end Covenant
