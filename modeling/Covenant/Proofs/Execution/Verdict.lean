import Covenant.Proofs.Execution.Frame
import Covenant.Proofs.Storage.Rows

/-!
# How an execution ends

Once the contract has run, an execution settles what is to become of it, and closes its savepoint
only then. The two parts are taken apart here. All that may be undone is undone in the first one,
which does not notice whether savepoints can be closed; so what depends on that is in the second one
alone.
-/

namespace Covenant

open Stage

/-- What is settled about an execution when its savepoint is to be closed. -/
inductive Verdict where
  /-- What the contract did is kept. -/
  | keep (result : String)
  /-- What the contract did is undone, and the fee for the failure is paid. -/
  | charge (error : RuntimeError)
  /-- Everything is undone. -/
  | reject (error : ExecutionError)

namespace Executing

/-! ## The two parts of an execution -/

/-- What becomes of an execution whose contract failed. -/
def failVerdict (node : Node) (savepoint : String) (error : RuntimeError) :
    Executing ExecutionError Verdict := do
  orReject (rollBack savepoint)
  if !(← context).paymentReserved then return .reject (.runtime error)
  else
    match ← settle node .failure with
    | .ok () => return .charge error
    | .error unpaid =>
      orReject (rollBack savepoint)
      return .reject (.settlement error unpaid)

/-- What becomes of an execution whose contract succeeded. -/
def commitVerdict (node : Node) (savepoint result : String) : Executing ExecutionError Verdict := do
  let result := ExecutionContext.truncateResult result
  if (← context).paymentReserved then
    match ← settle node .success with
    | .error unpaid => failVerdict node savepoint (.payment unpaid)
    | .ok () => return .keep result
  else return .keep result

/-- Runs the contract and settles what becomes of the execution. -/
def verdict (node : Node) (savepoint : String) : Executing ExecutionError Verdict := do
  match ← invoke node with
  | .ok result => commitVerdict node savepoint result
  | .error e => failVerdict node savepoint e

/-- Closes the savepoint and ends the execution. -/
def conclude (savepoint : String) : Verdict → Executing ExecutionError ExecutionOutcome
  | .keep result => keep savepoint result
  | .charge error => do
    orReject (release savepoint)
    advance .feeCharged
    return { status := .feeCharged, result := error.clientMessage,
             fuelUsed := (← context).fuel.consumed, rollback := [], notifications := [] }
  | .reject error => do
    orReject (release savepoint)
    advance .rolledBack
    throw error

theorem fail_eq (node : Node) (savepoint : String) (error : RuntimeError) :
    fail node savepoint error = failVerdict node savepoint error >>= conclude savepoint := by
  simp only [fail, failVerdict, bind_assoc]
  refine bind_congr fun _ => bind_congr fun ctx => ?_
  split
  · simp only [pure_bind, conclude]
  · simp only [bind_assoc]
    refine bind_congr fun paid => ?_
    cases paid with
    | ok u => simp only [pure_bind, conclude]
    | error unpaid => simp only [bind_assoc, pure_bind, conclude]

theorem commit_eq (node : Node) (savepoint result : String) :
    commit node savepoint result = commitVerdict node savepoint result >>= conclude savepoint := by
  simp only [commit, commitVerdict, bind_assoc]
  refine bind_congr fun ctx => ?_
  split
  · simp only [bind_assoc]
    refine bind_congr fun paid => ?_
    cases paid with
    | ok u => simp only [pure_bind, conclude]
    | error unpaid => simp only [fail_eq]
  · simp only [pure_bind, conclude]

/-- The savepoint is closed once, when everything else is settled. -/
theorem complete_eq (node : Node) (savepoint : String) :
    complete node savepoint = verdict node savepoint >>= conclude savepoint := by
  simp only [complete, verdict, bind_assoc]
  refine bind_congr fun outcome => ?_
  cases outcome with
  | ok result => simp only [commit_eq]
  | error e => simp only [fail_eq]

/-! ## Going back to the savepoint -/

end Executing

namespace RunState

/-- The state once the registry changes and records of the execution are taken back. -/
def undone (s : RunState) : RunState :=
  { ctx := { s.ctx.discardRecords with flush := [] }
    world := { s.world with
      registry := s.original
      connection := { s.world.connection with session := s.world.connection.session.clearLog } } }

/-- The state is that of an execution about to run its contract: the last savepoint is its own and
holds the data as it is, and no registry change is recorded yet. -/
structure Opened (savepoint : String) (s : RunState) : Prop where
  savepoints : ∃ older, s.world.connection.session.savepoints =
    older ++ [(savepoint, s.world.data)]
  flush : s.ctx.flush = []

/-- Nothing but rows is left of what the contract did. -/
structure Cleared (s t : RunState) : Prop extends s.Continues t where
  flush : t.ctx.flush = []
  rollback : t.ctx.rollback = []
  notifications : t.ctx.notifications = []

variable {s t : RunState} {savepoint : String}

/-- Before the contract runs, the registry is the original one. -/
theorem Opened.original (hs : s.Opened savepoint) : s.original = s.world.registry := by
  unfold RunState.original
  rw [hs.flush]
  rfl

/-- Whatever an execution has done, its registry changes and records can be taken back. -/
theorem Continues.undone (h : s.Continues t) (hs : s.Opened savepoint) : s.Cleared t.undone where
  connection := ⟨⟨h.connection.session.savepoints, h.connection.session.working⟩,
    h.connection.schedule⟩
  ctx := IsTrans.trans _ _ _ h.ctx ⟨rfl, id⟩
  coherent hregistry := by
    change t.original.Coherent
    rw [h.original hregistry, hs.original]
    exact hregistry
  original := h.original
  flush := rfl
  rollback := rfl
  notifications := rfl

/-- Storage calls do not bring back what was cleared. -/
theorem Cleared.on (h : s.Cleared t) {c : Connection}
    (hmoves : s.world.connection.Moves Session.SameButRows c) : s.Cleared (t.on c) :=
  { h with connection := hmoves }

theorem Cleared.advance (h : s.Cleared t) (state : ExecutionState) :
    s.Cleared { t with ctx := { t.ctx with state } } :=
  { h with ctx := IsTrans.trans _ _ _ h.ctx ⟨rfl, id⟩ }

/-- The registry is as it was once registry changes are taken back. -/
theorem Cleared.registry (h : s.Cleared t) (hs : s.Opened savepoint)
    (hregistry : s.world.registry.Coherent) : t.world.registry = s.world.registry := by
  have horiginal := h.original hregistry
  rw [hs.original] at horiginal
  unfold RunState.original at horiginal
  rw [h.flush] at horiginal
  exact horiginal

end RunState

namespace Executing

variable {s t : RunState} {savepoint : String}

/-- Going back to the open savepoint restores its data, unless storage refuses. -/
theorem run_rollBack (hs : s.Opened savepoint) (h : s.Continues t) :
    ∃ u, s.Cleared u ∧
      ((rollBack savepoint).run t = (.ok (), u) ∧ u.world.data = s.world.data ∨
        ∃ e n, (rollBack savepoint).run t = (.error e, u) ∧
          s.world.connection.failures.schedule .rollbackTo n = some e) := by
  have hrun : (rollBack savepoint).run t =
      (storing id (Storing.rollbackTo savepoint) : Executing StorageError Unit).run t.undone := rfl
  have hcleared := h.undone hs
  rw [hrun, run_storing]
  cases hnext : t.undone.world.connection.failures.next .rollbackTo with
  | some e =>
    rw [Storing.rollbackTo, Storing.run_call_of_some hnext]
    rw [Failures.next, hcleared.connection.schedule] at hnext
    refine ⟨t.undone.on { t.undone.world.connection with failures := _ }, hcleared.on ?_,
      .inr ⟨e, _, rfl, hnext⟩⟩
    exact ⟨hcleared.connection.session, hcleared.connection.schedule⟩
  | none =>
    obtain ⟨older, hopen⟩ := hs.savepoints
    rw [Storing.run_rollbackTo (hcleared.connection.session.savepoints.trans hopen) hnext]
    refine ⟨t.undone.on ⟨{ t.undone.world.connection.session with working := s.world.data }, _⟩,
      hcleared.on ?_, .inl ⟨rfl, rfl⟩⟩
    exact ⟨⟨hcleared.connection.session.savepoints, rfl⟩, hcleared.connection.schedule⟩

private theorem mapError_id {ε α : Type} (r : Except ε α) : r.mapError id = r := by
  cases r <;> rfl

/-- Errors of storage are passed on. -/
theorem run_orReject {α : Type} (x : Executing StorageError α) (t : RunState) :
    (orReject x).run t = ((x.run t).1.mapError .storage, (x.run t).2) := by
  rw [orReject, run_bind_of_ok (run_attempt x t)]
  cases (x.run t).1 with
  | ok a => rfl
  | error e => rfl

/-- A payment concerns storage alone. -/
theorem run_settle {ε : Type} (node : Node) (mode : PaymentMode) (t : RunState) :
    (settle node mode : Executing ε _).run t =
      (.ok ((Payment.settle node.fees t.ctx mode).run t.world.connection).1,
        t.on ((Payment.settle node.fees t.ctx mode).run t.world.connection).2) := by
  have hcontext : (context : Executing ε _).run t = (.ok t.ctx, t) := rfl
  rw [settle, run_bind_of_ok hcontext, run_attempt, run_storing, mapError_id]

/-- What an execution has come to when its savepoint is to be closed, and what is left of it in the
state then. -/
inductive Settled (node : Node) (s : RunState) : Except ExecutionError Verdict → RunState → Prop
  | keep (result : String) {t : RunState} : s.Continues t → Settled node s (.ok (.keep result)) t
  | charge (error : RuntimeError) {t : RunState} {paid : Connection} :
      s.Cleared t → t.world.data = s.world.data →
      (Payment.settle node.fees t.ctx .failure).run t.world.connection = (.ok (), paid) →
      Settled node s (.ok (.charge error)) (t.on paid)
  | reject (error : ExecutionError) {t : RunState} :
      s.Cleared t → t.world.data = s.world.data → Settled node s (.ok (.reject error)) t
  /-- Storage refused to go back to the savepoint. -/
  | stuck {error : StorageError} {n : Nat} {t : RunState} :
      s.Cleared t → s.world.connection.failures.schedule .rollbackTo n = some error →
      Settled node s (.error (.storage error)) t

private theorem run_orReject_rollBack (hs : s.Opened savepoint) (h : s.Continues t) :
    ∃ u, s.Cleared u ∧
      ((orReject (rollBack savepoint)).run t = (.ok (), u) ∧ u.world.data = s.world.data ∨
        ∃ e n, (orReject (rollBack savepoint)).run t = (.error (.storage e), u) ∧
          s.world.connection.failures.schedule .rollbackTo n = some e) := by
  obtain ⟨u, hu, ⟨hrun, hdata⟩ | ⟨e, n, hrun, hfailure⟩⟩ := run_rollBack hs h
  · exact ⟨u, hu, .inl ⟨by rw [run_orReject, hrun]; rfl, hdata⟩⟩
  · exact ⟨u, hu, .inr ⟨e, n, by rw [run_orReject, hrun]; rfl, hfailure⟩⟩

/-- A payment that is made or not leaves the execution where it may go on. -/
theorem continues_settle (node : Node) (mode : PaymentMode) {r : Except PaymentError Unit}
    {paid : Connection} (h : s.Continues t)
    (hpaid : (Payment.settle node.fees t.ctx mode).run t.world.connection = (r, paid)) :
    s.Continues (t.on paid) := by
  have htame : Tame (settle node mode : Executing ExecutionError _) := settle_tame node mode
  have hsettle := htame.keeps.run (run_settle node mode t)
  rw [hpaid] at hsettle
  exact IsTrans.trans _ _ _ h hsettle

/-- After a failure, everything is undone before the fee for it is paid. -/
theorem failVerdict_settled (node : Node) (error : RuntimeError) (hs : s.Opened savepoint)
    (h : s.Continues t) :
    Settled node s ((failVerdict node savepoint error).run t).1
      ((failVerdict node savepoint error).run t).2 := by
  unfold failVerdict
  obtain ⟨u, hu, ⟨hback, hdata⟩ | ⟨e, n, hback, hfailure⟩⟩ := run_orReject_rollBack hs h
  · have hcontext : (context : Executing ExecutionError _).run u = (.ok u.ctx, u) := rfl
    rw [run_bind_of_ok hback, run_bind_of_ok hcontext]
    split
    · exact .reject _ hu hdata
    · rw [run_bind_of_ok (run_settle node .failure u)]
      rcases hpaid : (Payment.settle node.fees u.ctx .failure).run u.world.connection with
        ⟨unpaid | _, paid⟩
      · dsimp only
        obtain ⟨v, hv, ⟨hagain, hdata⟩ | ⟨e, n, hagain, hfailure⟩⟩ :=
          run_orReject_rollBack hs (continues_settle node .failure hu.toContinues hpaid)
        · rw [run_bind_of_ok hagain]
          exact .reject _ hv hdata
        · rw [run_bind_of_error hagain]
          exact .stuck hv hfailure
      · exact .charge error hu hdata hpaid
  · rw [run_bind_of_error hback]
    exact .stuck hu hfailure

/-- After a success, everything is undone only if the fee cannot be paid. -/
theorem commitVerdict_settled (node : Node) (result : String) (hs : s.Opened savepoint)
    (h : s.Continues t) :
    Settled node s ((commitVerdict node savepoint result).run t).1
      ((commitVerdict node savepoint result).run t).2 := by
  unfold commitVerdict
  have hcontext : (context : Executing ExecutionError _).run t = (.ok t.ctx, t) := rfl
  dsimp only
  rw [run_bind_of_ok hcontext]
  split
  · rw [run_bind_of_ok (run_settle node .success t)]
    rcases hpaid : (Payment.settle node.fees t.ctx .success).run t.world.connection with
      ⟨unpaid | _, paid⟩
    · exact failVerdict_settled node (.payment unpaid) hs (continues_settle node .success h hpaid)
    · exact .keep _ (continues_settle node .success h hpaid)
  · exact .keep _ h

/-- A failure is never kept. -/
theorem failVerdict_ne_keep {node : Node} {error : RuntimeError} {result : String}
    (h : (failVerdict node savepoint error).run s = (.ok (.keep result), t)) : False := by
  obtain ⟨_, u, -, h⟩ := run_bind_eq_ok h
  obtain ⟨ctx, v, -, h⟩ := run_bind_eq_ok h
  split at h
  · cases h
  · obtain ⟨paid, x, -, h⟩ := run_bind_eq_ok h
    split at h
    · cases h
    · obtain ⟨_, y, -, h⟩ := run_bind_eq_ok h
      cases h

/-- What the contract did is kept, undone and charged for, or undone, unless storage refuses to go
back to the savepoint. -/
theorem verdict_settled (node : Node) (hs : s.Opened savepoint) :
    Settled node s ((verdict node savepoint).run s).1 ((verdict node savepoint).run s).2 := by
  obtain ⟨outcome, t, hrun⟩ : ∃ outcome t,
      (invoke node : Executing ExecutionError _).run s = (.ok outcome, t) := by
    rw [invoke, run_bind_of_ok (run_attempt _ s)]
    exact ⟨_, _, rfl⟩
  have hinvoked : s.Continues t := (invoke_tame node).keeps.run hrun
  rw [verdict, run_bind_of_ok hrun]
  cases outcome with
  | ok result => exact commitVerdict_settled node result hs hinvoked
  | error e => exact failVerdict_settled node e hs hinvoked

/-! ## What does not depend on closing the savepoint -/

private theorem orReject_ignores {α : Type} {x : Executing StorageError α}
    (hx : Ignores (fun s => s.without .release) x) :
    Ignores (fun s => s.without .release) (orReject x) :=
  (attempt_ignores hx).bind fun r => by
    cases r with
    | ok a => exact .pure a
    | error e => exact .throw _

private theorem rollBack_ignores (savepoint : String) :
    Ignores (fun s => s.without .release) (rollBack savepoint) := by
  have hback : Ignores (fun c => c.without .release) (Storing.rollbackTo savepoint) :=
    Storing.call_ignores (by decide) _
  have hclear : Ignores (fun s => s.without .release)
      (storing id Storing.clearLog : Executing StorageError Unit) := fun _ => rfl
  have hundo : Ignores (fun s => s.without .release) (undoFlush : Executing StorageError Unit) :=
    fun _ => rfl
  have hdiscard : Ignores (fun s => s.without .release)
      (modifyContext ExecutionContext.discardRecords : Executing StorageError Unit) := fun _ => rfl
  exact hdiscard.bind fun _ => hundo.bind fun _ => hclear.bind fun _ => storing_ignores hback id

private theorem failVerdict_ignores (node : Node) (savepoint : String) (error : RuntimeError) :
    Ignores (fun s => s.without .release) (failVerdict node savepoint error) := by
  refine (orReject_ignores (rollBack_ignores savepoint)).bind fun _ =>
    context_tame.ignores.bind fun ctx => ?_
  split
  · exact .pure _
  · refine (settle_tame node .failure).ignores.bind fun paid => ?_
    cases paid with
    | ok u => exact .pure _
    | error unpaid =>
      exact (orReject_ignores (rollBack_ignores savepoint)).bind fun _ => .pure _

private theorem commitVerdict_ignores (node : Node) (savepoint result : String) :
    Ignores (fun s => s.without .release) (commitVerdict node savepoint result) := by
  refine context_tame.ignores.bind fun ctx => ?_
  split
  · refine (settle_tame node .success).ignores.bind fun paid => ?_
    cases paid with
    | ok u => exact .pure _
    | error unpaid => exact failVerdict_ignores node savepoint _
  · exact .pure _

/-- What becomes of an execution does not depend on whether its savepoint can be closed. -/
theorem verdict_ignores (node : Node) (savepoint : String) :
    Ignores (fun s => s.without .release) (verdict node savepoint) := by
  refine (invoke_tame node).ignores.bind fun outcome => ?_
  cases outcome with
  | ok result => exact commitVerdict_ignores node savepoint result
  | error e => exact failVerdict_ignores node savepoint e

/-! ## Closing the savepoint -/

/-- Unless storage refuses, closing the savepoint succeeds, and it leaves the data as it is. -/
theorem run_release (hs : s.Opened savepoint) (h : s.Continues t) :
    ∃ c, c.session.working = t.world.data ∧
      (t.world.connection.failures.next .release = none ∧
          (release savepoint).run t = (.ok (), t.on c) ∨
        ∃ e, t.world.connection.failures.next .release = some e ∧
          (release savepoint).run t = (.error e, t.on c) ∧ s.Continues (t.on c)) := by
  rw [release, run_storing]
  cases hnext : t.world.connection.failures.next .release with
  | none =>
    obtain ⟨older, hopen⟩ := hs.savepoints
    rw [Storing.run_release (h.connection.session.savepoints.trans hopen) hnext]
    exact ⟨⟨{ t.world.connection.session with savepoints := older }, _⟩, rfl, .inl ⟨rfl, rfl⟩⟩
  | some e =>
    rw [Storing.release, Storing.run_call_of_some hnext]
    refine ⟨⟨t.world.connection.session, t.world.connection.failures.count .release⟩, rfl,
      .inr ⟨e, rfl, rfl, ?_⟩⟩
    exact { h with connection := ⟨h.connection.session, h.connection.schedule⟩ }

private theorem run_orReject_release (hs : s.Opened savepoint) (h : s.Continues t) :
    ∃ c, c.session.working = t.world.data ∧
      (t.world.connection.failures.next .release = none ∧
          (orReject (release savepoint)).run t = (.ok (), t.on c) ∨
        ∃ e, t.world.connection.failures.next .release = some e ∧
          (orReject (release savepoint)).run t = (.error (.storage e), t.on c)) := by
  rw [run_orReject]
  obtain ⟨c, hc, ⟨hnext, hrun⟩ | ⟨e, hnext, hrun, -⟩⟩ := run_release hs h
  · exact ⟨c, hc, .inl ⟨hnext, by rw [hrun]; rfl⟩⟩
  · exact ⟨c, hc, .inr ⟨e, hnext, by rw [hrun]; rfl⟩⟩

/-- A success is committed, or undone if the savepoint cannot be closed. -/
theorem run_conclude_keep (hs : s.Opened savepoint) (h : s.Continues t) (result : String) :
    ∃ r u, (conclude savepoint (.keep result)).run t = (r, u) ∧
      (t.world.connection.failures.next .release = none ∧
          (∃ outcome, r = .ok outcome ∧ outcome.status = .committed) ∧
          u.world.registry = t.world.registry ∧ u.world.data = t.world.data ∨
        (∃ e, r = .error e) ∧ s.Cleared u ∧ (u.world.data = s.world.data ∨
          ∃ n, s.world.connection.failures.schedule .rollbackTo n ≠ none)) := by
  rw [conclude, keep, run_bind_of_ok (run_attempt _ t)]
  obtain ⟨c, hc, ⟨hnext, hrun⟩ | ⟨e, hnext, hrun, hcontinues⟩⟩ := run_release hs h
  · rw [hrun]
    exact ⟨_, _, rfl, .inl ⟨hnext, ⟨_, rfl, rfl⟩, rfl, hc⟩⟩
  · rw [hrun]
    obtain ⟨u, hu, hback⟩ := run_rollBack hs hcontinues
    refine ⟨.error (.storage e), { u with ctx := { u.ctx with state := .rolledBack } }, ?_,
      .inr ⟨⟨_, rfl⟩, hu.advance _, ?_⟩⟩
    · dsimp only
      rw [abort, run_bind_of_ok (run_attempt _ _)]
      rcases hback with ⟨hrun, -⟩ | ⟨_, _, hrun, -⟩
      · rw [hrun]
        rfl
      · rw [hrun]
        rfl
    · rcases hback with ⟨-, hdata⟩ | ⟨e', n, -, hfailure⟩
      · exact .inl hdata
      · exact .inr ⟨n, by simp [hfailure]⟩

/-- The fee for a failure is kept, whether or not the savepoint can be closed. -/
theorem run_conclude_charge (hs : s.Opened savepoint) (h : s.Continues t) (error : RuntimeError) :
    ∃ r u, (conclude savepoint (.charge error)).run t = (r, u) ∧
      u.world.registry = t.world.registry ∧ u.world.data = t.world.data ∧
      (t.world.connection.failures.next .release = none ∧
          r = .ok { status := .feeCharged, result := error.clientMessage,
                    fuelUsed := t.ctx.fuel.consumed, rollback := [], notifications := [] } ∨
        t.world.connection.failures.next .release ≠ none ∧ ∃ e, r = .error e) := by
  obtain ⟨c, hc, ⟨hnext, hrun⟩ | ⟨e, hnext, hrun⟩⟩ := run_orReject_release hs h
  · rw [conclude, run_bind_of_ok hrun]
    exact ⟨_, _, rfl, rfl, hc, .inl ⟨hnext, rfl⟩⟩
  · rw [conclude, run_bind_of_error hrun]
    exact ⟨_, _, rfl, rfl, hc, .inr ⟨by simp [hnext], _, rfl⟩⟩

/-- A rejection leaves what it finds. -/
theorem run_conclude_reject (hs : s.Opened savepoint) (h : s.Continues t)
    (error : ExecutionError) :
    ∃ e u, (conclude savepoint (.reject error)).run t = (.error e, u) ∧
      u.world.registry = t.world.registry ∧ u.world.data = t.world.data := by
  obtain ⟨c, hc, ⟨-, hrun⟩ | ⟨e, -, hrun⟩⟩ := run_orReject_release hs h
  · rw [conclude, run_bind_of_ok hrun]
    exact ⟨_, _, rfl, rfl, hc⟩
  · rw [conclude, run_bind_of_error hrun]
    exact ⟨_, _, rfl, rfl, hc⟩

end Executing

end Covenant
