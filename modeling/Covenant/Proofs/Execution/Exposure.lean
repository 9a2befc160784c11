import Covenant.Proofs.Execution.Ending
import Covenant.Proofs.Execution.Steady

/-!
# Which failures of storage an execution exposes

A failure of storage ends up inside other errors: of authentication, of access, of the run, of a
payment. Only the failure of a call that opens, goes back to or closes a savepoint is the error of
the execution itself. This is exact: a savepoint that is to be closed is always there, so those calls
fail only where the schedule says so, and an execution is rejected then.
-/

namespace Covenant

open Stage

/-! ## Exposed failures -/

/-- From this state on, the computation is steady, and it ends with an error of storage itself if
and only if a call of bookkeeping fails. -/
structure Stage.Exposes {σ α : Type} [Calling σ] (x : Stage ExecutionError σ α) (s : σ) : Prop
    extends Steady x s where
  told : (∃ e, (x.run s).1 = .error (.storage e)) ↔
    ∃ call : StorageCall, call.isBookkeeping = true ∧ Met s (x.run s).2 call

namespace Stage

variable {σ α β : Type} [Calling σ] {x : Stage ExecutionError σ α}
  {f : α → Stage ExecutionError σ β} {s : σ}

/-- Calls about what is stored never show as failures of storage itself. -/
theorem Working.exposes (hx : Working x) (hr : ∀ e, (x.run s).1 ≠ .error (.storage e)) :
    Exposes x s := by
  refine ⟨hx.steady s, iff_of_false ?_ ?_⟩
  · rintro ⟨e, htold⟩
    exact hr e htold
  · rintro ⟨call, hcall, hmet⟩
    rw [hx.plain s call hmet] at hcall
    cases hcall

/-- What always succeeds exposes nothing. -/
theorem Working.exposes_of_ok (hx : Working x) {a : α} (hr : (x.run s).1 = .ok a) : Exposes x s :=
  hx.exposes fun e htold => by
    rw [hr] at htold
    cases htold

theorem Exposes.pure (a : α) : Exposes (Pure.pure a : Stage ExecutionError σ α) s :=
  (Working.pure a).exposes_of_ok rfl

theorem Exposes.throw {error : ExecutionError} (herror : ∀ e, error ≠ .storage e) :
    Exposes (throw error : Stage ExecutionError σ α) s :=
  (Working.throw error).exposes fun e htold => herror e (Except.error.inj htold)

/-- A sequence exposes what its parts expose. -/
theorem Exposes.bind (hx : Exposes x s) (hf : ∀ a t, x.run s = (.ok a, t) → Exposes (f a) t) :
    Exposes (x >>= f) s := by
  have hsteady := hx.toSteady.bind fun a t hrun => (hf a t hrun).toSteady
  have htold := hx.told
  rcases hrun : x.run s with ⟨e | a, t⟩
  · refine ⟨hsteady, ?_⟩
    rw [run_bind_of_error hrun]
    rw [hrun] at htold
    refine Iff.trans ?_ htold
    simp only [Except.error.injEq]
  · have hrest := hf a t hrun
    refine ⟨hsteady, ?_⟩
    simp only [hx.toSteady.met_bind_iff hrun hrest.toSteady]
    rw [run_bind_of_ok hrun]
    refine hrest.told.trans ⟨?_, ?_⟩
    · rintro ⟨call, hcall, hmet⟩
      exact ⟨call, hcall, .inr hmet⟩
    · rintro ⟨call, hcall, hmet | hmet⟩
      · rw [hrun] at htold
        obtain ⟨e, hfailed⟩ := htold.mpr ⟨call, hcall, hmet⟩
        cases hfailed
      · exact ⟨call, hcall, hmet⟩

/-- A single call of bookkeeping is exposed if it fails. -/
theorem Exposes.of_count (kind : StorageCall) (hkind : kind.isBookkeeping = true) (hx : Steady x s)
    (hcount : Calling.failures (x.run s).2 = (Calling.failures s).count kind)
    (hsome : ∀ e, (Calling.failures s).next kind = some e → (x.run s).1 = .error (.storage e))
    (hnone : (Calling.failures s).next kind = none → ∃ a, (x.run s).1 = .ok a) :
    Exposes x s := by
  refine ⟨hx, ?_⟩
  unfold Met
  rw [hcount]
  simp only [Failures.met_count_iff]
  cases hnext : (Calling.failures s).next kind with
  | some e => exact iff_of_true ⟨e, hsome e hnext⟩ ⟨kind, hkind, rfl, Option.some_ne_none e⟩
  | none =>
    obtain ⟨a, hok⟩ := hnone hnext
    refine iff_of_false ?_ ?_
    · rw [hok]
      nofun
    · rintro ⟨call, -, rfl, hfails⟩
      exact hfails rfl

end Stage

/-! ## Up to the savepoint -/

namespace Preparing

variable {ε α : Type} {node : Node} {w : World}

theorem storing_steady {x : Storing ε α} (hx : Steady x w.connection)
    (toError : ε → ExecutionError) : Steady (storing toError x) w := by
  refine ⟨hx.later, fun hnone => ?_⟩
  have hcalm := hx.calm hnone
  rw [run_storing, run_storing]
  change (Except.mapError toError (x.run (Calling.calm w.connection)).1,
    { w with connection := (x.run (Calling.calm w.connection)).2 }) = _
  rw [hcalm]
  rfl

/-- Calls about what is stored end in errors of another kind. -/
theorem storing_exposes {x : Storing ε α} (hx : Working x) {toError : ε → ExecutionError}
    (htoError : ∀ cause e, toError cause ≠ .storage e) : Exposes (storing toError x) w := by
  have hworking : Working (storing toError x) :=
    ⟨fun w => storing_steady (hx.steady w.connection) toError, fun w => hx.plain w.connection⟩
  refine hworking.exposes fun e htold => ?_
  rw [run_storing] at htold
  cases hresult : (x.run w.connection).1 with
  | error cause =>
    rw [hresult] at htold
    exact htoError cause e (Except.error.inj htold)
  | ok a =>
    rw [hresult] at htold
    cases htold

theorem findContract_exposes (tx : Transaction) : Exposes (findContract tx) w := by
  have hregistry : Working registry := .of_failures (fun _ => rfl) fun _ => rfl
  refine (hregistry.exposes_of_ok rfl).bind fun registry _ _ => ?_
  split
  · exact .pure _
  · exact .throw nofun

theorem authenticate_exposes (ctx : ExecutionContext) : Exposes (authenticate node ctx) w :=
  (storing_exposes (Auth.resolveSigner_looks _ _ _ _).working (by nofun)).bind fun _ _ _ =>
    (storing_exposes (Auth.verifySignature_looks _ _ _).working (by nofun)).bind fun _ _ _ =>
      .pure _

theorem reserve_exposes (ctx : ExecutionContext) : Exposes (reserve node ctx) w := by
  unfold reserve
  split
  · exact (storing_exposes (Payment.prepare_looks _ _).working (by nofun)).bind fun _ _ _ => .pure _
  · exact .pure _

/-- Opening a savepoint fails only if storage refuses. -/
theorem createSavepoint_exposes (savepoint : String) :
    Exposes (storing ExecutionError.storage (Storing.createSavepoint savepoint)) w := by
  unfold Storing.createSavepoint
  refine .of_count .createSavepoint rfl (storing_steady (Storing.call_steady _ _ _) _) ?_
    (fun e hnext => ?_) fun hnext => ?_
  · rw [run_storing]
    exact Storing.failures_call w.connection
  · rw [run_storing, Storing.run_call_of_some hnext]
    rfl
  · rw [run_storing, Storing.run_call_of_none hnext]
    exact ⟨(), rfl⟩

theorem prepare_exposes (request : ExecutionRequest) : Exposes (prepare node request) w :=
  (findContract_exposes _).bind fun _ _ _ => (authenticate_exposes _).bind fun _ _ _ =>
    (reserve_exposes _).bind fun _ _ _ => (createSavepoint_exposes _).bind fun _ _ _ => .pure _

end Preparing

/-! ## From the savepoint on -/

namespace RunState

/-- The savepoint is the last one that is open. -/
def Holds (s : RunState) (savepoint : String) : Prop :=
  ∃ older data, s.world.connection.session.savepoints = older ++ [(savepoint, data)]

variable {s t : RunState} {savepoint : String}

theorem Opened.holds (h : s.Opened savepoint) : s.Holds savepoint := by
  obtain ⟨older, hopen⟩ := h.savepoints
  exact ⟨older, _, hopen⟩

/-- Neither runs nor payments open or close a savepoint. -/
theorem Holds.continues (h : s.Holds savepoint) (hst : s.Continues t) : t.Holds savepoint := by
  obtain ⟨older, data, hopen⟩ := h
  exact ⟨older, data, hst.connection.session.savepoints.trans hopen⟩

/-- Nor does taking back the records. -/
theorem Holds.undone (h : t.Holds savepoint) : t.undone.Holds savepoint :=
  h

end RunState

namespace Executing

variable {ε : Type} {node : Node} {s t u : RunState} {savepoint : String}

/-- Going back is a single call on what is left when the records are taken back. -/
theorem run_rollBack_eq (savepoint : String) (t : RunState) :
    (rollBack savepoint).run t =
      (storing id (Storing.rollbackTo savepoint) : Executing StorageError Unit).run t.undone :=
  rfl

theorem rollBack_steady (savepoint : String) (t : RunState) : Steady (rollBack savepoint) t := by
  have hsteady : Steady (storing id (Storing.rollbackTo savepoint) : Executing StorageError Unit)
      t.undone := storing_steady (Storing.call_steady _ _ _) id
  exact ⟨hsteady.later, hsteady.calm⟩

theorem release_steady (savepoint : String) (t : RunState) : Steady (release savepoint) t :=
  storing_steady (Storing.call_steady _ _ _) id

theorem orReject_steady {α : Type} {x : Executing StorageError α} (hx : Steady x t) :
    Steady (orReject x) t :=
  hx.of_run _ (run_orReject x)

/-- Unless storage refuses, an execution goes back to its savepoint, which stays open. -/
theorem run_rollBack_of_none (ht : t.Holds savepoint)
    (hnext : t.world.connection.failures.next .rollbackTo = none) :
    ∃ u, (rollBack savepoint).run t = (.ok (), u) ∧ u.Holds savepoint := by
  obtain ⟨older, data, hopen⟩ := ht.undone
  have hundone : t.undone.world.connection.failures.next .rollbackTo = none := hnext
  rw [run_rollBack_eq, run_storing, Storing.run_rollbackTo hopen hundone]
  exact ⟨_, rfl, older, data, hopen⟩

/-- Going back to the open savepoint fails only if storage refuses. -/
theorem rollBack_exposes (ht : t.Holds savepoint) : Exposes (orReject (rollBack savepoint)) t := by
  refine .of_count .rollbackTo rfl (orReject_steady (rollBack_steady savepoint t)) ?_
    (fun e hnext => ?_) fun hnext => ?_
  · rw [run_orReject, run_rollBack_eq, run_storing]
    exact Storing.failures_call t.undone.world.connection
  · have hundone : t.undone.world.connection.failures.next .rollbackTo = some e := hnext
    rw [run_orReject, run_rollBack_eq, run_storing, Storing.rollbackTo,
      Storing.run_call_of_some hundone]
    rfl
  · obtain ⟨u, hrun, -⟩ := run_rollBack_of_none ht hnext
    rw [run_orReject, hrun]
    exact ⟨(), rfl⟩

/-- The savepoint stays open when an execution goes back to it. -/
theorem holds_of_rollBack (ht : t.Holds savepoint)
    (hrun : (orReject (rollBack savepoint)).run t = (.ok (), u)) : u.Holds savepoint := by
  rw [run_orReject] at hrun
  cases hnext : t.world.connection.failures.next .rollbackTo with
  | some e =>
    have hundone : t.undone.world.connection.failures.next .rollbackTo = some e := hnext
    rw [run_rollBack_eq, run_storing, Storing.rollbackTo, Storing.run_call_of_some hundone] at hrun
    cases hrun
  | none =>
    obtain ⟨v, hback, hv⟩ := run_rollBack_of_none ht hnext
    rw [hback] at hrun
    obtain ⟨-, rfl⟩ := Prod.mk.inj hrun
    exact hv

/-- Closing the open savepoint fails only if storage refuses. -/
theorem release_exposes (ht : t.Holds savepoint) : Exposes (orReject (release savepoint)) t := by
  refine .of_count .release rfl (orReject_steady (release_steady savepoint t)) ?_
    (fun e hnext => ?_) fun hnext => ?_
  · rw [run_orReject, release, run_storing]
    exact Storing.failures_call t.world.connection
  · rw [run_orReject, release, run_storing, Storing.release, Storing.run_call_of_some hnext]
    rfl
  · obtain ⟨older, data, hopen⟩ := ht
    rw [run_orReject, release, run_storing, Storing.run_release hopen hnext]
    exact ⟨(), rfl⟩

/-- An error of storage may be seen to and still be the one that is exposed. -/
theorem attempt_exposes {α β : Type} {x : Executing StorageError α}
    {f : Except StorageError α → Executing ExecutionError β} (hx : Steady x t)
    (hexposes : Exposes (orReject x) t)
    (herror : ∀ e u, Steady (f (.error e)) u ∧
      ∃ e', ((f (.error e)).run u).1 = .error (.storage e'))
    (hok : ∀ a u, x.run t = (.ok a, u) → Exposes (f (.ok a)) u) : Exposes (attempt x >>= f) t := by
  have hattempt : Steady (attempt x : Executing ExecutionError _) t :=
    hx.of_run Except.ok (run_attempt x)
  have htold := hexposes.told
  rw [run_orReject] at htold
  rcases hrun : x.run t with ⟨e | a, u⟩
  · rw [hrun] at htold
    have hseen : (attempt x : Executing ExecutionError _).run t = (.ok (.error e), u) := by
      rw [run_attempt, hrun]
    obtain ⟨hsteady, herror⟩ := herror e u
    obtain ⟨call, hcall, hmet⟩ := htold.mp ⟨e, rfl⟩
    refine ⟨hattempt.bind fun r v hr => ?_, iff_of_true ?_ ⟨call, hcall, ?_⟩⟩
    · obtain ⟨hresult, rfl⟩ := Prod.mk.inj (hseen.symm.trans hr)
      exact Except.ok.inj hresult ▸ hsteady
    · rw [run_bind_of_ok hseen]
      exact herror
    · exact (hattempt.met_bind_iff hseen hsteady call).mpr (.inl hmet)
  · have hseen : (attempt x : Executing ExecutionError _).run t = (.ok (.ok a), u) := by
      rw [run_attempt, hrun]
    have hsilent : Exposes (attempt x : Executing ExecutionError _) t := by
      refine ⟨hattempt, ?_⟩
      rw [hrun] at htold
      rw [hseen]
      exact iff_of_false nofun (mt htold.mpr nofun)
    refine hsilent.bind fun r v hr => ?_
    obtain ⟨hresult, rfl⟩ := Prod.mk.inj (hseen.symm.trans hr)
    exact Except.ok.inj hresult ▸ hok a u hrun

theorem context_exposes : Exposes (context : Executing ExecutionError _) t :=
  context_working.exposes_of_ok rfl

theorem advance_working (state : ExecutionState) : Working (advance state : Executing ε Unit) :=
  modifyContext_working _

theorem advance_exposes (state : ExecutionState) : Exposes (advance state) t :=
  (advance_working state).exposes_of_ok rfl

theorem settle_exposes (mode : PaymentMode) : Exposes (settle node mode) t :=
  (settle_working node mode).exposes_of_ok (congrArg Prod.fst (run_settle node mode t))

/-- An execution whose contract failed exposes whether its savepoint fails. -/
theorem fail_exposes (error : RuntimeError) (ht : t.Holds savepoint) :
    Exposes (fail node savepoint error) t := by
  refine (rollBack_exposes ht).bind fun _ u hback => ?_
  have hu := holds_of_rollBack ht hback
  refine context_exposes.bind fun ctx v hcontext => ?_
  obtain rfl : u = v := (Prod.mk.inj hcontext).2
  split
  · exact (release_exposes hu).bind fun _ _ _ => (advance_exposes _).bind fun _ _ _ =>
      .throw nofun
  · refine (settle_exposes .failure).bind fun paid v hpaid => ?_
    have hv := hu.continues ((settle_tame node .failure).keeps.run hpaid)
    cases paid with
    | ok _ =>
      exact (release_exposes hv).bind fun _ _ _ => (advance_exposes _).bind fun _ _ _ =>
        context_exposes.bind fun _ _ _ => .pure _
    | error unpaid =>
      exact (rollBack_exposes hv).bind fun _ _ hagain =>
        (release_exposes (holds_of_rollBack hv hagain)).bind fun _ _ _ =>
          (advance_exposes _).bind fun _ _ _ => .throw nofun

theorem abort_steady {α : Type} (error : StorageError) (t : RunState) :
    Steady (abort savepoint error : Executing ExecutionError α) t :=
  ((rollBack_steady savepoint t).of_run Except.ok (run_attempt _)).bind fun _ _ _ =>
    ((advance_working _).steady _).bind fun _ _ _ => (Working.throw _).steady _

/-- An execution that is given up ends with the error of storage that made it so. -/
theorem abort_eq_error {α : Type} (error : StorageError) (t : RunState) :
    ((abort savepoint error : Executing ExecutionError α).run t).1 = .error (.storage error) := by
  rw [abort, run_bind_of_ok (run_attempt _ t)]
  rfl

/-- An execution that is kept exposes whether its savepoint could be closed. -/
theorem keep_exposes (result : String) (ht : t.Holds savepoint) :
    Exposes (keep savepoint result) t := by
  refine attempt_exposes (release_steady savepoint t) (release_exposes ht)
    (fun e u => ⟨abort_steady e u, e, abort_eq_error e u⟩) fun _ u _ => ?_
  exact (advance_exposes _).bind fun _ _ _ => context_exposes.bind fun _ _ _ =>
    ((modifyContext_working _).exposes_of_ok rfl).bind fun _ _ _ => .pure _

theorem commit_exposes (result : String) (ht : t.Holds savepoint) :
    Exposes (commit node savepoint result) t := by
  refine context_exposes.bind fun ctx v hcontext => ?_
  obtain rfl : t = v := (Prod.mk.inj hcontext).2
  split
  · refine (settle_exposes .success).bind fun paid v hpaid => ?_
    have hv := ht.continues ((settle_tame node .success).keeps.run hpaid)
    cases paid with
    | ok _ => exact keep_exposes _ hv
    | error unpaid => exact fail_exposes _ hv
  · exact keep_exposes _ ht

/-- From its savepoint on, an execution exposes the failures of savepoints and no others. -/
theorem complete_exposes (ht : t.Holds savepoint) : Exposes (complete node savepoint) t := by
  refine ((invoke_working node).exposes_of_ok rfl).bind fun outcome u hrun => ?_
  have hu := ht.continues ((invoke_tame node).keeps.run hrun)
  cases outcome with
  | ok result => exact commit_exposes result hu
  | error e => exact fail_exposes e hu

end Executing

/-! ## Whole executions -/

namespace Node

open Preparing Executing

/-- The part of an execution that comes after its preparation. -/
def finish (node : Node) (savepoint : String) (ctx : ExecutionContext) :
    Preparing ExecutionOutcome :=
  fun world =>
    let (result, state) := (complete node savepoint).run ⟨ctx, world⟩
    (result, state.world)

theorem run_finish (node : Node) (savepoint : String) (ctx : ExecutionContext) (w : World) :
    (finish node savepoint ctx).run w =
      (((complete node savepoint).run ⟨ctx, w⟩).1,
        ((complete node savepoint).run ⟨ctx, w⟩).2.world) :=
  rfl

/-- An execution is prepared and then finished. -/
theorem execute_eq_bind (node : Node) (request : ExecutionRequest) :
    (node.execute request : Preparing ExecutionOutcome) =
      prepare node request >>= finish node request.savepoint := by
  funext world
  refine Eq.trans ?_ (run_bind _ _ world).symm
  unfold execute
  rcases (prepare node request).run world with ⟨e | ctx, w⟩
  · rfl
  · rfl

/-- An execution ends with an error of storage itself if and only if its savepoint cannot be opened,
gone back to or closed. -/
theorem execute_exposes (node : Node) (request : ExecutionRequest) (world : World) :
    Exposes (node.execute request : Preparing ExecutionOutcome) world := by
  rw [execute_eq_bind]
  refine (prepare_exposes request).bind fun ctx w hprepare => ?_
  have hcomplete : Exposes (complete node request.savepoint) ⟨ctx, w⟩ :=
    complete_exposes (prepare_ok hprepare).opened.holds
  refine ⟨⟨hcomplete.later, fun hnone => ?_⟩, hcomplete.told⟩
  have hcalm := hcomplete.calm hnone
  rw [run_finish, run_finish]
  change (((complete node request.savepoint).run (Calling.calm ⟨ctx, w⟩)).1,
    ((complete node request.savepoint).run (Calling.calm ⟨ctx, w⟩)).2.world) = _
  rw [hcalm]
  rfl

end Node

end Covenant
