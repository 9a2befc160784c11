import Covenant.Proofs.Execution.Exposure
import Covenant.Proofs.Service

/-!
# Which failures of storage exclude a transaction

A rejected transaction may be tried again unless it is excluded. A node tells the failures of its
own storage from the faults of a transaction by the error that an execution ends with, and looks for
storage only at the top of it. So the failures that leave a transaction eligible are those of
sessions and savepoints. A transaction that is rejected since a key, a table or a row could not be
read or written is excluded.
-/

namespace Covenant

open Stage

namespace ExecutionError

/-- A rejected transaction is eligible after a failure of storage itself, and when its run has taken
too long. -/
theorem excludesTransaction_eq_false_iff (e : ExecutionError) :
    e.excludesTransaction = false ↔ (∃ cause, e = .storage cause) ∨ e.isTimeout = true := by
  cases e <;> simp [excludesTransaction, isTimeout]

end ExecutionError

namespace ServiceState

/-- The same state, except that no call fails. -/
def calm (state : ServiceState) : ServiceState :=
  { state with failures := state.failures.calm }

end ServiceState

instance : Calling ServiceState where
  failures state := state.failures
  calm state := state.calm

namespace Service

variable {service : Service} {state state' : ServiceState}

/-! ## The parts of an answer -/

/-- The parts of which the execution of a transaction by a service is made. -/
abbrev Serving (α : Type) :=
  Stage ExecutionError ServiceState α

/-- Makes a call that does nothing but fail if a failure is due. -/
def attempting (call : StorageCall) : Serving Unit :=
  fun state => ((state.attempt call).1.mapError .storage, (state.attempt call).2)

/-- What is left of an execution in a session: its result with the session, and the state. -/
def leave (state : ServiceState) (ended : Except ExecutionError ExecutionOutcome × World) :
    Except ExecutionError (ExecutionOutcome × Session) × ServiceState :=
  (ended.1.map fun outcome => (outcome, ended.2.connection.session), state.resume ended.2)

/-- Executes a transaction in a new session, and gives the session as well. -/
def inSession (service : Service) (request : ExecutionRequest) :
    Serving (ExecutionOutcome × Session) :=
  fun state => leave state (service.node.execute request (state.world (.begin state.database)))

/-- Puts the data of a session in the place of those that are published. -/
def replaceData (session : Session) : Serving Unit :=
  fun state => (.ok (), { state with database := session.published })

/-- The execution of a transaction, part by part. -/
def executing (service : Service) (request : ExecutionRequest) : Serving ExecutionOutcome := do
  attempting .begin
  let (outcome, session) ← inSession service request
  attempting .commit
  replaceData session
  return outcome

theorem run_attempting (call : StorageCall) (state : ServiceState) :
    (attempting call).run state =
      ((state.attempt call).1.mapError ExecutionError.storage, (state.attempt call).2) :=
  rfl

theorem run_inSession (service : Service) (request : ExecutionRequest) (state : ServiceState) :
    (inSession service request).run state =
      leave state (service.node.execute request (state.world (.begin state.database))) :=
  rfl

/-- The parts make up the whole. -/
theorem run_executing (service : Service) (request : ExecutionRequest) (state : ServiceState) :
    (executing service request).run state = service.execute request state := by
  unfold execute executing
  rw [run_bind, run_attempting]
  rcases state.attempt .begin with ⟨e | _, state⟩
  · rfl
  · dsimp only [Except.mapError]
    rw [run_bind, run_inSession]
    rcases service.node.execute request (state.world (.begin state.database)) with ⟨e | outcome, w⟩
    · rfl
    · dsimp only [leave, Except.map]
      rw [run_bind, run_attempting]
      unfold ServiceState.publish
      rcases (state.resume w).attempt .commit with ⟨e | _, state⟩
      · rfl
      · rfl

/-! ## What is exposed -/

/-- A call of bookkeeping is exposed if it fails. -/
theorem attempting_exposes {call : StorageCall} (hcall : call.isBookkeeping = true) :
    Exposes (attempting call) state := by
  refine .of_count call hcall ⟨state.failures.later_count call, fun hnone => ?_⟩ rfl
    (fun e hnext => ?_) fun hnext => ?_
  · have hnext : state.failures.next call = none := Failures.next_of_not_met (hnone call)
    rw [run_attempting, run_attempting, ServiceState.attempt, ServiceState.attempt, hnext]
    rfl
  · have hfails : state.failures.next call = some e := hnext
    rw [run_attempting, ServiceState.attempt, hfails]
    rfl
  · have hworks : state.failures.next call = none := hnext
    rw [run_attempting, ServiceState.attempt, hworks]
    exact ⟨(), rfl⟩

/-- A session exposes what the execution in it exposes. -/
theorem inSession_exposes (request : ExecutionRequest) :
    Exposes (inSession service request) state := by
  obtain ⟨⟨hlater, hcalm⟩, htold⟩ :=
    Node.execute_exposes service.node request (state.world (.begin state.database))
  refine ⟨⟨hlater, fun hnone => ?_⟩, Iff.trans ?_ htold⟩
  · have hsame : service.node.execute request (state.calm.world (.begin state.calm.database)) = _ :=
      hcalm hnone
    change leave state.calm (service.node.execute request
      (state.calm.world (.begin state.calm.database))) = _
    rw [hsame]
    rfl
  · change (∃ e, Except.map _ (service.node.execute request
      (state.world (.begin state.database))).1 = _) ↔ ∃ e, (service.node.execute request
        (state.world (.begin state.database))).1 = _
    cases (service.node.execute request (state.world (.begin state.database))).1 with
    | error e => simp [Except.map]
    | ok outcome => exact iff_of_false nofun nofun

/-- A service that executes a transaction exposes the failures of bookkeeping and no others. -/
theorem executing_exposes (service : Service) (request : ExecutionRequest) (state : ServiceState) :
    Exposes (executing service request) state := by
  have hreplace (session : Session) : Working (replaceData session) :=
    .of_failures (fun _ => rfl) fun _ => rfl
  exact (attempting_exposes rfl).bind fun _ _ _ => (inSession_exposes request).bind fun _ _ _ =>
    (attempting_exposes rfl).bind fun _ _ _ => ((hreplace _).exposes_of_ok rfl).bind fun _ _ _ =>
      .pure _

/-! ## Rejected messages -/

/-- A message is rejected because its run has taken too long. -/
def TimesOut (service : Service) (message : ExecutionMessage) (state : ServiceState) : Prop :=
  ∃ e executed, service.execute message.request state = (.error e, executed) ∧ e.isTimeout = true

theorem fst_handle (service : Service) (message : ExecutionMessage) (state : ServiceState) :
    (service.handle message state).1 =
      .ofResult message.tx.hash (service.execute message.request state).1 :=
  rfl

/-- Counting executions makes no calls. -/
theorem handle_failures (service : Service) (message : ExecutionMessage) (state : ServiceState) :
    (service.handle message state).2.failures =
      (service.execute message.request state).2.failures := by
  unfold handle
  dsimp only
  split
  · rfl
  · rfl

/-- A message that is accepted as long as no call fails is rejected only if some call has failed.
Then its transaction is eligible if and only if a session or a savepoint could not be opened, gone
back to, closed or published, or the run has taken too long. -/
theorem eligible_iff {message : ExecutionMessage} {reply : ExecutionReply}
    (haccepted : (service.handle message state.calm).1.status ≠ none)
    (h : service.handle message state = (reply, state')) (hreply : reply.status = none) :
    (∃ call, state.failures.Met state'.failures call) ∧
      (reply.excluded = false ↔
        (∃ call : StorageCall, call.isBookkeeping = true ∧
          state.failures.Met state'.failures call) ∨ service.TimesOut message state) := by
  obtain ⟨⟨-, hcalm⟩, htold⟩ := executing_exposes service message.request state
  have hfailures := handle_failures service message state
  obtain rfl : reply = _ := (congrArg Prod.fst h).symm.trans (fst_handle service message state)
  simp only [run_executing] at hcalm htold
  rcases hexecute : service.execute message.request state with ⟨e | outcome, executed⟩
  · rw [hexecute] at hcalm htold
    rw [h, hexecute] at hfailures
    rw [hfailures]
    constructor
    · -- Without a failure, the message would be rejected where none ever fails.
      refine Classical.byContradiction fun hnone => haccepted ?_
      have hsame : service.execute message.request state.calm = (.error e, executed.calm) :=
        hcalm fun call hmet => hnone ⟨call, hmet⟩
      rw [fst_handle, hsame]
      rfl
    · refine (e.excludesTransaction_eq_false_iff).trans (or_congr ?_ ?_)
      · refine Iff.trans ?_ htold
        simp only [Except.error.injEq]
      · unfold TimesOut
        rw [hexecute]
        simp
  · rw [hexecute] at hreply
    cases hreply

end Service

namespace Sample

/-- The service with both contracts loaded, which cannot read keys. -/
def unreadable : ServiceState :=
  (service.loadAll ⟨database, .empty, ⟨failing .key, []⟩, 0, .zero⟩).2

theorem unreadable_reachable : service.Reachable unreadable :=
  .loadAll (.start keyed rfl)

end Sample

namespace Service

/-- The session cannot be published, and the transaction stays eligible. -/
theorem eligible_iff_sample :
    (Sample.service.handle (Sample.message 0) Sample.unpublishing.calm).1.status ≠ none ∧
      ∃ reply state', Sample.service.handle (Sample.message 0) Sample.unpublishing =
          (reply, state') ∧ reply.status = none ∧ reply.excluded = false ∧
        ((∃ call : StorageCall, call.isBookkeeping = true ∧
            Sample.unpublishing.failures.Met state'.failures call) ∨
          Sample.service.TimesOut (Sample.message 0) Sample.unpublishing) := by
  have hanswers :
      (Sample.service.handle (Sample.message 0) Sample.unpublishing.calm).1.status ≠ none ∧
        (Sample.service.handle (Sample.message 0) Sample.unpublishing).1.status = none ∧
        (Sample.service.handle (Sample.message 0) Sample.unpublishing).1.excluded = false := by
    decide +kernel
  obtain ⟨haccepted, hrejected, heligible⟩ := hanswers
  rcases hrun : Sample.service.handle (Sample.message 0) Sample.unpublishing with ⟨reply, state'⟩
  rw [hrun] at hrejected heligible
  exact ⟨haccepted, reply, state', rfl, hrejected, heligible,
    (eligible_iff haccepted hrun hrejected).2.mp heligible⟩

/-- A transaction may be excluded because the key of its signer could not be read. -/
theorem not_eligible_of_rejected :
    ¬ ∀ (service : Service) (message : ExecutionMessage) (state state' : ServiceState)
      (reply : ExecutionReply), service.Reachable state →
        (service.handle message state.calm).1.status ≠ none →
        service.handle message state = (reply, state') → reply.status = none →
        reply.excluded = false := by
  intro hclaim
  have hanswers :
      (Sample.service.handle (Sample.message 0) Sample.unreadable.calm).1.status ≠ none ∧
        (Sample.service.handle (Sample.message 0) Sample.unreadable).1.status = none ∧
        (Sample.service.handle (Sample.message 0) Sample.unreadable).1.excluded = true := by
    decide +kernel
  obtain ⟨haccepted, hrejected, hexcluded⟩ := hanswers
  rcases hrun : Sample.service.handle (Sample.message 0) Sample.unreadable with ⟨reply, state'⟩
  rw [hrun] at hrejected hexcluded
  rw [hclaim _ _ _ _ _ Sample.unreadable_reachable haccepted hrun hrejected] at hexcluded
  cases hexcluded

end Service

end Covenant
