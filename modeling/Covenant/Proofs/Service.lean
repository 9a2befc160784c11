import Covenant.Proofs.Execution.Ending
import Covenant.Service

/-!
# What rejected messages leave behind

A node gives every message a session of its own, so nothing of a rejected transaction is published.
Its registry is shared by all of them: executions that are not committed restore it, but nothing
restores it once an execution is committed and its session cannot be published.
-/

namespace Covenant

/-- The flag and the wallet of every contract. -/
def Registry.standing (registry : Registry) : List (Bool × Int) :=
  registry.contracts.map fun contract => (contract.owner.active, contract.owner.walletId)

namespace ServiceState

/-- The world of an execution in a session that is opened now. -/
def opened (state : ServiceState) : World :=
  (state.attempt .begin).2.world (.begin state.database)

@[simp] theorem opened_registry (state : ServiceState) : state.opened.registry = state.registry :=
  rfl

end ServiceState

namespace Service

open Registry

variable {service : Service} {state state' : ServiceState}

/-- How a transaction ends at a node, and what it leaves in the node's state. -/
inductive Answered (service : Service) (request : ExecutionRequest) (state : ServiceState) :
    Except ExecutionError ExecutionOutcome → ServiceState → Prop
  /-- No session could be opened. -/
  | unopened {e : ExecutionError} {state' : ServiceState} :
      state.failures.next .begin ≠ none → state'.database = state.database →
      state'.registry = state.registry → Answered service request state (.error e) state'
  | rejected {e : ExecutionError} {w : World} {state' : ServiceState} :
      service.node.execute request state.opened = (.error e, w) →
      state'.database = state.database → state'.registry = w.registry →
      Answered service request state (.error e) state'
  /-- The session could not be published. -/
  | unpublished {e : ExecutionError} {outcome : ExecutionOutcome} {w : World}
      {state' : ServiceState} :
      state.failures.next .begin = none →
      service.node.execute request state.opened = (.ok outcome, w) →
      w.connection.failures.next .commit ≠ none → state'.database = state.database →
      state'.registry = w.registry → Answered service request state (.error e) state'
  | published {outcome : ExecutionOutcome} {w : World} {state' : ServiceState} :
      service.node.execute request state.opened = (.ok outcome, w) →
      w.connection.failures.next .commit = none → state'.database = w.data →
      state'.registry = w.registry → Answered service request state (.ok outcome) state'

/-- Every transaction ends in one of these ways. -/
theorem execute_answered (service : Service) (request : ExecutionRequest) (state : ServiceState) :
    Answered service request state (service.execute request state).1
      (service.execute request state).2 := by
  unfold execute
  cases hbegin : state.failures.next .begin with
  | some e =>
    have hattempt : state.attempt .begin =
        (.error e, { state with failures := state.failures.count .begin }) := by
      simp only [ServiceState.attempt, hbegin]
    rw [hattempt]
    exact .unopened (by simp [hbegin]) rfl rfl
  | none =>
    have hattempt : state.attempt .begin =
        (.ok (), { state with failures := state.failures.count .begin }) := by
      simp only [ServiceState.attempt, hbegin]
    rw [hattempt]
    dsimp only
    rcases hrun : service.node.execute request state.opened with ⟨e | outcome, w⟩
    · have hrun' : service.node.execute request (ServiceState.world
          { state with failures := state.failures.count .begin } (.begin state.database)) =
            (.error e, w) := hrun
      rw [hrun']
      exact .rejected hrun rfl rfl
    · have hrun' : service.node.execute request (ServiceState.world
          { state with failures := state.failures.count .begin } (.begin state.database)) =
            (.ok outcome, w) := hrun
      rw [hrun']
      dsimp only [ServiceState.publish, ServiceState.attempt, ServiceState.resume]
      cases hcommit : w.connection.failures.next .commit with
      | some e => exact .unpublished hbegin hrun (by simp [hcommit]) rfl rfl
      | none => exact .published hrun hcommit rfl rfl

/-- A message is rejected if its transaction is, and counting changes neither data nor contracts. -/
theorem handle_eq {message : ExecutionMessage} {reply : ExecutionReply}
    (h : service.handle message state = (reply, state')) :
    reply = .ofResult message.tx.hash (service.execute message.request state).1 ∧
      state'.database = (service.execute message.request state).2.database ∧
      state'.registry = (service.execute message.request state).2.registry := by
  unfold handle at h
  obtain ⟨rfl, rfl⟩ := Prod.mk.inj h
  refine ⟨rfl, ?_, ?_⟩
  · split
    · rfl
    · rfl
  · split
    · rfl
    · rfl

/-! ## Reachable states -/

/-- The states that a node comes to by loads, messages and changes from outside. It starts with a
database, which may be changed later, and without contracts. -/
inductive Reachable (service : Service) : ServiceState → Prop
  | start {state : ServiceState} : state.database.Keyed → state.registry = .empty →
      Reachable service state
  | loadAll {state : ServiceState} : Reachable service state →
      Reachable service (service.loadAll state).2
  | loadEcosystem (ecosystem : Int) {state : ServiceState} : Reachable service state →
      Reachable service (service.loadEcosystem ecosystem state).2
  | handle (message : ExecutionMessage) {state : ServiceState} : Reachable service state →
      Reachable service (service.handle message state).2
  | store {database : Database} {state : ServiceState} : database.Keyed →
      Reachable service state → Reachable service { state with database }
  | setActive (tableId ecosystem : Int) (active : Bool) {state : ServiceState} :
      Reachable service state → Reachable service
        { state with registry := (state.registry.setActive tableId ecosystem active).2 }
  | reassignWallet (tableId ecosystem walletId : Int) {state : ServiceState} :
      Reachable service state → Reachable service
        { state with registry := (state.registry.reassignWallet tableId ecosystem walletId).2 }

/-- What holds of every reachable state: contract sources are stored under their ids, and the
contracts of every record share one ownership. -/
structure Sound (state : ServiceState) : Prop where
  keyed : state.database.Keyed
  coherent : state.registry.Coherent

/-- Answering a message keeps a state sound. -/
theorem Sound.handle (h : Sound state) (message : ExecutionMessage) :
    Sound (service.handle message state).2 := by
  rcases hhandle : service.handle message state with ⟨reply, state'⟩
  obtain ⟨-, hdatabase, hregistry⟩ := handle_eq hhandle
  have hanswered := execute_answered service message.request state
  rcases hexecute : service.execute message.request state with ⟨r, executed⟩
  rw [hexecute] at hdatabase hregistry hanswered
  suffices hsound : Sound executed by
    exact ⟨hdatabase ▸ hsound.keyed, hregistry ▸ hsound.coherent⟩
  cases hanswered with
  | unopened _ hkept hsame => exact ⟨hkept ▸ h.keyed, hsame ▸ h.coherent⟩
  | rejected hrun hkept hleft =>
    exact ⟨hkept ▸ h.keyed, hleft ▸ (Node.execute_ended hrun).coherent h.coherent⟩
  | unpublished _ hrun _ hkept hleft =>
    exact ⟨hkept ▸ h.keyed, hleft ▸ (Node.execute_ended hrun).coherent h.coherent⟩
  | published hrun _ hnew hleft =>
    refine ⟨?_, hleft ▸ (Node.execute_ended hrun).coherent h.coherent⟩
    rw [hnew, (Node.execute_ended hrun).data]
    exact ⟨h.keyed.ascending, h.keyed.ids⟩

/-- Every reachable state is sound. -/
theorem Reachable.sound (h : service.Reachable state) : Sound state := by
  induction h with
  | start hkeyed hempty => exact ⟨hkeyed, by rw [hempty]; exact Registry.Reachable.empty.coherent⟩
  | @loadAll state _ ih =>
    exact ⟨ih.keyed, Loading.all_keeps service.loading ih.keyed ⟨_, _⟩ ih.coherent⟩
  | @loadEcosystem ecosystem state _ ih =>
    exact ⟨ih.keyed, Loading.ofEcosystem_keeps service.loading ih.keyed ecosystem ⟨_, _⟩
      ih.coherent⟩
  | handle message _ ih => exact ih.handle message
  | store hkeyed _ ih => exact ⟨hkeyed, ih.coherent⟩
  | setActive tableId ecosystem active _ ih =>
    exact ⟨ih.keyed, ih.coherent.snd_changeOwner (overwrites_active active)⟩
  | reassignWallet tableId ecosystem walletId _ ih =>
    exact ⟨ih.keyed, ih.coherent.snd_changeOwner (overwrites_wallet walletId)⟩

end Service

/-! ## A service that cannot publish -/

namespace Sample

/-- A service with the node, which counts nothing. -/
def service : Service :=
  ⟨node, loading, false⟩

/-- The service with both contracts loaded, which can open sessions but not publish them. -/
def unpublishing : ServiceState :=
  (service.loadAll ⟨database, .empty, ⟨failing .commit, []⟩, 0, .zero⟩).2

/-- The message to run the contract at a place of the registry. -/
def message (contractId : Int) : ExecutionMessage :=
  let request := request contractId
  ⟨request.tx, request.block, request.prevBlock, request.flags, some request.savepoint⟩

theorem unpublishing_reachable : service.Reachable unpublishing :=
  .loadAll (.start keyed rfl)

end Sample

namespace Service

open Registry

/-! ## Rejected messages -/

variable {service : Service} {state state' : ServiceState}

/-- The transaction of a message is committed in its session after it has changed flags or wallets,
and then the session cannot be published. -/
def LosesChanges (service : Service) (message : ExecutionMessage) (state : ServiceState) : Prop :=
  ∃ outcome w, state.failures.next .begin = none ∧
    service.node.execute message.request state.opened = (.ok outcome, w) ∧
    outcome.status = .committed ∧ w.registry.standing ≠ state.registry.standing ∧
    w.connection.failures.next .commit ≠ none

/-- A rejected message leaves the published data as it was. It leaves the flags and wallets of all
contracts as they were unless its transaction changes some and is committed, but not published. -/
theorem handle_rejected {message : ExecutionMessage} {reply : ExecutionReply}
    (hreachable : service.Reachable state) (h : service.handle message state = (reply, state'))
    (hreply : reply.status = none) :
    state'.database = state.database ∧
      (state'.registry.standing = state.registry.standing ↔
        ¬ service.LosesChanges message state) := by
  obtain ⟨rfl, hdatabase, hregistry⟩ := handle_eq h
  rw [hdatabase, hregistry]
  have hcoherent := hreachable.sound.coherent
  have hanswered := execute_answered service message.request state
  rcases hexecute : service.execute message.request state with ⟨r, executed⟩
  rw [hexecute] at hreply hanswered
  cases hanswered with
  | unopened hbegin hkept hsame =>
    refine ⟨hkept, iff_of_true (by rw [hsame]) ?_⟩
    rintro ⟨_, _, hbegun, -⟩
    exact hbegin hbegun
  | rejected hrun hkept hleft =>
    refine ⟨hkept, iff_of_true ?_ ?_⟩
    · rcases (Node.execute_ended hrun).registry hcoherent with hsame | ⟨_, hok, -⟩
      · rw [hleft, hsame, ServiceState.opened_registry]
      · cases hok
    · rintro ⟨_, _, -, hok, -⟩
      rw [hrun] at hok
      cases hok
  | @unpublished e outcome w executed hbegin hrun hcommit hkept hleft =>
    refine ⟨hkept, ?_⟩
    rw [hleft]
    constructor
    · rintro hsame ⟨outcome', w', -, hok, -, hchanged, -⟩
      rw [hrun] at hok
      obtain ⟨-, rfl⟩ := Prod.mk.inj hok
      exact hchanged hsame
    · intro hloses
      refine Classical.byContradiction fun hchanged => ?_
      rcases (Node.execute_ended hrun).registry hcoherent with hsame | ⟨_, hok, hcommitted, -⟩
      · rw [hsame, ServiceState.opened_registry] at hchanged
        exact hchanged rfl
      · obtain rfl := Except.ok.inj hok
        exact hloses ⟨_, w, hbegin, hrun, hcommitted, hchanged, hcommit⟩
  | published hrun _ _ _ => cases hreply

/-- The contract gives its record another wallet, and the session cannot be published. -/
private theorem wallet_left_behind :
    ∃ reply state', Sample.service.handle (Sample.message 0) Sample.unpublishing =
        (reply, state') ∧ reply.status = none ∧
      state'.registry.standing ≠ Sample.unpublishing.registry.standing := by
  have hrejected : (Sample.service.handle (Sample.message 0) Sample.unpublishing).1.status =
      none := by decide +kernel
  have hchanged : (Sample.service.handle (Sample.message 0)
      Sample.unpublishing).2.registry.standing ≠ Sample.unpublishing.registry.standing := by
    decide +kernel
  rcases hrun : Sample.service.handle (Sample.message 0) Sample.unpublishing with ⟨reply, state'⟩
  rw [hrun] at hrejected hchanged
  exact ⟨reply, state', rfl, hrejected, hchanged⟩

/-- The message is rejected, and what its transaction changed is there to be lost. -/
theorem handle_rejected_sample :
    ∃ reply state', Sample.service.handle (Sample.message 0) Sample.unpublishing =
        (reply, state') ∧ reply.status = none ∧ state'.database = Sample.unpublishing.database ∧
      Sample.service.LosesChanges (Sample.message 0) Sample.unpublishing := by
  obtain ⟨reply, state', hrun, hrejected, hchanged⟩ := wallet_left_behind
  obtain ⟨hdatabase, hexact⟩ := handle_rejected Sample.unpublishing_reachable hrun hrejected
  exact ⟨reply, state', hrun, hrejected, hdatabase,
    Classical.byContradiction fun hkept => hchanged (hexact.mpr hkept)⟩

/-- A rejected message may leave other flags and wallets than it found. -/
theorem not_standing_of_rejected :
    ¬ ∀ (service : Service) (message : ExecutionMessage) (state state' : ServiceState)
      (reply : ExecutionReply), service.Reachable state →
        service.handle message state = (reply, state') → reply.status = none →
        state'.database = state.database ∧
          state'.registry.standing = state.registry.standing := by
  intro hclaim
  obtain ⟨reply, state', hrun, hrejected, hchanged⟩ := wallet_left_behind
  exact hchanged (hclaim _ _ _ _ _ Sample.unpublishing_reachable hrun hrejected).2

end Service

end Covenant
