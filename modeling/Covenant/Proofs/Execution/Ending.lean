import Covenant.Proofs.Execution.Prepare
import Covenant.Proofs.Execution.Verdict
import Covenant.Proofs.Registry.Reachable

/-!
# Whole executions

An execution is refused before its contract runs, gets stuck because storage cannot go back to the
savepoint, or comes to a verdict. Only in the last case is the savepoint to be closed, and the
verdict does not depend on whether it can be.
-/

namespace Covenant

open Stage

namespace Preparing

/-- A prepared execution is about to run its contract. -/
theorem Prepared.opened {request : ExecutionRequest} {world : World} {s : RunState}
    (h : Prepared request world s) : s.Opened request.savepoint where
  savepoints := by
    rw [h.same.data]
    exact h.savepoint
  flush := h.flush

end Preparing

namespace Node

open Preparing Executing

/-- The verdict on an execution and the state at that time, or the error with which the execution
has ended before. -/
def judge (node : Node) (request : ExecutionRequest) (world : World) :
    Except (ExecutionError × World) (Verdict × RunState) :=
  match (prepare node request).run world with
  | (.error e, w) => .error (e, w)
  | (.ok ctx, w) =>
    match (verdict node request.savepoint).run ⟨ctx, w⟩ with
    | (.error e, t) => .error (e, t.world)
    | (.ok v, t) => .ok (v, t)

variable {node : Node} {request : ExecutionRequest} {world w : World} {t : RunState} {v : Verdict}
  {e : ExecutionError}

/-- Without a verdict there is nothing to close; otherwise the verdict decides how it is done. -/
theorem execute_eq (node : Node) (request : ExecutionRequest) (world : World) :
    node.execute request world =
      match node.judge request world with
      | .error (e, w) => (.error e, w)
      | .ok (v, t) => (((conclude request.savepoint v).run t).1,
          ((conclude request.savepoint v).run t).2.world) := by
  unfold execute judge
  rcases (prepare node request).run world with ⟨e | ctx, w⟩
  · rfl
  · dsimp only
    rcases hverdict : (verdict node request.savepoint).run ⟨ctx, w⟩ with ⟨e | v, t⟩
    · rw [complete_eq, run_bind_of_error hverdict]
    · rw [complete_eq, run_bind_of_ok hverdict]
      rfl

theorem execute_of_judge_error (h : node.judge request world = .error (e, w)) :
    node.execute request world = (.error e, w) := by
  rw [execute_eq, h]

theorem execute_of_judge_ok (h : node.judge request world = .ok (v, t)) :
    node.execute request world = (((conclude request.savepoint v).run t).1,
      ((conclude request.savepoint v).run t).2.world) := by
  rw [execute_eq, h]

/-- How far an execution comes before its savepoint is to be closed. -/
inductive Judged (node : Node) (request : ExecutionRequest) (world : World) :
    Except (ExecutionError × World) (Verdict × RunState) → Prop
  /-- The contract has not run. -/
  | refused {e : ExecutionError} {w : World} :
      world.SameData w → Judged node request world (.error (e, w))
  /-- Storage cannot go back to the savepoint. -/
  | stuck {e : ExecutionError} {s t : RunState} {n : Nat} :
      Prepared request world s → s.Cleared t →
      world.connection.failures.schedule .rollbackTo n ≠ none →
      Judged node request world (.error (e, t.world))
  | settled {s t : RunState} {v : Verdict} :
      Prepared request world s → Settled node s (.ok v) t → Judged node request world (.ok (v, t))

/-- Every execution is refused, gets stuck, or is settled. -/
theorem judge_judged (node : Node) (request : ExecutionRequest) (world : World) :
    Judged node request world (node.judge request world) := by
  unfold judge
  rcases hprepare : (prepare node request).run world with ⟨e | ctx, w⟩
  · exact .refused ((prepare_calm node request).keeps.run hprepare)
  · dsimp only
    have hprepared := prepare_ok hprepare
    have hsettled := verdict_settled node hprepared.opened
    rcases hverdict : (verdict node request.savepoint).run ⟨ctx, w⟩ with ⟨e | v, t⟩
    · rw [hverdict] at hsettled
      cases hsettled with
      | @stuck error n t hcleared hfailure =>
        rw [hprepared.same.schedule] at hfailure
        exact .stuck hprepared hcleared (by rw [hfailure]; exact Option.some_ne_none _)
    · rw [hverdict] at hsettled
      exact .settled hprepared hsettled

/-- A verdict is on what a prepared execution has done. -/
theorem settled_of_judge (h : node.judge request world = .ok (v, t)) :
    ∃ s, Prepared request world s ∧ Settled node s (.ok v) t := by
  have hjudged := judge_judged node request world
  rw [h] at hjudged
  cases hjudged with
  | settled hprepared hsettled => exact ⟨_, hprepared, hsettled⟩

/-- The verdict does not depend on whether the savepoint can be closed. -/
theorem judge_without (node : Node) (request : ExecutionRequest) (world : World) :
    node.judge request (world.without .release) =
      match node.judge request world with
      | .error (e, w) => .error (e, w.without .release)
      | .ok (v, t) => .ok (v, t.without .release) := by
  unfold judge
  rw [(prepare_calm node request).ignores world]
  rcases (prepare node request).run world with ⟨e | ctx, w⟩
  · rfl
  · have hsame := verdict_ignores node request.savepoint ⟨ctx, w⟩
    change (match (verdict node request.savepoint).run (RunState.without ⟨ctx, w⟩ .release) with
      | (.error e, t) => _ | (.ok v, t) => _) = _
    rw [hsame]
    dsimp only
    rcases (verdict node request.savepoint).run ⟨ctx, w⟩ with ⟨e | v, t⟩
    · rfl
    · rfl

/-! ## Endings -/

/-- How an execution ends, and what it leaves in the world. -/
inductive Ended (node : Node) (request : ExecutionRequest) (world : World) :
    Except ExecutionError ExecutionOutcome → World → Prop
  /-- The contract has not run. -/
  | refused {e : ExecutionError} {w : World} : world.SameData w →
      Ended node request world (.error e) w
  /-- What the contract did is kept. -/
  | committed {outcome : ExecutionOutcome} {s t : RunState} {w : World} :
      Prepared request world s → s.Continues t → outcome.status = .committed →
      w.registry = t.world.registry → w.data = t.world.data →
      Ended node request world (.ok outcome) w
  /-- The fee for a failure is paid, which is told unless the savepoint cannot be closed. -/
  | charged {error : RuntimeError} {r : Except ExecutionError ExecutionOutcome} {s t : RunState}
      {paid : Connection} {w : World} :
      Prepared request world s → s.Cleared t → t.world.data = s.world.data →
      (Payment.settle node.fees t.ctx .failure).run t.world.connection = (.ok (), paid) →
      w.registry = t.world.registry → w.data = paid.session.working →
      (r = .ok { status := .feeCharged, result := error.clientMessage,
                 fuelUsed := t.ctx.fuel.consumed, rollback := [], notifications := [] } ∨
        ∃ e, r = .error e) →
      Ended node request world r w
  /-- What the contract did is undone, but for rows if storage cannot go back to the savepoint. -/
  | undone {e : ExecutionError} {s t : RunState} {w : World} :
      Prepared request world s → s.Cleared t → w.registry = t.world.registry →
      w.data = t.world.data → (t.world.data = s.world.data ∨
        ∃ n, world.connection.failures.schedule .rollbackTo n ≠ none) →
      Ended node request world (.error e) w

variable {r : Except ExecutionError ExecutionOutcome}

/-- Every execution ends in one of these ways. -/
theorem execute_ended (h : node.execute request world = (r, w)) :
    Ended node request world r w := by
  have hjudged := judge_judged node request world
  rw [execute_eq] at h
  generalize node.judge request world = judgement at h hjudged
  cases hjudged with
  | refused hsame =>
    obtain ⟨rfl, rfl⟩ := Prod.mk.inj h
    exact .refused hsame
  | stuck hprepared hcleared hfailure =>
    obtain ⟨rfl, rfl⟩ := Prod.mk.inj h
    exact .undone hprepared hcleared rfl rfl (.inr ⟨_, hfailure⟩)
  | settled hprepared hsettled =>
    obtain ⟨rfl, rfl⟩ := Prod.mk.inj h
    cases hsettled with
    | keep result hcontinues =>
      obtain ⟨r, u, hrun, ⟨-, ⟨outcome, rfl, hstatus⟩, hregistry, hdata⟩ |
          ⟨⟨e, rfl⟩, hcleared, hdata⟩⟩ := run_conclude_keep hprepared.opened hcontinues result
      · rw [hrun]
        exact .committed hprepared hcontinues hstatus hregistry hdata
      · rw [hrun]
        rw [hprepared.same.schedule] at hdata
        exact .undone hprepared hcleared rfl rfl hdata
    | @charge error t paid hcleared hdata hpaid =>
      obtain ⟨r, u, hrun, hregistry, hkept, hr⟩ := run_conclude_charge hprepared.opened
        (continues_settle node .failure hcleared.toContinues hpaid) error
      rw [hrun]
      exact .charged hprepared hcleared hdata hpaid hregistry hkept
        (hr.imp (fun h => h.2) fun h => h.2)
    | reject error hcleared hdata =>
      obtain ⟨e, u, hrun, hregistry, hkept⟩ :=
        run_conclude_reject hprepared.opened hcleared.toContinues error
      rw [hrun]
      exact .undone hprepared hcleared hregistry hkept (.inl hdata)

/-- Executions change nothing that is stored but rows. -/
theorem Ended.data (h : Ended node request world r w) :
    w.data = { world.data with rows := w.data.rows } := by
  cases h with
  | refused hsame => rw [hsame.data]
  | committed hprepared hcontinues _ _ hdata =>
    rw [hdata, ← hprepared.same.data]
    exact hcontinues.connection.session.working
  | @charged error _ s t paid _ hprepared hcleared hdata hpaid _ hkept _ =>
    have hwithin := (Payment.settle_within node.fees t.ctx .failure).keeps.run hpaid
    rw [hkept, ← hprepared.same.data, ← hdata]
    exact hwithin.session.working
  | undone hprepared hcleared _ hdata _ =>
    rw [hdata, ← hprepared.same.data]
    exact hcleared.connection.session.working

/-- Only a committed execution may leave another registry than it found, and even then the contracts
of every record share one ownership. -/
theorem Ended.registry (h : Ended node request world r w) (hregistry : world.registry.Coherent) :
    w.registry = world.registry ∨
      ∃ outcome, r = .ok outcome ∧ outcome.status = .committed ∧ w.registry.Coherent := by
  cases h with
  | refused hsame => exact .inl hsame.registry
  | committed hprepared hcontinues hstatus hkept _ =>
    rw [← hprepared.same.registry] at hregistry
    exact .inr ⟨_, rfl, hstatus, hkept ▸ hcontinues.coherent hregistry⟩
  | charged hprepared hcleared _ _ hkept _ _ =>
    rw [← hprepared.same.registry] at hregistry ⊢
    exact .inl (hkept.trans (hcleared.registry hprepared.opened hregistry))
  | undone hprepared hcleared hkept _ _ =>
    rw [← hprepared.same.registry] at hregistry ⊢
    exact .inl (hkept.trans (hcleared.registry hprepared.opened hregistry))

/-- Whatever an execution does, the contracts of every record share one ownership. -/
theorem Ended.coherent (h : Ended node request world r w) (hregistry : world.registry.Coherent) :
    w.registry.Coherent := by
  rcases h.registry hregistry with hsame | ⟨_, -, -, hcoherent⟩
  · rw [hsame]
    exact hregistry
  · exact hcoherent

end Node

/-! ## A small node -/

namespace Sample

open Preparing

/-- Two contracts of one record. Both give the record's contracts another wallet, and one of them
fails after that. -/
def source : String :=
  "contract Move \x7b\n action \x7b\n  wallet 1 1 8\n \x7d\n\x7d\n" ++
    "contract Stop \x7b\n action \x7b\n  wallet 1 1 8\n  fail no\n \x7d\n\x7d\n"

/-- The record of the contracts, a payer, and the wallet that the contracts have at first. -/
def database : Database :=
  { Database.empty with
    contracts := [(1, ⟨1, 1, source, 3, 1, true, "", 1⟩)]
    rows := [("1_keys", [(3, [("amount", .int 5)]),
      (7, [("amount", .int 100), ("pub", .bytes [2])])])] }

/-- One record is read at a time, and the system has no functions. -/
def loading : Registry.LoadSettings := ⟨1, ""⟩

/-- The registry with both contracts. -/
def registry : Registry :=
  ((Registry.Loading.all loading database).run ⟨.empty, .none⟩).2.registry

/-- A session on a database whose record has another source, with its contracts loaded. -/
def running (database : Database) (source : String) : World :=
  let database := { database with contracts := [(1, ⟨1, 1, source, 3, 1, true, "", 1⟩)] }
  let registry := ((Registry.Loading.all loading database).run ⟨.empty, .none⟩).2.registry
  ⟨⟨.begin database, .none⟩, registry, 0⟩

/-- A node to which every signature is one of key 7. -/
def node : Node :=
  ⟨.default, ⟨fun _ => .ok 7, fun _ _ _ => .ok true⟩, .default false⟩

/-- A request of key 7 to run the contract at a place of the registry. -/
def request (contractId : Int) : ExecutionRequest :=
  let block : BlockHeader := ⟨1, 8, 0, 0, Hash.zero⟩
  { tx :=
      { contractId, ecosystemId := 1, keyId := 7, signedBy := none, publicKey := [],
        signature := [9], maxSum := none, hash := Hash.zero, time := 0, size := 0, fields := [] }
    block, prevBlock := block, flags := .none, savepoint := "sp" }

/-- Where the run of the first contract begins, if its request can be prepared. -/
def start? (world : World) : Option RunState :=
  match (prepare node (request 0)).run world with
  | (.ok ctx, w) => some ⟨ctx, w⟩
  | (.error _, _) => none

theorem prepare_of_start? {world : World} {s : RunState} (h : start? world = some s) :
    (prepare node (request 0)).run world = (.ok s.ctx, s.world) := by
  unfold start? at h
  split at h
  next ctx w hprepare =>
    obtain rfl := Option.some.inj h
    exact hprepare
  next => cases h

/-- A session on the database with failures ahead. -/
def world (schedule : StorageCall → Nat → Option StorageError) : World :=
  ⟨⟨.begin database, ⟨schedule, []⟩⟩, registry, 0⟩

/-- Calls of one kind fail. -/
def failing (call : StorageCall) : StorageCall → Nat → Option StorageError :=
  fun other _ => if other = call then some (.other "refused") else none

theorem keyed : database.Keyed :=
  ⟨by decide, by simp [database]⟩

/-- The registry has come about by a load. -/
theorem reachable (schedule : StorageCall → Nat → Option StorageError) :
    (world schedule).registry.Reachable := by
  have hload : registry.Reachable := by
    unfold registry
    exact .loadAll loading keyed .none .empty
  simpa only [world] using hload

end Sample

end Covenant
