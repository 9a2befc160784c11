import Covenant.Proofs.Execution.Acceptance
import Covenant.Proofs.Execution.Chronicle

/-!
# Undoing committed executions

The outcome of a committed execution holds a record of every row that its contract has written, or a
contract that this one has called. If no fee was due, these are all rows that were written at all, and
taking the records back, from the last to the first, brings back the rows as they were before. The
text in a record is read again only up to some nesting, though, and a contract may write over rows
that nest deeper.
-/

namespace Covenant

open Stage

namespace Sample

/-- A text inside so many lists. -/
def boxed : (depth : Nat) → Value
  | 0 => .text "x"
  | depth + 1 => .list [boxed depth]

/-- A table besides the keys, with a value in its only row. -/
def holding (value : Value) (source : String) : World :=
  running (database.setRow "1_t" 1 [("a", value)]) source

/-- The request for the first contract, which costs no fee. -/
def unpaid : ExecutionRequest :=
  { request 0 with flags := { ExecutionFlags.none with fullAccess := true } }

/-- A contract adds a row, writes over the row that was there, and calls another contract, which writes
over the new row. -/
def rewriting : String :=
  "contract First \x7b\n action \x7b\n  insert t a=2\n  update t 1 b=$last_id\n" ++
    "  call Second\n \x7d\n\x7d\n" ++
    "contract Second \x7b\n action \x7b\n  update t 2 a=3\n \x7d\n\x7d\n"

/-- A contract writes over the row that was there. -/
def amending : String :=
  "contract Amend \x7b\n action \x7b\n  update t 1 b=2\n \x7d\n\x7d\n"

theorem boxed_isProper (depth : Nat) : (boxed depth).IsProper := by
  induction depth with
  | zero => trivial
  | succ depth ih => exact ⟨ih, trivial⟩

theorem nesting_boxed (depth : Nat) : (boxed depth).nesting = depth := by
  induction depth with
  | zero => rfl
  | succ depth ih => simp [boxed, Value.nesting, Value.itemsNesting, ih]

theorem database_isProper : database.IsProper := by
  have hwallet : (Value.map [("amount", .int 5)]).IsProper :=
    ⟨List.pairwise_singleton .., (by decide : Quantity.InRange 5), trivial⟩
  have hpayer : (Value.map [("amount", .int 100), ("pub", .bytes [2])]).IsProper :=
    ⟨by unfold Dict.Ascending; decide, (by decide : Quantity.InRange 100), trivial, trivial⟩
  refine Database.isProper_of_rows fun table htable entry hentry => ?_
  obtain rfl := List.mem_singleton.mp htable
  rcases List.mem_cons.mp hentry with rfl | hentry
  · exact hwallet
  · obtain rfl := List.mem_singleton.mp hentry
    exact hpayer

theorem row?_holding (value : Value) (source : String) :
    (holding value source).data.row? "1_t" 1 = some [("a", value)] := by
  change (database.setRow "1_t" 1 [("a", value)]).row? "1_t" 1 = _
  rw [Database.row?_setRow, if_pos ⟨rfl, rfl⟩]

theorem holding_isProper {value : Value} {source : String} (hvalue : value.IsProper)
    (hprograms : (holding value source).registry.IsProper) : (holding value source).IsProper := by
  have hrow : (Value.map [("a", value)]).IsProper :=
    ⟨List.pairwise_singleton .., hvalue, trivial⟩
  exact ⟨database_isProper.setRow hrow "1_t" 1, hprograms⟩

theorem unpaid_isProper : unpaid.IsProper :=
  ⟨by decide, Dict.ascending_nil, trivial⟩

/-- What is seen of the execution of the request, if it is committed. -/
def committed? {α : Type} (world : World) (view : ExecutionOutcome → World → α) : Option α :=
  match node.execute unpaid world with
  | (.ok outcome, w) => if outcome.status = .committed then some (view outcome w) else none
  | (.error _, _) => none

theorem execute_of_committed? {α : Type} {world : World} {view : ExecutionOutcome → World → α}
    {a : α} (h : committed? world view = some a) :
    ∃ outcome w, node.execute unpaid world = (.ok outcome, w) ∧ outcome.status = .committed ∧
      view outcome w = a := by
  unfold committed? at h
  split at h
  next outcome w hrun =>
    split at h
    next hstatus => exact ⟨outcome, w, hrun, hstatus, Option.some.inj h⟩
    next => cases h
  next => cases h

end Sample

namespace Node

open Preparing Executing

variable {node : Node} {request : ExecutionRequest} {world w : World} {outcome : ExecutionOutcome}

/-- What a committed execution without a fee writes, it keeps records of, and the rows that it writes
over are proper. -/
theorem execute_becomes (hworld : world.IsProper) (hrequest : request.IsProper)
    (hmax : Quantity.InRange node.params.maxCost)
    (hfree : node.fees.isDueFor request.flags = false)
    (h : node.execute request world = (.ok outcome, w)) (hstatus : outcome.status = .committed) :
    ∃ writes, world.data.Becomes writes w.data ∧
      outcome.rollback = writes.map RowWrite.record ∧
      w.connection.session.log =
        world.connection.session.log ++ writes.map RowWrite.statement ∧
      ∀ write ∈ writes, write.IsProper := by
  obtain ⟨s, hprepare, haccepted⟩ := execute_accepted h
  have hprepared := prepare_ok hprepare
  have hproper := prepare_isProper hworld hrequest hmax hprepare
  have hnone : s.ctx.rollback = [] := by
    obtain ⟨_, _, _, _, hctx⟩ := prepare_context hprepare
    rw [hctx]
    rfl
  have hreserved : s.ctx.paymentReserved = false := (prepare_reserved hprepare).trans hfree
  cases haccepted with
  | charged _ _ _ _ hcharged _ _ =>
    rw [hcharged] at hstatus
    cases hstatus
  | @committed text u t hinvoke hkept _ hreports =>
    have hcontinues := (Run.invoke_tame node).keeps.run hinvoke
    obtain ⟨writes, hwrote, hholds⟩ := Run.invoke_goes node s
    rw [hinvoke] at hwrote hholds
    cases hkept with
    | paid hdue _ =>
      have hdue : s.ctx.paymentReserved = true := hcontinues.ctx.paymentReserved.symm.trans hdue
      rw [hreserved] at hdue
      cases hdue
    | free _ =>
      refine ⟨writes, ?_, ?_, ?_, ?_⟩
      · rw [hreports.data, ← hprepared.same.data]
        exact hwrote.data
      · rw [hreports.rollback]
        exact hwrote.rollback.trans (by rw [hnone, List.nil_append])
      · rw [hreports.log, ← hprepared.same.log]
        exact hwrote.log
      · exact (hholds hproper).2

/-- Every row that a committed execution without a fee writes leaves a record. Taken back, these records
bring back the rows as they were; and they can all be taken back if and only if no row that was written
over nests too deep to be read again. -/
theorem undo_iff (hworld : world.IsProper) (hrequest : request.IsProper)
    (hmax : Quantity.InRange node.params.maxCost)
    (hfree : node.fees.isDueFor request.flags = false)
    (h : node.execute request world = (.ok outcome, w)) (hstatus : outcome.status = .committed) :
    ∃ writes, world.data.Becomes writes w.data ∧
      outcome.rollback = writes.map RowWrite.record ∧
      w.connection.session.log =
        world.connection.session.log ++ writes.map RowWrite.statement ∧
      (∀ back, w.data.undoAll? outcome.rollback = some back → back.SameRows world.data) ∧
      ((∃ back, w.data.undoAll? outcome.rollback = some back) ↔
        ∀ write ∈ writes, write.IsShallow) := by
  obtain ⟨writes, hbecomes, hrollback, hlog, hwrites⟩ :=
    execute_becomes hworld hrequest hmax hfree h hstatus
  refine ⟨writes, hbecomes, hrollback, hlog, fun back hback => ?_, ?_⟩
  · rw [hrollback] at hback
    exact Database.undoAll?_sameRows hbecomes hwrites hback
  · rw [hrollback]
    exact Database.undoAll?_iff hbecomes hwrites

/-- The two contracts write three times, to an old row and to a new one, and all of that is taken
back. -/
theorem undo_iff_sample :
    ∃ outcome w, Sample.node.execute Sample.unpaid (Sample.holding (.int 1) Sample.rewriting) =
        (.ok outcome, w) ∧
      ∃ back, w.data.undoAll? outcome.rollback = some back ∧
        back.SameRows (Sample.holding (.int 1) Sample.rewriting).data := by
  have hproper : (Sample.holding (.int 1) Sample.rewriting).IsProper :=
    Sample.holding_isProper (by decide : Quantity.InRange 1) (by decide +kernel)
  have hcommitted : Sample.committed? (Sample.holding (.int 1) Sample.rewriting)
      (fun outcome w => (outcome.rollback.map RollbackRecord.rowId,
        (w.data.undoAll? outcome.rollback).isSome)) = some ([2, 1, 2], true) := by
    decide +kernel
  obtain ⟨outcome, w, hrun, hstatus, hview⟩ := Sample.execute_of_committed? hcommitted
  obtain ⟨-, hall⟩ := Prod.mk.inj hview
  obtain ⟨writes, -, -, -, hsame, -⟩ :=
    undo_iff hproper Sample.unpaid_isProper (by decide) rfl hrun hstatus
  obtain ⟨back, hback⟩ := Option.isSome_iff_exists.mp hall
  exact ⟨outcome, w, hrun, back, hback, hsame back hback⟩

/-- A row that nests deep is written over, and is not brought back. -/
theorem not_undo :
    ¬ ∀ (node : Node) (request : ExecutionRequest) (world w : World) (outcome : ExecutionOutcome),
      world.IsProper → request.IsProper → Quantity.InRange node.params.maxCost →
        node.fees.isDueFor request.flags = false →
          node.execute request world = (.ok outcome, w) → outcome.status = .committed →
            (∀ record ∈ outcome.rollback, Quantity.InRange record.rowId) →
              ∃ back, w.data.undoAll? outcome.rollback = some back ∧
                back.SameRows world.data := by
  intro hclaim
  have hproper : (Sample.holding (Sample.boxed 127) Sample.amending).IsProper :=
    Sample.holding_isProper (Sample.boxed_isProper 127) (by decide +kernel)
  have hcommitted : Sample.committed? (Sample.holding (Sample.boxed 127) Sample.amending)
      (fun outcome _ => outcome.rollback.map fun record => (record.table, record.rowId)) =
        some [("1_t", 1)] := by decide +kernel
  obtain ⟨outcome, w, hrun, hstatus, hview⟩ := Sample.execute_of_committed? hcommitted
  obtain ⟨record, hrecord, hplace⟩ := List.map_eq_singleton_iff.mp hview
  obtain ⟨htable, hid⟩ := Prod.mk.inj hplace
  have hids : ∀ record ∈ outcome.rollback, Quantity.InRange record.rowId := by
    rw [hrecord, List.forall_mem_singleton, hid]
    decide
  obtain ⟨writes, hbecomes, hrollback, -, hwrites⟩ :=
    execute_becomes hproper Sample.unpaid_isProper (by decide) rfl hrun hstatus
  obtain ⟨back, hback, -⟩ := hclaim _ _ _ _ _ hproper Sample.unpaid_isProper (by decide) rfl hrun
    hstatus hids
  rw [hrollback] at hback
  have hshallow := Database.isShallow_of_undoAll? hwrites hback
  rw [hrecord] at hrollback
  obtain ⟨write, rfl, hwrite⟩ := List.map_eq_singleton_iff.mp hrollback.symm
  subst hwrite
  cases hbecomes with
  | cons htakes _ =>
    have hprevious := htakes.previous
    rw [show write.table = "1_t" from htable, show write.id = 1 from hid,
      Sample.row?_holding] at hprevious
    have hle := hshallow write (List.mem_singleton_self _) _ hprevious
    simp [Value.nesting, Value.entriesNesting, Sample.nesting_boxed, Value.nestingLimit] at hle

end Node

end Covenant
