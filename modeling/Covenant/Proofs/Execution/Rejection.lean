import Covenant.Proofs.Execution.Ending
import Covenant.Proofs.Payment

/-!
# What rejected executions leave behind

The registry is restored whenever an execution is not committed. The rows are restored whenever one
is rejected, with a single exception: if the savepoint cannot be closed after the fee for a failure
has been paid, the payment stays although the transaction is rejected.
-/

namespace Covenant.Node

open Preparing Executing

variable {node : Node} {request : ExecutionRequest} {world w : World} {t : RunState}
  {r : Except ExecutionError ExecutionOutcome}

/-! ## Rows -/

/-- The fee for a failure stays, also where its savepoint cannot be closed. -/
private theorem charged_of_judge {error : RuntimeError}
    (hjudge : node.judge request world = .ok (.charge error, t))
    (h : node.execute request world = (r, w)) :
    w.data.rows ≠ world.data.rows ∧ (t.world.connection.failures.next .release = none →
      ∃ outcome, r = .ok outcome ∧ outcome.status = .feeCharged) := by
  rw [execute_of_judge_ok hjudge] at h
  obtain ⟨hr, rfl⟩ := Prod.mk.inj h
  obtain ⟨s, hprepared, hsettled⟩ := settled_of_judge hjudge
  cases hsettled with
  | @charge _ t paid hcleared hdata hpaid =>
    obtain ⟨r', u, hrun, -, hkept, hclosed⟩ := run_conclude_charge hprepared.opened
      (continues_settle node .failure hcleared.toContinues hpaid) error
    rw [hrun] at hr ⊢
    refine ⟨?_, fun hnext => ?_⟩
    · rw [← hprepared.same.data, ← hdata, hkept]
      exact (Payment.settle_ok hpaid).rows_ne
    · rcases hclosed with ⟨-, rfl⟩ | ⟨hnot, -⟩
      · exact ⟨_, hr.symm, rfl⟩
      · exact absurd hnext hnot

/-- Without a fee for a failure, an execution is committed or leaves the data as it was. -/
private theorem uncharged_of_judge {v : Verdict} (hv : ∀ error, v ≠ .charge error)
    (hjudge : node.judge request world = .ok (v, t)) (h : node.execute request world = (r, w)) :
    (∃ outcome, r = .ok outcome ∧ outcome.status = .committed) ∨
      (∃ e, r = .error e) ∧ (w.data = world.data ∨
        ∃ n, world.connection.failures.schedule .rollbackTo n ≠ none) := by
  rw [execute_of_judge_ok hjudge] at h
  obtain ⟨rfl, rfl⟩ := Prod.mk.inj h
  obtain ⟨s, hprepared, hsettled⟩ := settled_of_judge hjudge
  rw [← hprepared.same.data, ← hprepared.same.schedule]
  cases hsettled with
  | keep result hcontinues =>
    obtain ⟨r, u, hrun, ⟨-, hcommitted, -, -⟩ | ⟨herror, -, hdata⟩⟩ :=
      run_conclude_keep hprepared.opened hcontinues result
    · rw [hrun]
      exact .inl hcommitted
    · rw [hrun]
      exact .inr ⟨herror, hdata⟩
  | charge error _ _ _ => exact absurd rfl (hv error)
  | reject error hcleared hdata =>
    obtain ⟨e, u, hrun, -, hkept⟩ :=
      run_conclude_reject hprepared.opened hcleared.toContinues error
    rw [hrun]
    exact .inr ⟨⟨e, rfl⟩, .inl (hkept.trans hdata)⟩

/-- As long as storage can go back to savepoints, a rejected execution leaves the rows as they were,
unless the fee for its failure would have been charged if savepoints could be closed. -/
theorem rows_of_rejected {e : ExecutionError}
    (hback : ∀ n, world.connection.failures.schedule .rollbackTo n = none)
    (h : node.execute request world = (.error e, w)) :
    w.data.rows = world.data.rows ↔
      ¬ ∃ outcome w', node.execute request (world.without .release) = (.ok outcome, w') ∧
        outcome.status = .feeCharged := by
  have hwithout := judge_without node request world
  cases hjudge : node.judge request world with
  | error ending =>
    obtain ⟨e', w'⟩ := ending
    rw [hjudge] at hwithout
    have hsame : w = w' := by
      rw [execute_of_judge_error hjudge] at h
      exact (Prod.mk.inj h).2.symm
    refine iff_of_true ?_ ?_
    · have hjudged := judge_judged node request world
      rw [hjudge] at hjudged
      cases hjudged with
      | refused hdata => rw [hsame, hdata.data]
      | stuck _ _ hfailure => exact absurd (hback _) hfailure
    · rintro ⟨outcome, w'', hok, -⟩
      rw [execute_of_judge_error hwithout] at hok
      cases hok
  | ok judgement =>
    obtain ⟨v, t⟩ := judgement
    rw [hjudge] at hwithout
    by_cases hcharge : ∃ error, v = .charge error
    · obtain ⟨error, rfl⟩ := hcharge
      refine iff_of_false (charged_of_judge hjudge h).1 (not_not_intro ?_)
      rcases hexecute : node.execute request (world.without .release) with ⟨r', w'⟩
      obtain ⟨outcome, rfl, hstatus⟩ :=
        (charged_of_judge hwithout hexecute).2 (Failures.next_without_self _ _)
      exact ⟨outcome, w', rfl, hstatus⟩
    · have hv : ∀ error, v ≠ .charge error := fun error heq => hcharge ⟨error, heq⟩
      refine iff_of_true ?_ ?_
      · rcases uncharged_of_judge hv hjudge h with ⟨_, hok, -⟩ | ⟨-, hdata | ⟨n, hfailure⟩⟩
        · cases hok
        · rw [hdata]
        · exact absurd (hback n) hfailure
      · rintro ⟨outcome, w', hok, hstatus⟩
        rcases uncharged_of_judge hv hwithout hok with ⟨_, hsame, hcommitted⟩ | ⟨⟨_, herror⟩, -⟩
        · obtain rfl := Except.ok.inj hsame
          rw [hcommitted] at hstatus
          cases hstatus
        · cases herror

/-- The contract fails, its fee is paid, and the savepoint cannot be closed. -/
private theorem fee_left_behind :
    ∃ e w, Sample.node.execute (Sample.request 1) (Sample.world (Sample.failing .release)) =
        (.error e, w) ∧ w.data.rows ≠ Sample.database.rows := by
  have hrejected : (Sample.node.execute (Sample.request 1)
      (Sample.world (Sample.failing .release))).1.toOption.isNone = true := by decide +kernel
  have htables : (Sample.node.execute (Sample.request 1)
      (Sample.world (Sample.failing .release))).2.data.rows.map Prod.fst ≠
        Sample.database.rows.map Prod.fst := by decide +kernel
  rcases hrun : Sample.node.execute (Sample.request 1) (Sample.world (Sample.failing .release)) with
    ⟨e | outcome, w⟩
  · rw [hrun] at htables
    exact ⟨e, w, rfl, fun hrows => htables (congrArg (List.map Prod.fst) hrows)⟩
  · rw [hrun] at hrejected
    cases hrejected

/-- The payment stays although the transaction is rejected, since it would have been charged for its
failure. -/
theorem rows_of_rejected_sample :
    ∃ e w, Sample.node.execute (Sample.request 1) (Sample.world (Sample.failing .release)) =
        (.error e, w) ∧
      ∃ outcome w', Sample.node.execute (Sample.request 1)
          ((Sample.world (Sample.failing .release)).without .release) = (.ok outcome, w') ∧
        outcome.status = .feeCharged := by
  obtain ⟨e, w, hrun, hrows⟩ := fee_left_behind
  have hexact := rows_of_rejected (fun _ => rfl) hrun
  exact ⟨e, w, hrun, Classical.byContradiction fun hnot => hrows (hexact.mpr hnot)⟩

/-- A rejected execution may leave other rows than it found. -/
theorem not_rows_of_rejected :
    ¬ ∀ (node : Node) (request : ExecutionRequest) (world w : World) (e : ExecutionError),
      (∀ n, world.connection.failures.schedule .rollbackTo n = none) →
        node.execute request world = (.error e, w) → w.data.rows = world.data.rows := by
  intro hclaim
  obtain ⟨e, w, hrun, hrows⟩ := fee_left_behind
  exact hrows (hclaim _ _ _ _ _ (fun _ => rfl) hrun)

/-! ## The registry -/

/-- Unless it is committed, an execution leaves the registry as it found it, whatever contracts it
has changed, whichever storage calls fail. -/
theorem registry_of_not_committed (hreachable : world.registry.Reachable)
    (h : node.execute request world = (r, w))
    (hr : ∀ outcome, r = .ok outcome → outcome.status ≠ .committed) :
    w.registry = world.registry := by
  rcases (execute_ended h).registry hreachable.coherent with hsame | ⟨outcome, hok, hcommitted, -⟩
  · exact hsame
  · exact absurd hcommitted (hr outcome hok)

/-- The contract gives its record another wallet and fails, and storage refuses to go back to the
savepoint: the record has its old wallet again. -/
theorem registry_of_not_committed_sample :
    ∃ e w, Sample.node.execute (Sample.request 1) (Sample.world (Sample.failing .rollbackTo)) =
        (.error e, w) ∧ w.registry = Sample.registry := by
  have hrejected : (Sample.node.execute (Sample.request 1)
      (Sample.world (Sample.failing .rollbackTo))).1.toOption.isNone = true := by decide +kernel
  rcases hrun : Sample.node.execute (Sample.request 1)
    (Sample.world (Sample.failing .rollbackTo)) with ⟨e | outcome, w⟩
  · have hsame := registry_of_not_committed (Sample.reachable _) hrun fun outcome hok => by cases hok
    exact ⟨e, w, rfl, hsame.trans (by simp only [Sample.world])⟩
  · rw [hrun] at hrejected
    cases hrejected

end Covenant.Node
