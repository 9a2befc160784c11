import Covenant.Proofs.ClientMessage
import Covenant.Proofs.Execution.Acceptance
import Covenant.Proofs.Execution.Terminal

/-!
# The length of results

The result of an accepted execution is what its contract gives, cut to a bounded length, or what clients
see of the error for which a fee was charged, which is not cut. So a result keeps the bound unless the
execution fails with too many words.
-/

namespace Covenant

open Stage

namespace RuntimeError

open ExecutionContext

variable {error : RuntimeError}

theorem length_render_panic (words : String) :
    (panic words).render.length = 25 + (Json.writeString words).length := by
  have hwrite : Json.write (panic words) =
      "\x7b\"error\":".toList ++ (Json.writeString words ++ ",\"type\":\"panic\"\x7d".toList) := rfl
  rw [Json.render, String.length_ofList, hwrite, List.length_append, List.length_append]
  change 9 + ((Json.writeString words).length + 16) = _
  omega

/-- What clients see of the error is no longer than a result that was cut: its words, or its words in
quotes and the twenty-five characters around them. -/
def IsBrief (error : RuntimeError) : Prop :=
  (if error.KeepsWords then error.message.length
    else 25 + (Json.writeString error.message).length) ≤ resultLimit + cutMark.length

theorem resultFits_clientMessage_iff :
    resultFits error.clientMessage = true ↔ error.IsBrief := by
  unfold resultFits IsBrief
  rw [decide_eq_true_iff]
  split
  next hkeeps => rw [clientMessage_of_keepsWords hkeeps]
  next hkeeps => rw [clientMessage_of_not_keepsWords hkeeps, length_render_panic]

end RuntimeError

namespace Executing

variable {node : Node} {s t u : RunState} {savepoint text : String} {error error' : RuntimeError}

/-- An execution that is kept does not fail. -/
theorem Kept.not_fails (h : Kept node u.entered t) (hrun : (Run.invoke node).run s = (.ok text, u)) :
    ¬ Fails node s error := by
  rintro (hfailed | ⟨hsucceeded, hreserved, hunpaid⟩)
  · cases hrun.symm.trans hfailed
  · obtain ⟨-, rfl⟩ := Prod.mk.inj (hrun.symm.trans hsucceeded)
    cases h with
    | free hfree => exact absurd (hfree.symm.trans hreserved) Bool.false_ne_true
    | paid _ hpaid => cases hpaid.symm.trans hunpaid

/-- There is one reason for a failure. -/
theorem Fails.unique (h : Fails node s error) (h' : Fails node s error') : error = error' := by
  cases h with
  | run hrun =>
    cases h' with
    | run hrun' => exact Except.error.inj (Prod.mk.inj (hrun.symm.trans hrun')).1
    | unpaid hrun' => cases hrun.symm.trans hrun'
  | unpaid hrun _ hunpaid =>
    cases h' with
    | run hrun' => cases hrun.symm.trans hrun'
    | unpaid hrun' _ hunpaid' =>
      obtain ⟨-, rfl⟩ := Prod.mk.inj (hrun.symm.trans hrun')
      rw [Except.error.inj (Prod.mk.inj (hunpaid.symm.trans hunpaid')).1]

/-- The fee for a failure is charged for the error that it is about. -/
theorem eq_of_failVerdict (h : (failVerdict node savepoint error).run s = (.ok (.charge error'), t)) :
    error' = error := by
  obtain ⟨_, u, -, h⟩ := run_bind_eq_ok h
  obtain ⟨ctx, v, -, h⟩ := run_bind_eq_ok h
  split at h
  · cases h
  · obtain ⟨paid, x, -, h⟩ := run_bind_eq_ok h
    split at h
    · cases h
      rfl
    · obtain ⟨_, y, -, h⟩ := run_bind_eq_ok h
      cases h

/-- The result of an execution that comes to an outcome is a cut one, if it does not fail, and otherwise
what clients see of the error. -/
theorem result_of_complete {outcome : ExecutionOutcome}
    (h : (complete node savepoint).run s = (.ok outcome, t)) :
    (∃ text, outcome.status = .committed ∧ outcome.result = ExecutionContext.truncateResult text ∧
      ∀ error, ¬ Fails node s error) ∨
    ∃ error, outcome.status = .feeCharged ∧ outcome.result = error.clientMessage ∧
      Fails node s error := by
  rw [complete_eq] at h
  obtain ⟨v, u, hv, hconclude⟩ := run_bind_eq_ok h
  rcases run_verdict node savepoint s with ⟨error, x, hfails, hverdict⟩ |
    ⟨text, x, y, hrun, hkept, hverdict⟩
  · have hfailed := hverdict.symm.trans hv
    rcases conclude_eq_ok hconclude with ⟨result, rfl, -⟩ | ⟨error', rfl, hstatus, hresult, -⟩
    · exact absurd hfailed failVerdict_ne_keep
    · exact .inr ⟨error', hstatus, hresult, eq_of_failVerdict hfailed ▸ hfails⟩
  · obtain ⟨hkeep, rfl⟩ := Prod.mk.inj (hverdict.symm.trans hv)
    obtain rfl := Except.ok.inj hkeep
    rcases conclude_eq_ok hconclude with ⟨result, hsame, hstatus, hresult, -⟩ | ⟨error', hsame, -⟩
    · obtain rfl := Verdict.keep.inj hsame
      exact .inl ⟨text, hstatus, hresult, fun error => hkept.not_fails hrun⟩
    · cases hsame

theorem resultFits_iff_of_complete {outcome : ExecutionOutcome}
    (h : (complete node savepoint).run s = (.ok outcome, t)) :
    ExecutionContext.resultFits outcome.result = true ↔
      ∀ error, Fails node s error → error.IsBrief := by
  rcases result_of_complete h with ⟨text, -, hresult, hnot⟩ | ⟨error, -, hresult, hfails⟩
  · rw [hresult]
    exact iff_of_true (ExecutionContext.resultFits_truncateResult text)
      fun error hfails => absurd hfails (hnot error)
  · rw [hresult, RuntimeError.resultFits_clientMessage_iff]
    exact ⟨fun hbrief error' hfails' => hfails.unique hfails' ▸ hbrief,
      fun hbrief => hbrief error hfails⟩

end Executing

namespace Sample

/-- A contract fails with these words. -/
def failingWith (words : String) : World :=
  running database ("contract Stop \x7b\n action \x7b\n  fail " ++ words ++ "\n \x7d\n\x7d\n")

/-- Too many words, since each of these characters is shown as two. -/
def manyWords : String :=
  String.ofList (List.replicate 117 '"')

theorem not_isBrief_manyWords : ¬ (RuntimeError.domain manyWords).IsBrief := by
  have hwords : manyWords.toList = List.replicate 117 '"' := String.toList_ofList
  have hkeeps : ¬ (RuntimeError.domain manyWords).KeepsWords := by
    rintro (hbrace | htimeout)
    · change manyWords.toList.head? = _ at hbrace
      rw [hwords] at hbrace
      cases hbrace
    · cases htimeout
  have hquote : Json.escapeChar '"' = ['\\', '"'] := rfl
  have hlength : (Json.writeString manyWords).length = 236 := by
    rw [Json.writeString, hwords, List.flatMap_replicate, hquote, List.length_cons,
      List.length_append, List.length_flatten, List.map_replicate, List.sum_replicate_nat]
    rfl
  have hmessage : (RuntimeError.domain manyWords).message = manyWords := rfl
  rw [RuntimeError.IsBrief, if_neg hkeeps, hmessage, hlength]
  decide

end Sample

namespace Node

open Preparing Executing

variable {node : Node} {request : ExecutionRequest} {world w : World} {outcome : ExecutionOutcome}

/-- The result of a committed execution keeps the bound. That of any accepted execution does exactly if
the execution does not fail, or fails with an error that is brief. -/
theorem result_fits_iff (h : node.execute request world = (.ok outcome, w)) :
    ∃ s, (prepare node request).run world = (.ok s.ctx, s.world) ∧
      (outcome.status = .committed → ExecutionContext.resultFits outcome.result = true) ∧
      (ExecutionContext.resultFits outcome.result = true ↔
        ∀ error, Fails node s error → error.IsBrief) := by
  obtain ⟨s, t, hprepare, hcomplete, -⟩ := exists_complete_of_execute h
  refine ⟨s, hprepare, fun hcommitted => ?_, resultFits_iff_of_complete hcomplete⟩
  rcases result_of_complete hcomplete with ⟨text, -, hresult, -⟩ | ⟨error, hstatus, -, -⟩
  · rw [hresult]
    exact ExecutionContext.resultFits_truncateResult text
  · rw [hstatus] at hcommitted
    cases hcommitted

/-- A failure with one word is brief, and its result keeps the bound. -/
theorem result_fits_iff_sample :
    ∃ s outcome w, (prepare Sample.node (Sample.request 0)).run (Sample.failingWith "no") =
        (.ok s.ctx, s.world) ∧
      Sample.node.execute (Sample.request 0) (Sample.failingWith "no") = (.ok outcome, w) ∧
      outcome.status = .feeCharged ∧ ∀ error, Fails Sample.node s error → error.IsBrief := by
  have hcheck : (Sample.node.execute (Sample.request 0) (Sample.failingWith "no")).1.toOption.map
      (fun outcome => (outcome.status, ExecutionContext.resultFits outcome.result)) =
        some (.feeCharged, true) := by
    decide +kernel
  rcases hrun : Sample.node.execute (Sample.request 0) (Sample.failingWith "no") with
    ⟨e | outcome, w⟩
  · rw [hrun] at hcheck
    cases hcheck
  · rw [hrun] at hcheck
    obtain ⟨hstatus, hfits⟩ := Prod.mk.inj (Option.some.inj hcheck)
    obtain ⟨s, hprepare, -, hiff⟩ := result_fits_iff hrun
    exact ⟨s, outcome, w, hprepare, rfl, hstatus, hiff.mp hfits⟩

/-- A contract that fails with many words has a result beyond the bound. -/
theorem not_result_fits :
    ¬ ∀ (node : Node) (request : ExecutionRequest) (world w : World) (outcome : ExecutionOutcome),
      node.execute request world = (.ok outcome, w) →
        ExecutionContext.resultFits outcome.result = true := by
  intro hclaim
  have hcheck : (Sample.start? (Sample.failingWith Sample.manyWords)).map (fun s =>
      (match ((Run.invoke Sample.node).run s).1 with
        | .error error => some error
        | .ok _ => none,
      ((complete Sample.node "sp").run s).1.toOption.isSome)) =
        some (some (.domain Sample.manyWords), true) := by
    decide +kernel
  obtain ⟨s, hstart, hcheck⟩ := Option.map_eq_some_iff.mp hcheck
  obtain ⟨hfailed, haccepted⟩ := Prod.mk.inj hcheck
  have hprepare := Sample.prepare_of_start? hstart
  have hfails : Fails Sample.node s (.domain Sample.manyWords) := by
    rcases hrun : (Run.invoke Sample.node).run s with ⟨error | text, t⟩
    · rw [hrun] at hfailed
      obtain rfl := Option.some.inj hfailed
      exact .run hrun
    · rw [hrun] at hfailed
      cases hfailed
  rcases hcomplete : (complete Sample.node "sp").run s with ⟨e | outcome, t⟩
  · rw [hcomplete] at haccepted
    cases haccepted
  · have hexecute : Sample.node.execute (Sample.request 0)
        (Sample.failingWith Sample.manyWords) = (.ok outcome, t.world) := by
      rw [execute, hprepare]
      change (((complete Sample.node "sp").run s).1, ((complete Sample.node "sp").run s).2.world) = _
      rw [hcomplete]
    have hbrief := (resultFits_iff_of_complete hcomplete).mp (hclaim _ _ _ _ _ hexecute)
    exact Sample.not_isBrief_manyWords (hbrief _ hfails)

end Node

end Covenant
