import Covenant.Proofs.Execution.Ending
import Covenant.Proofs.Payment

/-!
# The fee for a failure

An execution that fails and pays for it leaves nothing behind but the fee: whatever the contract
has written before, to whatever rows, is undone when the fee is taken.
-/

namespace Covenant.Node

open Preparing Executing

variable {node : Node} {request : ExecutionRequest} {world w : World}

/-- A failure for which a fee was charged has changed the payer's balance, that of the recipient and
the history, and nothing else. The recipient is the wallet that the contract had at the start. -/
theorem execute_feeCharged {outcome : ExecutionOutcome}
    (h : node.execute request world = (.ok outcome, w)) (hstatus : outcome.status = .feeCharged) :
    ∃ contract, world.registry.lookupById request.tx.contractId = some contract ∧
      let recipient :=
        if contract.owner.walletId = 0 then request.block.keyId else contract.owner.walletId
      let fee := Quantity.add node.fees.minFee (Quantity.mul outcome.fuelUsed node.fees.fuelPrice)
      FeePaid request.tx.ecosystemId request.tx.keyId recipient fee
        (Dict.ofList [("sender_id", .int request.tx.keyId), ("recipient_id", .int recipient),
          ("amount", .int fee), ("comment", .text "fee (failed)"),
          ("block_id", .int request.block.blockId), ("txhash", .text request.tx.hash.hex)])
        world.data w.data ∧
      outcome.rollback = [] ∧ outcome.notifications = [] := by
  cases execute_ended h with
  | committed _ _ hcommitted _ _ =>
    rw [hcommitted] at hstatus
    cases hstatus
  | @charged error _ s t paid _ hprepared hcleared hdata hpaid _ hkept hr =>
    rcases hr with hr | ⟨e, hr⟩
    · obtain rfl := Except.ok.inj hr
      refine ⟨s.ctx.contract, hprepared.contract, ?_, rfl, rfl⟩
      have htx : t.ctx.tx = request.tx := hcleared.ctx.tx.trans hprepared.tx
      have hblock : t.ctx.block = request.block := hcleared.ctx.block.trans hprepared.block
      have hcontract : t.ctx.contract = s.ctx.contract := hcleared.ctx.contract
      have hconsumed : 0 ≤ t.ctx.fuel.consumed :=
        hcleared.ctx.consumed (Int.le_of_eq hprepared.consumed.symm)
      have hfee := Payment.settle_ok hpaid
      simp only [ExecutionContext.ecosystemId, Payment.recipient, Payment.historyRow, htx, hblock,
        hcontract, PaymentMode.comment, FeeSchedule.fee_of_nonneg _ hconsumed] at hfee
      rw [hkept, ← hprepared.same.data, ← hdata]
      exact hfee
    · cases hr

/-- The contract gives its record another wallet and fails; the fee goes to the old one. -/
theorem execute_feeCharged_sample :
    ∃ outcome w, Sample.node.execute (Sample.request 1) (Sample.world fun _ _ => none) =
        (.ok outcome, w) ∧ outcome.status = .feeCharged ∧
      FeePaid 1 7 3 12
        (Dict.ofList [("sender_id", .int 7), ("recipient_id", .int 3), ("amount", .int 12),
          ("comment", .text "fee (failed)"), ("block_id", .int 1), ("txhash", .text Hash.zero.hex)])
        Sample.database w.data := by
  have hcheck : (Sample.node.execute (Sample.request 1) (Sample.world fun _ _ => none)).1.toOption.map
      (fun outcome => (outcome.status, outcome.fuelUsed)) = some (.feeCharged, 2) := by
    decide +kernel
  have hwallet : ((Sample.world fun _ _ => none).registry.lookupById
      (Sample.request 1).tx.contractId).map (·.owner.walletId) = some 3 := by
    decide +kernel
  rcases hrun : Sample.node.execute (Sample.request 1) (Sample.world fun _ _ => none) with
    ⟨e | outcome, w⟩
  · rw [hrun] at hcheck
    cases hcheck
  · rw [hrun] at hcheck
    obtain ⟨hstatus, hused⟩ := Prod.mk.inj (Option.some.inj hcheck)
    obtain ⟨contract, hfound, hfee, -, -⟩ := execute_feeCharged hrun hstatus
    have howner : contract.owner.walletId = 3 := by
      rw [hfound] at hwallet
      exact Option.some.inj hwallet
    simp only [howner, hused] at hfee
    exact ⟨outcome, w, rfl, hstatus, hfee⟩

end Covenant.Node
