import Mathlib.Algebra.Ring.Int.Defs
import Covenant.Proofs.Execution.Acceptance
import Covenant.Proofs.Execution.Custody
import Covenant.Proofs.Payment
import Covenant.Proofs.Service
import Covenant.Proofs.Text.Numeral

/-!
# The ledger of an ecosystem

Balances change by payments alone where contracts cannot write the tables of keys and history. Then
the history tells of every payment, and every balance is what it was at first, less what the history
has it pay, and more by what the history has it earn from others. What one accepted message adds is
shown first; sequences of messages follow by putting such steps one behind the other.
-/

namespace Covenant

open Stage

/-! ## Transfers -/

/-- What a row of the history says: who has paid whom, and how much. -/
structure Transfer where
  sender : Int
  recipient : Int
  amount : Int
  deriving DecidableEq, Repr

namespace Transfer

/-- The transfer that a row tells of. -/
def ofRow? (row : Row) : Option Transfer := do
  let sender ← (Dict.find? "sender_id" row).bind Value.asInt?
  let recipient ← (Dict.find? "recipient_id" row).bind Value.asInt?
  let amount ← (Dict.find? "amount" row).bind Value.asInt?
  return ⟨sender, recipient, amount⟩

/-- What a key has paid. -/
def spent (id : Int) (transfers : List Transfer) : Int :=
  ((transfers.filter fun t => t.sender = id).map amount).sum

/-- What a key has earned from others. -/
def earned (id : Int) (transfers : List Transfer) : Int :=
  ((transfers.filter fun t => t.recipient = id ∧ t.sender ≠ id).map amount).sum

variable {id : Int} {xs ys : List Transfer} {t : Transfer}

theorem spent_singleton_of_eq (h : t.sender = id) : spent id [t] = t.amount := by
  simp [spent, h]

theorem spent_singleton_of_ne (h : t.sender ≠ id) : spent id [t] = 0 := by
  simp [spent, h]

theorem earned_singleton (h : t.recipient = id ∧ t.sender ≠ id) : earned id [t] = t.amount := by
  simp [earned, h]

theorem earned_singleton_of_not (h : ¬ (t.recipient = id ∧ t.sender ≠ id)) : earned id [t] = 0 := by
  simp only [earned, List.filter_cons, List.filter_nil, decide_eq_false h]
  rfl

theorem spent_append : spent id (xs ++ ys) = spent id xs + spent id ys := by
  simp only [spent, List.filter_append, List.map_append, List.sum_append]

theorem earned_append : earned id (xs ++ ys) = earned id xs + earned id ys := by
  simp only [earned, List.filter_append, List.map_append, List.sum_append]

/-- The row that a payment adds tells of it. -/
theorem ofRow?_historyRow (ctx : ExecutionContext) (fee : Int) (mode : PaymentMode) :
    ofRow? (Payment.historyRow ctx fee mode) =
      some ⟨ctx.tx.keyId, Payment.recipient ctx, fee⟩ := by
  simp [ofRow?, Payment.historyRow, Dict.ofList, Dict.insertAll, Dict.find?_insert, Value.asInt?]

end Transfer

/-- The payments of an ecosystem from one database to another: the history has a row more for each of
them, and they alone have changed the balances. -/
structure Reconciles (ecosystem : Int) (transfers : List Transfer) (before after : Database) :
    Prop where
  tables : after.tables = before.tables
  /-- The history has a row more for each payment, under an id of its own. -/
  history : ∃ added, Database.Adds (TableName.history ecosystem) added before after ∧
    added.map (fun entry => Transfer.ofRow? entry.2) = transfers.map some
  /-- A balance is lowered by what the key has paid, and raised by what it has earned from others. It
  stays a quantity. -/
  balances : ∀ id row balance, before.row? (TableName.keys ecosystem) id = some row →
    Database.amountOf? row = some balance →
    ∃ row', after.row? (TableName.keys ecosystem) id = some row' ∧
      Database.amountOf? row' =
        some (balance - Transfer.spent id transfers + Transfer.earned id transfers) ∧
      (0 ≤ balance → 0 ≤ balance - Transfer.spent id transfers + Transfer.earned id transfers) ∧
      (Quantity.InRange balance → Quantity.InRange
        (balance - Transfer.spent id transfers + Transfer.earned id transfers))
  /-- A row without a balance takes no part in payments. -/
  unread : ∀ id row, before.row? (TableName.keys ecosystem) id = some row →
    Database.amountOf? row = none → after.row? (TableName.keys ecosystem) id = some row

namespace Reconciles

variable {ecosystem : Int} {xs ys : List Transfer} {a b c : Database}

/-- Without payments, nothing changes. -/
theorem of_same (htables : b.tables = a.tables)
    (hkeys : b.table (TableName.keys ecosystem) = a.table (TableName.keys ecosystem))
    (hhistory : b.table (TableName.history ecosystem) = a.table (TableName.history ecosystem)) :
    Reconciles ecosystem [] a b where
  tables := htables
  history := ⟨[], .nil hhistory, rfl⟩
  balances id row balance hrow hbalance := by
    have hnone : balance - Transfer.spent id [] + Transfer.earned id [] = balance := by
      simp [Transfer.spent, Transfer.earned]
    rw [hnone]
    refine ⟨row, ?_, hbalance, fun h => h, fun h => h⟩
    rw [← hrow, Database.row?, hkeys]
    rfl
  unread id row hrow _ := by
    rw [← hrow, Database.row?, hkeys]
    rfl

/-- Payments one after the other are reconciled together. -/
theorem trans (h : Reconciles ecosystem xs a b) (k : Reconciles ecosystem ys b c) :
    Reconciles ecosystem (xs ++ ys) a c where
  tables := k.tables.trans h.tables
  history := by
    obtain ⟨first, hfirst, hxs⟩ := h.history
    obtain ⟨second, hsecond, hys⟩ := k.history
    exact ⟨first ++ second, hfirst.trans hsecond, by rw [List.map_append, List.map_append, hxs, hys]⟩
  balances id row balance hrow hbalance := by
    obtain ⟨row₁, hrow₁, hbalance₁, hnonneg₁, hrange₁⟩ := h.balances id row balance hrow hbalance
    obtain ⟨row₂, hrow₂, hbalance₂, hnonneg₂, hrange₂⟩ := k.balances id row₁ _ hrow₁ hbalance₁
    have hsum : balance - Transfer.spent id xs + Transfer.earned id xs - Transfer.spent id ys +
        Transfer.earned id ys = balance - Transfer.spent id (xs ++ ys) +
          Transfer.earned id (xs ++ ys) := by
      rw [Transfer.spent_append, Transfer.earned_append]
      omega
    rw [hsum] at hbalance₂ hnonneg₂ hrange₂
    exact ⟨row₂, hrow₂, hbalance₂, fun h => hnonneg₂ (hnonneg₁ h), fun h => hrange₂ (hrange₁ h)⟩
  unread id row hrow hbalance := k.unread id row (h.unread id row hrow hbalance) hbalance

end Reconciles

/-! ## One payment -/

namespace TableName

variable {ecosystem other : Int}

theorem keys_inj (h : keys ecosystem = keys other) : ecosystem = other := by
  rw [keys_eq, keys_eq] at h
  exact Text.toString_int_inj (front_inj (noUnderscore_toString _) (noUnderscore_toString _) h)

theorem history_inj (h : history ecosystem = history other) : ecosystem = other := by
  rw [history_eq, history_eq] at h
  exact Text.toString_int_inj (front_inj (noUnderscore_toString _) (noUnderscore_toString _) h)

/-- No table of keys is one of a history. -/
theorem keys_ne_history_of_ecosystems (ecosystem other : Int) : keys ecosystem ≠ history other := by
  intro h
  rw [keys_eq, history_eq] at h
  exact absurd (rest_inj (noUnderscore_toString _) (noUnderscore_toString _) h) (by decide)

end TableName

namespace FeeSchedule

/-- A fee takes nothing away from its recipient. -/
theorem fee_nonneg {schedule : FeeSchedule} (hmin : 0 ≤ schedule.minFee)
    (hprice : 0 ≤ schedule.fuelPrice) (fuelUsed : Int) : 0 ≤ schedule.fee fuelUsed := by
  have hproduct : 0 ≤ Quantity.mul (max fuelUsed 0) schedule.fuelPrice :=
    Quantity.clamp_nonneg (Int.mul_nonneg (Int.le_max_right _ _) hprice)
  exact Quantity.clamp_nonneg (Int.add_nonneg hmin hproduct)

end FeeSchedule

/-- The transfer can be added in full to the balance of another recipient, if there is one. -/
def Transfer.Fits (ecosystem : Int) (db : Database) (t : Transfer) : Prop :=
  t.recipient ≠ t.sender →
    ∀ balance ∈ (db.row? (TableName.keys ecosystem) t.recipient).bind Database.amountOf?,
      Quantity.add balance t.amount = balance + t.amount

instance (ecosystem : Int) (db : Database) (t : Transfer) : Decidable (t.Fits ecosystem db) :=
  inferInstanceAs (Decidable (_ → _))

theorem Database.amountOf?_insert (amount : Int) (row : Row) :
    amountOf? (Dict.insert "amount" (.int amount) row) = some amount := by
  rw [amountOf?, Dict.find?_insert, if_pos rfl]
  rfl

namespace FeePaid

variable {ecosystem : Int} {t : Transfer} {entry : Row} {before after : Database}

/-- A payment that fits is reconciled. -/
theorem balances (h : FeePaid ecosystem t.sender t.recipient t.amount entry before after)
    (hamount : 0 ≤ t.amount) (hfits : t.Fits ecosystem before) {id balance : Int} {row : Row}
    (hrow : before.row? (TableName.keys ecosystem) id = some row)
    (hbalance : Database.amountOf? row = some balance) :
    ∃ row', after.row? (TableName.keys ecosystem) id = some row' ∧
      Database.amountOf? row' =
        some (balance - Transfer.spent id [t] + Transfer.earned id [t]) ∧
      (0 ≤ balance → 0 ≤ balance - Transfer.spent id [t] + Transfer.earned id [t]) ∧
      (Quantity.InRange balance →
        Quantity.InRange (balance - Transfer.spent id [t] + Transfer.earned id [t])) := by
  by_cases hsender : t.sender = id
  · obtain ⟨found, available, hfound, havailable, hle, hrange, hafter⟩ := h.debit
    rw [hsender, hrow] at hfound
    obtain rfl := Option.some.inj hfound
    obtain rfl := Option.some.inj (hbalance.symm.trans havailable)
    rw [hsender] at hafter
    rw [Transfer.spent_singleton_of_eq hsender,
      Transfer.earned_singleton_of_not fun hboth => hboth.2 hsender, Int.add_zero]
    exact ⟨_, hafter, Database.amountOf?_insert _ _, fun _ => by omega, fun _ => hrange⟩
  · rw [Transfer.spent_singleton_of_ne hsender]
    by_cases hrecipient : t.recipient = id
    · have hdifferent : t.recipient ≠ t.sender := by
        rw [hrecipient]
        exact Ne.symm hsender
      rw [← hrecipient] at hrow
      obtain ⟨held, hheld, hafter⟩ := h.credit hdifferent row hrow
      obtain rfl := Option.some.inj (hbalance.symm.trans hheld)
      have hsum : Quantity.add balance t.amount = balance + t.amount :=
        hfits hdifferent balance (by rw [hrow]; exact hbalance)
      rw [hsum, hrecipient] at hafter
      rw [Transfer.earned_singleton ⟨hrecipient, hsender⟩, Int.sub_zero]
      exact ⟨_, hafter, Database.amountOf?_insert _ _, fun _ => by omega,
        fun _ => hsum ▸ Quantity.add_inRange balance t.amount⟩
    · rw [Transfer.earned_singleton_of_not fun hboth => hrecipient hboth.1, Int.sub_zero, Int.add_zero]
      refine ⟨row, ?_, hbalance, fun h => h, fun h => h⟩
      rw [← hrow]
      refine h.rows _ _ (fun hboth => hsender hboth.2.symm)
        (fun hboth => absurd hboth.2.symm hrecipient) fun hboth => ?_
      exact TableName.keys_ne_history _ hboth.1

/-- A payment needs the balances of those whom it concerns. -/
theorem unread {payer recipient fee : Int}
    (h : FeePaid ecosystem payer recipient fee entry before after) {id : Int} {row : Row}
    (hrow : before.row? (TableName.keys ecosystem) id = some row)
    (hbalance : Database.amountOf? row = none) :
    after.row? (TableName.keys ecosystem) id = some row := by
  have hpayer : id ≠ payer := by
    rintro rfl
    obtain ⟨found, available, hfound, havailable, -⟩ := h.debit
    rw [hrow] at hfound
    obtain rfl := Option.some.inj hfound
    rw [hbalance] at havailable
    cases havailable
  have hrecipient : id ≠ recipient := by
    rintro rfl
    obtain ⟨held, hheld, -⟩ := h.credit hpayer row hrow
    rw [hbalance] at hheld
    cases hheld
  rw [← hrow]
  exact h.rows _ _ (fun hboth => hpayer hboth.2) (fun hboth => absurd hboth.2 hrecipient)
    fun hboth => TableName.keys_ne_history _ hboth.1

end FeePaid

/-- A payment that is made is reconciled in its ecosystem, and does not concern any other. -/
theorem Payment.settle_reconciles {schedule : FeeSchedule} {ctx : ExecutionContext}
    {mode : PaymentMode} {c d : Connection} {ecosystem : Int} (hmin : 0 ≤ schedule.minFee)
    (hprice : 0 ≤ schedule.fuelPrice) (h : (settle schedule ctx mode).run c = (.ok (), d))
    (hfits : ctx.ecosystemId = ecosystem → Transfer.Fits ecosystem c.session.working
      ⟨ctx.tx.keyId, recipient ctx, schedule.fee ctx.fuel.consumed⟩) :
    Reconciles ecosystem
      (if ctx.ecosystemId = ecosystem then
        [⟨ctx.tx.keyId, recipient ctx, schedule.fee ctx.fuel.consumed⟩] else [])
      c.session.working d.session.working := by
  have hpaid := settle_ok h
  obtain ⟨⟨entry, hadded⟩, hothers⟩ := settle_tables h
  have htables : d.session.working.tables = c.session.working.tables := by
    rw [hpaid.rest]
  split
  next hsame =>
    subst hsame
    exact
      { tables := htables
        history := ⟨_, hadded, by rw [List.map_singleton, Transfer.ofRow?_historyRow]; rfl⟩
        balances := fun id row balance hrow hbalance =>
          hpaid.balances (FeeSchedule.fee_nonneg hmin hprice _) (hfits rfl) hrow hbalance
        unread := fun id row hrow hbalance => hpaid.unread hrow hbalance }
  next hother =>
    refine .of_same htables (hothers _ ?_ ?_) (hothers _ ?_ ?_)
    · exact fun hkeys => hother (TableName.keys_inj hkeys).symm
    · exact TableName.keys_ne_history_of_ecosystems _ _
    · exact (TableName.keys_ne_history_of_ecosystems _ _).symm
    · exact fun hhistory => hother (TableName.history_inj hhistory).symm

/-! ## One accepted transaction -/

/-- Who earns the fee for a request. -/
def ExecutionRequest.earner (request : ExecutionRequest) (registry : Registry) : Int :=
  let wallet := ((registry.lookupById request.tx.contractId).map (·.owner.walletId)).getD 0
  if wallet = 0 then request.block.keyId else wallet

namespace Node

open Preparing Executing

variable {node : Node} {request : ExecutionRequest} {world w : World} {outcome : ExecutionOutcome}
  {ecosystem : Int}

/-- What an accepted transaction that has spent so much fuel pays in an ecosystem. -/
def transfers (node : Node) (ecosystem : Int) (request : ExecutionRequest) (registry : Registry)
    (fuelUsed : Int) : List Transfer :=
  if node.fees.isDueFor request.flags && request.tx.ecosystemId == ecosystem then
    [⟨request.tx.keyId, request.earner registry, node.fees.fee fuelUsed⟩]
  else []

/-- What the contract of a transaction without full access does is reconciled without payments. -/
theorem reconciles_of_invoke {s : RunState} (haccess : s.ctx.flags.fullAccess = false)
    (hkeys : s.world.data.Barred (TableName.keys ecosystem))
    (hhistory : s.world.data.Barred (TableName.history ecosystem)) :
    Reconciles ecosystem [] s.world.data ((Run.invoke node).run s).2.world.data :=
  .of_same (Run.invoke_leavesTable haccess hkeys).tables
    (Run.invoke_leavesTable haccess hkeys).rows (Run.invoke_leavesTable haccess hhistory).rows

/-- A payment for a request is one of the transfers of an accepted transaction. -/
theorem reconciles_of_settle {ctx : ExecutionContext} {mode : PaymentMode} {c d : Connection}
    {registry : Registry} (hmin : 0 ≤ node.fees.minFee) (hprice : 0 ≤ node.fees.fuelPrice)
    (htx : ctx.tx = request.tx) (hblock : ctx.block = request.block)
    (hcontract : registry.lookupById request.tx.contractId = some ctx.contract)
    (hdue : node.fees.isDueFor request.flags = true)
    (hpaid : (Payment.settle node.fees ctx mode).run c = (.ok (), d))
    (hfits : ∀ t ∈ node.transfers ecosystem request registry ctx.fuel.consumed,
      t.Fits ecosystem c.session.working) :
    Reconciles ecosystem (node.transfers ecosystem request registry ctx.fuel.consumed)
      c.session.working d.session.working := by
  have hrecipient : Payment.recipient ctx = request.earner registry := by
    rw [Payment.recipient, ExecutionRequest.earner, hcontract, hblock]
    rfl
  have htransfers : node.transfers ecosystem request registry ctx.fuel.consumed =
      if ctx.ecosystemId = ecosystem then
        [⟨ctx.tx.keyId, Payment.recipient ctx, node.fees.fee ctx.fuel.consumed⟩] else [] := by
    rw [transfers, hdue, hrecipient, ExecutionContext.ecosystemId, htx]
    simp
  rw [htransfers] at hfits ⊢
  refine Payment.settle_reconciles hmin hprice hpaid fun hsame => hfits _ ?_
  rw [if_pos hsame]
  exact List.mem_singleton_self _

/-- A transfer fits if the balances are those that it was found to fit. -/
theorem fits_of_table {a b : Database}
    (h : b.table (TableName.keys ecosystem) = a.table (TableName.keys ecosystem)) {t : Transfer}
    (hfits : t.Fits ecosystem a) : t.Fits ecosystem b := by
  unfold Transfer.Fits Database.row? at hfits ⊢
  rwa [h]

/-- An accepted transaction without full access pays what it has to, and does nothing else to the
ledger. -/
theorem execute_reconciles (haccess : request.flags.fullAccess = false)
    (hmin : 0 ≤ node.fees.minFee) (hprice : 0 ≤ node.fees.fuelPrice)
    (hkeys : world.data.Barred (TableName.keys ecosystem))
    (hhistory : world.data.Barred (TableName.history ecosystem))
    (h : node.execute request world = (.ok outcome, w))
    (hfits : ∀ t ∈ node.transfers ecosystem request world.registry outcome.fuelUsed,
      t.Fits ecosystem world.data) :
    Reconciles ecosystem (node.transfers ecosystem request world.registry outcome.fuelUsed)
      world.data w.data := by
  obtain ⟨s, hprepare, haccepted⟩ := execute_accepted h
  have hprepared := prepare_ok hprepare
  have hreserved := prepare_reserved hprepare
  have hflags := prepare_flags hprepare
  rw [← hprepared.same.data] at hkeys hhistory hfits ⊢
  cases haccepted with
  | @committed text u t hinvoke hkept _ hreports =>
    have hrun : Reconciles ecosystem [] s.world.data ((Run.invoke node).run s).2.world.data :=
      reconciles_of_invoke (hflags ▸ haccess) hkeys hhistory
    have hleaves : s.LeavesTable (TableName.keys ecosystem) ((Run.invoke node).run s).2 :=
      Run.invoke_leavesTable (hflags ▸ haccess) hkeys
    have hcontinues := (Run.invoke_tame node).keeps.run hinvoke
    rw [hinvoke] at hrun hleaves
    rw [hreports.fuelUsed, hkept.ctx] at hfits ⊢
    rw [hreports.data]
    cases hkept with
    | free hfree =>
      have hnone : node.fees.isDueFor request.flags = false := by
        rw [← hreserved, ← hcontinues.ctx.paymentReserved]
        exact hfree
      rw [transfers, hnone]
      exact hrun
    | paid hdue hpaid =>
      have htx : u.entered.ctx.tx = request.tx := hcontinues.ctx.tx.trans hprepared.tx
      have hblock : u.entered.ctx.block = request.block :=
        hcontinues.ctx.block.trans hprepared.block
      have hcontract : world.registry.lookupById request.tx.contractId =
          some u.entered.ctx.contract :=
        hprepared.contract.trans (congrArg some hcontinues.ctx.contract.symm)
      have hfees : node.fees.isDueFor request.flags = true := by
        rw [← hreserved, ← hcontinues.ctx.paymentReserved]
        exact hdue
      exact hrun.trans (reconciles_of_settle hmin hprice htx hblock hcontract hfees hpaid
        fun t ht => fits_of_table hleaves.rows (hfits t ht))
  | @charged t paid hcleared hdata hdue hpaid _ hfuel hstored =>
    have hctx := hcleared.ctx
    rw [hfuel] at hfits ⊢
    rw [hstored, ← hdata]
    refine reconciles_of_settle hmin hprice (hctx.tx.trans hprepared.tx)
      (hctx.block.trans hprepared.block)
      (hprepared.contract.trans (congrArg some hctx.contract.symm)) ?_ hpaid ?_
    · rw [← hreserved, ← hctx.paymentReserved]
      exact hdue
    · rw [← hdata] at hfits
      exact hfits

end Node

namespace Service

variable {service : Service} {ecosystem : Int} {state : ServiceState}

/-! ## Sequences of messages -/

/-- What a message pays in an ecosystem when it is answered in a state; a rejected one pays nothing. -/
def transfers (service : Service) (ecosystem : Int) (message : ExecutionMessage)
    (state : ServiceState) : List Transfer :=
  let reply := (service.handle message state).1
  if reply.status.isSome then
    service.node.transfers ecosystem message.request state.registry reply.fuelUsed
  else []

/-- The state after messages have been answered, one after the other. -/
def handleAll (service : Service) (messages : List ExecutionMessage) (state : ServiceState) :
    ServiceState :=
  messages.foldl (fun state message => (service.handle message state).2) state

/-- What messages pay in an ecosystem that are answered one after the other. -/
def allTransfers (service : Service) (ecosystem : Int) :
    List ExecutionMessage → ServiceState → List Transfer
  | [], _ => []
  | message :: rest, state =>
    service.transfers ecosystem message state ++
      service.allTransfers ecosystem rest (service.handle message state).2

/-- No balance that earns a fee of these messages comes to the end of the range. -/
def CreditsFit (service : Service) (ecosystem : Int) : List ExecutionMessage → ServiceState → Prop
  | [], _ => True
  | message :: rest, state =>
    (∀ t ∈ service.transfers ecosystem message state, t.Fits ecosystem state.database) ∧
      service.CreditsFit ecosystem rest (service.handle message state).2

instance decidableCreditsFit (service : Service) (ecosystem : Int) :
    (messages : List ExecutionMessage) → (state : ServiceState) →
      Decidable (service.CreditsFit ecosystem messages state)
  | [], _ => inferInstanceAs (Decidable True)
  | message :: rest, state =>
    have := decidableCreditsFit service ecosystem rest (service.handle message state).2
    inferInstanceAs (Decidable (_ ∧ _))

/-- Answering a message adds what it pays to the ledger, whether it is accepted or rejected. -/
theorem handle_reconciles {message : ExecutionMessage}
    (haccess : message.flags.fullAccess = false) (hmin : 0 ≤ service.node.fees.minFee)
    (hprice : 0 ≤ service.node.fees.fuelPrice)
    (hkeys : state.database.Barred (TableName.keys ecosystem))
    (hhistory : state.database.Barred (TableName.history ecosystem))
    (hfits : ∀ t ∈ service.transfers ecosystem message state, t.Fits ecosystem state.database) :
    Reconciles ecosystem (service.transfers ecosystem message state) state.database
      (service.handle message state).2.database := by
  unfold transfers at hfits ⊢
  rcases hhandle : service.handle message state with ⟨reply, state'⟩
  rw [hhandle] at hfits
  obtain ⟨rfl, hdatabase, -⟩ := handle_eq hhandle
  have hanswered := execute_answered service message.request state
  rcases hexecute : service.execute message.request state with ⟨r, executed⟩
  rw [hexecute] at hdatabase hfits hanswered
  dsimp only at hdatabase hfits ⊢
  rw [hdatabase]
  cases hanswered with
  | unopened _ hkept _ => exact .of_same (by rw [hkept]) (by rw [hkept]) (by rw [hkept])
  | rejected _ hkept _ => exact .of_same (by rw [hkept]) (by rw [hkept]) (by rw [hkept])
  | unpublished _ _ _ hkept _ => exact .of_same (by rw [hkept]) (by rw [hkept]) (by rw [hkept])
  | published hrun _ hstored _ =>
    rw [hstored]
    refine Node.execute_reconciles haccess hmin hprice ?_ ?_ hrun ?_
    · exact hkeys
    · exact hhistory
    · exact hfits

/-- Without full access, and where contracts have no right to the tables of keys and history, the
history has a row more for every accepted message that had to pay, and every balance is accounted for
by these rows. -/
theorem ledger_reconciles {messages : List ExecutionMessage}
    (haccess : ∀ message ∈ messages, message.flags.fullAccess = false)
    (hmin : 0 ≤ service.node.fees.minFee) (hprice : 0 ≤ service.node.fees.fuelPrice)
    (hkeys : state.database.tableRecord? (toString ecosystem) "keys" = none)
    (hhistory : state.database.tableRecord? (toString ecosystem) "history" = none)
    (hfits : service.CreditsFit ecosystem messages state) :
    Reconciles ecosystem (service.allTransfers ecosystem messages state) state.database
      (service.handleAll messages state).database := by
  induction messages generalizing state with
  | nil => exact .of_same rfl rfl rfl
  | cons message rest ih =>
    obtain ⟨hfirst, hrest⟩ := hfits
    have hstep := handle_reconciles (haccess message List.mem_cons_self) hmin hprice
      (Database.barred_keys hkeys) (Database.barred_history hhistory) hfirst
    refine hstep.trans (ih (fun m hm => haccess m (List.mem_cons_of_mem _ hm)) ?_ ?_ hrest)
    · rw [← hkeys, Database.tableRecord?, hstep.tables]
      rfl
    · rw [← hhistory, Database.tableRecord?, hstep.tables]
      rfl

end Service

/-- Loading contracts stores nothing. -/
theorem Service.database_loadAll (service : Service) (state : ServiceState) :
    (service.loadAll state).2.database = state.database :=
  rfl

namespace Sample

/-- The service with both contracts loaded, and storage that works. -/
def publishing : ServiceState :=
  (service.loadAll ⟨database, .empty, .none, 0, .zero⟩).2

theorem database_publishing : publishing.database = database := by
  rw [publishing, Service.database_loadAll]

end Sample

namespace Service

/-- The payer pays twice. The first fee goes to the wallet of the contract, which gives its record another
one, and the second fee goes there, where nobody has a key. -/
theorem ledger_reconciles_sample :
    let state := Sample.service.handleAll [Sample.message 0, Sample.message 1] Sample.publishing
    (∃ added, Database.Adds (TableName.history 1) added Sample.publishing.database state.database ∧
      added.map (fun entry => Transfer.ofRow? entry.2) = [some ⟨7, 3, 11⟩, some ⟨7, 8, 12⟩]) ∧
    (∃ row, state.database.row? (TableName.keys 1) 7 = some row ∧
      Database.amountOf? row = some 77) ∧
    ∃ row, state.database.row? (TableName.keys 1) 3 = some row ∧
      Database.amountOf? row = some 16 := by
  have hpaid : Sample.service.CreditsFit 1 [Sample.message 0, Sample.message 1]
      Sample.publishing ∧ Sample.service.allTransfers 1 [Sample.message 0, Sample.message 1]
        Sample.publishing = [⟨7, 3, 11⟩, ⟨7, 8, 12⟩] := by decide +kernel
  obtain ⟨hfits, htransfers⟩ := hpaid
  have hreconciles := ledger_reconciles (by decide) (by decide) (by decide)
    (by rw [Sample.database_publishing]; rfl) (by rw [Sample.database_publishing]; rfl) hfits
  rw [htransfers, Sample.database_publishing] at hreconciles
  obtain ⟨row, hrow, hbalance, -⟩ := hreconciles.balances 7 _ 100 rfl rfl
  obtain ⟨row', hrow', hbalance', -⟩ := hreconciles.balances 3 _ 5 rfl rfl
  rw [Sample.database_publishing]
  exact ⟨hreconciles.history, ⟨row, hrow, hbalance⟩, row', hrow', hbalance'⟩

end Service

end Covenant
