import Covenant.Proofs.Storage.Calls

/-!
# What a payment leaves behind

A fee that is paid moves from the payer to the recipient, if that is another one and has a key, and
adds a row to the history. Nothing else is touched, whatever is stored.
-/

namespace Covenant

open Stage

/-- What a fee that is paid changes in the tables of an ecosystem. -/
structure FeePaid (ecosystem payer recipient fee : Int) (entry : Row) (before after : Database) :
    Prop where
  /-- The payer's balance is lowered by the fee, and is a quantity still; the other cells stay. -/
  debit : ∃ row balance, before.row? (TableName.keys ecosystem) payer = some row ∧
    Database.amountOf? row = some balance ∧ fee ≤ balance ∧ Quantity.InRange (balance - fee) ∧
    after.row? (TableName.keys ecosystem) payer =
      some (Dict.insert "amount" (.int (balance - fee)) row)
  /-- The recipient's balance is raised by the fee; the other cells stay. -/
  credit : recipient ≠ payer → ∀ row, before.row? (TableName.keys ecosystem) recipient = some row →
    ∃ balance, Database.amountOf? row = some balance ∧
      after.row? (TableName.keys ecosystem) recipient =
        some (Dict.insert "amount" (.int (Quantity.add balance fee)) row)
  /-- The history has a row more, under the next id, which is a quantity and was not in use. -/
  entry : ∃ id, before.nextId? (TableName.history ecosystem) = some id ∧ Quantity.InRange id ∧
    before.row? (TableName.history ecosystem) id = none ∧
    after.row? (TableName.history ecosystem) id = some entry
  /-- All other rows stay, and a recipient without a key gets none. -/
  rows : ∀ table id, ¬ (table = TableName.keys ecosystem ∧ id = payer) →
    (table = TableName.keys ecosystem ∧ id = recipient → before.row? table id = none) →
    ¬ (table = TableName.history ecosystem ∧ before.nextId? table = some id) →
    after.row? table id = before.row? table id
  /-- Nothing but rows changes. -/
  rest : after = { before with rows := after.rows }

namespace FeeSchedule

/-- The fee for a run that has spent fuel is the least fee and the price of the fuel. -/
theorem fee_of_nonneg (schedule : FeeSchedule) {fuelUsed : Int} (h : 0 ≤ fuelUsed) :
    schedule.fee fuelUsed =
      Quantity.add schedule.minFee (Quantity.mul fuelUsed schedule.fuelPrice) := by
  rw [fee, Int.max_eq_left h]

end FeeSchedule

namespace Database

/-- A key that is found is in a row that holds its balance. -/
theorem key?_eq_some {db : Database} {ecosystem id : Int} {key : KeyRecord}
    (h : db.key? ecosystem id = .ok (some key)) :
    ∃ row, db.row? (TableName.keys ecosystem) id = some row ∧ amountOf? row = some key.amount := by
  unfold key? at h
  split at h
  next => cases h
  next row hrow =>
    refine ⟨row, hrow, ?_⟩
    unfold keyOfRow at h
    split at h
    next => cases h
    next =>
      split at h
      next => cases h
      next amount hamount =>
        obtain rfl := Option.some.inj (Except.ok.inj h)
        exact hamount

/-- A key that is not found has no row. -/
theorem key?_eq_none {db : Database} {ecosystem id : Int} (h : db.key? ecosystem id = .ok none) :
    db.row? (TableName.keys ecosystem) id = none := by
  unfold key? at h
  split at h
  next hrow => exact hrow
  next row _ =>
    cases hkey : keyOfRow ecosystem id row with
    | error e => rw [hkey] at h; cases h
    | ok key => rw [hkey] at h; cases h

end Database

/-- Keys and histories are different tables. -/
theorem TableName.keys_ne_history (ecosystem : Int) : keys ecosystem ≠ history ecosystem := by
  unfold keys history
  rw [ne_eq, String.append_right_inj]
  decide

/-- The three writes of a payment: the debit, the credit if there is one, and the history row. -/
theorem FeePaid.of_writes {ecosystem payer recipient fee balance id : Int} {row entry : Row}
    {before debited credited after : Database}
    (hrow : before.row? (TableName.keys ecosystem) payer = some row)
    (hbalance : Database.amountOf? row = some balance) (hle : fee ≤ balance)
    (hrange : Quantity.InRange (balance - fee))
    (hdebited : debited = before.setRow (TableName.keys ecosystem) payer
      (Dict.insert "amount" (.int (balance - fee)) row))
    (hcredited : credited = debited ∧ (recipient = payer ∨
        debited.row? (TableName.keys ecosystem) recipient = none) ∨
      recipient ≠ payer ∧ ∃ row balance,
        debited.row? (TableName.keys ecosystem) recipient = some row ∧
        Database.amountOf? row = some balance ∧
        credited = debited.setRow (TableName.keys ecosystem) recipient
          (Dict.insert "amount" (.int (Quantity.add balance fee)) row))
    (hnext : credited.nextId? (TableName.history ecosystem) = some id)
    (hafter : after = credited.setRow (TableName.history ecosystem) id entry) :
    FeePaid ecosystem payer recipient fee entry before after := by
  have hne := TableName.keys_ne_history ecosystem
  have hother : recipient ≠ payer → debited.row? (TableName.keys ecosystem) recipient =
      before.row? (TableName.keys ecosystem) recipient := by
    intro hdifferent
    rw [hdebited, Database.row?_setRow, if_neg (fun h => hdifferent h.2.symm)]
  have hid : before.nextId? (TableName.history ecosystem) = some id := by
    rw [← hnext]
    rcases hcredited with ⟨rfl, -⟩ | ⟨-, _, _, -, -, rfl⟩
    · rw [hdebited, Database.nextId?_setRow_of_ne _ hne]
    · rw [Database.nextId?_setRow_of_ne _ hne, hdebited, Database.nextId?_setRow_of_ne _ hne]
  have hkeys : ∀ id, after.row? (TableName.keys ecosystem) id =
      credited.row? (TableName.keys ecosystem) id := by
    intro id
    rw [hafter, Database.row?_setRow, if_neg (fun h => hne h.1.symm)]
  refine { debit := ⟨row, balance, hrow, hbalance, hle, hrange, ?_⟩, credit := ?_, entry := ?_,
           rows := ?_, rest := ?_ }
  case refine_1 =>
    have hpaid : debited.row? (TableName.keys ecosystem) payer =
        some (Dict.insert "amount" (.int (balance - fee)) row) := by
      rw [hdebited, Database.row?_setRow, if_pos ⟨rfl, rfl⟩]
    rw [hkeys]
    rcases hcredited with ⟨rfl, -⟩ | ⟨hdifferent, _, _, -, -, rfl⟩
    · exact hpaid
    · rw [Database.row?_setRow, if_neg (fun h => hdifferent h.2), hpaid]
  case refine_2 =>
    intro hdifferent earner hearner
    rw [← hother hdifferent] at hearner
    rw [hkeys]
    rcases hcredited with ⟨-, rfl | hnone⟩ | ⟨-, found, earned, hfound, hearned, rfl⟩
    · exact absurd rfl hdifferent
    · rw [hnone] at hearner
      cases hearner
    · obtain rfl : found = earner := Option.some.inj (hfound.symm.trans hearner)
      exact ⟨earned, hearned, by rw [Database.row?_setRow, if_pos ⟨rfl, rfl⟩]⟩
  case refine_3 =>
    refine ⟨id, hid, Database.inRange_of_nextId? hid, Database.row?_nextId? hid, ?_⟩
    rw [hafter, Database.row?_setRow, if_pos ⟨rfl, rfl⟩]
  case refine_4 =>
    intro table key hpayer hrecipient hentry
    have hplace : ¬ (TableName.history ecosystem = table ∧ id = key) := by
      rintro ⟨rfl, rfl⟩
      exact hentry ⟨rfl, hid⟩
    rw [hafter, Database.row?_setRow, if_neg hplace]
    have hdebit : debited.row? table key = before.row? table key := by
      rw [hdebited, Database.row?_setRow, if_neg (fun h => hpayer ⟨h.1.symm, h.2.symm⟩)]
    rcases hcredited with ⟨rfl, -⟩ | ⟨hdifferent, found, _, hfound, -, rfl⟩
    · exact hdebit
    · rw [Database.row?_setRow, if_neg, hdebit]
      rintro ⟨rfl, rfl⟩
      rw [hdebit, hrecipient ⟨rfl, rfl⟩] at hfound
      cases hfound
  case refine_5 =>
    rcases hcredited with ⟨rfl, -⟩ | ⟨-, _, _, -, -, rfl⟩
    · rw [hafter, hdebited]
      rfl
    · rw [hafter, hdebited]
      rfl

/-- A payment does not go unnoticed. -/
theorem FeePaid.rows_ne {ecosystem payer recipient fee : Int} {entry : Row}
    {before after : Database} (h : FeePaid ecosystem payer recipient fee entry before after) :
    after.rows ≠ before.rows := by
  intro hrows
  have hsame : after = before := by rw [h.rest, hrows]
  obtain ⟨_, -, -, hnone, hsome⟩ := h.entry
  rw [hsame, hnone] at hsome
  cases hsome

namespace Payment

open Storing

variable {ctx : ExecutionContext} {c d : Connection}

/-- A payer with enough funds has a row with the balance. -/
theorem requireFunds_ok {amount available : Int}
    (h : (requireFunds ctx amount).run c = (.ok available, d)) :
    amount ≤ available ∧ d.session = c.session ∧
      ∃ row, c.session.working.row? (TableName.keys ctx.ecosystemId) ctx.tx.keyId = some row ∧
        Database.amountOf? row = some available := by
  obtain ⟨balance, c₁, hbalance, hcheck⟩ := run_bind_eq_ok h
  obtain ⟨found, c₂, hkey, hfound⟩ := run_bind_eq_ok hbalance
  obtain ⟨hread, hsession⟩ := run_look_eq_ok (run_mapError_eq_ok hkey)
  cases found with
  | none => cases hfound
  | some key =>
    obtain ⟨hamount, rfl⟩ := Prod.mk.inj hfound
    obtain rfl := Except.ok.inj hamount
    split at hcheck
    next => cases hcheck
    next hle =>
      obtain ⟨hresult, rfl⟩ := Prod.mk.inj hcheck
      obtain rfl := Except.ok.inj hresult
      exact ⟨Int.not_lt.mp hle, hsession, Database.key?_eq_some hread⟩

/-- What is left of a balance is a quantity. -/
theorem remaining_eq_ok {balance amount rest : Int} (h : remaining balance amount = .ok rest) :
    Quantity.InRange (balance - amount) ∧ rest = balance - amount := by
  unfold remaining at h
  split at h
  next left hleft =>
    obtain ⟨hrange, rfl⟩ := Quantity.difference?_eq_some_iff.mp hleft
    exact ⟨hrange, (Except.ok.inj h).symm⟩
  next => cases h

/-- Whoever earns the fee gets it on top of the balance, unless it is the payer or has no key. -/
theorem credit_ok {fee : Int} (h : (credit ctx fee).run c = (.ok (), d)) :
    d.session = c.session ∧ (recipient ctx = ctx.tx.keyId ∨
        c.session.working.row? (TableName.keys ctx.ecosystemId) (recipient ctx) = none) ∨
    recipient ctx ≠ ctx.tx.keyId ∧
      ∃ row balance,
        c.session.working.row? (TableName.keys ctx.ecosystemId) (recipient ctx) = some row ∧
        Database.amountOf? row = some balance ∧
        d.session.working = c.session.working.setRow (TableName.keys ctx.ecosystemId)
          (recipient ctx) (Dict.insert "amount" (.int (Quantity.add balance fee)) row) := by
  unfold credit at h
  split at h
  next hsame =>
    obtain ⟨-, rfl⟩ := Prod.mk.inj h
    exact .inl ⟨rfl, .inl (by simpa using hsame)⟩
  next hother =>
    obtain ⟨found, c₁, hkey, hupdate⟩ := run_bind_eq_ok h
    obtain ⟨hread, hsession⟩ := run_look_eq_ok hkey
    cases found with
    | none =>
      obtain ⟨-, rfl⟩ := Prod.mk.inj hupdate
      exact .inl ⟨hsession, .inr (Database.key?_eq_none hread)⟩
    | some key =>
      obtain ⟨previous, c₂, hwritten, hrest⟩ := run_bind_eq_ok hupdate
      obtain ⟨-, rfl⟩ := Prod.mk.inj hrest
      obtain ⟨hrow, hworking⟩ := run_updateRow_eq_ok hwritten
      rw [hsession] at hrow hworking
      obtain ⟨row, hrow', hbalance⟩ := Database.key?_eq_some hread
      obtain rfl : previous = row := Option.some.inj (hrow.symm.trans hrow')
      exact .inr ⟨by simpa using hother, previous, key.amount, hrow, hbalance, hworking⟩

/-- The writes of a payment that succeeds. -/
theorem settle_writes {schedule : FeeSchedule} {mode : PaymentMode}
    (h : (settle schedule ctx mode).run c = (.ok (), d)) :
    ∃ row balance id debited credited,
      c.session.working.row? (TableName.keys ctx.ecosystemId) ctx.tx.keyId = some row ∧
      Database.amountOf? row = some balance ∧ schedule.fee ctx.fuel.consumed ≤ balance ∧
      Quantity.InRange (balance - schedule.fee ctx.fuel.consumed) ∧
      debited = c.session.working.setRow (TableName.keys ctx.ecosystemId) ctx.tx.keyId
        (Dict.insert "amount" (.int (balance - schedule.fee ctx.fuel.consumed)) row) ∧
      (credited = debited ∧ (recipient ctx = ctx.tx.keyId ∨
          debited.row? (TableName.keys ctx.ecosystemId) (recipient ctx) = none) ∨
        recipient ctx ≠ ctx.tx.keyId ∧ ∃ row balance,
          debited.row? (TableName.keys ctx.ecosystemId) (recipient ctx) = some row ∧
          Database.amountOf? row = some balance ∧
          credited = debited.setRow (TableName.keys ctx.ecosystemId) (recipient ctx)
            (Dict.insert "amount"
              (.int (Quantity.add balance (schedule.fee ctx.fuel.consumed))) row)) ∧
      credited.nextId? (TableName.history ctx.ecosystemId) = some id ∧
      d.session.working = credited.setRow (TableName.history ctx.ecosystemId) id
        (historyRow ctx (schedule.fee ctx.fuel.consumed) mode) := by
  obtain ⟨available, c₁, hfunds, hwrite⟩ := run_bind_eq_ok h
  obtain ⟨hle, hsession, row, hrow, hbalance⟩ := requireFunds_ok hfunds
  obtain ⟨rest, c₁', hrest, hwrites⟩ := run_bind_eq_ok (run_mapError_eq_ok hwrite)
  obtain ⟨hremaining, rfl⟩ := Prod.mk.inj ((run_ofExcept _ _).symm.trans hrest)
  obtain ⟨hrange, rfl⟩ := remaining_eq_ok hremaining
  obtain ⟨previous, c₂, hdebit, hmore⟩ := run_bind_eq_ok hwrites
  obtain ⟨u, c₃, hcredit, hlast⟩ := run_bind_eq_ok hmore
  obtain ⟨id, c₄, hentry, hend⟩ := run_bind_eq_ok hlast
  obtain ⟨-, rfl⟩ := Prod.mk.inj hend
  obtain ⟨hprevious, hdebited⟩ := run_updateRow_eq_ok hdebit
  rw [hsession] at hprevious hdebited
  obtain rfl : previous = row := Option.some.inj (hprevious.symm.trans hrow)
  obtain ⟨hnext, hafter⟩ := run_insertRow_eq_ok hentry
  refine ⟨previous, available, id, _, _, hrow, hbalance, hle, hrange, hdebited, ?_, hnext, hafter⟩
  rcases credit_ok hcredit with ⟨hsame, hnone⟩ | hcredited
  · exact .inl ⟨congrArg Session.working hsame, hnone⟩
  · exact .inr hcredited

/-- A payment that succeeds has paid the fee for what the execution has spent, and nothing else. -/
theorem settle_ok {schedule : FeeSchedule} {mode : PaymentMode}
    (h : (settle schedule ctx mode).run c = (.ok (), d)) :
    FeePaid ctx.ecosystemId ctx.tx.keyId (recipient ctx) (schedule.fee ctx.fuel.consumed)
      (historyRow ctx (schedule.fee ctx.fuel.consumed) mode)
      c.session.working d.session.working := by
  obtain ⟨row, balance, id, debited, credited, hrow, hbalance, hle, hrange, hdebited, hcredited, hnext,
    hafter⟩ := settle_writes h
  exact .of_writes hrow hbalance hle hrange hdebited hcredited hnext hafter

/-- A payment that succeeds adds its row to the history, and concerns no tables but those of keys and
history. -/
theorem settle_tables {schedule : FeeSchedule} {mode : PaymentMode}
    (h : (settle schedule ctx mode).run c = (.ok (), d)) :
    (∃ id, Database.Adds (TableName.history ctx.ecosystemId)
        [(id, historyRow ctx (schedule.fee ctx.fuel.consumed) mode)]
        c.session.working d.session.working) ∧
      ∀ table, table ≠ TableName.keys ctx.ecosystemId → table ≠ TableName.history ctx.ecosystemId →
        d.session.working.table table = c.session.working.table table := by
  obtain ⟨row, balance, id, debited, credited, -, -, -, -, rfl, hcredited, hnext, hafter⟩ :=
    settle_writes h
  have hsame : ∀ table ≠ TableName.keys ctx.ecosystemId,
      credited.table table = c.session.working.table table := by
    intro table hkeys
    rcases hcredited with ⟨rfl, -⟩ | ⟨-, _, _, -, -, rfl⟩
    · rw [Database.table_setRow, if_neg hkeys.symm]
    · rw [Database.table_setRow, if_neg hkeys.symm, Database.table_setRow, if_neg hkeys.symm]
  rw [hafter]
  refine ⟨⟨id, ?_⟩, fun table hkeys hhistory => ?_⟩
  · have hadds := Database.adds_setRow hnext (historyRow ctx (schedule.fee ctx.fuel.consumed) mode)
    have hhistory := hsame _ (TableName.keys_ne_history ctx.ecosystemId).symm
    exact ⟨hhistory ▸ hadds.rows, hadds.inRange, hhistory ▸ hadds.above, hadds.ascending⟩
  · rw [Database.table_setRow, if_neg hhistory.symm, hsame table hkeys]

end Payment

end Covenant
