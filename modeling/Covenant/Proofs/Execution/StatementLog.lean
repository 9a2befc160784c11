import Covenant.Proofs.Execution.Sequence
import Covenant.Proofs.Ledger

/-!
# The statement log over many executions

The log of a session is there to say which rows have been written. A committed execution adds a
statement for each of its row writes, and a payment adds its own. An execution that is undone takes its
row writes back, though, and empties the log, which loses the statements of the executions before it,
whose rows stay. So the log tells of all row writes that are left if and only if no execution whose
contract has run without being committed has found any statements; otherwise it tells of the last ones.
-/

namespace Covenant

open Stage

/-! ## Statements of payments -/

/-- The writes take the first session to the second, and each of them leaves its statement. -/
structure Session.Writes (s : Session) (writes : List RowWrite) (t : Session) : Prop where
  working : s.working.Becomes writes t.working
  log : t.log = s.log ++ writes.map RowWrite.statement

theorem Session.Writes.nil (s : Session) : s.Writes [] s :=
  ⟨.nil, by simp⟩

theorem Session.Writes.trans {s t u : Session} {writes more : List RowWrite}
    (h : s.Writes writes t) (k : t.Writes more u) : s.Writes (writes ++ more) u :=
  ⟨h.working.trans k.working, by rw [k.log, h.log, List.map_append, List.append_assoc]⟩

namespace Storing

variable {c d : Connection} {table : String} {id : Int}

/-- A row that is changed is a write. -/
theorem updateRow_writes {cells previous : Row}
    (h : (updateRow table id cells).run c = (.ok previous, d)) :
    c.session.Writes [⟨table, id, some previous, Dict.insertAll cells previous⟩] d.session := by
  obtain ⟨hrow, hsession⟩ := updateRow_eq_ok (run_change_eq_ok h)
  rw [hsession]
  exact ⟨.single (.update hrow), rfl⟩

/-- A row that is added is a write. -/
theorem insertRow_writes {row : Row} (h : (insertRow table row).run c = (.ok id, d)) :
    c.session.Writes [⟨table, id, none, row⟩] d.session := by
  obtain ⟨hnext, hsession⟩ := insertRow_eq_ok (run_change_eq_ok h)
  rw [hsession]
  exact ⟨.single (.insert hnext), rfl⟩

end Storing

/-- Writes to other tables do not count for the next id of a table. -/
theorem Database.Becomes.nextId? {db after : Database} {writes : List RowWrite} {name : String}
    (h : db.Becomes writes after) (hother : ∀ write ∈ writes, write.table ≠ name) :
    after.nextId? name = db.nextId? name := by
  induction h with
  | nil => rfl
  | cons _ _ ih =>
    obtain ⟨hfirst, hmore⟩ := List.forall_mem_cons.mp hother
    rw [ih hmore, nextId?_setRow_of_ne _ hfirst]

namespace Payment

open Storing

/-- The statements of a payment: the payer's balance and that of a recipient who is another one and has
a key are changed, and the history has a row more, under its next id. -/
def statements (ecosystem payer recipient : Int) (db : Database) : List String :=
  let keys := TableName.keys ecosystem
  let history := TableName.history ecosystem
  ["UPDATE " ++ keys ++ " " ++ toString payer] ++
    (if recipient ≠ payer ∧ (db.row? keys recipient).isSome then
      ["UPDATE " ++ keys ++ " " ++ toString recipient] else []) ++
    (db.nextId? history).toList.map fun id => "INSERT " ++ history ++ " " ++ toString id

variable {ctx : ExecutionContext} {c d : Connection}

/-- Whoever earns a fee has one row changed, if there is one to change. -/
theorem credit_writes {fee : Int} (h : (credit ctx fee).run c = (.ok (), d)) :
    ∃ writes, c.session.Writes writes d.session ∧
      (∀ write ∈ writes, write.table = TableName.keys ctx.ecosystemId) ∧
      writes.map RowWrite.statement =
        if recipient ctx ≠ ctx.tx.keyId ∧
          (c.session.working.row? (TableName.keys ctx.ecosystemId) (recipient ctx)).isSome then
          ["UPDATE " ++ TableName.keys ctx.ecosystemId ++ " " ++ toString (recipient ctx)]
        else [] := by
  unfold credit at h
  split at h
  next hsame =>
    obtain ⟨-, rfl⟩ := Prod.mk.inj h
    refine ⟨[], .nil _, List.forall_mem_nil _, ?_⟩
    rw [if_neg fun hother => hother.1 (by simpa using hsame)]
    rfl
  next hother =>
    obtain ⟨found, c₁, hkey, hupdate⟩ := run_bind_eq_ok h
    obtain ⟨hread, hsession⟩ := run_look_eq_ok hkey
    cases found with
    | none =>
      obtain ⟨-, rfl⟩ := Prod.mk.inj hupdate
      refine ⟨[], hsession ▸ .nil _, List.forall_mem_nil _, ?_⟩
      rw [Database.key?_eq_none hread, if_neg fun hthere => by cases hthere.2]
      rfl
    | some key =>
      obtain ⟨previous, c₂, hwritten, hrest⟩ := run_bind_eq_ok hupdate
      obtain ⟨-, rfl⟩ := Prod.mk.inj hrest
      have hwrites := updateRow_writes hwritten
      rw [hsession] at hwrites
      obtain ⟨row, hrow, -⟩ := Database.key?_eq_some hread
      refine ⟨_, hwrites, List.forall_mem_singleton.mpr rfl, ?_⟩
      rw [hrow, if_pos ⟨by simpa using hother, rfl⟩]
      rfl

/-- The writes of a payment that succeeds leave the statements of a payment. -/
theorem settle_logs {schedule : FeeSchedule} {mode : PaymentMode}
    (h : (settle schedule ctx mode).run c = (.ok (), d)) :
    ∃ writes, c.session.Writes writes d.session ∧
      writes.map RowWrite.statement =
        statements ctx.ecosystemId ctx.tx.keyId (recipient ctx) c.session.working := by
  obtain ⟨available, c₁, hfunds, hwrite⟩ := run_bind_eq_ok h
  obtain ⟨-, hsession, -⟩ := requireFunds_ok hfunds
  obtain ⟨rest, c₁', hrest, hwrites⟩ := run_bind_eq_ok (run_mapError_eq_ok hwrite)
  obtain ⟨-, rfl⟩ := Prod.mk.inj ((run_ofExcept _ _).symm.trans hrest)
  obtain ⟨previous, c₂, hdebit, hmore⟩ := run_bind_eq_ok hwrites
  obtain ⟨u, c₃, hcredit, hlast⟩ := run_bind_eq_ok hmore
  obtain ⟨id, c₄, hentry, hend⟩ := run_bind_eq_ok hlast
  obtain ⟨-, rfl⟩ := Prod.mk.inj hend
  obtain ⟨-, hdebited⟩ := run_updateRow_eq_ok hdebit
  have hdebits := updateRow_writes hdebit
  rw [hsession] at hdebits hdebited
  obtain ⟨credits, hcredits, hkeys, hstatements⟩ := credit_writes hcredit
  have hentries := insertRow_writes hentry
  refine ⟨_, (hdebits.trans hcredits).trans hentries, ?_⟩
  -- The row of a recipient who is another one is not touched by the debit.
  have hrow : recipient ctx ≠ ctx.tx.keyId →
      c₂.session.working.row? (TableName.keys ctx.ecosystemId) (recipient ctx) =
        c.session.working.row? (TableName.keys ctx.ecosystemId) (recipient ctx) := by
    intro hother
    rw [hdebited, Database.row?_setRow, if_neg fun hsame => hother hsame.2.symm]
  have hid : c.session.working.nextId? (TableName.history ctx.ecosystemId) = some id := by
    rw [← (run_insertRow_eq_ok hentry).1]
    refine ((hdebits.trans hcredits).working.nextId? fun write hmem => ?_).symm
    rcases List.mem_append.mp hmem with hmem | hmem
    · rw [List.mem_singleton.mp hmem]
      exact TableName.keys_ne_history _
    · rw [hkeys write hmem]
      exact TableName.keys_ne_history _
  have hcredited : credits.map RowWrite.statement =
      if recipient ctx ≠ ctx.tx.keyId ∧
        (c.session.working.row? (TableName.keys ctx.ecosystemId) (recipient ctx)).isSome then
        ["UPDATE " ++ TableName.keys ctx.ecosystemId ++ " " ++ toString (recipient ctx)]
      else [] := by
    rw [hstatements]
    by_cases hother : recipient ctx ≠ ctx.tx.keyId
    · rw [hrow hother]
    · rw [if_neg fun h => hother h.1, if_neg fun h => hother h.1]
  rw [List.map_append, List.map_append, hcredited, statements, hid]
  rfl

end Payment

/-! ## One execution -/

namespace Execution

open Preparing Executing

/-- The contract of the execution has run, and the execution is not committed. -/
def Failed (x : Execution) : Prop :=
  (∃ ctx w, (prepare x.node x.request).run x.before = (.ok ctx, w)) ∧
    ∀ outcome, x.result = .ok outcome → outcome.status ≠ .committed

/-- The execution has failed on a session whose log was not empty. -/
def Forgets (x : Execution) : Prop :=
  x.Failed ∧ x.before.connection.session.log ≠ []

/-- The statements of a payment for the execution, if it is made on the database. -/
def fee (x : Execution) (db : Database) : List String :=
  Payment.statements x.request.tx.ecosystemId x.request.tx.keyId
    (x.request.earner x.before.registry) db

/-- These row writes are left of the execution. -/
inductive Leaves (x : Execution) : List RowWrite → Prop
  | rejected {e : ExecutionError} :
      x.result = .error e → x.before.data.Becomes [] x.after.data → Leaves x []
  | charged {outcome : ExecutionOutcome} {paid : List RowWrite} :
      x.result = .ok outcome → outcome.status = .feeCharged →
      x.before.data.Becomes paid x.after.data →
      paid.map RowWrite.statement = x.fee x.before.data → Leaves x paid
  | committed {outcome : ExecutionOutcome} {kept paid : List RowWrite} {db : Database} :
      x.result = .ok outcome → outcome.status = .committed →
      x.before.data.Becomes kept db → kept.map RowWrite.record = outcome.rollback →
      db.Becomes paid x.after.data →
      paid.map RowWrite.statement =
        (if x.node.fees.isDueFor x.request.flags then x.fee db else []) →
      Leaves x (kept ++ paid)

theorem Leaves.becomes {x : Execution} {writes : List RowWrite} (h : x.Leaves writes) :
    x.before.data.Becomes writes x.after.data := by
  cases h with
  | rejected _ hbecomes => exact hbecomes
  | charged _ _ hbecomes _ => exact hbecomes
  | committed _ _ hkept _ hpaid _ => exact hkept.trans hpaid

variable {x : Execution} {s t : RunState}

/-- A payment in an execution that is under way leaves the statements of the fee for it. -/
theorem fee_of_settle {mode : PaymentMode} {paid : Connection}
    (hprepared : Prepared x.request x.before s) (hcontinues : s.ctx.Continues t.ctx)
    (hpaid : (Payment.settle x.node.fees t.ctx mode).run t.world.connection = (.ok (), paid)) :
    ∃ writes, t.world.connection.session.Writes writes paid.session ∧
      writes.map RowWrite.statement = x.fee t.world.data := by
  obtain ⟨writes, hwrites, hstatements⟩ := Payment.settle_logs hpaid
  have htx : t.ctx.tx = x.request.tx := hcontinues.tx.trans hprepared.tx
  have hrecipient : Payment.recipient t.ctx = x.request.earner x.before.registry := by
    rw [Payment.recipient, ExecutionRequest.earner, hprepared.contract, hcontinues.contract,
      hcontinues.block, hprepared.block]
    rfl
  refine ⟨writes, hwrites, hstatements.trans ?_⟩
  rw [ExecutionContext.ecosystemId, htx, hrecipient]
  rfl

/-- What is kept of a run that has succeeded are its row writes and those of its payment. -/
theorem leaves_of_kept {outcome : ExecutionOutcome} {text : String} {u : RunState}
    (hprepare : (prepare x.node x.request).run x.before = (.ok s.ctx, s.world))
    (hinvoke : (Run.invoke x.node).run s = (.ok text, u)) (hkept : Kept x.node u.entered t)
    (hresult : x.result = .ok outcome) (hstatus : outcome.status = .committed)
    (hrollback : outcome.rollback = t.ctx.rollback) (hdata : x.after.data = t.world.data) :
    ∃ writes, x.Leaves writes ∧ t.world.connection.session.log =
      x.before.connection.session.log ++ writes.map RowWrite.statement := by
  have hprepared := prepare_ok hprepare
  have hentered : s.Continues u.entered := by
    have hkeeps := (invoke_tame (ε := ExecutionError) x.node).keeps s
    rw [invoke, run_bind_of_ok (run_attempt _ s), hinvoke] at hkeeps
    exact hkeeps
  obtain ⟨kept, hwrote, -⟩ := Run.invoke_goes x.node s
  rw [hinvoke] at hwrote
  change RunState.Wrote kept s u at hwrote
  have hstart : s.ctx.rollback = [] := by
    obtain ⟨_, _, _, _, hctx⟩ := prepare_context hprepare
    rw [hctx]
    rfl
  have hrecords : kept.map RowWrite.record = outcome.rollback := by
    rw [hrollback, hkept.ctx]
    exact (hwrote.rollback.trans (by rw [hstart, List.nil_append])).symm
  have hlog := hwrote.log
  rw [hprepared.same.log] at hlog
  have hbecomes : x.before.data.Becomes kept u.entered.world.data := by
    rw [← hprepared.same.data]
    exact hwrote.data
  have hreserved : u.entered.ctx.paymentReserved = x.node.fees.isDueFor x.request.flags :=
    hentered.ctx.paymentReserved.trans (prepare_reserved hprepare)
  cases hkept with
  | free hfree =>
    rw [← hdata] at hbecomes
    refine ⟨kept ++ [], .committed hresult hstatus hbecomes hrecords .nil ?_, ?_⟩
    · rw [← hreserved, hfree]
      rfl
    · rw [List.append_nil]
      exact hlog
  | @paid connection hdue hpaid =>
    obtain ⟨paid, hwrites, hstatements⟩ := fee_of_settle hprepared hentered.ctx hpaid
    refine ⟨kept ++ paid, .committed hresult hstatus hbecomes hrecords ?_ ?_, ?_⟩
    · rw [hdata]
      exact hwrites.working
    · rw [← hreserved, hdue]
      exact hstatements
    · refine hwrites.log.trans ?_
      rw [List.map_append, ← List.append_assoc]
      exact congrArg (· ++ _) hlog

/-- The row writes that are left of an execution are all in the log, which holds the statements before
them as well unless the execution has failed. -/
theorem exists_leaves (x : Execution) (hnever : x.before.connection.failures.Never) :
    ∃ writes, x.Leaves writes ∧
      (x.Failed → x.after.connection.session.log = writes.map RowWrite.statement) ∧
      (¬ x.Failed → x.after.connection.session.log =
        x.before.connection.session.log ++ writes.map RowWrite.statement) := by
  have hleft := x.left hnever
  generalize hresult : x.result = r at hleft
  generalize hsession : x.after.connection.session = t at hleft
  have hdata : x.after.data = t.working := congrArg Session.working hsession
  cases hleft with
  | refused hprepare =>
    have hsucceeded : ¬ x.Failed := by
      rintro ⟨⟨ctx, w, hok⟩, -⟩
      rw [hprepare] at hok
      cases hok
    refine ⟨[], .rejected hresult ?_, fun hfailed => absurd hfailed hsucceeded, fun _ => ?_⟩
    · rw [hdata]
      exact .nil
    · rw [List.map_nil, List.append_nil]
  | rejected hprepare =>
    have hfailed : x.Failed := by
      refine ⟨⟨_, _, hprepare⟩, fun outcome hok => ?_⟩
      rw [hresult] at hok
      cases hok
    refine ⟨[], .rejected hresult ?_, fun _ => rfl, fun hnot => absurd hfailed hnot⟩
    rw [hdata]
    exact .nil
  | @charged outcome s t paid hprepare hcleared hsame hpaid hstatus _ =>
    have hfailed : x.Failed := by
      refine ⟨⟨_, _, hprepare⟩, fun outcome' hok => ?_⟩
      rw [← Except.ok.inj (hresult.symm.trans hok), hstatus]
      decide
    have hprepared := prepare_ok hprepare
    obtain ⟨writes, hwrites, hstatements⟩ := fee_of_settle hprepared hcleared.ctx hpaid
    have hbefore : t.world.data = x.before.data :=
      (congrArg Session.working hsame).trans hprepared.same.data
    refine ⟨writes, .charged hresult hstatus ?_ (hbefore ▸ hstatements), fun _ => ?_,
      fun hnot => absurd hfailed hnot⟩
    · rw [hdata, ← hbefore]
      exact hwrites.working
    · refine hwrites.log.trans ?_
      rw [hsame]
      rfl
  | @committed outcome text s u t hprepare hinvoke hkept hstatus hrollback =>
    have hsucceeded : ¬ x.Failed := fun hfailed => hfailed.2 outcome hresult hstatus
    obtain ⟨writes, hleaves, hlog⟩ :=
      leaves_of_kept hprepare hinvoke hkept hresult hstatus hrollback hdata
    exact ⟨writes, hleaves, fun hfailed => absurd hfailed hsucceeded, fun _ => hlog⟩

/-- After an execution the log tells of the last row writes that are left; it tells of all of them that
it has told of before, and of those of the execution, unless the execution forgets the former. -/
theorem log_suffix (x : Execution) (hnever : x.before.connection.failures.Never) :
    ∃ writes, x.Leaves writes ∧
      x.after.connection.session.log <:+
        x.before.connection.session.log ++ writes.map RowWrite.statement ∧
      (x.after.connection.session.log =
        x.before.connection.session.log ++ writes.map RowWrite.statement ↔ ¬ x.Forgets) := by
  obtain ⟨writes, hleaves, hfailed, hsucceeded⟩ := x.exists_leaves hnever
  refine ⟨writes, hleaves, ?_⟩
  by_cases h : x.Failed
  · rw [hfailed h, List.self_eq_append_left]
    exact ⟨List.suffix_append _ _, fun hempty hforgets => hforgets.2 hempty,
      fun hnot => Classical.byContradiction fun hlog => hnot ⟨h, hlog⟩⟩
  · rw [hsucceeded h]
    exact ⟨List.suffix_rfl, iff_of_true rfl fun hforgets => h hforgets.1⟩

end Execution

/-! ## Many executions -/

namespace Session

variable {s t : Session} {xs : List Execution}

/-- The log tells of the last row writes that are left of executions and of those before them, and the
rows that these add have quantities for ids. It tells of all of them, after each execution and in the
end, if and only if no execution forgets any. -/
theorem log_lists_iff (h : s.Executes xs t) :
    ∃ effects : List (List RowWrite),
      List.Forall₂ (fun x writes => x.Leaves writes ∧
        (x.after.connection.session.log =
          x.before.connection.session.log ++ writes.map RowWrite.statement ↔ ¬ x.Forgets))
        xs effects ∧
      s.working.Becomes effects.flatten t.working ∧
      (∀ write ∈ effects.flatten, write.previous = none → Quantity.InRange write.id) ∧
      t.log <:+ s.log ++ effects.flatten.map RowWrite.statement ∧
      (t.log = s.log ++ effects.flatten.map RowWrite.statement ↔ ∀ x ∈ xs, ¬ x.Forgets) := by
  induction h with
  | @nil s => exact ⟨[], .nil, .nil, List.forall_mem_nil _, by simp, by simp⟩
  | @cons x xs t hnever _ ih =>
    obtain ⟨effects, hall, hbecomes, -, hsuffix, hiff⟩ := ih
    obtain ⟨writes, hleaves, hstep, hexact⟩ := x.log_suffix hnever
    -- What the first execution loses and what the others lose is lost together.
    obtain ⟨lost, hlost⟩ := hstep
    obtain ⟨more, hmore⟩ := hsuffix
    have hall' : (lost ++ more) ++ t.log = x.before.connection.session.log ++
        (writes :: effects).flatten.map RowWrite.statement := by
      rw [List.append_assoc, hmore, ← List.append_assoc, hlost, List.append_assoc,
        List.flatten_cons, List.map_append]
    rw [← hlost, List.self_eq_append_left] at hexact
    rw [← hmore, List.self_eq_append_left] at hiff
    have hboth := hleaves.becomes.trans hbecomes
    refine ⟨writes :: effects, .cons ⟨hleaves, ?_⟩ hall, hboth, fun write => hboth.inRange,
      ⟨_, hall'⟩, ?_⟩
    · rw [← hlost, List.self_eq_append_left]
      exact hexact
    · rw [← hall', List.self_eq_append_left, List.append_eq_nil_iff, hexact, hiff,
        List.forall_mem_cons]

/-- The second of three executions finds a statement and fails. -/
private theorem fails_after_adds :
    Sample.fails.before.connection.session.log = ["INSERT 1_t 1"] ∧
      Sample.fails.after.connection.session.log = [] ∧ ∃ e, Sample.fails.result = .error e := by
  have hends := Sample.ends
  simp only [List.map_cons, List.map_nil, List.cons.injEq, Prod.mk.injEq] at hends
  obtain ⟨⟨-, hbefore⟩, ⟨hresult, hafter⟩, -⟩ := hends
  refine ⟨?_, hafter, ?_⟩
  · rw [Sample.fails, Sample.session_execution, hbefore]
  rcases hrun : Sample.fails.result with e | outcome
  · exact ⟨e, rfl⟩
  · rw [hrun] at hresult
    cases hresult

/-- A row is added, then an execution fails: its row is taken back, and the statement of the first one
is lost, although its row is there. -/
theorem log_lists_iff_sample :
    ∃ xs t, (Sample.outer.createSavepoint "sp").Executes xs t ∧ ∃ effects,
      List.Forall₂ Execution.Leaves xs effects ∧
      Sample.outer.working.Becomes effects.flatten t.working ∧
      t.log ≠ Sample.outer.log ++ effects.flatten.map RowWrite.statement := by
  obtain ⟨effects, hall, hbecomes, -, -, hiff⟩ := log_lists_iff Sample.executes
  refine ⟨_, _, Sample.executes, effects, hall.imp fun _ _ h => h.1, hbecomes, fun hlog => ?_⟩
  obtain ⟨hbefore, hafter, -⟩ := fails_after_adds
  have hremembers := hiff.mp hlog Sample.fails (by simp)
  cases hall with
  | cons _ hmore =>
    cases hmore with
    | @cons _ writes _ _ hstep _ =>
      have hsame := hstep.2.mpr hremembers
      rw [hbefore, hafter] at hsame
      cases hsame

/-- A rejected execution may leave another log than it found. -/
theorem not_log_of_rejected :
    ¬ ∀ (s t : Session) (xs : List Execution), s.Executes xs t →
      ∀ x ∈ xs, ∀ e, x.result = .error e →
        x.after.connection.session.log = x.before.connection.session.log := by
  intro hclaim
  obtain ⟨hbefore, hafter, e, hresult⟩ := fails_after_adds
  have hsame := hclaim _ _ _ Sample.executes Sample.fails (by simp) e hresult
  rw [hbefore, hafter] at hsame
  cases hsame

end Session

end Covenant
