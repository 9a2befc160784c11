import Covenant.Access.Check
import Covenant.Auth
import Covenant.Payment
import Covenant.Proofs.Stage
import Covenant.Proofs.Storage.Rows

/-!
# What storage computations can do

Authentication, access checks and payments reach storage through calls alone. A bound on what each
call does to the session is therefore a bound on what the whole computation does: checks leave the
session as it is, and a payment changes nothing but rows and the log. No computation looks at the
schedule of failures itself, and sessions and savepoints are opened and closed by others, so a
schedule may be changed where it concerns those without any of them noticing.
-/

namespace Covenant

open Stage

/-! ## Schedules without failures -/

/-- The same schedule, except that calls of one kind never fail. -/
def Failures.without (failures : Failures) (call : StorageCall) : Failures :=
  { failures with
    schedule := fun other made => if other = call then .none else failures.schedule other made }

/-- The same connection, except that calls of one kind never fail. -/
def Connection.without (connection : Connection) (call : StorageCall) : Connection :=
  { connection with failures := connection.failures.without call }

/-- A call whose failures are taken away does not fail. -/
@[simp] theorem Failures.next_without_self (failures : Failures) (call : StorageCall) :
    (failures.without call).next call = .none := by
  simp [Failures.next, Failures.without]

/-- Calls of other kinds meet the same failures. -/
theorem Failures.next_without_of_ne (failures : Failures) {call other : StorageCall}
    (hne : other ≠ call) : (failures.without call).next other = failures.next other := by
  simp [Failures.next, Failures.without, Failures.madeOf, hne]

/-- No call is due to fail, however many have been made before. -/
def Failures.Never (failures : Failures) : Prop :=
  ∀ call made, failures.schedule call made = .none

theorem Failures.Never.next {failures : Failures} (h : failures.Never) (call : StorageCall) :
    failures.next call = .none :=
  h call _

/-! ## Bounds on what a session goes through -/

/-- The call opens or closes a session or a savepoint, or goes back to one. -/
def StorageCall.isBookkeeping : StorageCall → Bool
  | .begin | .createSavepoint | .rollbackTo | .release | .commit => true
  | _ => false

/-- Two sessions differ at most in their rows and logs. -/
structure Session.SameButRows (s t : Session) : Prop where
  savepoints : t.savepoints = s.savepoints
  working : t.working = { s.working with rows := t.working.rows }

instance : IsPreorder Session Session.SameButRows where
  refl _ := ⟨rfl, rfl⟩
  trans s t u hst htu :=
    ⟨htu.savepoints.trans hst.savepoints, by rw [htu.working, hst.working]⟩

/-- The session moves as `R` allows, and the schedule stays. -/
structure Connection.Moves (R : Session → Session → Prop) (c d : Connection) : Prop where
  session : R c.session d.session
  schedule : d.failures.schedule = c.failures.schedule

instance {R : Session → Session → Prop} [IsPreorder Session R] :
    IsPreorder Connection (Connection.Moves R) where
  refl c := ⟨Std.Refl.refl c.session, rfl⟩
  trans _ _ _ h k :=
    ⟨IsTrans.trans _ _ _ h.session k.session, k.schedule.trans h.schedule⟩

namespace Storing

variable {ε ε' α β : Type} {R : Session → Session → Prop}

/-- Computations made of calls that move the session as `R` allows and are no bookkeeping. -/
inductive Within (R : Session → Session → Prop) : {ε α : Type} → Storing ε α → Prop
  | pure {ε α : Type} (a : α) : Within R (Pure.pure a : Storing ε α)
  | throw {ε α : Type} (e : ε) : Within R (throw e : Storing ε α)
  | bind {ε α β : Type} {x : Storing ε α} {f : α → Storing ε β} :
      Within R x → (∀ a, Within R (f a)) → Within R (x >>= f)
  | mapError {ε ε' α : Type} {x : Storing ε α} (f : ε → ε') : Within R x → Within R (x.mapError f)
  | call {α : Type} {kind : StorageCall} {work : Session → Except StorageError α × Session} :
      kind.isBookkeeping = false → (∀ s, R s (work s).2) → Within R (call kind work)

/-- Computations that leave the session as it is. -/
abbrev Looks {ε α : Type} (x : Storing ε α) : Prop :=
  Within Eq x

/-- A wider bound holds as well. -/
theorem Within.mono {R' : Session → Session → Prop} (hR : ∀ s t, R s t → R' s t)
    {x : Storing ε α} (h : Within R x) : Within R' x := by
  induction h with
  | pure a => exact .pure a
  | throw e => exact .throw e
  | bind _ _ hx hf => exact .bind hx hf
  | mapError f _ hx => exact .mapError f hx
  | call hkind hwork => exact .call hkind fun s => hR _ _ (hwork s)

/-- What leaves the session as it is stays within every bound. -/
theorem Within.leaves [IsPreorder Session R] {x : Storing ε α} (h : Looks x) : Within R x :=
  h.mono fun s _ heq => heq ▸ Std.Refl.refl s

/-- A choice stays within a bound if both sides do. -/
theorem Within.ite {c : Prop} [Decidable c] {x y : Storing ε α} (hx : Within R x)
    (hy : Within R y) : Within R (if c then x else y) := by
  split
  · exact hx
  · exact hy

/-- The run of a computation with another kind of error. -/
theorem run_mapError (f : ε → ε') (x : Storing ε α) (c : Connection) :
    (x.mapError f).run c = ((x.run c).1.mapError f, (x.run c).2) := by
  change Storing.mapError f x c = _
  unfold Storing.mapError
  rcases x.run c with ⟨_ | _, _⟩ <;> rfl

/-- A call that is due to fail does nothing else. -/
theorem run_call_of_some {kind : StorageCall} {c : Connection} {e : StorageError}
    (h : c.failures.next kind = some e) (work : Session → Except StorageError α × Session) :
    (call kind work).run c = (.error e, { c with failures := c.failures.count kind }) := by
  simp only [call, ExceptT.run, h]

/-- A call that is not due to fail does its work. -/
theorem run_call_of_none {kind : StorageCall} {c : Connection} (h : c.failures.next kind = none)
    (work : Session → Except StorageError α × Session) :
    (call kind work).run c = ((work c.session).1, ⟨(work c.session).2, c.failures.count kind⟩) := by
  simp only [call, ExceptT.run, h]

/-- A call that succeeds has done its work. -/
theorem run_call_eq_ok {kind : StorageCall} {work : Session → Except StorageError α × Session}
    {c d : Connection} {a : α} (h : (call kind work).run c = (.ok a, d)) :
    work c.session = (.ok a, d.session) := by
  cases hnext : c.failures.next kind with
  | some e =>
    rw [run_call_of_some hnext] at h
    cases h
  | none =>
    rw [run_call_of_none hnext] at h
    obtain ⟨hresult, rfl⟩ := Prod.mk.inj h
    exact Prod.ext hresult rfl

/-- A call that only reads gives what is stored. -/
theorem run_look_eq_ok {kind : StorageCall} {read : Database → Except StorageError α}
    {c d : Connection} {a : α} (h : (look kind read).run c = (.ok a, d)) :
    read c.session.working = .ok a ∧ d.session = c.session := by
  obtain ⟨hread, hsession⟩ := Prod.mk.inj (run_call_eq_ok h)
  exact ⟨hread, hsession.symm⟩

/-- Success does not depend on the kind of error. -/
theorem run_mapError_eq_ok {f : ε → ε'} {x : Storing ε α} {c d : Connection} {a : α}
    (h : (x.mapError f).run c = (.ok a, d)) : x.run c = (.ok a, d) := by
  rw [run_mapError] at h
  rcases hrun : x.run c with ⟨e | b, d'⟩
  · rw [hrun] at h
    cases h
  · rw [hrun] at h
    obtain ⟨hresult, rfl⟩ := Prod.mk.inj h
    rw [Except.ok.inj hresult]

/-- A call moves the connection as far as its work moves the session. -/
theorem call_keeps [IsPreorder Session R] {kind : StorageCall}
    {work : Session → Except StorageError α × Session} (hwork : ∀ s, R s (work s).2) :
    Keeps (Connection.Moves R) (call kind work) := by
  intro c
  cases hnext : c.failures.next kind with
  | some e =>
    rw [run_call_of_some hnext]
    exact ⟨Std.Refl.refl _, rfl⟩
  | none =>
    rw [run_call_of_none hnext]
    exact ⟨hwork c.session, rfl⟩

/-- A call that closes no savepoint does not notice whether savepoints can be closed. -/
theorem call_ignores {kind : StorageCall} (hkind : kind ≠ .release)
    (work : Session → Except StorageError α × Session) :
    Ignores (fun c => c.without .release) (call kind work) := by
  intro c
  have hsame : (c.without .release).failures.next kind = c.failures.next kind :=
    c.failures.next_without_of_ne hkind
  cases hnext : c.failures.next kind with
  | some e =>
    rw [run_call_of_some hnext, run_call_of_some (hsame.trans hnext)]
    rfl
  | none =>
    rw [run_call_of_none hnext, run_call_of_none (hsame.trans hnext)]
    rfl

/-- The connection moves no further than each call moves it. -/
theorem Within.keeps [IsPreorder Session R] {x : Storing ε α} (h : Within R x) :
    Keeps (Connection.Moves R) x := by
  induction h with
  | pure a => exact .pure a
  | throw e => exact .throw e
  | bind _ _ hx hf => exact hx.bind hf
  | mapError f _ hx =>
    intro c
    rw [run_mapError]
    exact hx c
  | call _ hwork => exact call_keeps hwork

/-- Whether savepoints can be closed makes no difference. -/
theorem Within.ignores {x : Storing ε α} (h : Within R x) :
    Ignores (fun c => c.without .release) x := by
  induction h with
  | pure a => exact .pure a
  | throw e => exact .throw e
  | bind _ _ hx hf => exact hx.bind hf
  | mapError f _ hx =>
    intro c
    rw [run_mapError, run_mapError, hx c]
  | @call α kind work hkind _ =>
    refine call_ignores ?_ work
    rintro rfl
    cases hkind

/-- Unless storage refuses, going back to the last savepoint restores its data. -/
theorem run_rollbackTo {c : Connection} {older : List (String × Database)} {name : String}
    {data : Database} (hopen : c.session.savepoints = older ++ [(name, data)])
    (hnext : c.failures.next .rollbackTo = none) :
    (rollbackTo name).run c =
      (.ok (), ⟨{ c.session with working := data }, c.failures.count .rollbackTo⟩) := by
  rw [rollbackTo, run_call_of_none hnext]
  simp only [Session.rollbackTo_of_savepoints hopen]

/-- Unless storage refuses, closing the last savepoint leaves the data as it is. -/
theorem run_release {c : Connection} {older : List (String × Database)} {name : String}
    {data : Database} (hopen : c.session.savepoints = older ++ [(name, data)])
    (hnext : c.failures.next .release = none) :
    (release name).run c =
      (.ok (), ⟨{ c.session with savepoints := older }, c.failures.count .release⟩) := by
  rw [release, run_call_of_none hnext]
  simp only [Session.release_of_savepoints hopen]

/-- A result that uses no storage is there from the start. -/
theorem run_ofExcept (r : Except ε α) (c : Connection) : (ofExcept r).run c = (r, c) := by
  cases r <;> rfl

/-- A change that succeeds is that of the session. -/
theorem run_change_eq_ok {kind : StorageCall} {work : Session → Except StorageError (α × Session)}
    {c d : Connection} {a : α} (h : (change kind work).run c = (.ok a, d)) :
    work c.session = .ok (a, d.session) := by
  have hwork := run_call_eq_ok h
  split at hwork
  next b session hchange =>
    obtain ⟨hresult, rfl⟩ := Prod.mk.inj hwork
    rw [hchange, Except.ok.inj hresult]
  next => cases hwork

/-- A change that fails leaves no trace. Storage has refused it, or the session cannot make it. -/
theorem run_change_eq_error {kind : StorageCall}
    {work : Session → Except StorageError (α × Session)} {c d : Connection} {e : StorageError}
    (h : (change kind work).run c = (.error e, d)) :
    (c.failures.next kind = some e ∨ work c.session = .error e) ∧ d.session = c.session := by
  unfold change at h
  cases hnext : c.failures.next kind with
  | some failure =>
    rw [run_call_of_some hnext] at h
    obtain ⟨hresult, rfl⟩ := Prod.mk.inj h
    exact ⟨.inl (congrArg some (Except.error.inj hresult)), rfl⟩
  | none =>
    rw [run_call_of_none hnext] at h
    obtain ⟨hresult, rfl⟩ := Prod.mk.inj h
    cases hwork : work c.session with
    | ok changed =>
      rw [hwork] at hresult
      cases hresult
    | error failure =>
      rw [hwork] at hresult
      exact ⟨.inr (congrArg Except.error (Except.error.inj hresult)), rfl⟩

/-- What the session adds. -/
theorem insertRow_eq_ok {session session' : Session} {table : String} {row : Row} {id : Int}
    (h : session.insertRow table row = .ok (id, session')) :
    session.working.nextId? table = some id ∧
      session' = { session with
        working := session.working.setRow table id row
        log := session.log ++ ["INSERT " ++ table ++ " " ++ toString id] } := by
  unfold Session.insertRow at h
  split at h
  next => cases h
  next hnext =>
    obtain ⟨rfl, rfl⟩ := Prod.mk.inj (Except.ok.inj h)
    exact ⟨hnext, rfl⟩

/-- A row that was added has the next id. -/
theorem run_insertRow_eq_ok {table : String} {row : Row} {c d : Connection} {id : Int}
    (h : (insertRow table row).run c = (.ok id, d)) :
    c.session.working.nextId? table = some id ∧
      d.session.working = c.session.working.setRow table id row := by
  obtain ⟨hnext, hsession⟩ := insertRow_eq_ok (run_change_eq_ok h)
  exact ⟨hnext, by rw [hsession]⟩

/-- A row that was not added leaves no trace. -/
theorem run_insertRow_eq_error {table : String} {row : Row} {c d : Connection} {e : StorageError}
    (h : (insertRow table row).run c = (.error e, d)) :
    (c.failures.next .insertRow = some e ∨ c.session.working.nextId? table = none) ∧
      d.session = c.session := by
  obtain ⟨hrefused | hfull, hsession⟩ := run_change_eq_error h
  · exact ⟨.inl hrefused, hsession⟩
  · unfold Session.insertRow at hfull
    split at hfull
    next hnone => exact ⟨.inr hnone, hsession⟩
    next => cases hfull

/-- What the session changes of a row that is there. -/
theorem updateRow_eq_ok {session session' : Session} {table : String} {id : Int}
    {cells previous : Row} (h : session.updateRow table id cells = .ok (previous, session')) :
    session.working.row? table id = some previous ∧
      session' = { session with
        working := session.working.setRow table id (Dict.insertAll cells previous)
        log := session.log ++ ["UPDATE " ++ table ++ " " ++ toString id] } := by
  unfold Session.updateRow at h
  cases hrow : session.working.row? table id with
  | none =>
    rw [hrow] at h
    cases h
  | some row =>
    rw [hrow] at h
    obtain ⟨rfl, rfl⟩ := Prod.mk.inj (Except.ok.inj h)
    exact ⟨rfl, rfl⟩

/-- A row that was changed was there. -/
theorem run_updateRow_eq_ok {table : String} {id : Int} {cells previous : Row} {c d : Connection}
    (h : (updateRow table id cells).run c = (.ok previous, d)) :
    c.session.working.row? table id = some previous ∧
      d.session.working = c.session.working.setRow table id (Dict.insertAll cells previous) := by
  obtain ⟨hrow, hsession⟩ := updateRow_eq_ok (run_change_eq_ok h)
  exact ⟨hrow, by rw [hsession]⟩

/-- A row that could not be changed is as it was. -/
theorem run_updateRow_eq_error {table : String} {id : Int} {cells : Row} {c d : Connection}
    {e : StorageError} (h : (updateRow table id cells).run c = (.error e, d)) :
    d.session = c.session :=
  (run_change_eq_error h).2

/-! ## Checks and payments -/

theorem ofExcept_within (r : Except ε α) : Within R (ofExcept r) := by
  cases r with
  | ok a => exact .pure a
  | error e => exact .throw e

theorem look_looks {kind : StorageCall} (hkind : kind.isBookkeeping = false)
    (read : Database → Except StorageError α) : Looks (look kind read) :=
  .call hkind fun _ => rfl

theorem key_looks (ecosystem id : Int) : Looks (key ecosystem id) :=
  look_looks (by decide) _

theorem parameter_looks (ecosystem : Int) (name : String) : Looks (parameter ecosystem name) :=
  look_looks (by decide) _

theorem selectRow_looks (table : String) (id : Int) : Looks (selectRow table id) :=
  look_looks (by decide) _

/-- A change moves the session if it succeeds. -/
theorem change_within [IsPreorder Session R] {kind : StorageCall}
    {work : Session → Except StorageError (α × Session)} (hkind : kind.isBookkeeping = false)
    (hwork : ∀ s a t, work s = .ok (a, t) → R s t) : Within R (change kind work) := by
  refine .call hkind fun s => ?_
  cases hs : work s with
  | error e => exact Std.Refl.refl s
  | ok changed => exact hwork s _ _ hs

/-- Adding a row changes nothing but rows and the log. -/
theorem insertRow_within (table : String) (row : Row) :
    Within Session.SameButRows (insertRow table row) := by
  refine change_within (by decide) fun s id t h => ?_
  rw [(insertRow_eq_ok h).2]
  exact ⟨rfl, rfl⟩

/-- Changing a row changes nothing but rows and the log. -/
theorem updateRow_within (table : String) (id : Int) (cells : Row) :
    Within Session.SameButRows (updateRow table id cells) := by
  refine change_within (by decide) fun s previous t h => ?_
  rw [(updateRow_eq_ok h).2]
  exact ⟨rfl, rfl⟩

end Storing

namespace Access

open Storing

theorem isFounder_looks (ctx : ExecutionContext) : Looks (isFounder ctx) :=
  .bind (.mapError _ (parameter_looks _ _)) fun _ => .pure _

theorem recordOf_looks (table : String) : Looks (recordOf table) := by
  unfold recordOf
  split
  · exact .mapError _ (look_looks (by decide) _)
  · exact .pure _

theorem tablePermissions_looks (params : SystemParameters) (ctx : ExecutionContext)
    (table : String) (action : TableAction) :
    Looks (tablePermissions params ctx table action) := by
  refine .ite ?privileged (.bind (recordOf_looks table) fun found => ?custom)
  case privileged =>
    exact .ite (.pure _) (.bind (isFounder_looks ctx) fun _ => .ite (.pure _) (.throw _))
  case custom =>
    cases found with
    | none => exact .ite (.throw _) (.pure _)
    | some record =>
      exact .ite (.pure _) (.bind (ofExcept_within _) fun _ => .ite (.pure _) (.throw _))

theorem checkTable_looks (params : SystemParameters) (ctx : ExecutionContext) (table : String)
    (action : TableAction) : Looks (checkTable params ctx table action) :=
  .ite (.pure _) (.bind (tablePermissions_looks params ctx table action) fun _ => .pure _)

theorem checkColumns_looks (params : SystemParameters) (ctx : ExecutionContext) (table : String)
    (columns : List String) (update : Bool) :
    Looks (checkColumns params ctx table columns update) := by
  refine .ite (.pure _) (.ite ?privileged (.bind (recordOf_looks table) fun found => ?custom))
  case privileged =>
    exact .ite (.pure _) (.bind (isFounder_looks ctx) fun _ => .ite (.pure _) (.throw _))
  case custom =>
    cases found with
    | none => exact .ite (.throw _) (.pure _)
    | some record => exact ofExcept_within _

theorem checkCondition_looks (params : SystemParameters) (ctx : ExecutionContext) (param : String)
    (useConditions : Bool) : Looks (checkCondition params ctx param useConditions) :=
  .ite (.pure _) (.bind (.mapError _ (parameter_looks _ _)) fun _ =>
    .ite (.throw _) (.bind (ofExcept_within _) fun _ => .ite (.pure _) (.throw _)))

theorem checkRead_looks (params : SystemParameters) (ctx : ExecutionContext)
    (table columns : String) (ecosystem : Int) :
    Looks (checkRead params ctx table columns ecosystem) :=
  .ite (.pure _) (.bind (tablePermissions_looks params ctx _ _) fun _ =>
    .bind (checkColumns_looks params ctx _ _ _) fun _ => .pure _)

end Access

namespace Auth

open Storing

theorem isDelayed_looks (contract : String) : Looks (isDelayed contract) :=
  .ite (.pure _) (.mapError _ (look_looks (by decide) _))

/-- Finding out who must have signed only reads. -/
theorem resolveSigner_looks (crypto : KeyCrypto) (params : SystemParameters) (tx : Transaction)
    (contract : String) : Looks (resolveSigner crypto params tx contract) := by
  unfold resolveSigner
  split
  · exact ofExcept_within _
  · refine .ite (.pure _) (.bind (isDelayed_looks contract) fun _ =>
      .ite (.throw _) (.ite (.pure _) ?_))
    split
    · exact .throw _
    · exact .pure _
    · exact .throw _

/-- Verifying a signature only reads. -/
theorem verifySignature_looks (crypto : KeyCrypto) (tx : Transaction) (signer : Int) :
    Looks (verifySignature crypto tx signer) := by
  refine .bind (.mapError _ (key_looks _ _)) fun found => ?_
  cases found with
  | none => exact .throw _
  | some key =>
    refine .ite (.throw _) ?_
    split
    · exact .throw _
    · split
      · exact .throw _
      · exact .throw _
      · exact .pure _

end Auth

namespace Payment

open Storing

theorem requireFunds_looks (ctx : ExecutionContext) (amount : Int) :
    Looks (requireFunds ctx amount) := by
  refine .bind (.bind (.mapError _ (key_looks _ _)) fun found => ?_) fun _ =>
    .ite (.throw _) (.pure _)
  cases found with
  | none => exact .throw _
  | some key => exact .pure _

/-- Checking that the least fee can be paid only reads. -/
theorem prepare_looks (schedule : FeeSchedule) (ctx : ExecutionContext) :
    Looks (prepare schedule ctx) :=
  .bind (requireFunds_looks ctx _) fun _ => .pure _

theorem credit_within (ctx : ExecutionContext) (fee : Int) :
    Within Session.SameButRows (credit ctx fee) := by
  refine .ite (.pure _) (.bind (key_looks _ _).leaves fun found => ?_)
  cases found with
  | none => exact .pure _
  | some key => exact .bind (updateRow_within _ _ _) fun _ => .pure _

/-- A payment changes nothing but rows and the log, also where it ends early. -/
theorem settle_within (schedule : FeeSchedule) (ctx : ExecutionContext) (mode : PaymentMode) :
    Within Session.SameButRows (settle schedule ctx mode) :=
  .bind (requireFunds_looks ctx _).leaves fun _ =>
    .mapError _ (.bind (ofExcept_within _) fun _ => .bind (updateRow_within _ _ _) fun _ =>
      .bind (credit_within ctx _) fun _ => .bind (insertRow_within _ _) fun _ => .pure _)

end Payment

end Covenant
