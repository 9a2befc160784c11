import Mathlib.Data.List.Induction
import Mathlib.Logic.Function.Basic
import Covenant.Proofs.Ledger

/-!
# Transactions side by side

Any number of transactions may be open on one storage. Each works on its own copy, and a commit
publishes the whole copy. So after a commit every row is as the transaction has written it, or else as
it was stored when the transaction began; what others have committed meanwhile is gone. A committed row
lasts as long as everybody who commits later has also begun later and has not written it.
-/

namespace Covenant

/-! ## Steps -/

/-- How far a transaction has come. -/
inductive Progress where
  /-- It has not begun. -/
  | ahead
  /-- It is open, and has begun with this data and written these rows since. -/
  | working (began : Database) (written : List (String × Int)) (session : Session)
  /-- It is committed. -/
  | over

/-- A storage and its transactions. -/
structure Storage where
  /-- The committed data. -/
  database : Database
  progress : Nat → Progress

/-- What a transaction can do next. -/
inductive Storage.Action where
  | begin
  | insertRow (table : String) (row : Row)
  | updateRow (table : String) (id : Int) (cells : Row)
  | commit

namespace Storage

/-- A storage without transactions. -/
def idle (db : Database) : Storage := ⟨db, fun _ => .ahead⟩

/-- The storage with another progress of a transaction. -/
def put (s : Storage) (i : Nat) (progress : Progress) : Storage :=
  { s with progress := Function.update s.progress i progress }

/-- The storage after a transaction has taken a step. A step that it cannot take changes nothing. -/
def act (s : Storage) (i : Nat) (action : Action) : Storage :=
  match s.progress i, action with
  | .ahead, .begin => s.put i (.working s.database [] (.begin s.database))
  | .working began written session, .insertRow table row =>
    match session.insertRow table row with
    | .ok (id, session) => s.put i (.working began ((table, id) :: written) session)
    | .error _ => s
  | .working began written session, .updateRow table id cells =>
    match session.updateRow table id cells with
    | .ok (_, session) => s.put i (.working began ((table, id) :: written) session)
    | .error _ => s
  | .working _ _ session, .commit => { s.put i .over with database := session.published }
  | _, _ => s

/-- The storage after steps of several transactions. -/
def run (s : Storage) (steps : List (Nat × Action)) : Storage :=
  steps.foldl (fun s step => s.act step.1 step.2) s

/-- Whoever commits on the way has begun after `s` and has not written the row. -/
def Careful (s : Storage) (steps : List (Nat × Action)) (table : String) (id : Int) : Prop :=
  ∀ earlier j later began written session, steps = earlier ++ (j, .commit) :: later →
    (s.run earlier).progress j = .working began written session →
      s.progress j = .ahead ∧ (table, id) ∉ written

variable {s : Storage} {i j : Nat} {action : Action} {steps : List (Nat × Action)}
  {began : Database} {written : List (String × Int)} {session : Session} {table : String} {id : Int}

theorem run_concat (s : Storage) (steps : List (Nat × Action)) (i : Nat) (action : Action) :
    s.run (steps ++ [(i, action)]) = (s.run steps).act i action := by
  simp only [run, List.foldl_append, List.foldl_cons, List.foldl_nil]

@[simp] theorem progress_put_self (progress : Progress) : (s.put i progress).progress i = progress :=
  Function.update_self ..

theorem progress_put_of_ne (h : j ≠ i) (progress : Progress) :
    (s.put i progress).progress j = s.progress j :=
  Function.update_of_ne h ..

/-- What a step of a transaction can do. -/
inductive Acts (s : Storage) (i : Nat) : Action → Storage → Prop
  /-- The transaction cannot take the step. -/
  | idles {action : Action} : Acts s i action s
  | begins : s.progress i = .ahead →
      Acts s i .begin (s.put i (.working s.database [] (.begin s.database)))
  /-- A row is written on the transaction's copy. -/
  | writes {action : Action} {began : Database} {written : List (String × Int)}
      {session session' : Session} {table : String} {id : Int} {row : Row} :
      s.progress i = .working began written session →
      session'.working = session.working.setRow table id row →
      Acts s i action (s.put i (.working began ((table, id) :: written) session'))
  | commits {began : Database} {written : List (String × Int)} {session : Session} :
      s.progress i = .working began written session →
      Acts s i .commit { s.put i .over with database := session.working }

/-- Every step begins, writes, commits, or does nothing. -/
theorem act_acts (s : Storage) (i : Nat) (action : Action) : s.Acts i action (s.act i action) := by
  unfold act
  split
  next h => exact .begins h
  next began written session table row h =>
    split
    next id session' hinsert =>
      rw [(Storing.insertRow_eq_ok hinsert).2]
      exact .writes h rfl
    next => exact .idles
  next began written session table id cells h =>
    split
    next previous session' hupdate =>
      rw [(Storing.updateRow_eq_ok hupdate).2]
      exact .writes h rfl
    next => exact .idles
  next h => exact .commits h
  next => exact .idles

/-- A transaction that is open after a step was open before and may have written a row since, or it
has just begun. -/
theorem Acts.working {t : Storage} (h : s.Acts i action t)
    (hj : t.progress j = .working began written session) :
    s.progress j = .working began written session ∨
      s.progress j = .ahead ∧ began = s.database ∧ session = .begin s.database ∨
      ∃ table id row written' session', s.progress j = .working began written' session' ∧
        written = (table, id) :: written' ∧
        session.working = session'.working.setRow table id row := by
  by_cases hsame : j = i
  · subst hsame
    cases h with
    | idles => exact .inl hj
    | begins hahead =>
      rw [progress_put_self] at hj
      cases hj
      exact .inr (.inl ⟨hahead, rfl, rfl⟩)
    | writes hopen hworking =>
      rw [progress_put_self] at hj
      cases hj
      exact .inr (.inr ⟨_, _, _, _, _, hopen, rfl, hworking⟩)
    | commits => cases (progress_put_self _).symm.trans hj
  · -- The step is one of another transaction.
    refine .inl ?_
    cases h with
    | idles => exact hj
    | begins | writes | commits => exact (progress_put_of_ne hsame _).symm.trans hj

/-- A commit publishes the copy. -/
theorem act_commit (h : s.progress i = .working began written session) :
    s.act i .commit = { s.put i .over with database := session.working } := by
  simp only [act, h, Session.published]

/-! ## Rows that a transaction has not written -/

/-- On every copy, a row that was not written is as it was when the transaction began. -/
def Faithful (s : Storage) : Prop :=
  ∀ i began written session, s.progress i = .working began written session →
    ∀ table id, (table, id) ∉ written →
      session.working.row? table id = began.row? table id

theorem faithful_idle (db : Database) : (idle db).Faithful := by
  intro i began written session h
  cases h

/-- A step writes no rows but those that it counts as written. -/
theorem Faithful.act (h : s.Faithful) (i : Nat) (action : Action) : (s.act i action).Faithful := by
  intro j began written session hj table id hrow
  rcases (act_acts s i action).working hj with
    hj | ⟨-, rfl, rfl⟩ | ⟨name, key, row, written', session', hopen, rfl, hworking⟩
  · exact h j began written session hj table id hrow
  · rfl
  · obtain ⟨hne, hold⟩ := not_or.mp (mt List.mem_cons.mpr hrow)
    rw [hworking, Database.row?_setRow, if_neg, h j _ _ _ hopen table id hold]
    rintro ⟨rfl, rfl⟩
    exact hne rfl

theorem Faithful.run (h : s.Faithful) (steps : List (Nat × Action)) : (s.run steps).Faithful := by
  induction steps generalizing s with
  | nil => exact h
  | cons step rest ih => exact ih (h.act step.1 step.2)

/-- After a commit, a row that the transaction has not written is as it was when it began. -/
theorem Faithful.row?_commit (h : s.Faithful)
    (hopen : s.progress j = .working began written session) (hrow : (table, id) ∉ written) :
    (s.act j .commit).database.row? table id = began.row? table id := by
  rw [act_commit hopen]
  exact h j began written session hopen table id hrow

/-! ## Rows that last -/

/-- The row is stored as in `s`, and everybody who has begun since then has found it like that. -/
structure Upholds (s : Storage) (table : String) (id : Int) (t : Storage) : Prop where
  faithful : t.Faithful
  stored : t.database.row? table id = s.database.row? table id
  found : ∀ j began written session, t.progress j = .working began written session →
    s.progress j = .ahead → began.row? table id = s.database.row? table id

/-- A step keeps the row, if it is no commit of somebody who has begun before or has written it. -/
theorem Upholds.act {t : Storage} (h : s.Upholds table id t)
    (hcareful : ∀ began written session, action = .commit →
      t.progress i = .working began written session →
        s.progress i = .ahead ∧ (table, id) ∉ written) :
    s.Upholds table id (t.act i action) := by
  refine ⟨h.faithful.act i action, ?_, ?_⟩
  · have hacts := act_acts t i action
    generalize t.act i action = u at hacts
    cases hacts with
    | idles => exact h.stored
    | begins => exact h.stored
    | writes => exact h.stored
    | commits hopen =>
      obtain ⟨hahead, hrow⟩ := hcareful _ _ _ rfl hopen
      exact (h.faithful i _ _ _ hopen table id hrow).trans (h.found i _ _ _ hopen hahead)
  · intro j began written session hj hahead
    rcases (act_acts t i action).working hj with hj | ⟨-, rfl, -⟩ | ⟨_, _, _, _, _, hopen, -, -⟩
    · exact h.found j began written session hj hahead
    · exact h.stored
    · exact h.found j _ _ _ hopen hahead

/-- Careful steps keep the row. -/
theorem Upholds.run (hs : s.Faithful) (hcareful : s.Careful steps table id) :
    s.Upholds table id (s.run steps) := by
  induction steps using List.reverseRecOn with
  | nil => exact ⟨hs, rfl, fun _ _ _ _ hopen hahead => by simp [Storage.run, hahead] at hopen⟩
  | append_singleton earlier step ih =>
    obtain ⟨i, action⟩ := step
    have hearlier : s.Careful earlier table id := by
      intro first j later began written session hsplit hopen
      exact hcareful first j (later ++ [(i, action)]) began written session
        (by rw [hsplit, List.append_assoc, List.cons_append]) hopen
    rw [run_concat]
    refine (ih hearlier).act fun began written session hcommit hopen => ?_
    subst hcommit
    exact hcareful earlier i [] began written session rfl hopen

end Storage

/-! ## Fees -/

/-- What a payment in one ecosystem makes of a balance in another or the same one: the payer has less,
and another recipient more. -/
def Payment.move (ecosystem payer recipient fee other id balance : Int) : Int :=
  if other = ecosystem ∧ id = payer then balance - fee
  else if other = ecosystem ∧ id = recipient then Quantity.add balance fee
  else balance

/-- The balance of a key, if it has a row that holds one. -/
def Database.balance? (db : Database) (ecosystem id : Int) : Option Int :=
  (db.row? (TableName.keys ecosystem) id).bind amountOf?

namespace FeePaid

variable {ecosystem other payer another recipient earner fee price : Int} {entry record : Row}
  {before between after : Database}

/-- A payment moves the balances of its payer and its recipient, and no others. They stay quantities. -/
theorem balance?_eq (h : FeePaid ecosystem payer recipient fee entry before after) {id balance : Int}
    (hbalance : before.balance? other id = some balance) :
    after.balance? other id =
        some (Payment.move ecosystem payer recipient fee other id balance) ∧
      (Quantity.InRange balance →
        Quantity.InRange (Payment.move ecosystem payer recipient fee other id balance)) := by
  obtain ⟨row, hrow, hamount⟩ := Option.bind_eq_some_iff.mp hbalance
  unfold Payment.move Database.balance?
  split
  next hpays =>
    obtain ⟨rfl, rfl⟩ := hpays
    obtain ⟨found, paid, hfound, hpaid, -, hrange, hdebit⟩ := h.debit
    obtain rfl : found = row := Option.some.inj (hfound.symm.trans hrow)
    obtain rfl : paid = balance := Option.some.inj (hpaid.symm.trans hamount)
    rw [hdebit]
    exact ⟨Database.amountOf?_insert _ _, fun _ => hrange⟩
  next hothers =>
    split
    next hearns =>
      obtain ⟨rfl, rfl⟩ := hearns
      obtain ⟨earned, hearned, hcredit⟩ := h.credit (fun heq => hothers ⟨rfl, heq⟩) row hrow
      obtain rfl : earned = balance := Option.some.inj (hearned.symm.trans hamount)
      rw [hcredit]
      exact ⟨Database.amountOf?_insert _ _, fun _ => Quantity.add_inRange _ _⟩
    next hnone =>
      rw [h.rows _ _ (fun heq => hothers ⟨TableName.keys_inj heq.1, heq.2⟩)
        (fun heq => absurd ⟨TableName.keys_inj heq.1, heq.2⟩ hnone)
        (fun heq => TableName.keys_ne_history_of_ecosystems _ _ heq.1)]
      exact ⟨hbalance, fun hrange => hrange⟩

/-- The history row of a payment stays when another payment follows. -/
theorem entry_lasts (h : FeePaid ecosystem payer recipient fee entry before between)
    (k : FeePaid other another earner price record between after) {place : Int}
    (hplace : before.nextId? (TableName.history ecosystem) = some place) :
    after.row? (TableName.history ecosystem) place = some entry := by
  obtain ⟨id, hid, -, -, hentry⟩ := h.entry
  obtain rfl : id = place := Option.some.inj (hid.symm.trans hplace)
  have hkeys := (TableName.keys_ne_history_of_ecosystems other ecosystem).symm
  rw [← hentry]
  refine k.rows _ _ (fun heq => hkeys heq.1) (fun heq => absurd heq.1 hkeys) ?_
  rintro ⟨-, hnext⟩
  rw [Database.row?_nextId? hnext] at hentry
  cases hentry

end FeePaid

/-- Both payments stand in the data: each has its row in a history, under an id of its own, and every
balance is moved by the first and then by the second. All ids and balances are quantities. -/
def Payment.BothStand (schedule : FeeSchedule) (first second : ExecutionContext)
    (mode another : PaymentMode) (before between stored : Database) : Prop :=
  let fee := schedule.fee first.fuel.consumed
  let price := schedule.fee second.fuel.consumed
  (∃ place next, before.nextId? (TableName.history first.ecosystemId) = some place ∧
    between.nextId? (TableName.history second.ecosystemId) = some next ∧
    Quantity.InRange place ∧ Quantity.InRange next ∧
    (first.ecosystemId = second.ecosystemId → place ≠ next) ∧
    stored.row? (TableName.history first.ecosystemId) place = some (historyRow first fee mode) ∧
    stored.row? (TableName.history second.ecosystemId) next =
      some (historyRow second price another)) ∧
  ∀ ecosystem id balance, before.balance? ecosystem id = some balance →
    let moved := move second.ecosystemId second.tx.keyId (recipient second) price ecosystem id
      (move first.ecosystemId first.tx.keyId (recipient first) fee ecosystem id balance)
    stored.balance? ecosystem id = some moved ∧
      (Quantity.InRange balance → Quantity.InRange moved)

/-- Two payments stand if the second one begins on what the first one has published. -/
theorem Payment.bothStand {schedule : FeeSchedule} {first second : ExecutionContext}
    {mode another : PaymentMode} {c c' d d' : Connection}
    (hfirst : (settle schedule first mode).run c = (.ok (), c'))
    (hbegun : d.session = .begin c'.session.published)
    (hsecond : (settle schedule second another).run d = (.ok (), d')) :
    BothStand schedule first second mode another c.session.working c'.session.published
      d'.session.published := by
  have hpaid := settle_ok hfirst
  have hpaid' := settle_ok hsecond
  have hbetween : d.session.working = c'.session.working := by rw [hbegun]; rfl
  rw [hbetween] at hpaid'
  obtain ⟨place, hplace, hinRange, -, hentry⟩ := hpaid.entry
  obtain ⟨next, hnext, hinRange', hnone, hentry'⟩ := hpaid'.entry
  refine ⟨⟨place, next, hplace, hnext, hinRange, hinRange', fun hsame hid => ?_,
    hpaid.entry_lasts hpaid' hplace, hentry'⟩, fun ecosystem id balance hbalance => ?_⟩
  · rw [hid, hsame, hnone] at hentry
    cases hentry
  · obtain ⟨hfirst, hquantity⟩ := hpaid.balance?_eq hbalance
    obtain ⟨hsecond, hquantity'⟩ := hpaid'.balance?_eq hfirst
    exact ⟨hsecond, fun hrange => hquantity' (hquantity hrange)⟩

namespace Sample

/-- A transaction adds a row. -/
def writing : List (Nat × Storage.Action) :=
  [(0, .begin), (0, .insertRow "1_t" [("a", .int 1)])]

/-- Another transaction begins, adds a row and is committed. -/
def following : List (Nat × Storage.Action) :=
  [(1, .begin), (1, .insertRow "1_t" [("a", .int 2)]), (1, .commit)]

/-- The row of the first transaction, once it is committed, stands through the second one. -/
theorem careful_following :
    (((Storage.idle .empty).run writing).act 0 .commit).Careful following "1_t" 1 := by
  intro earlier j later began written session hsplit hopen
  rcases earlier with _ | ⟨_, _ | ⟨_, _ | ⟨_, rest⟩⟩⟩
  · cases hsplit
  · cases hsplit
  · cases hsplit
    cases hopen
    exact ⟨rfl, by decide⟩
  · simp [following] at hsplit

/-- A payer is about to pay a fee to a wallet. -/
def paying (payer wallet : Int) : ExecutionContext :=
  let block := (request 0).block
  .new { (request 0).tx with keyId := payer }
    ⟨0, "@1Move", { Ownership.none with walletId := wallet }, [], [], []⟩ block block .none

/-- The first payment, on the sample's data. -/
def firstPaid : Connection :=
  ((Payment.settle node.fees (paying 7 3) .success).run ⟨.begin database, .none⟩).2

/-- The second payment, by the one who has earned the first. -/
def bothPaid : Connection :=
  ((Payment.settle node.fees (paying 3 8) .failure).run
    ⟨.begin firstPaid.session.published, .none⟩).2

end Sample

namespace Storage

/-- A committed row lasts through all commits of transactions that have begun later and have not
written it. Whoever commits without having written a row leaves it as it was when that transaction
began. So of two payments, both stand if one has begun after the other was committed. -/
theorem commits_keep_rows :
    (∀ (db : Database) (before after : List (Nat × Action)) (i : Nat) (table : String) (id : Int),
      let s := ((idle db).run before).act i .commit
      (s.Careful after table id →
          (s.run after).database.row? table id = s.database.row? table id) ∧
        ∀ j began written session, (s.run after).progress j = .working began written session →
          (table, id) ∉ written →
            ((s.run after).act j .commit).database.row? table id = began.row? table id) ∧
      ∀ (schedule : FeeSchedule) (first second : ExecutionContext) (mode another : PaymentMode)
        (c c' d d' : Connection), (Payment.settle schedule first mode).run c = (.ok (), c') →
          d.session = .begin c'.session.published →
            (Payment.settle schedule second another).run d = (.ok (), d') →
              Payment.BothStand schedule first second mode another c.session.working
                c'.session.published d'.session.published := by
  refine ⟨fun db before after i table id => ?_, fun _ _ _ _ _ _ _ _ _ => Payment.bothStand⟩
  have hfaithful : (((idle db).run before).act i .commit).Faithful :=
    ((faithful_idle db).run before).act i .commit
  exact ⟨fun hcareful => (Upholds.run hfaithful hcareful).stored,
    fun j began written session hopen hrow => (hfaithful.run after).row?_commit hopen hrow⟩

/-- A row that was committed is still there after another commit, and so are two payments. -/
theorem commits_keep_rows_sample :
    let s := ((idle .empty).run Sample.writing).act 0 .commit
    s.Careful Sample.following "1_t" 1 ∧
      (s.run Sample.following).database.row? "1_t" 1 = s.database.row? "1_t" 1 ∧
      Payment.BothStand Sample.node.fees (Sample.paying 7 3) (Sample.paying 3 8) .success .failure
        Sample.database Sample.firstPaid.session.published Sample.bothPaid.session.published ∧
      (Sample.database.balance? 1 7, Sample.database.balance? 1 3) = (some 100, some 5) ∧
      (Sample.bothPaid.session.published.balance? 1 7,
        Sample.bothPaid.session.published.balance? 1 3) = (some 90, some 5) := by
  have hpaid : ((Payment.settle Sample.node.fees (Sample.paying 7 3) .success).run
        ⟨.begin Sample.database, .none⟩).1.toOption = some () ∧
      ((Payment.settle Sample.node.fees (Sample.paying 3 8) .failure).run
        ⟨.begin Sample.firstPaid.session.published, .none⟩).1.toOption = some () ∧
      (Sample.bothPaid.session.published.balance? 1 7,
        Sample.bothPaid.session.published.balance? 1 3) = (some 90, some 5) := by decide +kernel
  obtain ⟨hfirst, hsecond, hbalances⟩ := hpaid
  obtain ⟨hrows, hpayments⟩ := commits_keep_rows
  exact ⟨Sample.careful_following,
    (hrows .empty Sample.writing Sample.following 0 "1_t" 1).1 Sample.careful_following,
    hpayments _ _ _ _ _ ⟨.begin Sample.database, .none⟩ _ _ _ (Stage.run_of_toOption hfirst) rfl
      (Stage.run_of_toOption hsecond), by decide, hbalances⟩

/-- A row that was committed is gone after the commit of a transaction that has not written it, because
that one had begun before. -/
theorem not_commits_keep_rows :
    ¬ ∀ (db : Database) (before after : List (Nat × Action)) (i j : Nat) (table : String) (id : Int)
        (began : Database) (written : List (String × Int)) (session : Session),
      let s := ((idle db).run before).act i .commit
      s.database.row? table id ≠ ((idle db).run before).database.row? table id →
        (s.run after).progress j = .working began written session → (table, id) ∉ written →
          (s.run after).database.row? table id = s.database.row? table id →
            ((s.run after).act j .commit).database.row? table id = s.database.row? table id := by
  intro hclaim
  have hbefore : ((idle .empty).run ((1, .begin) :: Sample.writing)).database.row? "1_t" 1 = none :=
    rfl
  have hstored : (((idle .empty).run ((1, .begin) :: Sample.writing)).act 0 .commit).database.row?
      "1_t" 1 = some [("a", .int 1)] := rfl
  have hgone : ((((idle .empty).run ((1, .begin) :: Sample.writing)).act 0 .commit).act 1
      .commit).database.row? "1_t" 1 = none := rfl
  have hkept := hclaim .empty ((1, .begin) :: Sample.writing) [] 0 1 "1_t" 1 .empty []
    (.begin .empty) (by rw [hbefore, hstored]; exact Option.some_ne_none _) rfl (by decide) rfl
  rw [hstored] at hkept
  exact Option.some_ne_none _ (hkept.symm.trans hgone)

end Storage

end Covenant
