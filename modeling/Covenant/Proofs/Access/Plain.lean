import Covenant.Proofs.Access.Write
import Covenant.Proofs.Result

/-!
# What a column check comes to

A column check expands stars, remembers verdicts under normal forms, leaves early or goes on, and at its
end looks at what it remembers. Without all that, it is a matter of the request with its stars replaced
and of one verdict for each entry: a read gives the entries that are allowed, an update gives all of them
or nothing, and the first entry without a verdict that is reached ends either.
-/

namespace Covenant.Access

variable {params : SystemParameters} {ctx : ExecutionContext} {env : Environment}
  {record : TableRecord} {rules : Dict String String} {update : Bool} {table name column : String}
  {columns request kept : List String} {judge : String → Except AccessError Bool}
  {walk next : Walk} {e : AccessError} {answer : Except AccessError (List String)}
  {c d : Connection}

/-! ## The plain check -/

/-- The request for columns, with every star replaced by the columns that have rules. -/
inductive Requests (rules : Dict String String) : List String → List String → Prop
  | none : Requests rules [] []
  | star {columns request : List String} :
      Requests rules columns request → Requests rules ("*" :: columns) (rules.map Prod.fst ++ request)
  | column {column : String} {columns request : List String} :
      column ≠ "*" → Requests rules columns request →
      Requests rules (column :: columns) (column :: request)

/-- The condition under which a rule allows an access. -/
def conditionOf (rule : ColumnRule) (update : Bool) : String :=
  if update then rule.update else rule.read

/-- What the rule for a name says about an access, if it is evaluated afresh. Where there is no rule, or
the rule or its condition is empty, the access is allowed. -/
inductive Judged (params : SystemParameters) (env : Environment) (rules : Dict String String)
    (update : Bool) (name : String) : Except AccessError Bool → Prop
  | missing : Dict.find? name rules = none → Judged params env rules update name (.ok true)
  | empty : Dict.find? name rules = some "" → Judged params env rules update name (.ok true)
  | malformed {rule : String} {e : AccessError} :
      Dict.find? name rules = some rule → rule ≠ "" → ColumnRule.parse name rule = .error e →
      Judged params env rules update name (.error e)
  | unconditional {rule : String} {parsed : ColumnRule} :
      Dict.find? name rules = some rule → rule ≠ "" → ColumnRule.parse name rule = .ok parsed →
      conditionOf parsed update = "" → Judged params env rules update name (.ok true)
  | decided {rule : String} {parsed : ColumnRule} {b : Bool} :
      Dict.find? name rules = some rule → rule ≠ "" → ColumnRule.parse name rule = .ok parsed →
      conditionOf parsed update ≠ "" →
      Condition.holds (conditionOf parsed update) (env.setFuel params.maxCost) = .ok b →
      Judged params env rules update name (.ok b)
  | undecided {rule : String} {parsed : ColumnRule} {e : EvalError} :
      Dict.find? name rules = some rule → rule ≠ "" → ColumnRule.parse name rule = .ok parsed →
      conditionOf parsed update ≠ "" →
      Condition.holds (conditionOf parsed update) (env.setFuel params.maxCost) = .error e →
      Judged params env rules update name (.error (.evaluation e))

/-- The allowed entries of a request, in order and as often as they occur. -/
inductive Selects (judged : String → Except AccessError Bool → Prop) :
    List String → List String → Prop
  | none : Selects judged [] []
  | keeps {column : String} {request kept : List String} :
      judged column (.ok true) → Selects judged request kept →
      Selects judged (column :: request) (column :: kept)
  | drops {column : String} {request kept : List String} :
      judged column (.ok false) → Selects judged request kept →
      Selects judged (column :: request) kept

/-- What becomes of a request, given the verdicts on its entries. -/
inductive Answers (judged : String → Except AccessError Bool → Prop) (update : Bool)
    (request : List String) : Except AccessError (List String) → Prop
  /-- A read gives the allowed entries. -/
  | reads {kept : List String} :
      update = false → Selects judged request kept → (kept = [] → request = []) →
      Answers judged update request (.ok kept)
  /-- A read of which nothing is allowed is refused. -/
  | nothing :
      update = false → Selects judged request [] → request ≠ [] →
      Answers judged update request (.error (.accessDenied .column))
  /-- An update whose entries are all allowed gives the whole request. -/
  | updates :
      update = true → (∀ column ∈ request, judged column (.ok true)) →
      Answers judged update request (.ok request)
  /-- An update is refused at the first entry that is not allowed. -/
  | refused {before after : List String} {column : String} :
      update = true → request = before ++ column :: after →
      (∀ earlier ∈ before, judged earlier (.ok true)) → judged column (.ok false) →
      Answers judged update request (.error (.accessDenied .column))
  /-- An entry without a verdict ends the check, if no entry before it has. -/
  | fails {before after : List String} {column : String} {e : AccessError} :
      request = before ++ column :: after →
      (∀ earlier ∈ before, ∃ b, judged earlier (.ok b) ∧ (update = true → b = true)) →
      judged column (.error e) → Answers judged update request (.error e)

/-! ## Requests and verdicts -/

theorem requests_iff : Requests rules columns request ↔ request = expandColumns rules columns := by
  induction columns generalizing request with
  | nil =>
    constructor
    · rintro ⟨⟩
      rfl
    · rintro rfl
      exact .none
  | cons column columns ih =>
    constructor
    · intro h
      cases h with
      | star hrest =>
        rw [ih.mp hrest]
        rfl
      | column hne hrest =>
        rw [ih.mp hrest]
        simp [expandColumns, hne]
    · rintro rfl
      by_cases hstar : column = "*"
      · subst hstar
        exact .star (ih.mpr rfl)
      · have hexpand : expandColumns rules (column :: columns) =
            column :: expandColumns rules columns := by simp [expandColumns, hstar]
        rw [hexpand]
        exact .column hstar (ih.mpr rfl)

theorem judged_columnVerdict (name : String) :
    Judged params ctx.env rules update name (columnVerdict params ctx rules update name) := by
  unfold columnVerdict
  cases hfind : Dict.find? name rules with
  | none => exact .missing hfind
  | some rule =>
    by_cases hempty : rule = ""
    · subst hempty
      exact .empty hfind
    · have hkept : (some rule).filter (!·.isEmpty) = some rule := by simp [hempty]
      rw [hkept]
      dsimp only
      split
      next e herror => exact .malformed hfind hempty herror
      next parsed hparsed =>
        change Judged params ctx.env rules update name
          (if (conditionOf parsed update).isEmpty then .ok true
            else conditionHolds params ctx (conditionOf parsed update))
        split
        next hnone =>
          exact .unconditional hfind hempty hparsed (String.isEmpty_iff.mp hnone)
        next hsome =>
          have hcondition : conditionOf parsed update ≠ "" :=
            fun hnone => hsome (String.isEmpty_iff.mpr hnone)
          unfold conditionHolds conditionEnv
          cases hholds : Condition.holds (conditionOf parsed update)
              (ctx.env.setFuel params.maxCost) with
          | ok b => exact .decided hfind hempty hparsed hcondition hholds
          | error e => exact .undecided hfind hempty hparsed hcondition hholds

/-- A rule says one thing only about an access. -/
theorem Judged.unique {v w : Except AccessError Bool}
    (hv : Judged params env rules update name v) (hw : Judged params env rules update name w) :
    v = w := by
  cases hv <;> cases hw <;> simp_all

theorem judged_iff {v : Except AccessError Bool} :
    Judged params ctx.env rules update name v ↔
      columnVerdict params ctx rules update name = v := by
  constructor
  · intro h
    exact (judged_columnVerdict name).unique h
  · rintro rfl
    exact judged_columnVerdict name

/-! ## Walks without memory -/

/-- The allowed columns of a request if each column is judged afresh. An update ends at the first that
is refused. -/
def select (judge : String → Except AccessError Bool) (update : Bool) :
    List String → Except AccessError (List String)
  | [] => .ok []
  | column :: rest =>
    match judge (ColumnName.normalize column) with
    | .error e => .error e
    | .ok true => (select judge update rest).map (column :: ·)
    | .ok false => if update then .error (.accessDenied .column) else select judge update rest

/-- A faithful walk finds what is found without memory. -/
theorem walkColumns_eq (hwalk : walk.Faithful judge) :
    (walkColumns judge update walk columns).map Walk.allowed =
      (select judge update columns).map fun kept => kept.reverse ++ walk.allowed := by
  induction columns generalizing walk with
  | nil => rfl
  | cons column columns ih =>
    unfold walkColumns select
    cases hverdict : walk.verdict judge column with
    | error e =>
      rw [Walk.verdict_eq_error hverdict]
      rfl
    | ok found =>
      obtain ⟨permitted, after⟩ := found
      obtain ⟨hjudge, hafter⟩ := Walk.verdict_eq_ok hwalk hverdict
      have hallowed := Walk.allowed_of_verdict hverdict
      rw [hjudge]
      cases permitted with
      | true =>
        have hremembered : Walk.Faithful { after with allowed := column :: after.allowed } judge :=
          hafter
        dsimp only
        rw [ih hremembered, hallowed]
        cases select judge update columns with
        | error e => rfl
        | ok kept => simp [Except.map]
      | false =>
        dsimp only
        split
        next => rfl
        next => rw [ih hafter, hallowed]

/-- A verdict is remembered. -/
theorem Walk.checked_of_verdict {permitted : Bool}
    (h : walk.verdict judge column = .ok (permitted, next)) : next.checked ≠ [] := by
  unfold Walk.verdict at h
  dsimp only at h
  split at h
  next known hknown =>
    obtain ⟨-, rfl⟩ := Prod.mk.inj (Except.ok.inj h)
    intro hnone
    rw [hnone] at hknown
    cases hknown
  next =>
    split at h
    next => cases h
    next answer hanswer =>
      obtain ⟨-, rfl⟩ := Prod.mk.inj (Except.ok.inj h)
      intro hnone
      have hfound := Assoc.find?_insert_self (ColumnName.normalize column) answer walk.checked
      dsimp only at hnone
      rw [hnone] at hfound
      cases hfound

/-- A walk over columns goes on behind the first with a verdict to remember. -/
theorem exists_of_walkColumns_cons
    (h : walkColumns judge update walk (column :: columns) = .ok next) :
    ∃ after, after.checked ≠ [] ∧ walkColumns judge update after columns = .ok next := by
  unfold walkColumns at h
  split at h
  next => cases h
  next after hfound =>
    have hsome : after.checked ≠ [] := Walk.checked_of_verdict hfound
    exact ⟨{ after with allowed := column :: after.allowed }, hsome, h⟩
  next after hfound =>
    split at h
    next => cases h
    next => exact ⟨after, Walk.checked_of_verdict hfound, h⟩

theorem checked_ne_nil (h : walkColumns judge update walk columns = .ok next)
    (hsome : walk.checked ≠ []) : next.checked ≠ [] := by
  induction columns generalizing walk with
  | nil => rwa [← Except.ok.inj h]
  | cons column columns ih =>
    obtain ⟨after, hafter, hrest⟩ := exists_of_walkColumns_cons h
    exact ih hrest hafter

/-- A walk that begins with nothing to remember remembers something if it has met a column. -/
theorem checked_of_walkColumns (h : walkColumns judge update ⟨[], []⟩ columns = .ok next) :
    next.checked = [] ↔ columns = [] := by
  cases columns with
  | nil =>
    rw [← Except.ok.inj h]
    simp
  | cons column columns =>
    obtain ⟨after, hafter, hrest⟩ := exists_of_walkColumns_cons h
    exact iff_of_false (checked_ne_nil hrest hafter) (by simp)

/-- The check of a request without memory: it is refused if something was asked for and nothing is
left. -/
theorem allowedColumns_eq :
    allowedColumns judge update request =
      match select judge update request with
      | .error e => .error e
      | .ok kept =>
        if kept = [] ∧ request ≠ [] then .error (.accessDenied .column) else .ok kept := by
  have hwalk : (walkColumns judge update ⟨[], []⟩ request).map Walk.allowed =
      (select judge update request).map fun kept => kept.reverse ++ [] :=
    walkColumns_eq Walk.faithful_start
  unfold allowedColumns
  cases hwalked : walkColumns judge update ⟨[], []⟩ request with
  | error e =>
    rw [hwalked] at hwalk
    cases hselect : select judge update request with
    | error e' =>
      rw [hselect] at hwalk
      exact congrArg Except.error (Except.error.inj hwalk)
    | ok kept =>
      rw [hselect] at hwalk
      cases hwalk
  | ok next =>
    rw [hwalked] at hwalk
    cases hselect : select judge update request with
    | error e =>
      rw [hselect] at hwalk
      cases hwalk
    | ok kept =>
      rw [hselect] at hwalk
      have hallowed : next.allowed = kept.reverse := by
        simpa using Except.ok.inj hwalk
      have hchecked := checked_of_walkColumns hwalked
      have hcondition : (next.allowed.isEmpty && !next.checked.isEmpty) = true ↔
          kept = [] ∧ request ≠ [] := by
        simp [hallowed, hchecked]
      dsimp only
      simp only [hcondition]
      rw [hallowed, List.reverse_reverse]

/-! ## Answers -/

section Selecting

variable {judged : String → Except AccessError Bool → Prop}
  (hjudge : ∀ column v, judged column v ↔ judge (ColumnName.normalize column) = v)

include hjudge

theorem selects_iff : Selects judged request kept ↔ select judge false request = .ok kept := by
  induction request generalizing kept with
  | nil =>
    constructor
    · rintro ⟨⟩
      rfl
    · intro h
      obtain rfl := Except.ok.inj h
      exact .none
  | cons column request ih =>
    unfold select
    constructor
    · intro h
      cases h with
      | keeps hcolumn hrest =>
        rw [(hjudge _ _).mp hcolumn, ih.mp hrest]
        rfl
      | drops hcolumn hrest =>
        rw [(hjudge _ _).mp hcolumn]
        exact ih.mp hrest
    · intro h
      split at h
      next => cases h
      next hcolumn =>
        obtain ⟨more, hmore, rfl⟩ := map_eq_ok.mp h
        exact .keeps ((hjudge _ _).mpr hcolumn) (ih.mpr hmore)
      next hcolumn => exact .drops ((hjudge _ _).mpr hcolumn) (ih.mpr h)

/-- An update gives columns only if every one of them is allowed, and then it gives all of them. -/
theorem select_update_eq_ok_iff :
    select judge true request = .ok kept ↔
      kept = request ∧ ∀ column ∈ request, judged column (.ok true) := by
  induction request generalizing kept with
  | nil => simp [select, eq_comm]
  | cons column request ih =>
    unfold select
    rw [List.forall_mem_cons, hjudge]
    cases judge (ColumnName.normalize column) with
    | error e => simp
    | ok permitted =>
      cases permitted with
      | false => simp
      | true =>
        simp only [map_eq_ok, ih]
        constructor
        · rintro ⟨more, ⟨rfl, hmore⟩, rfl⟩
          exact ⟨rfl, trivial, hmore⟩
        · rintro ⟨rfl, -, hmore⟩
          exact ⟨request, ⟨rfl, hmore⟩, rfl⟩

/-- What ends a check is the first entry without a verdict or, in an update, the first that is not
allowed. -/
theorem select_eq_error_iff :
    select judge update request = .error e ↔
      ∃ before column after, request = before ++ column :: after ∧
        (∀ earlier ∈ before, ∃ b, judged earlier (.ok b) ∧ (update = true → b = true)) ∧
        (judged column (.error e) ∨
          update = true ∧ judged column (.ok false) ∧ e = .accessDenied .column) := by
  induction request with
  | nil => simp [select]
  | cons first request ih =>
    -- The entry that ends the check is the first one, or one that is met behind it.
    have hsplit : (∃ before column after, first :: request = before ++ column :: after ∧
          (∀ earlier ∈ before, ∃ b, judged earlier (.ok b) ∧ (update = true → b = true)) ∧
          (judged column (.error e) ∨
            update = true ∧ judged column (.ok false) ∧ e = .accessDenied .column)) ↔
        (judged first (.error e) ∨
            update = true ∧ judged first (.ok false) ∧ e = .accessDenied .column) ∨
          (∃ b, judged first (.ok b) ∧ (update = true → b = true)) ∧
            select judge update request = .error e := by
      rw [ih]
      constructor
      · rintro ⟨before, column, after, hrequest, hbefore, hends⟩
        cases before with
        | nil =>
          obtain ⟨rfl, rfl⟩ := List.cons.inj hrequest
          exact .inl hends
        | cons head before =>
          obtain ⟨rfl, rfl⟩ := List.cons.inj hrequest
          obtain ⟨hhead, hbefore⟩ := List.forall_mem_cons.mp hbefore
          exact .inr ⟨hhead, before, column, after, rfl, hbefore, hends⟩
      · rintro (hends | ⟨hfirst, before, column, after, rfl, hbefore, hends⟩)
        · exact ⟨[], first, request, rfl, List.forall_mem_nil _, hends⟩
        · exact ⟨first :: before, column, after, rfl, List.forall_mem_cons.mpr ⟨hfirst, hbefore⟩,
            hends⟩
    rw [hsplit, select]
    simp only [hjudge]
    cases judge (ColumnName.normalize first) with
    | error other => simp
    | ok permitted =>
      cases permitted with
      | true =>
        cases select judge update request with
        | error other => simp [Except.map]
        | ok kept => simp [Except.map]
      | false =>
        cases update with
        | true => simp [eq_comm]
        | false => simp

/-- The check comes to exactly one answer, the one that the verdicts on the entries give. -/
theorem answers_iff :
    Answers judged update request answer ↔ allowedColumns judge update request = answer := by
  rw [allowedColumns_eq]
  constructor
  · intro h
    cases h with
    | reads hupdate hselects hempty =>
      subst hupdate
      rw [(selects_iff hjudge).mp hselects]
      exact if_neg fun hnone => hnone.2 (hempty hnone.1)
    | nothing hupdate hselects hsome =>
      subst hupdate
      rw [(selects_iff hjudge).mp hselects]
      exact if_pos ⟨rfl, hsome⟩
    | updates hupdate hall =>
      subst hupdate
      rw [(select_update_eq_ok_iff hjudge).mpr ⟨rfl, hall⟩]
      exact if_neg fun hnone => hnone.2 hnone.1
    | refused hupdate hrequest hbefore hcolumn =>
      rw [(select_eq_error_iff hjudge).mpr ⟨_, _, _, hrequest,
        fun earlier hmem => ⟨true, hbefore earlier hmem, fun _ => rfl⟩,
        .inr ⟨hupdate, hcolumn, rfl⟩⟩]
    | fails hrequest hbefore hcolumn =>
      rw [(select_eq_error_iff hjudge).mpr ⟨_, _, _, hrequest, hbefore, .inl hcolumn⟩]
  · rintro rfl
    cases hselect : select judge update request with
    | error e =>
      obtain ⟨before, column, after, hrequest, hbefore, hcolumn | ⟨hupdate, hcolumn, rfl⟩⟩ :=
        (select_eq_error_iff hjudge).mp hselect
      · exact .fails hrequest hbefore hcolumn
      · refine .refused hupdate hrequest (fun earlier hmem => ?_) hcolumn
        obtain ⟨b, hb, htrue⟩ := hbefore earlier hmem
        rwa [htrue hupdate] at hb
    | ok kept =>
      dsimp only
      cases update with
      | true =>
        obtain ⟨rfl, hall⟩ := (select_update_eq_ok_iff hjudge).mp hselect
        rw [if_neg fun hnone => hnone.2 hnone.1]
        exact .updates rfl hall
      | false =>
        have hselects := (selects_iff hjudge).mpr hselect
        by_cases hnone : kept = [] ∧ request ≠ []
        · rw [if_pos hnone]
          obtain ⟨rfl, hsome⟩ := hnone
          exact .nothing rfl hselects hsome
        · rw [if_neg hnone]
          refine .reads rfl hselects fun hempty => ?_
          exact Decidable.byContradiction fun hsome => hnone ⟨hempty, hsome⟩

end Selecting

section Recorded

variable (haccess : ctx.flags.fullAccess = false) (hcustom : isPrivileged ctx table = false)
  (hrecord : (recordOf table).run c = (.ok (some record), d))

include haccess hcustom hrecord

/-- The check of columns of a table with a record, which is not privileged, looks at the rules of the
record. -/
theorem run_checkColumns :
    (checkColumns params ctx table columns update).run c =
      (allowedColumns (columnVerdict params ctx record.columns update) update
        (expandColumns record.columns columns), d) := by
  unfold checkColumns
  rw [haccess, hcustom, if_neg Bool.false_ne_true, if_neg Bool.false_ne_true,
    Stage.run_bind_of_ok hrecord]
  dsimp only
  rw [Storing.run_ofExcept]

/-- Such a check answers what the verdicts of the rules on the entries of the request give, and nothing
else. -/
theorem checkColumns_answers_iff (hrequest : Requests record.columns columns request) :
    (checkColumns params ctx table columns update).run c = (answer, d) ↔
      Answers
        (fun column => Judged params ctx.env record.columns update (ColumnName.normalize column))
        update request answer := by
  rw [answers_iff fun column v => judged_iff, requests_iff.mp hrequest,
    run_checkColumns haccess hcustom hrecord, Prod.mk.injEq]
  exact and_iff_left rfl

end Recorded

namespace Sample

/-- A table of which one column may be read and the other may not. -/
def halfOpen : TableRecord :=
  ⟨"t", [], [("a", ""), ("b", "\x7b\"read\":\"false\"\x7d")]⟩

def connection : Connection :=
  ⟨.begin { Database.empty with tables := [(("1", "t"), halfOpen)] }, .none⟩

/-- A contract that wants to read. -/
def reader : ExecutionContext :=
  let block : BlockHeader := ⟨1, 8, 0, 0, Hash.zero⟩
  .new
    { contractId := 0, ecosystemId := 1, keyId := 7, signedBy := none, publicKey := [],
      signature := [], maxSum := none, hash := Hash.zero, time := 0, size := 0, fields := [] }
    ⟨0, "@1Look", .none, [], [], []⟩ block block .none

end Sample

/-- Of a request with a star between other spellings, a reader gets the open column in both places. -/
theorem checkColumns_answers_iff_sample :
    ∃ d, (recordOf "1_t").run Sample.connection = (.ok (some Sample.halfOpen), d) ∧
      (checkColumns .default Sample.reader "1_t" ["B", "*", "A", "b"] false).run Sample.connection =
        (.ok ["a", "A"], d) ∧
      Answers
        (fun column => Judged .default Sample.reader.env Sample.halfOpen.columns false
          (ColumnName.normalize column))
        false ["B", "a", "b", "A", "b"] (.ok ["a", "A"]) := by
  have hcustom : isPrivileged Sample.reader "1_t" = false := by decide +kernel
  have hrecord := Stage.run_of_toOption (x := recordOf "1_t") (s := Sample.connection)
    (a := some Sample.halfOpen) (by decide +kernel)
  have hchecked : (checkColumns .default Sample.reader "1_t" ["B", "*", "A", "b"] false).run
      Sample.connection = (.ok ["a", "A"], ((recordOf "1_t").run Sample.connection).2) := by
    rw [run_checkColumns rfl hcustom hrecord, Prod.mk.injEq]
    refine ⟨toOption_eq_some.mp ?_, rfl⟩
    decide +kernel
  have hrequest : Requests Sample.halfOpen.columns ["B", "*", "A", "b"] ["B", "a", "b", "A", "b"] :=
    .column (by decide) (.star (.column (by decide) (.column (by decide) .none)))
  exact ⟨_, hrecord, hchecked,
    (checkColumns_answers_iff rfl hcustom hrecord hrequest).mp hchecked⟩

end Covenant.Access
