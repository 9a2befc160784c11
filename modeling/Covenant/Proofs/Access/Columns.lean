import Covenant.Access.Check
import Covenant.Proofs.Name

/-!
# Walks over columns

A check of columns looks at each of them under its normal form and remembers what it found there. As
long as the walk remembers nothing but answers of its judge, it comes to the same end as if it asked
again every time.
-/

namespace Covenant.Access

variable {judge : String → Except AccessError Bool} {walk next : Walk} {columns : List String}
  {column : String} {permitted : Bool} {e : AccessError}

/-- The walk remembers nothing but answers of the judge. -/
def Walk.Faithful (walk : Walk) (judge : String → Except AccessError Bool) : Prop :=
  ∀ name permitted, Assoc.find? name walk.checked = some permitted → judge name = .ok permitted

/-- A walk begins with nothing to remember. -/
theorem Walk.faithful_start : (⟨[], []⟩ : Walk).Faithful judge :=
  fun _ _ h => by cases h

/-- A verdict that a walk comes to is the judge's on the normal form, and is remembered as such. -/
theorem Walk.verdict_eq_ok (hwalk : walk.Faithful judge)
    (h : walk.verdict judge column = .ok (permitted, next)) :
    judge (ColumnName.normalize column) = .ok permitted ∧ next.Faithful judge := by
  unfold Walk.verdict at h
  dsimp only at h
  split at h
  next known hknown =>
    obtain ⟨rfl, rfl⟩ := Prod.mk.inj (Except.ok.inj h)
    exact ⟨hwalk _ _ hknown, hwalk⟩
  next =>
    split at h
    next => cases h
    next answer hanswer =>
      obtain ⟨rfl, rfl⟩ := Prod.mk.inj (Except.ok.inj h)
      refine ⟨hanswer, fun name found hfound => ?_⟩
      dsimp only at hfound
      by_cases hname : name = ColumnName.normalize column
      · rw [hname, Assoc.find?_insert_self] at hfound
        rw [hname, hanswer, Option.some.inj hfound]
      · rw [Assoc.find?_insert_of_ne hname] at hfound
        exact hwalk _ _ hfound

/-- A verdict allows nothing by itself. -/
theorem Walk.allowed_of_verdict (h : walk.verdict judge column = .ok (permitted, next)) :
    next.allowed = walk.allowed := by
  unfold Walk.verdict at h
  dsimp only at h
  split at h
  next => rw [(Prod.mk.inj (Except.ok.inj h)).2]
  next =>
    split at h
    next => cases h
    next => rw [← (Prod.mk.inj (Except.ok.inj h)).2]

/-- A walk has no errors but those of the judge. -/
theorem Walk.verdict_eq_error (h : walk.verdict judge column = .error e) :
    judge (ColumnName.normalize column) = .error e := by
  unfold Walk.verdict at h
  dsimp only at h
  split at h
  next => cases h
  next =>
    split at h
    next error herror =>
      obtain rfl := Except.error.inj h
      exact herror
    next => cases h

/-- An update that walks over all columns is permitted every one of them. -/
theorem permitted_of_walkColumns (hwalk : walk.Faithful judge)
    (h : walkColumns judge true walk columns = .ok next) :
    ∀ column ∈ columns, judge (ColumnName.normalize column) = .ok true := by
  induction columns generalizing walk with
  | nil =>
    intro column hmem
    cases hmem
  | cons first rest ih =>
    unfold walkColumns at h
    split at h
    next => cases h
    next after hverdict =>
      obtain ⟨hfirst, hafter⟩ := Walk.verdict_eq_ok hwalk hverdict
      intro column hmem
      rcases List.mem_cons.mp hmem with rfl | hrest
      · exact hfirst
      · refine ih ?_ h column hrest
        exact hafter
    next =>
      rw [if_pos rfl] at h
      cases h

/-- An update that ends early was refused a column, or the judge failed on one. -/
theorem refused_of_walkColumns (hwalk : walk.Faithful judge)
    (h : walkColumns judge true walk columns = .error e) :
    ∃ column ∈ columns,
      judge (ColumnName.normalize column) = .ok false ∧ e = .accessDenied .column ∨
        judge (ColumnName.normalize column) = .error e := by
  induction columns generalizing walk with
  | nil => cases h
  | cons first rest ih =>
    unfold walkColumns at h
    split at h
    next error hverdict =>
      obtain rfl := Except.error.inj h
      exact ⟨first, List.mem_cons_self, .inr (Walk.verdict_eq_error hverdict)⟩
    next after hverdict =>
      obtain ⟨-, hafter⟩ := Walk.verdict_eq_ok hwalk hverdict
      have hremembered : Walk.Faithful { after with allowed := first :: after.allowed } judge :=
        hafter
      obtain ⟨column, hrest, hcolumn⟩ := ih hremembered h
      exact ⟨column, List.mem_cons_of_mem _ hrest, hcolumn⟩
    next after hverdict =>
      rw [if_pos rfl] at h
      obtain ⟨hfirst, -⟩ := Walk.verdict_eq_ok hwalk hverdict
      exact ⟨first, List.mem_cons_self, .inl ⟨hfirst, (Except.error.inj h).symm⟩⟩

/-- An update that walks over all columns has allowed all of them. -/
theorem allowed_of_walkColumns (h : walkColumns judge true walk columns = .ok next) :
    next.allowed = columns.reverse ++ walk.allowed := by
  induction columns generalizing walk with
  | nil =>
    obtain rfl := Except.ok.inj h
    rfl
  | cons first rest ih =>
    unfold walkColumns at h
    split at h
    next => cases h
    next after hverdict =>
      rw [ih h, Walk.allowed_of_verdict hverdict]
      simp
    next =>
      rw [if_pos rfl] at h
      cases h

/-- An update of several columns is allowed only if every one of them is permitted. -/
theorem permitted_of_allowedColumns {allowed : List String}
    (h : allowedColumns judge true columns = .ok allowed) :
    ∀ column ∈ columns, judge (ColumnName.normalize column) = .ok true := by
  unfold allowedColumns at h
  split at h
  next => cases h
  next hwalked => exact permitted_of_walkColumns Walk.faithful_start hwalked

/-- An update of several columns is refused only on account of one of them: it is not permitted, or
the judge failed on it. -/
theorem refused_of_allowedColumns (h : allowedColumns judge true columns = .error e) :
    ∃ column ∈ columns,
      judge (ColumnName.normalize column) = .ok false ∧ e = .accessDenied .column ∨
        judge (ColumnName.normalize column) = .error e := by
  unfold allowedColumns at h
  split at h
  next error hwalked =>
    obtain rfl := Except.error.inj h
    exact refused_of_walkColumns Walk.faithful_start hwalked
  next walk hwalked =>
    split at h
    next hnothing =>
      -- nothing is allowed only if nothing was asked, and then nothing was checked
      have hallowed := allowed_of_walkColumns hwalked
      obtain ⟨hempty, hchecked⟩ := Bool.and_eq_true_iff.mp hnothing
      rw [List.isEmpty_iff.mp hempty] at hallowed
      have hcolumns : columns = [] := by simpa using hallowed.symm
      rw [hcolumns] at hwalked
      obtain rfl := Except.ok.inj hwalked
      cases hchecked
    next => cases h

/-! ## Reads -/

/-- The judge permits a column under its normal form. -/
def permits (judge : String → Except AccessError Bool) (column : String) : Bool :=
  match judge (ColumnName.normalize column) with
  | .ok permitted => permitted
  | .error _ => false

theorem permits_iff : permits judge column = true ↔ judge (ColumnName.normalize column) = .ok true := by
  unfold permits
  split
  next permitted hverdict => rw [hverdict, Except.ok.injEq]
  next e hverdict => simp [hverdict]

theorem permits_of_verdict (hwalk : walk.Faithful judge)
    (h : walk.verdict judge column = .ok (permitted, next)) : permits judge column = permitted := by
  unfold permits
  rw [(Walk.verdict_eq_ok hwalk h).1]

/-- A read that walks over all columns has allowed those that the judge permits, in their order. -/
theorem allowed_of_walkColumns_read (hwalk : walk.Faithful judge)
    (h : walkColumns judge false walk columns = .ok next) :
    next.allowed = (columns.filter (permits judge)).reverse ++ walk.allowed := by
  induction columns generalizing walk with
  | nil =>
    obtain rfl := Except.ok.inj h
    rfl
  | cons first rest ih =>
    unfold walkColumns at h
    split at h
    next => cases h
    next after hverdict =>
      have hafter := (Walk.verdict_eq_ok hwalk hverdict).2
      have hfirst := permits_of_verdict hwalk hverdict
      have hremembered : Walk.Faithful { after with allowed := first :: after.allowed } judge :=
        hafter
      rw [ih hremembered h, Walk.allowed_of_verdict hverdict, List.filter_cons_of_pos hfirst]
      simp
    next after hverdict =>
      have hafter := (Walk.verdict_eq_ok hwalk hverdict).2
      have hfirst := permits_of_verdict hwalk hverdict
      rw [if_neg Bool.false_ne_true] at h
      rw [ih hafter h, Walk.allowed_of_verdict hverdict,
        List.filter_cons_of_neg (by rw [hfirst]; exact Bool.false_ne_true)]

/-- A read of several columns gives those that the judge permits. -/
theorem allowedColumns_read {allowed : List String}
    (h : allowedColumns judge false columns = .ok allowed) :
    allowed = columns.filter (permits judge) := by
  unfold allowedColumns at h
  split at h
  next => cases h
  next walk hwalked =>
    have hallowed := allowed_of_walkColumns_read Walk.faithful_start hwalked
    split at h
    next => cases h
    next =>
      rw [← Except.ok.inj h, hallowed, List.append_nil, List.reverse_reverse]

/-! ## The star -/

theorem normalize_star : ColumnName.normalize "*" = "*" :=
  ColumnName.normalize_of_isPlain (by simp [ColumnName.isPlain])

/-- A written column whose normal form has a rule is among those that the check looks at, also if it
is the star that stands for all of them. -/
theorem exists_expandColumns {rules : Dict String String} {rule : String} (hmem : column ∈ columns)
    (hrule : Dict.find? (ColumnName.normalize column) rules = some rule) :
    ∃ expanded ∈ expandColumns rules columns,
      ColumnName.normalize expanded = ColumnName.normalize column := by
  by_cases hstar : column = "*"
  · subst hstar
    rw [normalize_star] at hrule
    refine ⟨"*", List.mem_flatMap.mpr ⟨"*", hmem, ?_⟩, rfl⟩
    rw [if_pos (beq_self_eq_true "*")]
    exact Dict.mem_keys_of_find? hrule
  · refine ⟨column, List.mem_flatMap.mpr ⟨column, hmem, ?_⟩, rfl⟩
    rw [if_neg (by simpa using hstar)]
    exact List.mem_singleton_self column

/-- The star is left among the columns to look at only if it is a column of its own. -/
theorem star_mem_expandColumns {rules : Dict String String} :
    "*" ∈ expandColumns rules columns ↔ "*" ∈ columns ∧ "*" ∈ Dict.keys rules := by
  constructor
  · intro hmem
    obtain ⟨asked, hasked, hmem⟩ := List.mem_flatMap.mp hmem
    split at hmem
    next hstar =>
      obtain rfl := eq_of_beq hstar
      exact ⟨hasked, hmem⟩
    next hother =>
      obtain rfl := List.mem_singleton.mp hmem
      exact absurd (beq_self_eq_true _) hother
  · rintro ⟨hasked, hdeclared⟩
    refine List.mem_flatMap.mpr ⟨"*", hasked, ?_⟩
    rw [if_pos (beq_self_eq_true "*")]
    exact hdeclared

end Covenant.Access
