import Covenant.Proofs.Condition.Printing

/-!
# What conditions mean

A tree has a value in an environment if each of its operands has one, with no exception for operands that
the value does not depend on. Whether a condition holds is whether the value of the tree that it prints
counts as true, and there is an answer only for texts that print a tree.
-/

namespace Covenant.Condition

variable {env : Environment} {tree : Expr} {value : Value} {expression : String} {tokens : List Token}

/-- The comparison asks for an order. -/
def Comparison.Orders : Comparison → Prop
  | .equal | .notEqual => False
  | .less | .lessOrEqual | .greater | .greaterOrEqual => True

/-- The value of a tree in an environment. Both operands of a connective have values, also where one of
them decides. -/
inductive Evaluates (env : Environment) : Expr → Value → Prop
  | literal (value : Value) : Evaluates env (.literal value) value
  | slot {name : String} {value : Value} : env.lookup? name = some value →
      Evaluates env (.variable name) value
  | not {operand : Expr} {value : Value} : Evaluates env operand value →
      Evaluates env (.not operand) (.bool (!value.isTruthy))
  | and {left right : Expr} {a b : Value} : Evaluates env left a → Evaluates env right b →
      Evaluates env (.and left right) (.bool (a.isTruthy && b.isTruthy))
  | or {left right : Expr} {a b : Value} : Evaluates env left a → Evaluates env right b →
      Evaluates env (.or left right) (.bool (a.isTruthy || b.isTruthy))
  | compare {comparison : Comparison} {left right : Expr} {a b : Value} {answer : Bool} :
      Evaluates env left a → Evaluates env right b → comparison.ofValues a b = .ok answer →
      Evaluates env (.compare comparison left right) (.bool answer)

/-- Somewhere in the tree stands a variable without a value, or a comparison for the order of values that
have none. -/
def Fails (env : Environment) : Expr → Prop
  | .literal _ => False
  | .variable name => env.lookup? name = none
  | .not operand => Fails env operand
  | .and left right | .or left right => Fails env left ∨ Fails env right
  | .compare comparison left right => Fails env left ∨ Fails env right ∨
      ∃ a b, Evaluates env left a ∧ Evaluates env right b ∧ comparison.Orders ∧ asInts? a b = none
  | .unclosed _ | .broken _ => False

/-! ## Values -/

/-- Values have no answer to a comparison if it is for their order and one of them is no integer. -/
theorem ofValues_eq_error_iff {comparison : Comparison} {a b : Value} :
    (∃ error, comparison.ofValues a b = .error error) ↔ comparison.Orders ∧ asInts? a b = none := by
  unfold Comparison.ofValues
  cases hints : asInts? a b with
  | some _ => simp
  | none => cases comparison <;> simp [Comparison.Orders]

/-- The evaluation gives the value of the tree. -/
theorem eval_eq_ok_iff : tree.eval env = .ok value ↔ Evaluates env tree value := by
  constructor
  · intro h
    induction tree generalizing value with
    | literal literal =>
      cases h
      exact .literal literal
    | «variable» name =>
      rw [Expr.eval] at h
      split at h
      next found hfound =>
        cases h
        exact .slot hfound
      next => cases h
    | not operand ih =>
      obtain ⟨a, ha, h⟩ := bind_eq_ok.mp h
      cases h
      exact .not (ih ha)
    | and left right ihleft ihright =>
      obtain ⟨a, ha, h⟩ := bind_eq_ok.mp h
      obtain ⟨b, hb, h⟩ := bind_eq_ok.mp h
      cases h
      exact .and (ihleft ha) (ihright hb)
    | or left right ihleft ihright =>
      obtain ⟨a, ha, h⟩ := bind_eq_ok.mp h
      obtain ⟨b, hb, h⟩ := bind_eq_ok.mp h
      cases h
      exact .or (ihleft ha) (ihright hb)
    | compare comparison left right ihleft ihright =>
      obtain ⟨a, ha, h⟩ := bind_eq_ok.mp h
      obtain ⟨b, hb, h⟩ := bind_eq_ok.mp h
      obtain ⟨answer, hanswer, h⟩ := bind_eq_ok.mp h
      cases h
      exact .compare (ihleft ha) (ihright hb) hanswer
    | unclosed inside =>
      obtain ⟨a, -, h⟩ := bind_eq_ok.mp h
      cases h
    | broken error => cases h
  · intro h
    induction h with
    | literal value => rfl
    | slot hfound => rw [Expr.eval, hfound]
    | not _ ih => exact bind_eq_ok.mpr ⟨_, ih, rfl⟩
    | and _ _ ihleft ihright | or _ _ ihleft ihright =>
      exact bind_eq_ok.mpr ⟨_, ihleft, bind_eq_ok.mpr ⟨_, ihright, rfl⟩⟩
    | compare _ _ hanswer ihleft ihright =>
      exact bind_eq_ok.mpr ⟨_, ihleft, bind_eq_ok.mpr ⟨_, ihright, bind_eq_ok.mpr ⟨_, hanswer, rfl⟩⟩⟩

/-- A tree has one value at most. -/
theorem Evaluates.unique {other : Value} (h : Evaluates env tree value)
    (hother : Evaluates env tree other) : value = other := by
  have heval := eval_eq_ok_iff.mpr h
  rw [eval_eq_ok_iff.mpr hother] at heval
  exact (Except.ok.inj heval).symm

/-- Only whole trees have values. -/
theorem Evaluates.isWhole (h : Evaluates env tree value) : tree.IsWhole := by
  induction h with
  | literal _ | slot _ => exact trivial
  | not _ ih => exact ih
  | and _ _ ihleft ihright | or _ _ ihleft ihright | compare _ _ _ ihleft ihright =>
    exact ⟨ihleft, ihright⟩

/-- A whole tree has a value unless something in it fails. -/
theorem evaluates_or_fails (h : tree.IsWhole) :
    (∃ value, Evaluates env tree value) ∨ Fails env tree := by
  induction tree with
  | literal value => exact .inl ⟨value, .literal value⟩
  | «variable» name =>
    cases hfound : env.lookup? name with
    | some value => exact .inl ⟨value, .slot hfound⟩
    | none => exact .inr hfound
  | not operand ih =>
    rcases ih h with ⟨value, hvalue⟩ | hfails
    · exact .inl ⟨_, .not hvalue⟩
    · exact .inr hfails
  | and left right ihleft ihright =>
    rcases ihleft h.1, ihright h.2 with ⟨⟨a, ha⟩ | hleft, ⟨b, hb⟩ | hright⟩
    · exact .inl ⟨_, .and ha hb⟩
    · exact .inr (.inr hright)
    · exact .inr (.inl hleft)
    · exact .inr (.inl hleft)
  | or left right ihleft ihright =>
    rcases ihleft h.1, ihright h.2 with ⟨⟨a, ha⟩ | hleft, ⟨b, hb⟩ | hright⟩
    · exact .inl ⟨_, .or ha hb⟩
    · exact .inr (.inr hright)
    · exact .inr (.inl hleft)
    · exact .inr (.inl hleft)
  | compare comparison left right ihleft ihright =>
    rcases ihleft h.1, ihright h.2 with ⟨⟨a, ha⟩ | hleft, ⟨b, hb⟩ | hright⟩
    · cases hanswer : comparison.ofValues a b with
      | ok answer => exact .inl ⟨_, .compare ha hb hanswer⟩
      | error error =>
        exact .inr (.inr (.inr ⟨a, b, ha, hb, ofValues_eq_error_iff.mp ⟨error, hanswer⟩⟩))
    · exact .inr (.inr (.inl hright))
    · exact .inr (.inl hleft)
    · exact .inr (.inl hleft)
  | unclosed inside => exact h.elim
  | broken error => exact h.elim

/-- A tree in which something fails has no value. -/
theorem Evaluates.not_fails (h : Evaluates env tree value) : ¬Fails env tree := by
  induction h with
  | literal value => exact id
  | slot hfound =>
    intro hnone
    rw [Fails, hfound] at hnone
    cases hnone
  | not _ ih => exact ih
  | and _ _ ihleft ihright | or _ _ ihleft ihright =>
    rintro (hleft | hright)
    · exact ihleft hleft
    · exact ihright hright
  | compare ha hb hanswer ihleft ihright =>
    rintro (hleft | hright | ⟨a, b, ha', hb', hunordered⟩)
    · exact ihleft hleft
    · exact ihright hright
    · obtain ⟨error, herror⟩ := ofValues_eq_error_iff.mpr hunordered
      rw [ha'.unique ha, hb'.unique hb, hanswer] at herror
      cases herror

/-! ## Conditions -/

/-- What the scanner and the parser read from a text is the tree that the text prints. -/
theorem prints_iff : Prints expression tree ↔
    ∃ tokens, scan expression = .ok tokens ∧ Derives .or tokens tree := by
  constructor
  · rintro ⟨tokens, hspells, hderives⟩
    exact ⟨tokens, scan_of_spells hspells hderives.joined.fits, hderives⟩
  · rintro ⟨tokens, hscan, hderives⟩
    exact ⟨tokens, spells_of_scan hscan, hderives⟩

/-- A condition has an answer if its tokens are read to the end as a tree that has a value. -/
theorem holds_eq_ok_iff {answer : Bool} : holds expression env = .ok answer ↔
    ∃ tokens tree value, scan expression = .ok tokens ∧ tokens ≠ [] ∧ parse tokens = (tree, []) ∧
      tree.eval env = .ok value ∧ value.isTruthy = answer := by
  unfold holds
  rw [bind_eq_ok]
  refine exists_congr fun tokens => ?_
  by_cases hnone : tokens = []
  · subst hnone
    simp
  · rw [if_neg (by simpa using hnone)]
    rcases parse tokens with ⟨tree, rest⟩
    dsimp only
    rw [bind_eq_ok]
    cases rest with
    | nil => simp [hnone]
    | cons token rest => simp

/-- The condition that a text prints has the answer that the value of its tree gives, if it has one. -/
theorem Prints.holds_eq_ok_iff {answer : Bool} (h : Prints expression tree) :
    holds expression env = .ok answer ↔
      ∃ value, Evaluates env tree value ∧ value.isTruthy = answer := by
  obtain ⟨tokens, hscan, hderives⟩ := prints_iff.mp h
  rw [Condition.holds_eq_ok_iff]
  constructor
  · rintro ⟨found, other, value, hfound, -, hparse, hvalue, hanswer⟩
    obtain rfl : tokens = found := Except.ok.inj (hscan.symm.trans hfound)
    obtain rfl : tree = other := congrArg Prod.fst (hderives.parse_eq.symm.trans hparse)
    exact ⟨value, eval_eq_ok_iff.mp hvalue, hanswer⟩
  · rintro ⟨value, hvalue, hanswer⟩
    exact ⟨tokens, tree, value, hscan, hderives.joined.nonempty, hderives.parse_eq,
      eval_eq_ok_iff.mpr hvalue, hanswer⟩

/-- A condition has an answer only if its text prints a tree. -/
theorem exists_prints_of_holds {answer : Bool} (h : holds expression env = .ok answer) :
    ∃ tree, Prints expression tree := by
  obtain ⟨tokens, tree, value, hscan, -, hparse, hvalue, -⟩ := holds_eq_ok_iff.mp h
  have hwhole : tree.IsWhole := (eval_eq_ok_iff.mp hvalue).isWhole
  exact ⟨tree, prints_iff.mpr ⟨tokens, hscan, derives_or_iff.mpr ⟨hparse, hwhole⟩⟩⟩

/-- The condition that a text prints has no answer exactly if something in its tree fails. -/
theorem Prints.holds_eq_error_iff (h : Prints expression tree) :
    (∃ error, holds expression env = .error error) ↔ Fails env tree := by
  constructor
  · rintro ⟨error, herror⟩
    have hwhole : tree.IsWhole := h.elim fun _ htokens => htokens.2.isWhole
    have heither : (∃ value, Evaluates env tree value) ∨ Fails env tree := evaluates_or_fails hwhole
    rcases heither with ⟨value, hvalue⟩ | hfails
    · have hanswer := h.holds_eq_ok_iff.mpr ⟨value, hvalue, rfl⟩
      rw [herror] at hanswer
      cases hanswer
    · exact hfails
  · intro hfails
    cases hholds : holds expression env with
    | error error => exact ⟨error, rfl⟩
    | ok answer =>
      obtain ⟨value, hvalue, -⟩ := h.holds_eq_ok_iff.mp hholds
      exact absurd hfails hvalue.not_fails

/-- The conditions of the grammar are those that print a tree, and every tree whose operands can be
spelled is printed. A condition has an answer if, and only if, it prints a tree that has a value, and
then the answer is whether that value counts as true; where it prints a tree without an answer, a
variable in it has no value or a comparison asks for the order of values that have none. -/
theorem holds_agrees_with_grammar :
    (∀ tree : Expr, tree.IsPrintable ↔ ∃ expression, Prints expression tree) ∧
    (∀ expression env answer, holds expression env = .ok answer ↔
      ∃ tree value, Prints expression tree ∧ Evaluates env tree value ∧ value.isTruthy = answer) ∧
    ∀ expression env tree, Prints expression tree →
      ((∃ error, holds expression env = .error error) ↔ Fails env tree) := by
  refine ⟨fun tree => isPrintable_iff, fun expression env answer => ?_,
    fun expression env tree h => h.holds_eq_error_iff⟩
  constructor
  · intro h
    obtain ⟨tree, hprints⟩ := exists_prints_of_holds h
    obtain ⟨value, hvalue, hanswer⟩ := hprints.holds_eq_ok_iff.mp h
    exact ⟨tree, value, hprints, hvalue, hanswer⟩
  · rintro ⟨tree, value, hprints, hvalue, hanswer⟩
    exact hprints.holds_eq_ok_iff.mpr ⟨value, hvalue, hanswer⟩

/-- What the first operand decides fails with the second. -/
theorem holds_agrees_with_grammar_sample :
    Prints "true||! $missing==1" (.or (.literal (.bool true))
      (.not (.compare .equal (.variable "missing") (.literal (.int 1))))) ∧
    ∃ error, holds "true||! $missing==1" .empty = .error error := by
  have hscan : (scan "true||! $missing==1").toOption = some
      [.word "true", .or, .not, .variable "missing", .compare .equal, .int 1] := by
    decide +kernel
  have hprints : Prints "true||! $missing==1" (.or (.literal (.bool true))
      (.not (.compare .equal (.variable "missing") (.literal (.int 1))))) :=
    prints_iff.mpr ⟨_, toOption_eq_some.mp hscan, derives_or_iff.mpr ⟨rfl, trivial, trivial, trivial⟩⟩
  exact ⟨hprints, (holds_agrees_with_grammar.2.2 _ _ _ hprints).mpr (.inr (.inl rfl))⟩

end Covenant.Condition
