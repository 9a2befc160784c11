import Covenant.Proofs.Condition.Spelling
import Covenant.Proofs.Text.Numeral

/-!
# Trees as texts

A text prints a tree if it spells tokens that the grammar derives the tree from; it may have more
parentheses than the tree needs. The trees that texts print are those with integers in range, with texts
that lack one of the two quotes and with names that consist of letters of words.
-/

namespace Covenant.Condition

/-- The text spells tokens that the grammar derives the tree from. -/
def Prints (expression : String) (tree : Expr) : Prop :=
  ∃ tokens, Spells tokens expression.toList ∧ Derives .or tokens tree

/-- There are letters to spell the token with. -/
def Token.HasSpelling (token : Token) : Prop :=
  ∃ letters, Spelled token letters

/-- The operands of the tree are ones that can be spelled. -/
def Expr.IsPrintable : Expr → Prop
  | .literal (.bool _) => True
  | .literal (.int n) => Quantity.InRange n
  | .literal (.text s) => '"' ∉ s.toList ∨ '\'' ∉ s.toList
  | .literal _ => False
  | .variable name => ∀ c ∈ name.toList, isWordChar c = true
  | .not operand => operand.IsPrintable
  | .and left right | .or left right | .compare _ left right => left.IsPrintable ∧ right.IsPrintable
  | .unclosed _ | .broken _ => False

/-- How tightly the phrases of a rule bind. -/
def Rule.rank : Rule → Nat
  | .or => 0
  | .and => 1
  | .unary => 2
  | .compare => 3
  | .operand => 4

/-- The tokens of a phrase where a phrase of another rule is needed: in parentheses if it binds less
tightly. -/
def enclose (needed own : Rule) (tokens : List Token) : List Token :=
  if needed.rank ≤ own.rank then tokens else .leftParen :: (tokens ++ [.rightParen])

/-- The tokens of a tree where a phrase of the rule is needed, with parentheses only where the grammar
needs them. -/
def Expr.print (needed : Rule) : Expr → List Token
  | .literal (.bool value) => [.word (if value then "true" else "false")]
  | .literal (.int n) => [.int n]
  | .literal (.text s) => [.text s]
  | .literal _ => []
  | .variable name => [.variable name]
  | .not operand => enclose needed .unary (.not :: operand.print .unary)
  | .and left right => enclose needed .and (left.print .and ++ .and :: right.print .unary)
  | .or left right => enclose needed .or (left.print .or ++ .or :: right.print .and)
  | .compare comparison left right =>
    enclose needed .compare (left.print .operand ++ .compare comparison :: right.print .operand)
  | .unclosed _ | .broken _ => []

variable {needed own : Rule} {tokens : List Token} {tree : Expr}

/-! ## Parentheses -/

/-- A conjunction can stand where a phrase is needed that does not bind more tightly. -/
theorem Derives.lift_and (h : Derives .and tokens tree) (hrank : needed.rank ≤ 1) :
    Derives needed tokens tree := by
  cases needed with
  | or => exact .loneAnd h
  | and => exact h
  | _ => exact absurd hrank (by decide)

theorem Derives.lift_unary (h : Derives .unary tokens tree) (hrank : needed.rank ≤ 2) :
    Derives needed tokens tree := by
  cases needed with
  | or | and => exact (Derives.loneUnary h).lift_and (by decide)
  | unary => exact h
  | _ => exact absurd hrank (by decide)

theorem Derives.lift_compare (h : Derives .compare tokens tree) (hrank : needed.rank ≤ 3) :
    Derives needed tokens tree := by
  cases needed with
  | or | and | unary => exact (Derives.loneCompare h).lift_unary (by decide)
  | compare => exact h
  | operand => exact absurd hrank (by decide)

/-- An operand can stand where any phrase is needed. -/
theorem Derives.lift_operand (h : Derives .operand tokens tree) : Derives needed tokens tree := by
  cases needed with
  | or | and | unary | compare => exact (Derives.loneOperand h).lift_compare (by decide)
  | operand => exact h

/-- A phrase can stand where one is needed that does not bind more tightly. -/
theorem Derives.lift (h : Derives own tokens tree) (hrank : needed.rank ≤ own.rank) :
    Derives needed tokens tree := by
  cases own with
  | or =>
    cases needed with
    | or => exact h
    | _ => exact absurd hrank (by decide)
  | and => exact h.lift_and hrank
  | unary => exact h.lift_unary hrank
  | compare => exact h.lift_compare hrank
  | operand => exact h.lift_operand

theorem Derives.enclose (h : Derives own tokens tree) :
    Derives needed (enclose needed own tokens) tree := by
  unfold Condition.enclose
  split
  next hrank => exact h.lift hrank
  next => exact (Derives.paren (h.lift (Nat.zero_le _))).lift_operand

/-- The grammar derives a tree from the tokens that print it. -/
theorem derives_print (h : tree.IsPrintable) (needed : Rule) :
    Derives needed (tree.print needed) tree := by
  induction tree generalizing needed with
  | literal value =>
    match value, h with
    | .bool true, _ => exact Derives.truth.lift_operand
    | .bool false, _ => exact Derives.falsity.lift_operand
    | .int n, _ => exact (Derives.int n).lift_operand
    | .text s, _ => exact (Derives.text s).lift_operand
  | «variable» name => exact (Derives.slot name).lift_operand
  | not operand ih => exact (Derives.not (ih h .unary)).enclose
  | and left right ihleft ihright =>
    exact (Derives.and (ihleft h.1 .and) (ihright h.2 .unary)).enclose
  | or left right ihleft ihright =>
    exact (Derives.or (ihleft h.1 .or) (ihright h.2 .and)).enclose
  | compare comparison left right ihleft ihright =>
    exact (Derives.compare comparison (ihleft h.1 .operand) (ihright h.2 .operand)).enclose
  | unclosed inside => exact h.elim
  | broken error => exact h.elim

/-! ## Spellings -/

/-- The numeral of a quantity is one of its spellings. -/
theorem spelled_int {n : Int} (h : Quantity.InRange n) : Spelled (.int n) (toString n).toList := by
  have hdigits : ∀ m, ∀ c ∈ Nat.toDigits 10 m, isWordChar c = true := by
    intro m c hc
    rw [isWordChar, Text.isAlphanumeric_of_isDigit (Text.isDigit_of_mem_toDigits hc)]
    rfl
  refine .int ?_ (Text.readQuantity?_toString h)
  cases n with
  | ofNat m =>
    change IsWord (toString (m : Int)).toList
    rw [Text.toList_toString_nat]
    have hall := hdigits m
    obtain ⟨c, rest, hcons⟩ := List.exists_cons_of_ne_nil (Nat.toDigits_ne_nil (n := m) (b := 10))
    rw [hcons] at hall ⊢
    obtain ⟨hc, hrest⟩ := List.forall_mem_cons.mp hall
    exact isWord_cons (by simp [startsWord, hc]) hrest
  | negSucc m =>
    rw [Text.toList_toString_negSucc]
    exact isWord_cons (by decide) (hdigits (m + 1))

theorem spelled_text {s : String} (h : '"' ∉ s.toList ∨ '\'' ∉ s.toList) :
    (Token.text s).HasSpelling := by
  rcases h with h | h
  · exact ⟨_, .text (.inl rfl) h⟩
  · exact ⟨_, .text (.inr rfl) h⟩

theorem spelled_truth (value : Bool) :
    Spelled (.word (if value then "true" else "false")) (if value then "true" else "false").toList := by
  cases value with
  | true =>
    have hletters : ∀ c ∈ "rue".toList, isWordChar c = true := List.all_eq_true.mp (by decide)
    exact .word (isWord_cons (by decide) hletters) (by decide) (by decide)
  | false =>
    have hletters : ∀ c ∈ "alse".toList, isWordChar c = true := List.all_eq_true.mp (by decide)
    exact .word (isWord_cons (by decide) hletters) (by decide) (by decide)

theorem spelled_enclose {own : Rule} (h : ∀ token ∈ tokens, token.HasSpelling) :
    ∀ token ∈ enclose needed own tokens, token.HasSpelling := by
  intro token htoken
  unfold enclose at htoken
  split at htoken
  next => exact h token htoken
  next =>
    rw [List.mem_cons, List.mem_append, List.mem_singleton] at htoken
    rcases htoken with rfl | htoken | rfl
    · exact ⟨_, .leftParen⟩
    · exact h token htoken
    · exact ⟨_, .rightParen⟩

theorem spelled_between {front behind : List Token} {sign : Token}
    (hfront : ∀ token ∈ front, token.HasSpelling) (hsign : sign.HasSpelling)
    (hbehind : ∀ token ∈ behind, token.HasSpelling) :
    ∀ token ∈ front ++ sign :: behind, token.HasSpelling :=
  List.forall_mem_append.mpr ⟨hfront, List.forall_mem_cons.mpr ⟨hsign, hbehind⟩⟩

/-- The tokens that print a printable tree have spellings. -/
theorem spelled_print (h : tree.IsPrintable) (needed : Rule) :
    ∀ token ∈ tree.print needed, token.HasSpelling := by
  induction tree generalizing needed with
  | literal value =>
    match value, h with
    | .bool value, _ => exact List.forall_mem_singleton.mpr ⟨_, spelled_truth value⟩
    | .int n, h => exact List.forall_mem_singleton.mpr ⟨_, spelled_int h⟩
    | .text s, h => exact List.forall_mem_singleton.mpr (spelled_text h)
  | «variable» name => exact List.forall_mem_singleton.mpr ⟨_, .slot h⟩
  | not operand ih => exact spelled_enclose (List.forall_mem_cons.mpr ⟨⟨_, .not⟩, ih h .unary⟩)
  | and left right ihleft ihright =>
    exact spelled_enclose (spelled_between (ihleft h.1 .and) ⟨_, .and⟩ (ihright h.2 .unary))
  | or left right ihleft ihright =>
    exact spelled_enclose (spelled_between (ihleft h.1 .or) ⟨_, .or⟩ (ihright h.2 .and))
  | compare comparison left right ihleft ihright =>
    exact spelled_enclose
      (spelled_between (ihleft h.1 .operand) ⟨_, .compare comparison⟩ (ihright h.2 .operand))
  | unclosed inside => exact h.elim
  | broken error => exact h.elim

/-- Tokens that have spellings are spelled by a text. -/
theorem exists_spells (h : ∀ token ∈ tokens, token.HasSpelling) :
    ∃ text, Spells tokens text := by
  induction tokens with
  | nil => exact ⟨[], .nil (List.forall_mem_nil _)⟩
  | cons token tokens ih =>
    obtain ⟨⟨letters, hletters⟩, hrest⟩ := List.forall_mem_cons.mp h
    obtain ⟨text, htext⟩ := ih hrest
    exact ⟨_, .cons (List.forall_mem_nil _) hletters htext⟩

theorem spelled_of_spells {text : List Char} (h : Spells tokens text) :
    ∀ token ∈ tokens, token.HasSpelling := by
  induction h with
  | nil _ => exact List.forall_mem_nil _
  | cons _ hspelled _ ih => exact List.forall_mem_cons.mpr ⟨⟨_, hspelled⟩, ih⟩

/-- A tree from tokens that have spellings is printable. -/
theorem Derives.isPrintable (h : Derives needed tokens tree)
    (hspelled : ∀ token ∈ tokens, token.HasSpelling) : tree.IsPrintable := by
  induction h with
  | loneAnd _ ih | loneUnary _ ih | loneCompare _ ih | loneOperand _ ih => exact ih hspelled
  | not _ ih => exact ih (List.forall_mem_cons.mp hspelled).2
  | paren _ ih =>
    have hinside := (List.forall_mem_cons.mp hspelled).2
    exact ih (List.forall_mem_append.mp hinside).1
  | or _ _ ihleft ihright | and _ _ ihleft ihright | compare _ _ _ ihleft ihright =>
    obtain ⟨hfront, hbehind⟩ := List.forall_mem_append.mp hspelled
    exact ⟨ihleft hfront, ihright (List.forall_mem_cons.mp hbehind).2⟩
  | int n =>
    obtain ⟨letters, hletters⟩ := List.forall_mem_singleton.mp hspelled
    cases hletters with
    | int _ hn => exact Text.inRange_of_readQuantity? hn
  | text s =>
    obtain ⟨letters, hletters⟩ := List.forall_mem_singleton.mp hspelled
    cases hletters with
    | text hquote hs =>
      rcases hquote with rfl | rfl
      · exact .inl hs
      · exact .inr hs
  | slot name =>
    obtain ⟨letters, hletters⟩ := List.forall_mem_singleton.mp hspelled
    cases hletters with
    | slot hname => exact hname
  | truth | falsity => exact trivial

/-- The printable trees are those that some text prints. -/
theorem isPrintable_iff : tree.IsPrintable ↔ ∃ expression, Prints expression tree := by
  constructor
  · intro h
    obtain ⟨text, htext⟩ := exists_spells (spelled_print h .or)
    refine ⟨String.ofList text, _, ?_, derives_print h .or⟩
    rwa [String.toList_ofList]
  · rintro ⟨expression, tokens, hspells, hderives⟩
    exact hderives.isPrintable (spelled_of_spells hspells)

end Covenant.Condition
