import Mathlib.Data.List.Chain
import Covenant.Condition.Parser

/-!
# What the grammar derives

The grammar of conditions as a relation between lists of tokens and trees, and the two halves of its
agreement with the parser. The parser spends its fuel on rules, at most six units for each token, so it
reads whatever the grammar derives; and a tree without broken leaves is one that the grammar derives from
the tokens in front of what is left.
-/

namespace Covenant.Condition

/-- The rules of the grammar. -/
inductive Rule where
  | or
  | and
  | unary
  | compare
  | operand
  deriving DecidableEq, Repr

/-- A rule derives a tree from tokens. Both connectives group to the left. -/
inductive Derives : Rule → List Token → Expr → Prop
  | loneAnd {tokens : List Token} {tree : Expr} :
      Derives .and tokens tree → Derives .or tokens tree
  | or {front behind : List Token} {left right : Expr} :
      Derives .or front left → Derives .and behind right →
      Derives .or (front ++ .or :: behind) (.or left right)
  | loneUnary {tokens : List Token} {tree : Expr} :
      Derives .unary tokens tree → Derives .and tokens tree
  | and {front behind : List Token} {left right : Expr} :
      Derives .and front left → Derives .unary behind right →
      Derives .and (front ++ .and :: behind) (.and left right)
  | not {tokens : List Token} {tree : Expr} :
      Derives .unary tokens tree → Derives .unary (.not :: tokens) (.not tree)
  | loneCompare {tokens : List Token} {tree : Expr} :
      Derives .compare tokens tree → Derives .unary tokens tree
  | loneOperand {tokens : List Token} {tree : Expr} :
      Derives .operand tokens tree → Derives .compare tokens tree
  | compare {front behind : List Token} {left right : Expr} (comparison : Comparison) :
      Derives .operand front left → Derives .operand behind right →
      Derives .compare (front ++ .compare comparison :: behind) (.compare comparison left right)
  | paren {tokens : List Token} {tree : Expr} :
      Derives .or tokens tree → Derives .operand (.leftParen :: (tokens ++ [.rightParen])) tree
  | int (n : Int) : Derives .operand [.int n] (.literal (.int n))
  | text (s : String) : Derives .operand [.text s] (.literal (.text s))
  | slot (name : String) : Derives .operand [.variable name] (.variable name)
  | truth : Derives .operand [.word "true"] (.literal (.bool true))
  | falsity : Derives .operand [.word "false"] (.literal (.bool false))

variable {rule : Rule} {tokens rest : List Token} {tree left : Expr} {fuel : Nat}

/-! ## Neighbours -/

/-- The token can end an operand. -/
def Token.closes : Token → Bool
  | .rightParen | .variable _ | .int _ | .text _ | .word _ => true
  | _ => false

/-- The token can begin an operand, or a negation. -/
def Token.opens : Token → Bool
  | .leftParen | .not | .variable _ | .int _ | .text _ | .word _ => true
  | _ => false

/-- The tokens can stand side by side: behind the end of an operand comes none, and behind anything
else comes one. -/
def Token.Fits (first second : Token) : Prop :=
  first.closes = !second.opens

/-- Tokens that can stand side by side, from the beginning of an operand to the end of one. -/
structure Joined (tokens : List Token) : Prop where
  nonempty : tokens ≠ []
  opens : ∀ token ∈ tokens.head?, token.opens = true
  closes : ∀ token ∈ tokens.getLast?, token.closes = true
  fits : tokens.IsChain Token.Fits

theorem joined_singleton {token : Token} (hopens : token.opens = true)
    (hcloses : token.closes = true) : Joined [token] where
  nonempty := by simp
  opens := by simpa using hopens
  closes := by simpa using hcloses
  fits := List.isChain_singleton _

/-- Operands are joined by a token that neither ends one nor begins one. -/
theorem Joined.append {front behind : List Token} {token : Token} (hfront : Joined front)
    (hbehind : Joined behind) (hopens : token.opens = false) (hcloses : token.closes = false) :
    Joined (front ++ token :: behind) where
  nonempty := by simp
  opens := by
    rw [List.head?_append_of_ne_nil _ hfront.nonempty]
    exact hfront.opens
  closes := by
    rw [List.getLast?_append_of_ne_nil _ (List.cons_ne_nil _ _),
      List.getLast?_cons_of_ne_nil hbehind.nonempty]
    exact hbehind.closes
  fits := by
    rw [List.isChain_append, List.isChain_cons]
    refine ⟨hfront.fits, ⟨fun next hnext => ?_, hbehind.fits⟩, fun last hlast next hnext => ?_⟩
    · rw [Token.Fits, hcloses, hbehind.opens next hnext]
      rfl
    · obtain rfl : token = next := by simpa using hnext
      rw [Token.Fits, hopens, hfront.closes last hlast]
      rfl

theorem Joined.cons {token : Token} (h : Joined tokens) (hopens : token.opens = true)
    (hcloses : token.closes = false) : Joined (token :: tokens) where
  nonempty := by simp
  opens := by simpa using hopens
  closes := by
    rw [List.getLast?_cons_of_ne_nil h.nonempty]
    exact h.closes
  fits := by
    rw [List.isChain_cons]
    refine ⟨fun next hnext => ?_, h.fits⟩
    rw [Token.Fits, hcloses, h.opens next hnext]
    rfl

theorem Joined.concat {token : Token} (h : Joined tokens) (hopens : token.opens = false)
    (hcloses : token.closes = true) : Joined (tokens ++ [token]) where
  nonempty := by simp
  opens := by
    rw [List.head?_append_of_ne_nil _ h.nonempty]
    exact h.opens
  closes := by simpa using hcloses
  fits := by
    rw [List.isChain_append]
    refine ⟨h.fits, List.isChain_singleton _, fun last hlast next hnext => ?_⟩
    obtain rfl : token = next := by simpa using hnext
    rw [Token.Fits, hopens, h.closes last hlast]
    rfl

/-- What the grammar derives a tree from is joined. -/
theorem Derives.joined (h : Derives rule tokens tree) : Joined tokens := by
  induction h with
  | loneAnd _ ih => exact ih
  | loneUnary _ ih => exact ih
  | loneCompare _ ih => exact ih
  | loneOperand _ ih => exact ih
  | or _ _ ihleft ihright => exact ihleft.append ihright rfl rfl
  | and _ _ ihleft ihright => exact ihleft.append ihright rfl rfl
  | compare _ _ _ ihleft ihright => exact ihleft.append ihright rfl rfl
  | not _ ih => exact ih.cons rfl rfl
  | paren _ ih => exact (ih.cons rfl rfl).concat rfl rfl
  | int _ => exact joined_singleton rfl rfl
  | text _ => exact joined_singleton rfl rfl
  | slot _ => exact joined_singleton rfl rfl
  | truth => exact joined_singleton rfl rfl
  | falsity => exact joined_singleton rfl rfl

/-! ## The parser reads what the grammar derives -/

/-- The parser goes on with the token behind a phrase of the rule. -/
def Rule.goesOn : Rule → Token → Bool
  | .operand, _ => false
  | _, .compare _ => true
  | .and, .and => true
  | .or, .and => true
  | .or, .or => true
  | _, _ => false

/-- A phrase of the rule ends in front of the tokens. -/
def Rule.Stops (rule : Rule) (rest : List Token) : Prop :=
  ∀ token ∈ rest.head?, rule.goesOn token = false

theorem Rule.stops_cons {token : Token} (h : rule.goesOn token = false) :
    rule.Stops (token :: rest) := by
  intro other hother
  obtain rfl : token = other := by simpa using hother
  exact h

/-- A phrase ends where one that goes on with more tokens ends. -/
theorem Rule.Stops.of_goesOn {other : Rule} (h : rule.Stops rest)
    (hmore : ∀ token, other.goesOn token = true → rule.goesOn token = true) :
    other.Stops rest := by
  intro token htoken
  rw [Bool.eq_false_iff]
  intro hon
  have hstop := h token htoken
  rw [hmore token hon] at hstop
  cases hstop

theorem parseMoreOr_of_stops (fuel : Nat) (left : Expr) (h : Rule.or.Stops rest) :
    parseMoreOr fuel left rest = (left, rest) := by
  cases fuel with
  | zero => rfl
  | succ fuel =>
    rw [parseMoreOr]
    rintro behind rfl
    cases h .or rfl

theorem parseMoreAnd_of_stops (fuel : Nat) (left : Expr) (h : Rule.and.Stops rest) :
    parseMoreAnd fuel left rest = (left, rest) := by
  cases fuel with
  | zero => rfl
  | succ fuel =>
    rw [parseMoreAnd]
    rintro behind rfl
    cases h .and rfl

/-- The parser, with fuel for all tokens, reads the tree from the tokens whatever comes behind them,
unless it goes on with the phrase. For the two connectives that is to come to where it looks for
another operand, with the tree as what it has so far. -/
def Parses (tokens : List Token) (tree : Expr) : Rule → Prop
  | .or => ∀ (rest : List Token) (fuel : Nat), Rule.and.Stops rest →
      6 * (tokens.length + rest.length) + 6 ≤ fuel →
      ∃ left, 6 * rest.length + 5 ≤ left ∧
        parseOr fuel (tokens ++ rest) = parseMoreOr left tree rest
  | .and => ∀ (rest : List Token) (fuel : Nat), Rule.unary.Stops rest →
      6 * (tokens.length + rest.length) + 5 ≤ fuel →
      ∃ left, 6 * rest.length + 4 ≤ left ∧
        parseAnd fuel (tokens ++ rest) = parseMoreAnd left tree rest
  | .unary => ∀ (rest : List Token) (fuel : Nat), Rule.unary.Stops rest →
      6 * (tokens.length + rest.length) + 4 ≤ fuel →
      parseUnary fuel (tokens ++ rest) = (tree, rest)
  | .compare => ∀ (rest : List Token) (fuel : Nat), Rule.compare.Stops rest →
      6 * (tokens.length + rest.length) + 3 ≤ fuel →
      parseCompare fuel (tokens ++ rest) = (tree, rest)
  | .operand => ∀ (rest : List Token) (fuel : Nat),
      6 * (tokens.length + rest.length) + 2 ≤ fuel →
      parseOperand fuel (tokens ++ rest) = (tree, rest)

/-- An operand does not begin with a negation. -/
theorem Derives.head_ne_not (h : Derives .operand tokens tree) : tokens.head? ≠ some .not := by
  cases h <;> simp

theorem Derives.head_ne_not_of_compare (h : Derives .compare tokens tree) :
    tokens.head? ≠ some .not := by
  cases h with
  | loneOperand hoperand => exact hoperand.head_ne_not
  | compare comparison hleft hright =>
    rw [List.head?_append_of_ne_nil _ hleft.joined.nonempty]
    exact hleft.head_ne_not

section Parses

variable {front behind : List Token} {right : Expr}

/-- A disjunction is read whole where no connective is behind it. -/
theorem Parses.or_whole (h : Parses tokens tree .or) (hstops : Rule.or.Stops rest)
    (hfuel : 6 * (tokens.length + rest.length) + 6 ≤ fuel) :
    parseOr fuel (tokens ++ rest) = (tree, rest) := by
  have hand : Rule.and.Stops rest := hstops.of_goesOn fun token => by
    cases token <;> simp [Rule.goesOn]
  obtain ⟨left, -, hread⟩ := h rest fuel hand hfuel
  rw [hread, parseMoreOr_of_stops left tree hstops]

/-- A conjunction is read whole where no `&&` is behind it. -/
theorem Parses.and_whole (h : Parses tokens tree .and) (hstops : Rule.and.Stops rest)
    (hfuel : 6 * (tokens.length + rest.length) + 5 ≤ fuel) :
    parseAnd fuel (tokens ++ rest) = (tree, rest) := by
  have hunary : Rule.unary.Stops rest := hstops.of_goesOn fun token => by
    cases token <;> simp [Rule.goesOn]
  obtain ⟨left, -, hread⟩ := h rest fuel hunary hfuel
  rw [hread, parseMoreAnd_of_stops left tree hstops]

theorem Parses.loneAnd (h : Parses tokens tree .and) : Parses tokens tree .or := by
  intro rest fuel hstops hfuel
  cases fuel with
  | zero => omega
  | succ fuel =>
    refine ⟨fuel, by omega, ?_⟩
    rw [parseOr, h.and_whole hstops (by omega)]

theorem Parses.or (hleft : Parses front left .or) (hright : Parses behind right .and) :
    Parses (front ++ .or :: behind) (.or left right) .or := by
  intro rest fuel hstops hfuel
  rw [List.length_append, List.length_cons] at hfuel
  obtain ⟨more, hmore, hread⟩ := hleft (.or :: (behind ++ rest)) fuel (Rule.stops_cons rfl)
    (by simp only [List.length_cons, List.length_append]; omega)
  rw [List.length_cons, List.length_append] at hmore
  cases more with
  | zero => omega
  | succ more =>
    refine ⟨more, by omega, ?_⟩
    rw [List.append_assoc, List.cons_append, hread, parseMoreOr,
      hright.and_whole hstops (by omega)]

theorem Parses.loneUnary (h : Parses tokens tree .unary) : Parses tokens tree .and := by
  intro rest fuel hstops hfuel
  cases fuel with
  | zero => omega
  | succ fuel =>
    refine ⟨fuel, by omega, ?_⟩
    rw [parseAnd, h rest fuel hstops (by omega)]

theorem Parses.and (hleft : Parses front left .and) (hright : Parses behind right .unary) :
    Parses (front ++ .and :: behind) (.and left right) .and := by
  intro rest fuel hstops hfuel
  rw [List.length_append, List.length_cons] at hfuel
  obtain ⟨more, hmore, hread⟩ := hleft (.and :: (behind ++ rest)) fuel (Rule.stops_cons rfl)
    (by simp only [List.length_cons, List.length_append]; omega)
  rw [List.length_cons, List.length_append] at hmore
  cases more with
  | zero => omega
  | succ more =>
    refine ⟨more, by omega, ?_⟩
    rw [List.append_assoc, List.cons_append, hread, parseMoreAnd,
      hright rest more hstops (by omega)]

theorem Parses.not (h : Parses tokens tree .unary) :
    Parses (.not :: tokens) (.not tree) .unary := by
  intro rest fuel hstops hfuel
  rw [List.length_cons] at hfuel
  cases fuel with
  | zero => omega
  | succ fuel => rw [List.cons_append, parseUnary, h rest fuel hstops (by omega)]

theorem Parses.loneCompare (h : Parses tokens tree .compare) (hne : tokens ≠ [])
    (hnot : tokens.head? ≠ some .not) : Parses tokens tree .unary := by
  intro rest fuel hstops hfuel
  cases fuel with
  | zero => omega
  | succ fuel =>
    have hcompare : Rule.compare.Stops rest := hstops.of_goesOn fun token => by
      cases token <;> simp [Rule.goesOn]
    rw [parseUnary, h rest fuel hcompare (by omega)]
    intro other hother
    refine hnot ?_
    rw [← List.head?_append_of_ne_nil _ hne, hother]
    rfl

theorem Parses.loneOperand (h : Parses tokens tree .operand) : Parses tokens tree .compare := by
  intro rest fuel hstops hfuel
  cases fuel with
  | zero => omega
  | succ fuel =>
    rw [parseCompare, h rest fuel (by omega)]
    dsimp only
    split
    · cases hstops _ rfl
    · rfl

theorem Parses.compare (comparison : Comparison) (hleft : Parses front left .operand)
    (hright : Parses behind right .operand) :
    Parses (front ++ .compare comparison :: behind) (.compare comparison left right) .compare := by
  intro rest fuel hstops hfuel
  rw [List.length_append, List.length_cons] at hfuel
  cases fuel with
  | zero => omega
  | succ fuel =>
    rw [List.append_assoc, List.cons_append, parseCompare,
      hleft (.compare comparison :: (behind ++ rest)) fuel
        (by simp only [List.length_cons, List.length_append]; omega)]
    dsimp only
    rw [hright rest fuel (by omega)]

theorem Parses.paren (h : Parses tokens tree .or) :
    Parses (.leftParen :: (tokens ++ [.rightParen])) tree .operand := by
  intro rest fuel hfuel
  rw [List.length_cons, List.length_append, List.length_singleton] at hfuel
  cases fuel with
  | zero => omega
  | succ fuel =>
    rw [List.cons_append, List.append_assoc, List.singleton_append, parseOperand,
      h.or_whole (Rule.stops_cons rfl) (by rw [List.length_cons]; omega)]

/-- A token that is an operand by itself. -/
theorem parses_token {token : Token} (hparen : token ≠ .leftParen) :
    Parses [token] (operandOfToken token) .operand := by
  intro rest fuel hfuel
  cases fuel with
  | zero => omega
  | succ fuel =>
    rw [List.singleton_append, parseOperand]
    intro h
    exact hparen h

end Parses

/-- What the grammar derives the parser reads. -/
theorem Derives.parses (h : Derives rule tokens tree) : Parses tokens tree rule := by
  induction h with
  | loneAnd _ ih => exact ih.loneAnd
  | loneUnary _ ih => exact ih.loneUnary
  | loneCompare hcompare ih =>
    exact ih.loneCompare hcompare.joined.nonempty hcompare.head_ne_not_of_compare
  | loneOperand _ ih => exact ih.loneOperand
  | or _ _ ihleft ihright => exact ihleft.or ihright
  | and _ _ ihleft ihright => exact ihleft.and ihright
  | compare comparison _ _ ihleft ihright => exact ihleft.compare comparison ihright
  | not _ ih => exact ih.not
  | paren _ ih => exact ih.paren
  | int _ => exact parses_token (by simp)
  | text _ => exact parses_token (by simp)
  | slot _ => exact parses_token (by simp)
  | truth => exact parses_token (by simp)
  | falsity => exact parses_token (by simp)

/-- The parser reads a condition of the grammar to its end. -/
theorem Derives.parse_eq (h : Derives .or tokens tree) : parse tokens = (tree, []) := by
  have hstops : Rule.or.Stops [] := by
    intro token htoken
    cases htoken
  have hread : parseOr (fuelFor tokens) (tokens ++ []) = (tree, []) :=
    h.parses.or_whole hstops le_rfl
  rwa [List.append_nil] at hread

/-! ## The grammar derives what the parser reads -/

/-- The tree of tokens that follow the grammar. -/
def Expr.IsWhole : Expr → Prop
  | .literal _ | .variable _ => True
  | .not operand => operand.IsWhole
  | .and left right | .or left right | .compare _ left right => left.IsWhole ∧ right.IsWhole
  | .unclosed _ | .broken _ => False

/-- If the tree is whole, the rule derives it from the tokens in front of what is left. -/
def Reads (rule : Rule) (tokens : List Token) (result : Expr × List Token) : Prop :=
  result.1.IsWhole → ∃ front, tokens = front ++ result.2 ∧ Derives rule front result.1

/-- If the tree is whole, the tree it grew from is, and the rule derives it from the tokens of that
tree and those in front of what is left. -/
def Extends (rule : Rule) (left : Expr) (tokens : List Token) (result : Expr × List Token) : Prop :=
  result.1.IsWhole → left.IsWhole ∧ ∃ middle, tokens = middle ++ result.2 ∧
    ∀ front, Derives rule front left → Derives rule (front ++ middle) result.1

/-- With that fuel all rules read what the grammar derives. -/
structure SoundWith (fuel : Nat) : Prop where
  or : ∀ tokens, Reads .or tokens (parseOr fuel tokens)
  moreOr : ∀ left tokens, Extends .or left tokens (parseMoreOr fuel left tokens)
  and : ∀ tokens, Reads .and tokens (parseAnd fuel tokens)
  moreAnd : ∀ left tokens, Extends .and left tokens (parseMoreAnd fuel left tokens)
  unary : ∀ tokens, Reads .unary tokens (parseUnary fuel tokens)
  compare : ∀ tokens, Reads .compare tokens (parseCompare fuel tokens)
  operand : ∀ tokens, Reads .operand tokens (parseOperand fuel tokens)

/-- Nothing grows from a tree that is left alone. -/
theorem extends_self (rule : Rule) (left : Expr) (tokens : List Token) :
    Extends rule left tokens (left, tokens) := by
  intro hwhole
  refine ⟨hwhole, [], rfl, fun front hfront => ?_⟩
  rwa [List.append_nil]

theorem soundWith_zero : SoundWith 0 where
  or _ := False.elim
  moreOr left tokens := extends_self .or left tokens
  and _ := False.elim
  moreAnd left tokens := extends_self .and left tokens
  unary _ := False.elim
  compare _ := False.elim
  operand _ := False.elim

namespace SoundWith

theorem reads_or (h : SoundWith fuel) (tokens : List Token) :
    Reads .or tokens (parseOr (fuel + 1) tokens) := by
  rw [parseOr]
  intro hwhole
  obtain ⟨hleft, middle, hmiddle, hgrown⟩ := h.moreOr _ _ hwhole
  obtain ⟨front, hfront, hderives⟩ := h.and tokens hleft
  refine ⟨front ++ middle, ?_, hgrown front (.loneAnd hderives)⟩
  rw [List.append_assoc, ← hmiddle, ← hfront]

theorem extends_or (h : SoundWith fuel) (left : Expr) (tokens : List Token) :
    Extends .or left tokens (parseMoreOr (fuel + 1) left tokens) := by
  rw [parseMoreOr.eq_def]
  dsimp only
  split
  next rest =>
    intro hwhole
    obtain ⟨⟨hleft, hright⟩, middle, hmiddle, hgrown⟩ := h.moreOr _ _ hwhole
    obtain ⟨operand, hoperand, hderives⟩ := h.and rest hright
    refine ⟨hleft, .or :: (operand ++ middle), ?_, fun front hfront => ?_⟩
    · rw [List.cons_append, List.append_assoc, ← hmiddle, ← hoperand]
    · rw [← List.cons_append, ← List.append_assoc]
      exact hgrown _ (.or hfront hderives)
  next => exact extends_self .or left tokens

theorem reads_and (h : SoundWith fuel) (tokens : List Token) :
    Reads .and tokens (parseAnd (fuel + 1) tokens) := by
  rw [parseAnd]
  intro hwhole
  obtain ⟨hleft, middle, hmiddle, hgrown⟩ := h.moreAnd _ _ hwhole
  obtain ⟨front, hfront, hderives⟩ := h.unary tokens hleft
  refine ⟨front ++ middle, ?_, hgrown front (.loneUnary hderives)⟩
  rw [List.append_assoc, ← hmiddle, ← hfront]

theorem extends_and (h : SoundWith fuel) (left : Expr) (tokens : List Token) :
    Extends .and left tokens (parseMoreAnd (fuel + 1) left tokens) := by
  rw [parseMoreAnd.eq_def]
  dsimp only
  split
  next rest =>
    intro hwhole
    obtain ⟨⟨hleft, hright⟩, middle, hmiddle, hgrown⟩ := h.moreAnd _ _ hwhole
    obtain ⟨operand, hoperand, hderives⟩ := h.unary rest hright
    refine ⟨hleft, .and :: (operand ++ middle), ?_, fun front hfront => ?_⟩
    · rw [List.cons_append, List.append_assoc, ← hmiddle, ← hoperand]
    · rw [← List.cons_append, ← List.append_assoc]
      exact hgrown _ (.and hfront hderives)
  next => exact extends_self .and left tokens

theorem reads_unary (h : SoundWith fuel) (tokens : List Token) :
    Reads .unary tokens (parseUnary (fuel + 1) tokens) := by
  rw [parseUnary.eq_def]
  dsimp only
  split
  next rest =>
    intro hwhole
    obtain ⟨front, hfront, hderives⟩ := h.unary rest hwhole
    refine ⟨.not :: front, ?_, .not hderives⟩
    rw [List.cons_append, ← hfront]
  next =>
    intro hwhole
    obtain ⟨front, hfront, hderives⟩ := h.compare tokens hwhole
    exact ⟨front, hfront, .loneCompare hderives⟩

theorem reads_compare (h : SoundWith fuel) (tokens : List Token) :
    Reads .compare tokens (parseCompare (fuel + 1) tokens) := by
  have hleft := h.operand tokens
  rw [parseCompare]
  generalize parseOperand fuel tokens = result at hleft
  obtain ⟨left, rest⟩ := result
  dsimp only
  split
  next comparison rest =>
    rintro ⟨hwhole, hright⟩
    obtain ⟨front, hfront, hderives⟩ := hleft hwhole
    obtain ⟨behind, hbehind, hderives'⟩ := h.operand rest hright
    refine ⟨front ++ .compare comparison :: behind, ?_, .compare comparison hderives hderives'⟩
    rw [List.append_assoc, List.cons_append, ← hbehind]
    exact hfront
  next =>
    intro hwhole
    obtain ⟨front, hfront, hderives⟩ := hleft hwhole
    exact ⟨front, hfront, .loneOperand hderives⟩

/-- A token that stands for a whole tree is an operand. -/
theorem reads_token (token : Token) (rest : List Token) :
    Reads .operand (token :: rest) (operandOfToken token, rest) := by
  intro hwhole
  refine ⟨[token], rfl, ?_⟩
  match token, hwhole with
  | .int n, _ => exact .int n
  | .text s, _ => exact .text s
  | .variable name, _ => exact .slot name
  | .word letters, hwhole =>
    by_cases htrue : letters = "true"
    · subst htrue
      exact .truth
    · by_cases hfalse : letters = "false"
      · subst hfalse
        exact .falsity
      · simp [operandOfToken, htrue, hfalse, Expr.IsWhole] at hwhole

theorem reads_operand (h : SoundWith fuel) (tokens : List Token) :
    Reads .operand tokens (parseOperand (fuel + 1) tokens) := by
  rw [parseOperand.eq_def]
  dsimp only
  split
  next => exact False.elim
  next rest =>
    have hinside := h.or rest
    generalize parseOr fuel rest = result at hinside
    obtain ⟨inside, behind⟩ := result
    dsimp only
    split
    next behind =>
      intro hwhole
      obtain ⟨front, hfront, hderives⟩ := hinside hwhole
      refine ⟨.leftParen :: (front ++ [.rightParen]), ?_, .paren hderives⟩
      rw [List.cons_append, List.append_assoc, List.singleton_append]
      exact congrArg _ hfront
    next => exact False.elim
  next token rest _ => exact reads_token token rest

theorem succ (h : SoundWith fuel) : SoundWith (fuel + 1) where
  or := h.reads_or
  moreOr := h.extends_or
  and := h.reads_and
  moreAnd := h.extends_and
  unary := h.reads_unary
  compare := h.reads_compare
  operand := h.reads_operand

end SoundWith

/-- The grammar derives what the parser reads, whatever the fuel. -/
theorem soundWith (fuel : Nat) : SoundWith fuel := by
  induction fuel with
  | zero => exact soundWith_zero
  | succ fuel ih => exact ih.succ

theorem Derives.isWhole (h : Derives rule tokens tree) : tree.IsWhole := by
  induction h with
  | loneAnd _ ih | loneUnary _ ih | loneCompare _ ih | loneOperand _ ih | not _ ih | paren _ ih =>
    exact ih
  | or _ _ ihleft ihright | and _ _ ihleft ihright | compare _ _ _ ihleft ihright =>
    exact ⟨ihleft, ihright⟩
  | int _ | text _ | slot _ | truth | falsity => exact trivial

/-- The grammar derives a tree from tokens if, and only if, the parser reads that tree to the end of
the tokens and it is whole. -/
theorem derives_or_iff : Derives .or tokens tree ↔ parse tokens = (tree, []) ∧ tree.IsWhole := by
  constructor
  · intro h
    exact ⟨h.parse_eq, h.isWhole⟩
  · rintro ⟨hparse, hwhole⟩
    have hreads := (soundWith (fuelFor tokens)).or tokens
    rw [← parse, hparse] at hreads
    obtain ⟨front, hfront, hderives⟩ := hreads hwhole
    rw [List.append_nil] at hfront
    rwa [hfront]

end Covenant.Condition
