import Covenant.Condition.Expr

/-!
# The grammar of conditions

```text
or      := and ('||' and)*
and     := unary ('&&' unary)*
unary   := '!' unary | compare
compare := operand (comparison operand)?
operand := '(' or ')' | integer | text | variable | 'true' | 'false'
```

Both connectives group to the left, a comparison has one operator at most, and `!` covers the whole
comparison behind it.
-/

namespace Covenant.Condition

/-- The operand that a token stands for by itself. -/
def operandOfToken : Token → Expr
  | .int n => .literal (.int n)
  | .text s => .literal (.text s)
  | .variable name => .variable name
  | .word letters =>
    if letters == "true" then .literal (.bool true)
    else if letters == "false" then .literal (.bool false)
    else .broken (.unknownIdentifier letters)
  | token => .broken (.unexpectedToken token.shown)

mutual

/-- A disjunction and the tokens behind it. All rules spend one unit of fuel. -/
def parseOr : (fuel : Nat) → List Token → Expr × List Token
  | 0, tokens => (.broken .unexpectedEnd, tokens)
  | fuel + 1, tokens =>
    let (left, rest) := parseAnd fuel tokens
    parseMoreOr fuel left rest

/-- The operands of a disjunction behind the first. -/
def parseMoreOr : (fuel : Nat) → Expr → List Token → Expr × List Token
  | 0, left, tokens => (left, tokens)
  | fuel + 1, left, tokens =>
    match tokens with
    | .or :: rest =>
      let (right, rest) := parseAnd fuel rest
      parseMoreOr fuel (.or left right) rest
    | _ => (left, tokens)

/-- A conjunction. -/
def parseAnd : (fuel : Nat) → List Token → Expr × List Token
  | 0, tokens => (.broken .unexpectedEnd, tokens)
  | fuel + 1, tokens =>
    let (left, rest) := parseUnary fuel tokens
    parseMoreAnd fuel left rest

/-- The operands of a conjunction behind the first. -/
def parseMoreAnd : (fuel : Nat) → Expr → List Token → Expr × List Token
  | 0, left, tokens => (left, tokens)
  | fuel + 1, left, tokens =>
    match tokens with
    | .and :: rest =>
      let (right, rest) := parseUnary fuel rest
      parseMoreAnd fuel (.and left right) rest
    | _ => (left, tokens)

/-- A comparison behind any number of negations. -/
def parseUnary : (fuel : Nat) → List Token → Expr × List Token
  | 0, tokens => (.broken .unexpectedEnd, tokens)
  | fuel + 1, tokens =>
    match tokens with
    | .not :: rest =>
      let (operand, rest) := parseUnary fuel rest
      (.not operand, rest)
    | _ => parseCompare fuel tokens

/-- One operand, or two with a comparison between them. -/
def parseCompare : (fuel : Nat) → List Token → Expr × List Token
  | 0, tokens => (.broken .unexpectedEnd, tokens)
  | fuel + 1, tokens =>
    let (left, rest) := parseOperand fuel tokens
    match rest with
    | .compare comparison :: rest =>
      let (right, rest) := parseOperand fuel rest
      (.compare comparison left right, rest)
    | _ => (left, rest)

/-- An operand. -/
def parseOperand : (fuel : Nat) → List Token → Expr × List Token
  | 0, tokens => (.broken .unexpectedEnd, tokens)
  | fuel + 1, tokens =>
    match tokens with
    | [] => (.broken .unexpectedEnd, [])
    | .leftParen :: rest =>
      let (inside, rest) := parseOr fuel rest
      match rest with
      | .rightParen :: rest => (inside, rest)
      | _ => (.unclosed inside, rest)
    | token :: rest => (operandOfToken token, rest)

end

/-- Enough fuel for a list of tokens: between two tokens at most five rules are tried. -/
def fuelFor (tokens : List Token) : Nat :=
  6 * tokens.length + 6

/-- The tree at the front of a list of tokens, and the tokens behind it. -/
def parse (tokens : List Token) : Expr × List Token :=
  parseOr (fuelFor tokens) tokens

/-- Whether a condition holds in an environment. -/
def holds (expression : String) (env : Environment) : Except EvalError Bool := do
  let tokens ← scan expression
  if tokens.isEmpty then .error .emptyExpression
  else
    let (tree, rest) := parse tokens
    let value ← tree.eval env
    if rest.isEmpty then .ok value.isTruthy else .error (.leftover expression)

end Covenant.Condition
