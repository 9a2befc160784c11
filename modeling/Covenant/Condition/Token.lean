import Covenant.Error.Basic
import Covenant.Text.Alphanumeric
import Covenant.Text.Numeral
import Covenant.Text.Shown

/-!
# Tokens of conditions

A condition is cut into tokens before anything else. Blanks are the space, the tab, the line feed
and the carriage return; a word starts with a letter, a digit, an underscore, a dollar sign or a
minus sign and goes on with letters, digits and underscores.
-/

namespace Covenant.Condition

/-- A comparison of two operands. -/
inductive Comparison where
  | equal
  | notEqual
  | less
  | lessOrEqual
  | greater
  | greaterOrEqual
  deriving DecidableEq, Repr

/-- The sign of a comparison. -/
def Comparison.sign : Comparison → String
  | .equal => "=="
  | .notEqual => "!="
  | .less => "<"
  | .lessOrEqual => "<="
  | .greater => ">"
  | .greaterOrEqual => ">="

/-- A token. -/
inductive Token where
  | leftParen
  | rightParen
  | not
  | and
  | or
  | compare (comparison : Comparison)
  /-- A dollar sign and a name. -/
  | variable (name : String)
  | int (value : Int)
  /-- A text between quotes of either kind. -/
  | text (value : String)
  /-- Any other word. -/
  | word (letters : String)
  deriving DecidableEq, Repr

/-- An operator as a message shows it. -/
def Token.shown : Token → String
  | .leftParen => "LParen"
  | .rightParen => "RParen"
  | .not => "Not"
  | .and => "And"
  | .or => "Or"
  | .compare comparison => "Cmp(\"" ++ comparison.sign ++ "\")"
  | .variable name => "Var(\"" ++ name ++ "\")"
  | .int value => "Int(" ++ toString value ++ ")"
  | .text value => "Str(\"" ++ value ++ "\")"
  | .word letters => "Word(\"" ++ letters ++ "\")"

/-- A character that separates tokens. -/
def isSpace (c : Char) : Bool :=
  c == ' ' || c == '\t' || c == '\n' || c == '\r'

/-- A character that goes on with a word. -/
def isWordChar (c : Char) : Bool :=
  Text.isAlphanumeric c || c == '_'

/-- A character that starts a word. -/
def startsWord (c : Char) : Bool :=
  c == '$' || c == '-' || isWordChar c

/-- The token of a word. -/
def wordToken : List Char → Token
  | '$' :: name => .variable (String.ofList name)
  | letters =>
    match Text.readQuantity? letters with
    | some n => .int n
    | none => .word (String.ofList letters)

/-- The token at the front of a text that starts with no blank, and the text behind it. -/
def scanOne (expression : String) : List Char → Except EvalError (Token × List Char)
  | [] => .error .unexpectedEnd
  | '(' :: rest => .ok (.leftParen, rest)
  | ')' :: rest => .ok (.rightParen, rest)
  | '&' :: '&' :: rest => .ok (.and, rest)
  | '|' :: '|' :: rest => .ok (.or, rest)
  | '=' :: '=' :: rest => .ok (.compare .equal, rest)
  | '!' :: '=' :: rest => .ok (.compare .notEqual, rest)
  | '!' :: rest => .ok (.not, rest)
  | '<' :: '=' :: rest => .ok (.compare .lessOrEqual, rest)
  | '<' :: rest => .ok (.compare .less, rest)
  | '>' :: '=' :: rest => .ok (.compare .greaterOrEqual, rest)
  | '>' :: rest => .ok (.compare .greater, rest)
  | c :: rest =>
    if c == '"' || c == '\'' then
      match rest.dropWhile (· != c) with
      | [] => .error (.unterminatedString expression)
      | _ :: behind => .ok (.text (String.ofList (rest.takeWhile (· != c))), behind)
    else if startsWord c then
      .ok (wordToken (c :: rest.takeWhile isWordChar), rest.dropWhile isWordChar)
    else .error (.unexpectedCharacter (Text.shownChar c) expression)

/-- The tokens of a text, by `fuel` at most; each token takes one character or more. -/
def scanFrom (expression : String) : (fuel : Nat) → List Char → Except EvalError (List Token)
  | 0, _ => .ok []
  | fuel + 1, text =>
    match text.dropWhile isSpace with
    | [] => .ok []
    | c :: rest => do
      let (token, behind) ← scanOne expression (c :: rest)
      let more ← scanFrom expression fuel behind
      .ok (token :: more)

/-- The tokens of a condition. -/
def scan (expression : String) : Except EvalError (List Token) :=
  scanFrom expression (expression.length + 1) expression.toList

end Covenant.Condition
