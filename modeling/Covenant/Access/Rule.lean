import Covenant.Decimal.Shortest
import Covenant.Error.Basic
import Covenant.Json.Shape

/-!
# Column rules

The rule of a column is either a condition for updates, or an object with conditions for reads and
updates. A rule that starts like an object has to be one.
-/

namespace Covenant

/-- The conditions of a column; an empty one always holds. -/
structure ColumnRule where
  read : String
  update : String
  deriving DecidableEq, Repr

namespace ColumnRule

/-- What a refused rule is told about: a message, and the place where it applies. -/
structure Refusal where
  message : String
  /-- The text not yet read. -/
  unread : List Char
  /-- How many bytes of it had been looked at. -/
  ahead : Nat

/-- A failure of syntax as a refusal. -/
def refusalOf (failure : JsonFailure) : Refusal :=
  ⟨failure.problem.message, failure.unread, failure.ahead⟩

/-- A numeral as a message shows it. -/
def shownNumeral (numeral : Numeral) : Option String :=
  match numeral with
  | .integer n => some s!"integer `{n}`"
  | .decimal negative _ _ _ =>
    numeral.magnitude?.map fun magnitude =>
      "floating point `" ++ (if negative then "-" else "") ++ magnitude.text ++ "`"

/-- A value that is no text where one is expected. Scalars are read before they are refused. -/
def refuseValue (text : List Char) : Refusal :=
  let expected (what : String) (unread : List Char) : Refusal :=
    ⟨"invalid type: " ++ what ++ ", expected a string", unread, 0⟩
  let word (what : String) : Except JsonFailure (List Char) → Refusal
    | .ok rest => expected what rest
    | .error failure => refusalOf failure
  match text with
  | 'n' :: rest => word "null" (Json.word ['u', 'l', 'l'] rest)
  | 't' :: rest => word "boolean `true`" (Json.word ['r', 'u', 'e'] rest)
  | 'f' :: rest => word "boolean `false`" (Json.word ['a', 'l', 's', 'e'] rest)
  | '[' :: _ => expected "sequence" text
  | '\x7b' :: _ => expected "map" text
  | c :: _ =>
    if c == '-' || c.isDigit then
      match Json.numeral .endOfValue text with
      | .error failure => refusalOf failure
      | .ok (numeral, rest) =>
        match shownNumeral numeral with
        | some shown => expected shown rest
        | none => ⟨JsonProblem.numberOutOfRange.message, numeral.unreadDigits ++ rest, 0⟩
    else ⟨JsonProblem.expectedValue.message, text, 1⟩
  | [] => ⟨JsonProblem.endOfValue.message, [], 0⟩

/-- A text as the value of a member, and what stands behind it. -/
def readText (fuel : Nat) (text : List Char) : Except Refusal (String × List Char) :=
  match Json.skipSpace text with
  | '"' :: rest => (Json.stringAfterQuote fuel rest).mapError refusalOf
  | text => .error (refuseValue text)

/-- The conditions found so far. -/
structure Found where
  read : Option String
  update : Option String

/-- Where a repeated member is noticed: behind its key, the blanks after that, and a brace if there
is one. -/
def behindKey (text : List Char) : List Char :=
  match Json.skipSpace text with
  | '\x7d' :: rest => rest
  | text => text

/-- The refusal of a member that occurs twice. -/
def repeated (key : String) (text : List Char) : Refusal :=
  ⟨"duplicate field `" ++ key ++ "`", behindKey text, 0⟩

/-- The colon behind a key. -/
def readColon (text : List Char) : Except Refusal (List Char) :=
  match Json.skipSpace text with
  | ':' :: rest => .ok rest
  | [] => .error ⟨JsonProblem.endOfObject.message, [], 0⟩
  | text => .error ⟨JsonProblem.expectedColon.message, text, 1⟩

/-- Passes over the value of a member that means nothing. -/
def skipValue (fuel : Nat) (text : List Char) : Except Refusal (List Char) :=
  match Json.value fuel text with
  | (_, some rest) => .ok rest
  | (j, none) =>
    match j.failure? with
    | some failure => .error (refusalOf failure)
    | none => .error ⟨JsonProblem.expectedValue.message, text, 0⟩

/-- Reads a member whose opening quote has been read. -/
def readMember (fuel : Nat) (found : Found) (text : List Char) :
    Except Refusal (Found × List Char) :=
  match Json.stringAfterQuote fuel text with
  | .error failure => .error (refusalOf failure)
  | .ok (key, rest) =>
    if key == "read" then
      if found.read.isSome then .error (repeated key rest)
      else do
        let (condition, rest) ← readText fuel (← readColon rest)
        .ok ({ found with read := some condition }, rest)
    else if key == "update" then
      if found.update.isSome then .error (repeated key rest)
      else do
        let (condition, rest) ← readText fuel (← readColon rest)
        .ok ({ found with update := some condition }, rest)
    else do
      let rest ← skipValue fuel (← readColon rest)
      .ok (found, rest)

/-- Reads the members of an object behind the first, by `fuel` at most. -/
def readMoreMembers : (fuel : Nat) → Found → List Char → Except Refusal (Found × List Char)
  | 0, _, text => .error ⟨JsonProblem.nestedTooDeep.message, text, 0⟩
  | fuel + 1, found, text =>
    match Json.skipSpace text with
    | [] => .error ⟨JsonProblem.endOfObject.message, [], 0⟩
    | '\x7d' :: rest => .ok (found, rest)
    | ',' :: rest =>
      match Json.skipSpace rest with
      | [] => .error ⟨JsonProblem.endOfValue.message, [], 0⟩
      | '"' :: rest => do
        let (found, rest) ← readMember fuel found rest
        readMoreMembers fuel found rest
      | '\x7d' :: rest => .error ⟨JsonProblem.trailingComma.message, '\x7d' :: rest, 1⟩
      | text => .error ⟨JsonProblem.keyNotString.message, text, 1⟩
    | text => .error ⟨JsonProblem.expectedObjectEnd.message, text, 1⟩

/-- Reads the members of an object whose brace has been read. -/
def readMembers (fuel : Nat) (text : List Char) : Except Refusal (Found × List Char) :=
  match Json.skipSpace text with
  | [] => .error ⟨JsonProblem.endOfObject.message, [], 0⟩
  | '\x7d' :: rest => .ok (⟨none, none⟩, rest)
  | '"' :: rest => do
    let (found, rest) ← readMember fuel ⟨none, none⟩ rest
    readMoreMembers fuel found rest
  | text => .error ⟨JsonProblem.keyNotString.message, text, 1⟩

/-- Reads a rule that is an object; the opening brace has been read. -/
def readObject (text : List Char) : Except Refusal ColumnRule := do
  let (found, rest) ← readMembers (Json.fuelFor text) text
  match Json.skipSpace rest with
  | [] => .ok ⟨found.read.getD "", found.update.getD ""⟩
  | rest => .error ⟨JsonProblem.trailingCharacters.message, rest, 1⟩

/-- The rule of a column. -/
def parse (column rule : String) : Except AccessError ColumnRule :=
  match rule.toList with
  | '\x7b' :: rest =>
    match readObject rest with
    | .ok parsed => .ok parsed
    | .error refusal =>
      .error (.invalidPermissions column
        (Json.placed rule refusal.message refusal.unread refusal.ahead))
  | _ => .ok ⟨"", rule⟩

end ColumnRule

end Covenant
