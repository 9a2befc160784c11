import Covenant.Name
import Covenant.Script.Program
import Covenant.Text.Hex

/-!
# Reading statements

A statement is one line: a keyword, a space, and arguments between blanks. Some statements take the
rest of the line as text.
-/

namespace Covenant.Script

/-- What an argument stands for: a slot behind a dollar sign, a numeral, or text. -/
def readOperand : List Char → Operand
  | '$' :: name => .variable (String.ofList name)
  | token =>
    match Text.readQuantity? token with
    | some n => .int n
    | none => .text (String.ofList token)

/-- An argument of the form `name=value`. Names are in lower case. -/
def readPair (token : List Char) : Except String (String × Operand) :=
  match Text.splitFirst? '=' token with
  | some (name, value) => .ok (Text.lowercase (String.ofList name), readOperand value)
  | none => .error ("expected name=value, got `" ++ String.ofList token ++ "`")

/-- Arguments that are all of the form `name=value`. -/
def readPairs (tokens : List (List Char)) : Except String (List (String × Operand)) :=
  tokens.mapM readPair

/-- The argument at a place. -/
def argument (keyword : String) (tokens : List (List Char)) (index : Nat) :
    Except String (List Char) :=
  match tokens[index]? with
  | some token => .ok token
  | none => .error ("`" ++ keyword ++ "` expects more arguments")

/-- The keyword of a line and the text behind it, without blanks around it. -/
def splitKeyword (line : List Char) : List Char × List Char :=
  match Text.splitFirst? ' ' line with
  | some (keyword, rest) => (keyword, Text.trim rest)
  | none => (line, [])

/-- A truth value as an argument. -/
def readSwitch (token : List Char) : Except String Bool :=
  if token == "true".toList then .ok true
  else if token == "false".toList then .ok false
  else .error ("expected true or false, got " ++ String.ofList token)

/-- The statement on a line of a source that belongs to an ecosystem, or what is wrong with it. -/
def readStatement (ecosystem : Int) (line : List Char) : Except String Statement := do
  let (keywordChars, rest) := splitKeyword line
  let keyword := String.ofList keywordChars
  let tokens := Text.words rest
  let arg := argument keyword tokens
  match keyword with
  | "charge" =>
    match Text.readQuantity? (← arg 0) with
    | some amount => .ok (.charge amount)
    | none => .error "charge expects an integer"
  | "set" => .ok (.set (String.ofList (← arg 0)) (readOperand (← arg 1)))
  | "call" =>
    let target := ContractName.qualify ecosystem (String.ofList (← arg 0))
    .ok (.call target (← readPairs (tokens.drop 1)))
  | "insert" => .ok (.insert (String.ofList (← arg 0)) (← readPairs (tokens.drop 1)))
  | "update" =>
    .ok (.update (String.ofList (← arg 0)) (readOperand (← arg 1)) (← readPairs (tokens.drop 2)))
  | "select" =>
    let table := String.ofList (← arg 0)
    let id := readOperand (← arg 1)
    let columns := match tokens[2]? with
      | some columns => (Text.pieces (· == ',') columns).map String.ofList
      | none => []
    .ok (.select table id columns)
  | "condition" =>
    .ok (.condition (String.ofList (← arg 0)) (tokens[1]? == some "conditions".toList))
  | "activate" =>
    .ok (.activate (readOperand (← arg 0)) (readOperand (← arg 1)) (← readSwitch (← arg 2)))
  | "wallet" =>
    .ok (.wallet (readOperand (← arg 0)) (readOperand (← arg 1)) (readOperand (← arg 2)))
  | "notify" =>
    let (key, payload) := splitKeyword rest
    .ok (.notify (readOperand key) (String.ofList payload))
  | "result" =>
    match tokens with
    | [token] => .ok (.result (readOperand token))
    | _ => .ok (.result (.text (String.ofList rest)))
  | "result_hex" =>
    match Text.bytesOfHex (String.ofList (← arg 0)) with
    | .ok bytes => .ok (.resultBytes bytes)
    | .error reason => .error ("invalid hex: " ++ reason.message)
  | "fail" => .ok (.fail (String.ofList rest))
  | "spin" =>
    match Text.readUnsigned? (← arg 0) with
    | some milliseconds => .ok (.spin milliseconds)
    | none => .error "spin expects milliseconds"
  | _ =>
    if keyword == "require" && !rest.isEmpty then .ok (.require (String.ofList rest))
    else .error ("unknown statement `" ++ keyword ++ "`")

end Covenant.Script
