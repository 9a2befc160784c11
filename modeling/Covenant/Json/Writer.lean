import Covenant.Json.Basic
import Covenant.Text.HexDigit

/-!
# Writing JSON

The one form in which values are written: no blanks, members in the order given, and strings with
only those characters escaped that must be.
-/

namespace Covenant.Json

/-- One character of a written string. Quote, backslash and the control characters are escaped, by
a letter where there is one and otherwise by four hexadecimal digits. -/
def escapeChar (c : Char) : List Char :=
  if c == '"' then ['\\', '"']
  else if c == '\\' then ['\\', '\\']
  else if c == '\x08' then ['\\', 'b']
  else if c == '\x0c' then ['\\', 'f']
  else if c == '\n' then ['\\', 'n']
  else if c == '\r' then ['\\', 'r']
  else if c == '\t' then ['\\', 't']
  else if c.toNat < 0x20 then
    ['\\', 'u', '0', '0', Text.hexDigit (c.toNat / 16), Text.hexDigit (c.toNat % 16)]
  else [c]

/-- A string between quotes. -/
def writeString (text : String) : List Char :=
  '"' :: (text.toList.flatMap escapeChar ++ ['"'])

/-- A numeral. -/
def writeNumeral : Numeral → List Char
  | .integer n => (toString n).toList
  | .decimal negative whole fraction exponent =>
    let exponentPart := match exponent with
      | none => []
      | some (negativeExponent, digits) => 'e' :: (if negativeExponent then ['-'] else []) ++ digits
    (if negative then ['-'] else []) ++ whole
      ++ (if fraction.isEmpty then [] else '.' :: fraction) ++ exponentPart

mutual

/-- The text of a value. What is no text or could not be read is left out. -/
def write : Json → List Char
  | .null => "null".toList
  | .bool true => "true".toList
  | .bool false => "false".toList
  | .number n => writeNumeral n
  | .string s => writeString s
  | .array items => '[' :: writeItems items
  | .object members => '\x7b' :: writeMembers members
  | .keyless j => write j
  | .halfString | .broken _ => []

/-- The items of a list and its closing bracket. -/
def writeItems : List Json → List Char
  | [] => [']']
  | item :: rest => write item ++ writeMoreItems rest

/-- What follows an item of a list. -/
def writeMoreItems : List Json → List Char
  | [] => [']']
  | item :: rest => ',' :: (write item ++ writeMoreItems rest)

/-- The members of an object and its closing brace. -/
def writeMembers : List (String × Json) → List Char
  | [] => ['\x7d']
  | (key, value) :: rest => writeString key ++ ':' :: (write value ++ writeMoreMembers rest)

/-- What follows a member of an object. -/
def writeMoreMembers : List (String × Json) → List Char
  | [] => ['\x7d']
  | (key, value) :: rest =>
    ',' :: (writeString key ++ ':' :: (write value ++ writeMoreMembers rest))

end

/-- A value as text. -/
def render (j : Json) : String :=
  String.ofList (write j)

end Covenant.Json
