import Covenant.Text.Blank
import Covenant.Text.Lowercase
import Covenant.Text.Numeral

/-!
# Names of contracts, tables and columns

Contracts and tables belong to ecosystems, and their full names carry the ecosystem's number in
front: `@1Transfer` is a contract and `1_keys` a table of ecosystem 1. Column names are compared in
a normal form.
-/

namespace Covenant

namespace ContractName

/-- The full name of a contract. A bare name belongs to the given ecosystem, a name behind `@` and a
number is full already, and a name behind `@` alone belongs to ecosystem 1. -/
def qualify (ecosystem : Int) (name : String) : String :=
  match name.toList with
  | '@' :: rest =>
    match rest with
    | c :: _ => if c.isDigit then name else "@1" ++ String.ofList rest
    | [] => "@1"
  | bare => "@" ++ toString ecosystem ++ String.ofList bare

/-- The ecosystem and the bare name of a full name. -/
def split? (name : String) : Option (Int × String) :=
  match name.toList with
  | '@' :: rest =>
    match Text.readQuantity? (rest.takeWhile Char.isDigit) with
    | some ecosystem => some (ecosystem, String.ofList (rest.dropWhile Char.isDigit))
    | none => none
  | _ => none

end ContractName

namespace TableName

/-- The number in front of a table's name, if there is one, and the rest of the name in lower case.
The number ends at the first underscore. -/
def split (table : String) : Option String × String :=
  match Text.splitFirst? '_' table.toList with
  | some (front, name) =>
    if !front.isEmpty && front.all Char.isDigit then
      (some (String.ofList front), Text.lowercase (String.ofList name))
    else (none, Text.lowercase table)
  | none => (none, Text.lowercase table)

/-- The full name of a table; one without a number belongs to the given ecosystem. -/
def qualify (table : String) (ecosystem : Int) : String :=
  match split table with
  | (some number, name) => number ++ "_" ++ name
  | (none, name) => toString ecosystem ++ "_" ++ name

/-- The table of an ecosystem's keys and their balances. -/
def keys (ecosystem : Int) : String :=
  toString ecosystem ++ "_keys"

/-- The table of an ecosystem's payments. -/
def history (ecosystem : Int) : String :=
  toString ecosystem ++ "_history"

end TableName

namespace ColumnName

/-- The characters that normalization looks at: ASCII letters and digits, the underscore, the star
and the two that make the arrow of a path. -/
def isKept (c : Char) : Bool :=
  c.isAlphanum || c == '_' || c == '*' || c == '-' || c == '>'

/-- The text before the first arrow. -/
def beforeArrow : List Char → List Char
  | [] => []
  | '-' :: '>' :: _ => []
  | c :: rest => c :: beforeArrow rest

/-- The normal form of a column reference: small letters, digits, underscores and stars before the
first arrow. Other characters do not count, not even inside an arrow. -/
def normalize (column : String) : String :=
  let kept := (column.toList.filter isKept).map Char.toLower
  String.ofList ((beforeArrow kept).filter fun c => c != '-' && c != '>')

/-- The columns of a list separated by commas, without blanks around them. No column at all means
every column, which is written `*`. -/
def parseList (columns : String) : List String :=
  let named := ((Text.pieces (· == ',') columns.toList).map Text.trim).filter (!·.isEmpty)
  if named.isEmpty then ["*"] else named.map String.ofList

end ColumnName

end Covenant
