/-!
# JSON values

The tree of a JSON text as far as it could be read. A text that goes wrong somewhere still has a
tree: reading stops there, and a `broken` leaf marks the place. Whoever takes the tree apart from
left to right therefore meets a fault of shape before a fault of syntax exactly when it stands
before it in the text.

A string may be well formed and still be no text: an escape for half a character, without its other
half, stands for nothing. The tree keeps the place of such a string, since it only matters where a
text is asked for.
-/

namespace Covenant

/-- A numeral of a JSON text. -/
inductive Numeral where
  /-- An integer that fits into 64 bits, signed or unsigned, and is not written `-0`. -/
  | integer (value : Int)
  /-- Any other number: its sign, the digits before and after the point, and the exponent. -/
  | decimal (negative : Bool) (whole fraction : List Char) (exponent : Option (Bool × List Char))
  deriving DecidableEq, Repr

/-- What is wrong with a text that is not JSON. -/
inductive JsonProblem where
  | endOfList
  | endOfObject
  | endOfString
  | endOfValue
  | expectedColon
  | expectedListEnd
  | expectedObjectEnd
  | expectedIdent
  | expectedValue
  | invalidEscape
  | invalidNumber
  | numberOutOfRange
  | controlCharacter
  | keyNotString
  | loneSurrogate
  | trailingComma
  | trailingCharacters
  | endOfHexEscape
  | nestedTooDeep
  deriving DecidableEq, Repr

/-- The message for a problem. -/
def JsonProblem.message : JsonProblem → String
  | .endOfList => "EOF while parsing a list"
  | .endOfObject => "EOF while parsing an object"
  | .endOfString => "EOF while parsing a string"
  | .endOfValue => "EOF while parsing a value"
  | .expectedColon => "expected `:`"
  | .expectedListEnd => "expected `,` or `]`"
  | .expectedObjectEnd => "expected `,` or `\x7d`"
  | .expectedIdent => "expected ident"
  | .expectedValue => "expected value"
  | .invalidEscape => "invalid escape"
  | .invalidNumber => "invalid number"
  | .numberOutOfRange => "number out of range"
  | .controlCharacter => "control character (\\u0000-\\u001F) found while parsing a string"
  | .keyNotString => "key must be a string"
  | .loneSurrogate => "lone leading surrogate in hex escape"
  | .trailingComma => "trailing comma"
  | .trailingCharacters => "trailing characters"
  | .endOfHexEscape => "unexpected end of hex escape"
  | .nestedTooDeep => "recursion limit exceeded"

/-- A problem and the place where it was noticed: `unread` is what was left of the text, and
`ahead` bytes of that had been looked at. -/
structure JsonFailure where
  /-- What is wrong. -/
  problem : JsonProblem
  /-- The text not yet read. -/
  unread : List Char
  /-- How many bytes of the unread text had been looked at. -/
  ahead : Nat
  deriving DecidableEq, Repr

/-- The tree of a JSON text. -/
inductive Json where
  | null
  | bool (value : Bool)
  | number (value : Numeral)
  | string (text : String)
  | array (items : List Json)
  | object (members : List (String × Json))
  /-- A string that is no text. -/
  | halfString
  /-- The value of a member whose key is no text or was not read; the key is left empty. -/
  | keyless (value : Json)
  /-- Reading stopped here. In a list it stands as the last item, and in an object as the value of
  the last member, which is keyless if no key was read. -/
  | broken (failure : JsonFailure)

namespace Json

instance : Inhabited Json := ⟨.null⟩

/-- An integer. -/
def int (n : Int) : Json :=
  .number (.integer n)

/-- A natural number. -/
def nat (n : Nat) : Json :=
  .number (.integer n)

/-- A list of texts. -/
def strings (texts : List String) : Json :=
  .array (texts.map .string)

/-- A value, or null. -/
def ofOption {α : Type} (f : α → Json) : Option α → Json
  | none => .null
  | some a => f a

end Json

end Covenant
