import Covenant.Json.Basic
import Covenant.Text.HexDigit
import Covenant.Text.Numeral

/-!
# Reading JSON

From text to tree. Each reader takes the text that is left and gives back what it read and the text
after it. `Json.value` reads as far as it can; `Json.parse?` accepts a whole text or nothing.
-/

namespace Covenant

namespace Json

/-- A failure with nothing read. -/
def stop {α : Type} (problem : JsonProblem) (unread : List Char) (ahead : Nat) :
    Except JsonFailure α :=
  .error ⟨problem, unread, ahead⟩

/-- The blanks that may stand between the parts of a JSON text. -/
def isSpace (c : Char) : Bool :=
  c == ' ' || c == '\n' || c == '\t' || c == '\r'

/-- The text behind leading blanks. -/
def skipSpace (text : List Char) : List Char :=
  text.dropWhile isSpace

/-! ## Strings -/

/-- The number of bytes of an encoded text. -/
def byteLength (text : List Char) : Nat :=
  text.foldl (fun size c => size + c.utf8Size) 0

/-- Four hexadecimal digits. -/
def hexUnit (text : List Char) : Except JsonFailure (Nat × List Char) :=
  let refuse := if 4 ≤ byteLength text then stop .invalidEscape text 4 else stop .endOfString [] 0
  match text with
  | a :: b :: c :: d :: rest =>
    match Text.hexValue? a, Text.hexValue? b, Text.hexValue? c, Text.hexValue? d with
    | some a, some b, some c, some d => .ok (((a * 16 + b) * 16 + c) * 16 + d, rest)
    | _, _, _, _ => refuse
  | _ => refuse

/-- The first half of a pair that stands for one character beyond the 16-bit range. -/
def isHighSurrogate (unit : Nat) : Bool :=
  0xD800 ≤ unit && unit ≤ 0xDBFF

/-- The second half of such a pair. -/
def isLowSurrogate (unit : Nat) : Bool :=
  0xDC00 ≤ unit && unit ≤ 0xDFFF

/-- The character of a numbered escape, or of two that form a pair. -/
def numberedEscape (text : List Char) : Except JsonFailure (Char × List Char) := do
  let (unit, rest) ← hexUnit text
  if isLowSurrogate unit then stop .loneSurrogate rest 0
  else if isHighSurrogate unit then
    match rest with
    | [] | ['\\'] => stop .endOfString [] 0
    | '\\' :: 'u' :: rest =>
      let (second, rest) ← hexUnit rest
      if isLowSurrogate second then
        .ok (Char.ofNat (0x10000 + (unit - 0xD800) * 0x400 + (second - 0xDC00)), rest)
      else stop .loneSurrogate rest 0
    | '\\' :: rest => stop .endOfHexEscape rest 1
    | rest => stop .endOfHexEscape rest 1
  else .ok (Char.ofNat unit, rest)

/-- The character that an escape stands for; the backslash has been read. -/
def escape : List Char → Except JsonFailure (Char × List Char)
  | [] => stop .endOfString [] 0
  | c :: rest =>
    match c with
    | '"' => .ok ('"', rest)
    | '\\' => .ok ('\\', rest)
    | '/' => .ok ('/', rest)
    | 'b' => .ok ('\x08', rest)
    | 'f' => .ok ('\x0c', rest)
    | 'n' => .ok ('\n', rest)
    | 'r' => .ok ('\r', rest)
    | 't' => .ok ('\t', rest)
    | 'u' => numberedEscape rest
    | _ => stop .invalidEscape (c :: rest) 1

/-- The characters of a string up to its closing quote, by `fuel` at most. -/
def stringBody : (fuel : Nat) → List Char → Except JsonFailure (List Char × List Char)
  | 0, text => stop .endOfString text 0
  | _ + 1, [] => stop .endOfString [] 0
  | fuel + 1, c :: rest =>
    if c == '"' then .ok ([], rest)
    else if c == '\\' then do
      let (read, rest) ← escape rest
      let (more, rest) ← stringBody fuel rest
      .ok (read :: more, rest)
    else if c.toNat < 0x20 then stop .controlCharacter rest 0
    else do
      let (more, rest) ← stringBody fuel rest
      .ok (c :: more, rest)

/-- A string whose opening quote has been read; it has fewer characters than `fuel`. -/
def stringAfterQuote (fuel : Nat) (text : List Char) :
    Except JsonFailure (String × List Char) := do
  let (chars, rest) ← stringBody fuel text
  .ok (String.ofList chars, rest)

/-- What stands behind an escape, whatever the escape is for; the backslash has been read. -/
def skipEscape : List Char → Except JsonFailure (List Char)
  | [] => stop .endOfString [] 0
  | 'u' :: rest => (hexUnit rest).map Prod.snd
  | c :: rest =>
    if ['"', '\\', '/', 'b', 'f', 'n', 'r', 't'].contains c then .ok rest
    else stop .invalidEscape (c :: rest) 1

/-- What stands behind the closing quote of a string that is well formed, by `fuel` at most. -/
def skipString : (fuel : Nat) → List Char → Except JsonFailure (List Char)
  | 0, text => stop .endOfString text 0
  | _ + 1, [] => stop .endOfString [] 0
  | fuel + 1, c :: rest =>
    if c == '"' then .ok rest
    else if c == '\\' then
      match skipEscape rest with
      | .ok rest => skipString fuel rest
      | .error failure => .error failure
    else if c.toNat < 0x20 then stop .controlCharacter (c :: rest) 0
    else skipString fuel rest

/-- A string whose opening quote has been read: its text, unless it is none, and what stands behind
it. -/
def formedString (fuel : Nat) (text : List Char) :
    Except JsonFailure (Option String × List Char) :=
  match skipString fuel text with
  | .error failure => .error failure
  | .ok rest =>
    match stringAfterQuote fuel text with
    | .ok (read, _) => .ok (some read, rest)
    | .error _ => .ok (none, rest)

/-! ## Numerals and words -/

/-- The numeral with these parts. -/
def numeralOf (negative : Bool) (whole fraction : List Char)
    (exponent : Option (Bool × List Char)) : Numeral :=
  let n := Text.valueOfDigits whole
  let other : Numeral := .decimal negative whole fraction exponent
  if !fraction.isEmpty || exponent.isSome then other
  else if negative then
    if 0 < n && n ≤ 9223372036854775808 then .integer (-(n : Int)) else other
  else if n < 18446744073709551616 then .integer n else other

/-- What may follow the digits before and after the point. `atEnd` is the problem if the text ends
in the middle. -/
def numeralExponent (atEnd : JsonProblem) (negative : Bool) (whole fraction text : List Char) :
    Except JsonFailure (Numeral × List Char) :=
  let signed (sign : Bool) (text : List Char) :=
    match text with
    | [] => stop atEnd [] 0
    | c :: _ =>
      if c.isDigit then
        .ok (numeralOf negative whole fraction (some (sign, text.takeWhile Char.isDigit)),
          text.dropWhile Char.isDigit)
      else stop .invalidNumber text 1
  match text with
  | 'e' :: '-' :: rest | 'E' :: '-' :: rest => signed true rest
  | 'e' :: '+' :: rest | 'E' :: '+' :: rest => signed false rest
  | 'e' :: rest | 'E' :: rest => signed false rest
  | _ => .ok (numeralOf negative whole fraction none, text)

/-- What may follow the digits before the point. -/
def numeralFraction (atEnd : JsonProblem) (negative : Bool) (whole text : List Char) :
    Except JsonFailure (Numeral × List Char) :=
  match text with
  | '.' :: rest =>
    match rest with
    | [] => stop atEnd [] 0
    | c :: _ =>
      if c.isDigit then
        numeralExponent atEnd negative whole (rest.takeWhile Char.isDigit)
          (rest.dropWhile Char.isDigit)
      else stop .invalidNumber rest 1
  | _ => numeralExponent atEnd negative whole [] text

/-- A numeral without its sign. -/
def unsignedNumeral (atEnd : JsonProblem) (negative : Bool) (text : List Char) :
    Except JsonFailure (Numeral × List Char) :=
  match text with
  | [] => stop atEnd [] 0
  | '0' :: rest =>
    match rest with
    | c :: _ =>
      if c.isDigit then stop .invalidNumber rest 1
      else numeralFraction atEnd negative ['0'] rest
    | [] => numeralFraction atEnd negative ['0'] rest
  | c :: _ =>
    if c.isDigit then
      numeralFraction atEnd negative (text.takeWhile Char.isDigit) (text.dropWhile Char.isDigit)
    else stop .invalidNumber text 1

/-- A numeral. -/
def numeral (atEnd : JsonProblem) : List Char → Except JsonFailure (Numeral × List Char)
  | '-' :: rest => unsignedNumeral atEnd true rest
  | text => unsignedNumeral atEnd false text

/-- The letters of `null`, `true` or `false` behind the first. -/
def word : (expected text : List Char) → Except JsonFailure (List Char)
  | [], text => .ok text
  | _ :: _, [] => stop .endOfValue [] 0
  | e :: expected, c :: rest =>
    if e == c then word expected rest else stop .expectedIdent (c :: rest) 1

/-! ## Trees -/

/-- A value of a reader as a tree. -/
def leaf {α : Type} (f : α → Json) : Except JsonFailure (α × List Char) → Json × Option (List Char)
  | .ok (a, rest) => (f a, some rest)
  | .error failure => (.broken failure, none)

/-- A string as a tree. -/
def ofString : Option String → Json
  | some text => .string text
  | none => .halfString

/-- A member of an object, which has no key if its key is no text. -/
def memberOf (key : Option String) (j : Json) : String × Json :=
  match key with
  | some key => (key, j)
  | none => ("", .keyless j)

/-- A word as a tree. -/
def wordLeaf (j : Json) : Except JsonFailure (List Char) → Json × Option (List Char)
  | .ok rest => (j, some rest)
  | .error failure => (.broken failure, none)

/-- A list that ends where reading stopped. -/
def brokenItems (problem : JsonProblem) (unread : List Char) (ahead : Nat) :
    List Json × Option (List Char) :=
  ([.broken ⟨problem, unread, ahead⟩], none)

/-- Members that end where reading stopped, behind a key if one was read. -/
def brokenMembers (key : Option String) (failure : JsonFailure) :
    List (String × Json) × Option (List Char) :=
  ([memberOf key (.broken failure)], none)

mutual

/-- A value and the text behind it, which is missing if reading stopped inside the value. The fuel
is spent by one for each value, item and member; `Json.fuelFor` is enough. -/
def value : (fuel : Nat) → List Char → Json × Option (List Char)
  | 0, text => (.broken ⟨.nestedTooDeep, text, 0⟩, none)
  | fuel + 1, text =>
    match skipSpace text with
    | [] => (.broken ⟨.endOfValue, [], 0⟩, none)
    | c :: rest =>
      match c with
      | '"' => leaf ofString (formedString (fuel + 1) rest)
      | '[' =>
        let (items, rest) := items fuel rest
        (.array items, rest)
      | '\x7b' =>
        let (members, rest) := members fuel rest
        (.object members, rest)
      | 'n' => wordLeaf .null (word ['u', 'l', 'l'] rest)
      | 't' => wordLeaf (.bool true) (word ['r', 'u', 'e'] rest)
      | 'f' => wordLeaf (.bool false) (word ['a', 'l', 's', 'e'] rest)
      | _ =>
        if c == '-' || c.isDigit then leaf .number (numeral .invalidNumber (c :: rest))
        else (.broken ⟨.expectedValue, c :: rest, 1⟩, none)

/-- The items of a list whose bracket has been read. -/
def items : (fuel : Nat) → List Char → List Json × Option (List Char)
  | 0, text => brokenItems .nestedTooDeep text 0
  | fuel + 1, text =>
    match skipSpace text with
    | [] => brokenItems .endOfList [] 0
    | ']' :: rest => ([], some rest)
    | text => item fuel text

/-- An item and those behind it. -/
def item : (fuel : Nat) → List Char → List Json × Option (List Char)
  | 0, text => brokenItems .nestedTooDeep text 0
  | fuel + 1, text =>
    match value fuel text with
    | (j, none) => ([j], none)
    | (j, some rest) =>
      let (more, rest) := moreItems fuel rest
      (j :: more, rest)

/-- What stands behind an item. -/
def moreItems : (fuel : Nat) → List Char → List Json × Option (List Char)
  | 0, text => brokenItems .nestedTooDeep text 0
  | fuel + 1, text =>
    match skipSpace text with
    | [] => brokenItems .endOfList [] 0
    | ']' :: rest => ([], some rest)
    | ',' :: rest => item fuel rest
    | text => brokenItems .expectedListEnd text 1

/-- The members of an object whose brace has been read. -/
def members : (fuel : Nat) → List Char → List (String × Json) × Option (List Char)
  | 0, text => brokenMembers none ⟨.nestedTooDeep, text, 0⟩
  | fuel + 1, text =>
    match skipSpace text with
    | '\x7d' :: rest => ([], some rest)
    | text => member fuel text

/-- A member and those behind it. -/
def member : (fuel : Nat) → List Char → List (String × Json) × Option (List Char)
  | 0, text => brokenMembers none ⟨.nestedTooDeep, text, 0⟩
  | fuel + 1, text =>
    match skipSpace text with
    | [] => brokenMembers none ⟨.endOfObject, [], 0⟩
    | '"' :: rest =>
      match formedString (fuel + 1) rest with
      | .error failure => brokenMembers none failure
      | .ok (key, rest) =>
        match skipSpace rest with
        | [] => brokenMembers key ⟨.endOfObject, [], 0⟩
        | ':' :: rest =>
          match value fuel rest with
          | (j, none) => ([memberOf key j], none)
          | (j, some rest) =>
            let (more, rest) := moreMembers fuel rest
            (memberOf key j :: more, rest)
        | rest => brokenMembers key ⟨.expectedColon, rest, 1⟩
    | text => brokenMembers none ⟨.keyNotString, text, 1⟩

/-- What stands behind a member. -/
def moreMembers : (fuel : Nat) → List Char → List (String × Json) × Option (List Char)
  | 0, text => brokenMembers none ⟨.nestedTooDeep, text, 0⟩
  | fuel + 1, text =>
    match skipSpace text with
    | [] => brokenMembers none ⟨.endOfObject, [], 0⟩
    | '\x7d' :: rest => ([], some rest)
    | ',' :: rest => member fuel rest
    | text => brokenMembers none ⟨.expectedObjectEnd, text, 1⟩

end

/-- Enough fuel for a text: a bracket costs three, and every other item or member has a character
of its own for each of its steps. -/
def fuelFor (text : List Char) : Nat :=
  3 * text.length + 3

/-- The value at the front of a text and what stands behind it. -/
def readValue (text : List Char) : Json × Option (List Char) :=
  value (fuelFor text) text

/-- The value of a text that holds one JSON value and blanks, and nothing else. -/
def parse? (text : String) : Option Json :=
  match readValue text.toList with
  | (j, some rest) => if (skipSpace rest).isEmpty then some j else none
  | (_, none) => none

/-! ## Places in a text -/

/-- Line and column behind a number of bytes: the line counts from one, and the column counts the
bytes since the last line feed. -/
def lineAndColumn (bytes : List UInt8) : Nat × Nat :=
  bytes.foldl (fun place b => if b == 10 then (place.1 + 1, 0) else (place.1, place.2 + 1)) (1, 0)

/-- The message of a failure, or of any other refusal noticed at the same place of `text`. -/
def placed (text : String) (message : String) (unread : List Char) (ahead : Nat) : String :=
  let bytes := text.toUTF8.toList
  let left := byteLength unread
  let (line, column) := lineAndColumn (bytes.take (bytes.length - left + min ahead left))
  s!"{message} at line {line} column {column}"

end Json

/-- A failure in words. -/
def JsonFailure.message (failure : JsonFailure) (text : String) : String :=
  Json.placed text failure.problem.message failure.unread failure.ahead

end Covenant
