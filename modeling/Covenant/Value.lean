import Covenant.Json.Shape
import Covenant.Json.Writer
import Covenant.Text.Blank

/-!
# Values

What contract code computes with: environment slots, transaction fields and table cells all hold
values. The module gives the views that conditions and results take of them, and their JSON form.
-/

namespace Covenant

/-- A value of contract code. -/
inductive Value where
  /-- No value. -/
  | null
  | bool (value : Bool)
  /-- A quantity: an id, an amount, a time. -/
  | int (value : Int)
  | text (value : String)
  /-- Raw bytes, such as keys and hashes. -/
  | bytes (value : List UInt8)
  | list (items : List Value)
  /-- Values under texts, in the order of the texts. -/
  | map (entries : List (String × Value))

/-- The cells of a table row under their column names. -/
abbrev Row :=
  Dict String Value

namespace Value

instance : Inhabited Value := ⟨.null⟩

mutual

/-- The two values are the same. -/
def beq : Value → Value → Bool
  | .null, .null => true
  | .bool a, .bool b => a == b
  | .int a, .int b => a == b
  | .text a, .text b => a == b
  | .bytes a, .bytes b => a == b
  | .list a, .list b => beqList a b
  | .map a, .map b => beqEntries a b
  | _, _ => false

/-- The two lists hold the same values in the same order. -/
def beqList : List Value → List Value → Bool
  | [], [] => true
  | a :: as, b :: bs => beq a b && beqList as bs
  | _, _ => false

/-- The two lists hold the same entries in the same order. -/
def beqEntries : List (String × Value) → List (String × Value) → Bool
  | [], [] => true
  | (k, a) :: as, (l, b) :: bs => k == l && beq a b && beqEntries as bs
  | _, _ => false

end

instance : BEq Value := ⟨beq⟩

mutual

/-- The JSON form of a value. Bytes are a list of numbers. -/
def toJson : Value → Json
  | .null => .null
  | .bool b => .bool b
  | .int n => Json.int n
  | .text s => .string s
  | .bytes b => .array (b.map fun x => Json.nat x.toNat)
  | .list items => .array (toJsonList items)
  | .map entries => .object (toJsonEntries entries)

/-- The JSON forms of values. -/
def toJsonList : List Value → List Json
  | [] => []
  | v :: rest => toJson v :: toJsonList rest

/-- The JSON forms of entries. -/
def toJsonEntries : List (String × Value) → List (String × Json)
  | [] => []
  | (key, v) :: rest => (key, toJson v) :: toJsonEntries rest

end

/-- The JSON text of a value. -/
def jsonText (v : Value) : String :=
  v.toJson.render

/-- The value as an integer: a quantity itself, a truth value as one or zero, and a text that is a
numeral between blanks. -/
def asInt? : Value → Option Int
  | .int n => some n
  | .text s => Text.readQuantity? (Text.trim s.toList)
  | .bool b => some (if b then 1 else 0)
  | _ => none

/-- The text of a text value. -/
def asText? : Value → Option String
  | .text s => some s
  | _ => none

/-- Whether a condition holds that has this value: it does unless the value is null, false, zero, an
empty text or collection, or one of the texts `0` and `false`. -/
def isTruthy : Value → Bool
  | .null => false
  | .bool b => b
  | .int n => n != 0
  | .text s => !(s == "" || s == "0" || s == "false")
  | .bytes b => !b.isEmpty
  | .list items => !items.isEmpty
  | .map entries => !entries.isEmpty

/-- The value as part of a text: bytes in hexadecimal, collections in JSON. -/
def display : Value → String
  | .null => ""
  | .bool b => if b then "true" else "false"
  | .int n => toString n
  | .text s => s
  | .bytes b => Text.hexOfBytes b
  | v@(.list _) | v@(.map _) => v.jsonText

/-- The value as the text of a result. Bytes must be encoded text; otherwise there is none. -/
def render? : Value → Option String
  | .bytes b => String.fromUTF8? ⟨b.toArray⟩
  | v => some v.display

/-! ## Reading the JSON form -/

mutual

/-- The tree holds the whole of its text, no numeral in it is too large, and it nests no deeper than
`depth` lists and objects. -/
def isReadable (depth : Nat) : Json → Bool
  | .null | .bool _ | .string _ => true
  | .number n => n.magnitude?.isSome
  | .array items => depth != 0 && areReadable (depth - 1) items
  | .object members => depth != 0 && membersReadable (depth - 1) members
  | .halfString | .keyless _ | .broken _ => false

/-- All items are readable. -/
def areReadable (depth : Nat) : List Json → Bool
  | [] => true
  | j :: rest => isReadable depth j && areReadable depth rest

/-- All members are readable. -/
def membersReadable (depth : Nat) : List (String × Json) → Bool
  | [] => true
  | (_, j) :: rest => isReadable depth j && membersReadable depth rest

end

/-- The byte that an item of a list stands for. -/
def byte? : Json → Option UInt8
  | .number (.integer n) => if 0 ≤ n ∧ n ≤ 255 then some (UInt8.ofNat n.toNat) else none
  | _ => none

mutual

/-- The value with a JSON form. A list of numbers from 0 to 255, the empty list among them, stands
for bytes; numerals that are no quantities stand for nothing. -/
def ofJson? : Json → Option Value
  | .null => some .null
  | .bool b => some (.bool b)
  | .number (.integer n) => if Quantity.InRange n then some (.int n) else none
  | .number (.decimal _ _ _ _) => none
  | .string s => some (.text s)
  | .array items =>
    match items.mapM byte? with
    | some raw => some (.bytes raw)
    | none => (ofJsonList? items).map .list
  | .object members => (ofJsonEntries? members).map fun entries => .map (Dict.ofList entries)
  | .halfString | .keyless _ | .broken _ => none

/-- The values with the given JSON forms. -/
def ofJsonList? : List Json → Option (List Value)
  | [] => some []
  | j :: rest =>
    match ofJson? j, ofJsonList? rest with
    | some v, some more => some (v :: more)
    | _, _ => none

/-- The entries with the given JSON forms. -/
def ofJsonEntries? : List (String × Json) → Option (List (String × Value))
  | [] => some []
  | (key, j) :: rest =>
    match ofJson? j, ofJsonEntries? rest with
    | some v, some more => some ((key, v) :: more)
    | _, _ => none

end

/-- How deep a text may nest lists and objects. -/
def nestingLimit : Nat := 127

/-- Reads a value inside `outer` other lists and objects. The whole value is read before its shape
is looked at. -/
def read (outer : Nat) : Json.Reader Value := fun j =>
  if !isReadable (nestingLimit - outer) j then .error .syntaxFault
  else
    match ofJson? j with
    | some v => .ok v
    | none => .error .shape

/-- The value that a JSON text stands for. -/
def ofJsonText (text : String) : Except Misfit Value :=
  Json.decode (read 0) text

end Value

end Covenant
