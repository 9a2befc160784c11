import Covenant.Dict
import Covenant.Decimal.Binary64
import Covenant.Json.Reader
import Covenant.Text.Hex

/-!
# Taking JSON apart

Readers turn the tree of a text into data. They go through the tree in the order of the text, so
that of two faults the first one decides whether the text is no JSON or has the wrong shape.
-/

namespace Covenant

/-- Why a text does not give the data that is asked for. -/
inductive Misfit where
  /-- It is not JSON, or it ends too early. -/
  | syntaxFault
  /-- It is JSON of another shape. -/
  | shape
  deriving DecidableEq, Repr

/-- Adds digits to a 64-bit significand while there is room, and gives the digits that are left. -/
def Numeral.absorb : (significand : Nat) → List Char → Nat × List Char
  | n, [] => (n, [])
  | n, d :: digits =>
    let next := n * 10 + Text.digitValue d
    if next < 18446744073709551616 then Numeral.absorb next digits else (n, d :: digits)

/-- The digits of an exponent that stand behind the first one with which it outgrows 31 bits; `read`
is the exponent so far. -/
def Numeral.excess : (read : Nat) → List Char → List Char
  | _, [] => []
  | n, d :: digits =>
    let next := n * 10 + Text.digitValue d
    if next < 2147483648 then Numeral.excess next digits else digits

/-- The digits of a numeral that need not be read to see that it is too large. -/
def Numeral.unreadDigits : Numeral → List Char
  | .decimal _ _ _ (some (_, digits)) => Numeral.excess 0 digits
  | _ => []

/-- The magnitude of a numeral as a floating-point number, if it is not too large. Digits that a
64-bit significand has no room for count as zeros before the point and are dropped behind it. -/
def Numeral.magnitude? : Numeral → Option Binary64
  | .integer n => Binary64.ofNat? n.natAbs
  | .decimal _ whole fraction exponent =>
    let (n, left) := Numeral.absorb 0 whole
    let (n, dropped) := Numeral.absorb n fraction
    let scale : Int := left.length - (fraction.length - dropped.length : Nat)
    let power : Int := match exponent with
      | none => 0
      | some (true, digits) => -(Text.valueOfDigits digits : Int)
      | some (false, digits) => Text.valueOfDigits digits
    if n == 0 then some ⟨0, 0⟩ else Binary64.ofDecimal? n (scale + power)

namespace Json

mutual

/-- Where reading stopped, unless the tree holds the whole of its text. -/
def failure? : Json → Option JsonFailure
  | .array items => failureInItems? items
  | .object members => failureInMembers? members
  | .keyless j => failure? j
  | .broken failure => some failure
  | _ => none

/-- Where reading of a list stopped. -/
def failureInItems? : List Json → Option JsonFailure
  | [] => none
  | j :: rest => (failure? j).or (failureInItems? rest)

/-- Where reading of an object stopped. -/
def failureInMembers? : List (String × Json) → Option JsonFailure
  | [] => none
  | (_, j) :: rest => (failure? j).or (failureInMembers? rest)

end

/-- Whether a member that means nothing is in order: its key is a text, and its value was read to
its end. Inside the value no string has to be a text. -/
def isPassable : Json → Bool
  | .keyless _ => false
  | j => j.failure?.isNone

/-- Why a value is refused where another kind of value is expected. Numerals and strings are read
before they are refused, so a numeral that is too large is a fault of syntax, and so is a string
that is no text. -/
def misfit : Json → Misfit
  | .halfString | .keyless _ | .broken _ => .syntaxFault
  | .number n => if n.magnitude?.isSome then .shape else .syntaxFault
  | _ => .shape

/-- A reader of one kind of value. -/
abbrev Reader (α : Type) :=
  Json → Except Misfit α

/-- An integer between two bounds. -/
def readBetween (low high : Int) : Reader Int
  | .number (.integer n) => if low ≤ n ∧ n ≤ high then .ok n else .error .shape
  | j => .error j.misfit

/-- A quantity. -/
def readInt : Reader Int :=
  readBetween Quantity.least Quantity.greatest

/-- An unsigned 64-bit number. -/
def readNat : Reader Nat :=
  fun j => (readBetween 0 18446744073709551615 j).map Int.toNat

/-- A byte. -/
def readByte : Reader UInt8 :=
  fun j => (readBetween 0 255 j).map fun n => UInt8.ofNat n.toNat

/-- A truth value. -/
def readBool : Reader Bool
  | .bool b => .ok b
  | j => .error j.misfit

/-- A text. -/
def readText : Reader String
  | .string s => .ok s
  | j => .error j.misfit

/-- Bytes spelled in hexadecimal. -/
def readHex : Reader (List UInt8)
  | .string s =>
    match Text.bytesOfHex s with
    | .ok bytes => .ok bytes
    | .error _ => .error .shape
  | j => .error j.misfit

/-- Null or a value. -/
def readOption {α : Type} (read : Reader α) : Reader (Option α)
  | .null => .ok none
  | j => (read j).map some

/-- A list. -/
def readList {α : Type} (read : Reader α) : Reader (List α)
  | .array items => items.mapM read
  | j => .error j.misfit

/-- An object as a dictionary; of a repeated key the last value counts. -/
def readDict {α : Type} (read : Reader α) : Reader (Dict String α)
  | .object members =>
    (members.mapM fun entry => (read entry.2).map fun a => (entry.1, a)).map Dict.ofList
  | j => .error j.misfit

/-! ## Records -/

/-- What it means that a field of a record is not there. -/
inductive Absence where
  /-- The record is refused. -/
  | refused
  /-- An object may leave the field out, which then is null; a list may not. -/
  | nullInObjects
  /-- The field has a default. -/
  | allowed
  deriving DecidableEq, Repr

/-- A field of a record and the values it accepts. -/
structure Field where
  /-- The key of the field. -/
  name : String
  /-- Whether the field may be left out. -/
  absence : Absence
  /-- Refuses values that do not fit. -/
  check : Json → Except Misfit Unit

/-- A field that must be there. -/
def Field.needed {α : Type} (name : String) (read : Reader α) : Field :=
  ⟨name, .refused, fun j => (read j).map fun _ => ()⟩

/-- A field that may be null or left out of an object. -/
def Field.maybe {α : Type} (name : String) (read : Reader α) : Field :=
  ⟨name, .nullInObjects, fun j => (readOption read j).map fun _ => ()⟩

/-- A field with a default. -/
def Field.defaulted {α : Type} (name : String) (read : Reader α) : Field :=
  ⟨name, .allowed, fun j => (read j).map fun _ => ()⟩

/-- Goes through the members of an object. A field may occur once; other members only have to be
in order. -/
def collectMembers (fields : List Field) (found : Assoc String Json) :
    List (String × Json) → Except Misfit (Assoc String Json)
  | [] => .ok found
  | (key, j) :: rest =>
    match fields.find? (·.name == key) with
    | some field =>
      if (Assoc.find? key found).isSome then .error .shape
      else
        match field.check j with
        | .error misfit => .error misfit
        | .ok () => collectMembers fields (found ++ [(key, j)]) rest
    | none =>
      if j.isPassable then collectMembers fields found rest else .error .syntaxFault

/-- Goes through a list that gives the fields in their order. Nothing may follow the last field. -/
def collectItems : List Field → List Json → Except Misfit (Assoc String Json)
  | [], [] => .ok []
  | [], _ :: _ => .error .syntaxFault
  | field :: fields, [] =>
    if field.absence = .allowed then collectItems fields [] else .error .shape
  | field :: fields, j :: rest =>
    match field.check j with
    | .error misfit => .error misfit
    | .ok () => (collectItems fields rest).map ((field.name, j) :: ·)

/-- The values of the fields of a record, which is an object or the list of its fields. -/
def collect (fields : List Field) : Reader (Assoc String Json)
  | .object members =>
    match collectMembers fields [] members with
    | .error misfit => .error misfit
    | .ok found =>
      if fields.all fun field =>
          field.absence != .refused || (Assoc.find? field.name found).isSome
      then .ok found else .error .shape
  | .array items => collectItems fields items
  | j => .error j.misfit

/-- A needed field of a record. -/
def fieldOf {α : Type} (found : Assoc String Json) (name : String) (read : Reader α) :
    Except Misfit α :=
  match Assoc.find? name found with
  | some j => read j
  | none => .error .shape

/-- A field that may be missing. -/
def fieldOr {α : Type} (found : Assoc String Json) (name : String) (read : Reader α)
    (default : α) : Except Misfit α :=
  match Assoc.find? name found with
  | some j => read j
  | none => .ok default

/-- Reads a text that holds one value of a kind and nothing else. -/
def decode {α : Type} (read : Reader α) (text : String) : Except Misfit α :=
  match readValue text.toList with
  | (j, rest) =>
    match read j with
    | .error misfit => .error misfit
    | .ok a =>
      match rest with
      | some rest => if (skipSpace rest).isEmpty then .ok a else .error .syntaxFault
      | none => .error .syntaxFault

end Json

end Covenant
