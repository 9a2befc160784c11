import Covenant.Quantity

/-!
# Decimal numerals

Reading integers from text: an optional sign and ASCII digits, nothing else, and a value in range.
-/

namespace Covenant.Text

/-- The value of an ASCII digit. -/
def digitValue (c : Char) : Nat :=
  c.toNat - '0'.toNat

/-- The number that a list of digits stands for. -/
def valueOfDigits (digits : List Char) : Nat :=
  digits.foldl (fun n c => n * 10 + digitValue c) 0

/-- A numeral without sign: one or more ASCII digits. -/
def readDigits? (text : List Char) : Option Nat :=
  if !text.isEmpty && text.all Char.isDigit then some (valueOfDigits text) else none

/-- An integer with an optional sign, of any size. -/
def readSigned? : List Char → Option Int
  | '-' :: digits => (readDigits? digits).map fun n => -(n : Int)
  | '+' :: digits => (readDigits? digits).map Int.ofNat
  | digits => (readDigits? digits).map Int.ofNat

/-- A quantity in decimal: an optional sign, digits, and a value in range. -/
def readQuantity? (text : List Char) : Option Int :=
  (readSigned? text).filter fun n => decide (Quantity.InRange n)

/-- An unsigned 64-bit number in decimal. A plus sign may stand before it, a minus sign may not. -/
def readUnsigned? (text : List Char) : Option Nat :=
  let digits := match text with
    | '+' :: digits => digits
    | digits => digits
  (readDigits? digits).filter (· < 18446744073709551616)

end Covenant.Text
