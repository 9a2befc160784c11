import Covenant.Quantity

/-!
# Account numbers

A key id in the form in which people see it: its 64 bits as an unsigned number of twenty digits, in
five groups of four.
-/

namespace Covenant.Account

/-- The last `count` decimal digits of a number, with leading zeros. -/
def lastDigits : (count n : Nat) → List Char
  | 0, _ => []
  | count + 1, n => lastDigits count (n / 10) ++ [Char.ofNat ('0'.toNat + n % 10)]

/-- Puts a dash after every four characters but the last ones. -/
def dashed : List Char → List Char
  | a :: b :: c :: d :: e :: rest => a :: b :: c :: d :: '-' :: dashed (e :: rest)
  | short => short

/-- The account of a key id. -/
def ofKeyId (keyId : Int) : String :=
  String.ofList (dashed (lastDigits 20 (Quantity.toUnsigned keyId)))

end Covenant.Account
