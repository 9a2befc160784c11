import Covenant.Text.HexDigit
import Covenant.Text.Printable

/-!
# Characters in messages

A character that a message quotes is shown so that every character can be told from every other:
unprintable ones by their number, and the quote and the backslash behind a backslash.
-/

namespace Covenant.Text

/-- The hexadecimal digits of a number, none for zero, by `fuel` at most. -/
def hexDigitsOf : (fuel n : Nat) → List Char
  | 0, _ => []
  | fuel + 1, n => if n == 0 then [] else hexDigitsOf fuel (n / 16) ++ [hexDigit (n % 16)]

/-- A code point in hexadecimal, with no leading zeros. -/
def codePointHex (c : Char) : String :=
  if c.toNat == 0 then "0" else String.ofList (hexDigitsOf 8 c.toNat)

/-- A character between single quotes. -/
def shownChar (c : Char) : String :=
  let inside :=
    if c == '\x00' then "\\0"
    else if c == '\t' then "\\t"
    else if c == '\r' then "\\r"
    else if c == '\n' then "\\n"
    else if c == '\'' then "\\'"
    else if c == '\\' then "\\\\"
    else if isPrintable c then String.singleton c
    else "\\u\x7b" ++ codePointHex c ++ "\x7d"
  "'" ++ inside ++ "'"

end Covenant.Text
