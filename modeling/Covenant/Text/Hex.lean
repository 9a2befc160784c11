import Covenant.Text.Shown

/-!
# Hexadecimal text

Bytes as pairs of hexadecimal digits: written in lower case, read in either.
-/

namespace Covenant.Text

/-- The two digits of a byte. -/
def hexByte (b : UInt8) : List Char :=
  [hexDigit (b.toNat / 16), hexDigit (b.toNat % 16)]

/-- Bytes in hexadecimal. -/
def hexOfBytes (bytes : List UInt8) : String :=
  String.ofList (bytes.flatMap hexByte)

/-- Why a text is not hexadecimal. -/
inductive HexError where
  /-- The text has an odd number of bytes. -/
  | oddLength
  /-- The byte at `position` of the encoded text is no digit; `found` is the character with that
  number. -/
  | badDigit (found : Char) (position : Nat)
  deriving DecidableEq, Repr

/-- The message of a refusal. -/
def HexError.message : HexError → String
  | .oddLength => "Odd number of digits"
  | .badDigit found position => s!"Invalid character {shownChar found} at position {position}"

/-- Reads pairs of digits; `position` counts the bytes before. -/
def readHexPairs (position : Nat) : List UInt8 → Except HexError (List UInt8)
  | [] => .ok []
  | [_] => .error .oddLength
  | high :: low :: rest =>
    match hexValue? (Char.ofNat high.toNat), hexValue? (Char.ofNat low.toNat) with
    | none, _ => .error (.badDigit (Char.ofNat high.toNat) position)
    | some _, none => .error (.badDigit (Char.ofNat low.toNat) (position + 1))
    | some h, some l =>
      (readHexPairs (position + 2) rest).map (UInt8.ofNat (h * 16 + l) :: ·)

/-- The bytes that a text spells. An odd length is reported before any bad digit. -/
def bytesOfHex (text : String) : Except HexError (List UInt8) :=
  let bytes := text.toUTF8.toList
  if bytes.length % 2 == 1 then .error .oddLength else readHexPairs 0 bytes

end Covenant.Text
