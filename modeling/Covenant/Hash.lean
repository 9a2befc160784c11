import Covenant.Text.Hex

/-!
# Hashes

The 32-byte digests of transactions and blocks.
-/

namespace Covenant

/-- A digest of 32 bytes. -/
structure Hash where
  /-- The bytes, first one first. -/
  bytes : List UInt8
  /-- There are 32 of them. -/
  length_eq : bytes.length = 32
  deriving DecidableEq

namespace Hash

/-- The digest of zero bytes. -/
def zero : Hash :=
  ⟨List.replicate 32 0, List.length_replicate⟩

instance : Inhabited Hash := ⟨zero⟩

/-- The digest with these bytes, if there are 32. -/
def ofBytes? (bytes : List UInt8) : Option Hash :=
  if h : bytes.length = 32 then some ⟨bytes, h⟩ else none

/-- The bytes in hexadecimal. -/
def hex (hash : Hash) : String :=
  Text.hexOfBytes hash.bytes

/-- The whole digest as a number literal. -/
def literal (hash : Hash) : String :=
  "0x" ++ hash.hex

/-- The first eight and the last four digits. -/
def short (hash : Hash) : String :=
  let digits := hash.hex.toList
  "0x" ++ String.ofList (digits.take 8) ++ "..." ++ String.ofList (digits.drop 60)

end Hash

end Covenant
