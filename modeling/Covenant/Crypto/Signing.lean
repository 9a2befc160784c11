import Covenant.Crypto.Keccak
import Covenant.Crypto.Secp256k1
import Covenant.Error.Basic
import Covenant.Hash
import Covenant.Quantity

/-!
# Keys and signatures

What authentication asks of cryptography: the key id of a public key, and whether a signature of a
hash belongs to it. Ids and signatures of the network use Keccak-256 and secp256k1.
-/

namespace Covenant

/-- A way to derive key ids and to verify signatures. -/
structure KeyCrypto where
  /-- The key id of a public key. -/
  keyId : List UInt8 → Except CryptoError Int
  /-- Whether a signature of a hash belongs to a public key. -/
  verify : List UInt8 → Hash → List UInt8 → Except CryptoError Bool

namespace KeyCrypto

/-- The id of a point: the first eight bytes of the digest of its coordinates, as a quantity. -/
def keyIdOfPoint (point : Secp256k1.Point) : Int :=
  Quantity.ofUnsigned (Secp256k1.ofBytes ((Keccak.digest point.toBytes).take 8))

/-- The network's keys and signatures. A bad key is reported before a bad signature. -/
def secp256k1 : KeyCrypto where
  keyId key :=
    match Secp256k1.pointOfKey? key with
    | some point => .ok (keyIdOfPoint point)
    | none => .error .invalidPublicKey
  verify key hash signature :=
    match Secp256k1.pointOfKey? key with
    | none => .error .invalidPublicKey
    | some point =>
      match Secp256k1.signatureOfBytes? signature with
      | none => .error .invalidSignature
      | some (r, s) => .ok (Secp256k1.verify point hash.bytes r s)

end KeyCrypto

end Covenant
