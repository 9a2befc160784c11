import Covenant.Account
import Covenant.Crypto.Signing
import Covenant.Parameters
import Covenant.Storage.Connection
import Covenant.Transaction

/-!
# Authentication

Who must have signed a transaction, and whether they did. Nothing is written here.
-/

namespace Covenant.Auth

/-- The contracts of the system that others may always sign for. -/
def delayedSystemContracts : List String :=
  ["@1CallDelayedContract", "@1NewUser", "@1NewBadBlock"]

/-- The contract that anyone may sign for, be it a node or not. -/
def newUserContract : String := "@1NewUser"

/-- A transaction carries a public key; an empty one and the word `null` are none. -/
def hasPublicKey (key : List UInt8) : Bool :=
  !(key.isEmpty || key == [110, 117, 108, 108])

/-- Whether a key id belongs to one of some nodes. A node with a bad key ends the search. -/
def isAmongNodes (crypto : KeyCrypto) (signer : Int) :
    List HonorNode → Except CryptoError Bool
  | [] => .ok false
  | node :: rest =>
    match crypto.keyId node.publicKey with
    | .error e => .error e
    | .ok id => if id = signer then .ok true else isAmongNodes crypto signer rest

/-- Whether a key id belongs to a node of the network, or to this node if the network names none. -/
def isNodeSigner (crypto : KeyCrypto) (params : SystemParameters) (signer : Int) :
    Except CryptoError Bool :=
  if params.honorNodes.isEmpty then (crypto.keyId params.nodePublicKey).map (· == signer)
  else isAmongNodes crypto signer params.honorNodes

/-- The signer of a transaction that names none: the payer, whose key the transaction's public key
must be if there is one. -/
def ownSigner (crypto : KeyCrypto) (tx : Transaction) : Except AuthError Int :=
  if hasPublicKey tx.publicKey then
    match crypto.keyId tx.publicKey with
    | .error e => .error (.crypto e)
    | .ok id => if id = tx.keyId then .ok tx.keyId else .error .differentKeys
  else .ok tx.keyId

/-- Whether others than the payer may sign for a contract. -/
def isDelayed (contract : String) : Storing AuthError Bool :=
  if delayedSystemContracts.contains contract then pure true
  else (Storing.isDelayedContract contract).mapError .storage

/-- The key id that must have signed a transaction which calls `contract`. -/
def resolveSigner (crypto : KeyCrypto) (params : SystemParameters) (tx : Transaction)
    (contract : String) : Storing AuthError Int :=
  match tx.signedBy.filter (· != 0) with
  | none => Storing.ofExcept (ownSigner crypto tx)
  | some signer =>
    if params.candidateNodeMode then pure signer
    else do
      if !(← isDelayed contract) then throw (.delayedContractNotAllowed contract)
      else if contract == newUserContract then pure signer
      else
        match isNodeSigner crypto params signer with
        | .error e => throw (.crypto e)
        | .ok true => pure signer
        | .ok false => throw .delayedContract

/-- The public key to verify a signature with: that of the key record if it has one, and otherwise
that of the transaction. -/
def publicKeyFor? (key : KeyRecord) (tx : Transaction) : Option (List UInt8) :=
  if !key.publicKey.isEmpty then some key.publicKey
  else if hasPublicKey tx.publicKey then some tx.publicKey
  else none

/-- Verifies the signature of a transaction, which is the signer's, and gives the signer's key. -/
def verifySignature (crypto : KeyCrypto) (tx : Transaction) (signer : Int) :
    Storing AuthError KeyRecord := do
  match ← (Storing.key tx.ecosystemId signer).mapError .storage with
  | none => throw (.ecosystemKeyNotFound (Account.ofKeyId signer) tx.ecosystemId)
  | some key =>
    if key.disabled then
      throw (.ecosystemKeyDisabled (Account.ofKeyId signer) tx.ecosystemId)
    else
      match publicKeyFor? key tx with
      | none => throw .emptyPublicKey
      | some publicKey =>
        match crypto.verify publicKey tx.hash tx.signature with
        | .error e => throw (.crypto e)
        | .ok false => throw .incorrectSignature
        | .ok true => pure key

end Covenant.Auth
