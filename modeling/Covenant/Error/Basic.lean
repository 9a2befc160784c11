/-!
# Errors of the parts

What can go wrong in storage, with keys, in sources and conditions, when contracts are registered,
when a transaction is authenticated, when access is checked, and when a fee is paid. Every error has
a message and a kind; the kind of an error that passes another one on names both.
-/

namespace Covenant

/-- Errors of storage. -/
inductive StorageError where
  /-- The savepoint was never made, or is released already. -/
  | savepointNotFound (name : String)
  | rowNotFound (table : String) (id : Int)
  /-- A stored record cannot be read. -/
  | corrupted (table reason : String)
  /-- Storage cannot be reached. -/
  | unavailable
  | other (text : String)
  /-- A number to be stored is beyond 64 bits. Whatever has asked for it cannot go on. -/
  | overflow (operation : String)
  deriving DecidableEq, Repr

namespace StorageError

/-- The error in words. -/
def message : StorageError → String
  | .savepointNotFound name => s!"savepoint not found: {name}"
  | .rowNotFound table id => s!"row {id} not found in {table}"
  | .corrupted table reason => s!"corrupted record in {table}: {reason}"
  | .unavailable => "storage unavailable"
  | .other text => s!"storage error: {text}"
  | .overflow operation => s!"attempt to {operation} with overflow"

/-- The kind of the error. -/
def kind : StorageError → String
  | .savepointNotFound _ => "SavepointNotFound"
  | .rowNotFound _ _ => "RowNotFound"
  | .corrupted _ _ => "Corrupted"
  | .unavailable => "Unavailable"
  | .other _ => "Other"
  | .overflow _ => "Overflow"

end StorageError

/-- Errors in the encoding of keys and signatures. -/
inductive CryptoError where
  /-- The bytes are no point of the curve. -/
  | invalidPublicKey
  | invalidSignature
  deriving DecidableEq, Repr

namespace CryptoError

/-- The error in words. -/
def message : CryptoError → String
  | .invalidPublicKey => "invalid public key"
  | .invalidSignature => "invalid signature encoding"

/-- The kind of the error. -/
def kind : CryptoError → String
  | .invalidPublicKey => "InvalidPublicKey"
  | .invalidSignature => "InvalidSignature"

end CryptoError

/-- Errors of contract sources. -/
inductive CompileError where
  /-- A line that does not follow the grammar. -/
  | malformed (line : Nat) (text : String)
  /-- A contract is called that is neither in the source nor known otherwise. -/
  | unknownObject (name : String)
  /-- A name is given twice. -/
  | duplicate (name : String)
  deriving DecidableEq, Repr

namespace CompileError

/-- The error in words. -/
def message : CompileError → String
  | .malformed line text => s!"line {line}: {text}"
  | .unknownObject name => s!"unknown identifier {name}"
  | .duplicate name => s!"{name} is already defined"

/-- The kind of the error. -/
def kind : CompileError → String
  | .malformed _ _ => "Syntax"
  | .unknownObject _ => "UnknownObject"
  | .duplicate _ => "Duplicate"

end CompileError

/-- Errors of conditions. -/
inductive EvalError where
  | emptyExpression
  | unterminatedString (expression : String)
  /-- A character that starts no token, as messages show it. -/
  | unexpectedCharacter (shown expression : String)
  | missingParenthesis
  | unknownVariable (name : String)
  | unknownIdentifier (word : String)
  /-- A token where an operand is expected, as messages show it. -/
  | unexpectedToken (shown : String)
  | unexpectedEnd
  /-- A token behind the end of the condition. -/
  | leftover (expression : String)
  /-- Two texts that only numbers would order. -/
  | unordered (left right : String)
  /-- An evaluator's own words. -/
  | reported (text : String)
  deriving DecidableEq, Repr

/-- The error in words. -/
def EvalError.message : EvalError → String
  | .emptyExpression => "empty expression"
  | .unterminatedString expression => s!"unterminated string in {expression}"
  | .unexpectedCharacter shown expression => s!"unexpected character {shown} in {expression}"
  | .missingParenthesis => "missing closing parenthesis"
  | .unknownVariable name => s!"unknown variable ${name}"
  | .unknownIdentifier word => s!"unknown identifier {word}"
  | .unexpectedToken shown => s!"unexpected token {shown}"
  | .unexpectedEnd => "unexpected end of expression"
  | .leftover expression => s!"unexpected token in {expression}"
  | .unordered left right => s!"cannot order {left} and {right}"
  | .reported text => text

/-- Errors of registering contracts. -/
inductive RegistryError where
  /-- The source of a record does not compile; nothing of the load is registered. -/
  | compile (tableId : Int) (names : String) (cause : CompileError)
  | systemFunctions (cause : CompileError)
  /-- The name is taken. -/
  | duplicate (name : String)
  | storage (cause : StorageError)
  deriving DecidableEq, Repr

namespace RegistryError

/-- The error in words. -/
def message : RegistryError → String
  | .compile tableId names cause => s!"load contract {tableId} ({names}): " ++ cause.message
  | .systemFunctions cause => "system functions: " ++ cause.message
  | .duplicate name => s!"contract {name} is already registered"
  | .storage cause => cause.message

/-- The kind of the error. -/
def kind : RegistryError → String
  | .compile _ _ cause => "Compile/" ++ cause.kind
  | .systemFunctions cause => "SystemFunctions/" ++ cause.kind
  | .duplicate _ => "Duplicate"
  | .storage cause => "Storage/" ++ cause.kind

end RegistryError

/-- Errors of authentication. -/
inductive AuthError where
  /-- The public key does not belong to the key id. -/
  | differentKeys
  /-- Someone else signed, and the contract is not one that allows it. -/
  | delayedContractNotAllowed (name : String)
  /-- Someone else signed who is no node. -/
  | delayedContract
  | ecosystemKeyNotFound (key : String) (ecosystem : Int)
  | ecosystemKeyDisabled (key : String) (ecosystem : Int)
  /-- Neither the key record nor the transaction has a public key. -/
  | emptyPublicKey
  | incorrectSignature
  | crypto (cause : CryptoError)
  | storage (cause : StorageError)
  deriving DecidableEq, Repr

namespace AuthError

/-- The error in words. -/
def message : AuthError → String
  | .differentKeys => "public key and key id are different"
  | .delayedContractNotAllowed name => s!"delayed contract {name} is not allowed"
  | .delayedContract => "incorrect delayed contract signer"
  | .ecosystemKeyNotFound key ecosystem => s!"key {key} is not found in ecosystem {ecosystem}"
  | .ecosystemKeyDisabled key ecosystem => s!"key {key} is disabled in ecosystem {ecosystem}"
  | .emptyPublicKey => "empty public key"
  | .incorrectSignature => "incorrect signature"
  | .crypto cause => cause.message
  | .storage cause => cause.message

/-- The kind of the error. -/
def kind : AuthError → String
  | .differentKeys => "DifferentKeys"
  | .delayedContractNotAllowed _ => "DelayedContractNotAllowed"
  | .delayedContract => "DelayedContract"
  | .ecosystemKeyNotFound _ _ => "EcosystemKeyNotFound"
  | .ecosystemKeyDisabled _ _ => "EcosystemKeyDisabled"
  | .emptyPublicKey => "EmptyPublicKey"
  | .incorrectSignature => "IncorrectSignature"
  | .crypto cause => "Crypto/" ++ cause.kind
  | .storage cause => "Storage/" ++ cause.kind

end AuthError

/-- The check that refuses access. -/
inductive AccessScope where
  | table
  | column
  | condition
  /-- A table that only the founder of an ecosystem may write. -/
  | system
  deriving DecidableEq, Repr

/-- The word for the check. -/
def AccessScope.name : AccessScope → String
  | .table => "table"
  | .column => "column"
  | .condition => "condition"
  | .system => "system"

/-- Errors of access checks. -/
inductive AccessError where
  | accessDenied (scope : AccessScope)
  /-- A write to a table without permissions of its own. -/
  | notCustomTable (table : String)
  | tableNotFound (table : String)
  /-- The parameter has no condition. -/
  | missingCondition (param : String)
  /-- The rule of a column cannot be read. -/
  | invalidPermissions (column reason : String)
  | evaluation (cause : EvalError)
  | storage (cause : StorageError)
  deriving DecidableEq, Repr

namespace AccessError

/-- The error in words. -/
def message : AccessError → String
  | .accessDenied scope => scope.name ++ ": access denied"
  | .notCustomTable table => s!"{table} is not a custom table"
  | .tableNotFound table => s!"table {table} has not been found"
  | .missingCondition param => s!"there is not {param} condition"
  | .invalidPermissions column reason => s!"invalid column permissions for {column}: {reason}"
  | .evaluation cause => "evaluation error: " ++ cause.message
  | .storage cause => cause.message

/-- The kind of the error. -/
def kind : AccessError → String
  | .accessDenied _ => "AccessDenied"
  | .notCustomTable _ => "NotCustomTable"
  | .tableNotFound _ => "TableNotFound"
  | .missingCondition _ => "MissingCondition"
  | .invalidPermissions _ _ => "InvalidPermissions"
  | .evaluation _ => "Evaluation"
  | .storage cause => "Storage/" ++ cause.kind

/-- Access is refused, and not only unknown. -/
def isDenied : AccessError → Bool
  | .accessDenied _ | .notCustomTable _ => true
  | _ => false

end AccessError

/-- Errors of fee payment. -/
inductive PaymentError where
  | insufficientFunds (required available : Int)
  /-- The payer has no key record. -/
  | payerNotFound (payer : String)
  | storage (cause : StorageError)
  deriving DecidableEq, Repr

namespace PaymentError

/-- The error in words. -/
def message : PaymentError → String
  | .insufficientFunds required available =>
    s!"insufficient funds: required {required}, available {available}"
  | .payerNotFound payer => s!"payer {payer} is not found"
  | .storage cause => cause.message

/-- The kind of the error. -/
def kind : PaymentError → String
  | .insufficientFunds _ _ => "InsufficientFunds"
  | .payerNotFound _ => "PayerNotFound"
  | .storage cause => "Storage/" ++ cause.kind

end PaymentError

/-- Errors in the parameters of a network. -/
inductive ConfigError where
  | outOfRange (name expected : String) (actual : Int)
  /-- The node at this place of the list has no public key. -/
  | emptyNodeKey (index : Nat)
  deriving DecidableEq, Repr

namespace ConfigError

/-- The error in words. -/
def message : ConfigError → String
  | .outOfRange name expected actual => s!"{name} must be {expected}, got {actual}"
  | .emptyNodeKey index => s!"honor node {index} has an empty public key"

/-- The kind of the error. -/
def kind : ConfigError → String
  | .outOfRange _ _ _ => "OutOfRange"
  | .emptyNodeKey _ => "EmptyNodeKey"

end ConfigError

end Covenant
