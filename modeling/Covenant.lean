import Covenant.Text.Alphanumeric
import Covenant.Text.Lowercase
import Covenant.Text.Blank
import Covenant.Text.Numeral
import Covenant.Text.Hex
import Covenant.Dict
import Covenant.Json.Writer
import Covenant.Decimal.Shortest
import Covenant.Json.Reader
import Covenant.Value
import Covenant.Name
import Covenant.Hash
import Covenant.Environment
import Covenant.CallStack
import Covenant.Fuel
import Covenant.Error.Execution
import Covenant.Condition.Parser
import Covenant.Script.Source
import Covenant.Record
import Covenant.Transaction
import Covenant.Parameters
import Covenant.Storage.Connection
import Covenant.Crypto.Signing
import Covenant.Execution.Context
import Covenant.Auth
import Covenant.Access.Rule
import Covenant.Access.Check
import Covenant.Payment
import Covenant.Registry.Load
import Covenant.Registry.Used
import Covenant.Execution.Pipeline
import Covenant.Service
import Covenant.Proofs.Dict
import Covenant.Proofs.Json.RoundTrip
import Covenant.Proofs.Value
import Covenant.Proofs.Storage.Calls
import Covenant.Proofs.Storage.Rows
import Covenant.Proofs.Text.Lowercase
import Covenant.Proofs.Name
import Covenant.Proofs.Environment
import Covenant.Proofs.Auth
import Covenant.Proofs.Access.Columns
import Covenant.Proofs.Access.Write
import Covenant.Proofs.Access.Refusal
import Covenant.Proofs.Execution.Scripted
import Covenant.Proofs.Registry.Ownership
import Covenant.Proofs.Execution.Frame
import Covenant.Proofs.Registry.Reachable
import Covenant.Proofs.Execution.Prepare
import Covenant.Proofs.Payment
import Covenant.Proofs.Execution.Verdict
import Covenant.Proofs.Execution.Ending
import Covenant.Proofs.Execution.Acceptance
import Covenant.Proofs.Execution.FailureFee
import Covenant.Proofs.Execution.Rejection
import Covenant.Proofs.Execution.Moments
import Covenant.Proofs.Execution.Effect
import Covenant.Proofs.Execution.Fuel
import Covenant.Proofs.Execution.Mediation
import Covenant.Proofs.Execution.Enforcement
import Covenant.Proofs.Service
import Covenant.Proofs.Access.Read
import Covenant.Proofs.Access.Plain
import Covenant.Proofs.Condition.Grammar
import Covenant.Proofs.Condition.Spelling
import Covenant.Proofs.Condition.Printing
import Covenant.Proofs.Condition.Meaning
import Covenant.Proofs.Execution.Disclosure
import Covenant.Proofs.Execution.Nesting
import Covenant.Proofs.Execution.Recursion
import Covenant.Proofs.Execution.Metering
import Covenant.Proofs.Execution.Slots
import Covenant.Proofs.Execution.Return
import Covenant.Proofs.Execution.Terminal
import Covenant.Proofs.Text.Numeral
import Covenant.Proofs.Execution.Custody
import Covenant.Proofs.Ledger
import Covenant.Proofs.Storage.Undo
import Covenant.Proofs.Execution.Chronicle
import Covenant.Proofs.Execution.Undo
import Covenant.Proofs.Execution.Session
import Covenant.Proofs.Execution.Sequence
import Covenant.Proofs.Execution.StatementLog
import Covenant.Proofs.Result
import Covenant.Proofs.Script.Headers
import Covenant.Proofs.Registry.Representation
import Covenant.Proofs.Registry.Paging
import Covenant.Proofs.Registry.Atomicity
import Covenant.Proofs.Registry.Reload
import Covenant.Proofs.Registry.Origin
import Covenant.Proofs.Script.FullName
import Covenant.Proofs.Registry.Namespaces
import Covenant.Proofs.Registry.Ids
import Covenant.Proofs.Text.Words
import Covenant.Proofs.Script.Links
import Covenant.Proofs.Script.Misplaced
import Covenant.Proofs.Registry.Links
import Covenant.Proofs.Execution.Authorization
import Covenant.Proofs.Sharing
import Covenant.Proofs.Storage.Steady
import Covenant.Proofs.Execution.Steady
import Covenant.Proofs.Execution.Exposure
import Covenant.Proofs.Exclusion
import Covenant.Proofs.Text.Layout
import Covenant.Proofs.Script.Layout
import Covenant.Proofs.Text.Hex
import Covenant.Proofs.Script.Printing
import Covenant.Proofs.Script.Statements
import Covenant.Proofs.Script.Reading
import Covenant.Proofs.Script.Recovery
import Covenant.Proofs.Delegation
import Covenant.Proofs.Registry.Calls
import Covenant.Proofs.Execution.Addressing
import Covenant.Proofs.Json.Records
import Covenant.Proofs.Kinds
import Covenant.Proofs.Recovery
import Covenant.Proofs.Account
import Covenant.Proofs.ClientMessage
import Covenant.Proofs.Execution.ResultText
