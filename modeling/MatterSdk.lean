import MatterSdk.Committee.Agreement
import MatterSdk.Committee.Go
import MatterSdk.Committee.Python
import MatterSdk.Committee.TypeScript
import MatterSdk.Committee.Scripted
import MatterSdk.Committee.Requests
import MatterSdk.Opening
import MatterSdk.Committee.Accounts
import MatterSdk.Committee.Availability
import MatterSdk.Committee.Log
import MatterSdk.Committee.History
import MatterSdk.Committee.Http
import MatterSdk.Committee.Tolerance
import MatterSdk.Committee.Hostile
import MatterSdk.Chain.Receipts
import MatterSdk.Chain.Finality
import MatterSdk.Chain.Admission
import MatterSdk.Chain.Bytes
import MatterSdk.Chain.CommitteeAgreement
import MatterSdk.Chain.CommitteeAt
import MatterSdk.Chain.CommitteeViews
import MatterSdk.Chain.Delegated
import MatterSdk.Chain.Errors
import MatterSdk.Chain.Mode
import MatterSdk.Chain.Override
import MatterSdk.Chain.Refresh
import MatterSdk.Chain.Rejection
import MatterSdk.Chain.Transact
import MatterSdk.Chain.Updates
import MatterSdk.Committee.Decrypt
import MatterSdk.Committee.Readings
import MatterSdk.Committee.Rotation
import MatterSdk.Committee.Runs
import MatterSdk.Committee.Rust
import MatterSdk.Committee.Simulation
import MatterSdk.Core
import MatterSdk.Errors
import MatterSdk.Lib.Hex
import MatterSdk.Lib.Json
import MatterSdk.Lib.Loop
import MatterSdk.Lib.SharedCache
import MatterSdk.Lib.Tally
import MatterSdk.Lib.Text
import MatterSdk.Lib.Utf8
import MatterSdk.Scopes.Sets
import MatterSdk.Scopes.Table
import MatterSdk.Wire
import MatterSdk.Chain.Recover
import MatterSdk.Chain.Snapshot
import MatterSdk.Amounts.Agreement
import MatterSdk.Amounts.Decimals
import MatterSdk.Amounts.Parse
import MatterSdk.Amounts.Reading
import MatterSdk.Amounts.RoundTrip
import MatterSdk.Chain.Properties
import MatterSdk.Lib.Casing
import MatterSdk.Scopes.Parse
import MatterSdk.Scopes.ParseAgreement
import MatterSdk.Scopes.TableAgreement
import MatterSdk.Scopes.Tables
import MatterSdk.Amounts.Exact
import MatterSdk.Chain.Assemble
import MatterSdk.Chain.Attribution
import MatterSdk.Chain.AwaitFinalized
import MatterSdk.Chain.Extrinsic
import MatterSdk.Committee.Subsets
import MatterSdk.Lib.Checks
import MatterSdk.Lib.Compact
import MatterSdk.Lib.DigitString
import MatterSdk.Lib.Reader
import MatterSdk.OpeningChecks
import MatterSdk.Scopes.Arguments
import MatterSdk.Sealing
import MatterSdk.Lib.Regex
import MatterSdk.Suri
import MatterSdk.Suri.Grammar
import MatterSdk.Amounts.Deposit
import MatterSdk.Chain.AgentKey
import MatterSdk.Lib.BigInt
import MatterSdk.Lib.Bitwise
import MatterSdk.Scopes.Numbers
import MatterSdk.Scopes.Text
import MatterSdk.Wire.Decoders
import MatterSdk.Wire.SecretId
import MatterSdk.ApiKey
import MatterSdk.ApiKey.Redaction
import MatterSdk.Committee.Quorum
import MatterSdk.Lib.Binary64
import MatterSdk.Lib.Shuffle
import MatterSdk.Ffi
import MatterSdk.Ffi.Contract
import MatterSdk.Lib.Boundary
import MatterSdk.Committee.Authorization
import MatterSdk.Committee.Delivery
import MatterSdk.Chain.Recovery
import MatterSdk.Lib.Scale
import MatterSdk.Chain.StateCalls
import MatterSdk.Chain.SecretCalls
import MatterSdk.Chain.RustClient
import MatterSdk.Chain.Session
import MatterSdk.Chain.GoClient
import MatterSdk.Chain.PythonClient
import MatterSdk.Chain.TypeScriptClient
import MatterSdk.Chain.Clients
import MatterSdk.Chain.Verdicts
import MatterSdk.Chain.Connect
import MatterSdk.Chain.FromEnv
import MatterSdk.Chain.FromEnvPorts
import MatterSdk.Chain.Environments
import MatterSdk.Lib.Quoting
import MatterSdk.Chain.GoCourses
import MatterSdk.Chain.CommitteeRows
