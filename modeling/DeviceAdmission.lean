import DeviceAdmission.AuthRequest
import DeviceAdmission.CommandLine.Basic
import DeviceAdmission.CommandLine.Invocation
import DeviceAdmission.CommandLine.Note
import DeviceAdmission.CommandLine.Transcript
import DeviceAdmission.Config.Basic
import DeviceAdmission.Config.Defaults
import DeviceAdmission.Config.File
import DeviceAdmission.Config.Overrides
import DeviceAdmission.Config.Preparation
import DeviceAdmission.Config.Reference
import DeviceAdmission.Config.Report
import DeviceAdmission.Config.Settings
import DeviceAdmission.Config.Substitution
import DeviceAdmission.Crypto.KeyFault
import DeviceAdmission.Crypto.Outline
import DeviceAdmission.Crypto.Pem
import DeviceAdmission.Crypto.RequestSignature
import DeviceAdmission.Crypto.Rsa
import DeviceAdmission.Crypto.Sha256
import DeviceAdmission.Database.Declaration
import DeviceAdmission.Database.Fault
import DeviceAdmission.Database.Header
import DeviceAdmission.Database.Holding
import DeviceAdmission.Database.Image
import DeviceAdmission.Database.Layout
import DeviceAdmission.Database.Name
import DeviceAdmission.Database.Opening
import DeviceAdmission.Database.Record
import DeviceAdmission.Database.Schema
import DeviceAdmission.Database.TextForm
import DeviceAdmission.Device
import DeviceAdmission.Failure
import DeviceAdmission.Gateway.Basic
import DeviceAdmission.Gateway.Command
import DeviceAdmission.Gateway.Endpoint
import DeviceAdmission.Gateway.Link
import DeviceAdmission.Gateway.Refusal
import DeviceAdmission.Gateway.Settings
import DeviceAdmission.Host.Basic
import DeviceAdmission.Host.Path
import DeviceAdmission.Host.Snapshot
import DeviceAdmission.Http.Message
import DeviceAdmission.Http.Percent
import DeviceAdmission.Http.Target
import DeviceAdmission.Json.Cursor
import DeviceAdmission.Json.Fault
import DeviceAdmission.Json.NumberReader
import DeviceAdmission.Json.Passing
import DeviceAdmission.Json.Record
import DeviceAdmission.Json.Shape
import DeviceAdmission.Json.TextReader
import DeviceAdmission.Json.Value
import DeviceAdmission.Json.ValueReader
import DeviceAdmission.Json.Writer
import DeviceAdmission.Jws.Envelope
import DeviceAdmission.Jws.Header
import DeviceAdmission.Jws.RegisteredClaims
import DeviceAdmission.Net.SocketAddress
import DeviceAdmission.Number.Binary64
import DeviceAdmission.Number.Shortest
import DeviceAdmission.Number.Word
import DeviceAdmission.Paging
import DeviceAdmission.Release
import DeviceAdmission.Service.Admission
import DeviceAdmission.Service.Authority
import DeviceAdmission.Service.World
import DeviceAdmission.Startup
import DeviceAdmission.Store.Basic
import DeviceAdmission.Store.Bounded
import DeviceAdmission.Store.Call
import DeviceAdmission.Store.Fault
import DeviceAdmission.Store.Gap
import DeviceAdmission.Store.Memory
import DeviceAdmission.Store.Tables
import DeviceAdmission.TenantResolver
import DeviceAdmission.Text.Base64
import DeviceAdmission.Text.Blank
import DeviceAdmission.Text.CodeRange
import DeviceAdmission.Text.Combining
import DeviceAdmission.Text.Numeral
import DeviceAdmission.Text.Quoted
import DeviceAdmission.Text.Split
import DeviceAdmission.Text.Unassigned
import DeviceAdmission.Text.Utf8
import DeviceAdmission.Time.Calendar
import DeviceAdmission.Time.Instant
import DeviceAdmission.Time.Rfc3339
import DeviceAdmission.Token
import DeviceAdmission.TokenClaims
import DeviceAdmission.Yaml.Lexer
import DeviceAdmission.Yaml.Node
import DeviceAdmission.Yaml.Property
import DeviceAdmission.Yaml.Scalar
import DeviceAdmission.Yaml.Spot
import DeviceAdmission.Yaml.Token
import DeviceAdmission.Yaml.Tree
import DeviceAdmission.Main
import DeviceAdmission.Proofs.Results
import DeviceAdmission.Proofs.Json.Integers
import DeviceAdmission.Proofs.Json.Objects
import DeviceAdmission.Proofs.Base64
import DeviceAdmission.Proofs.Token.Envelope
import DeviceAdmission.Proofs.Token.Claims
import DeviceAdmission.Proofs.Time.Calendar
import DeviceAdmission.Proofs.Time.Rfc3339
import DeviceAdmission.Proofs.Store.Entries
import DeviceAdmission.Proofs.Store.Calls
import DeviceAdmission.Proofs.Store.Reached
import DeviceAdmission.Proofs.Service.Effects
import DeviceAdmission.Proofs.Service.Run
import DeviceAdmission.Proofs.Service.Acceptance
import DeviceAdmission.Proofs.Store.Devices
import DeviceAdmission.Proofs.Service.Quiet
import DeviceAdmission.Proofs.Service.Grants
import DeviceAdmission.Proofs.Service.Verification
import DeviceAdmission.Proofs.Service.History
import DeviceAdmission.Proofs.Service.Agreement
import DeviceAdmission.Proofs.Service.Submission
import DeviceAdmission.Proofs.Store.Statuses
import DeviceAdmission.Proofs.Store.Order
import DeviceAdmission.Proofs.Service.Conduct
import DeviceAdmission.Proofs.Service.Races
import DeviceAdmission.Proofs.Service.Interruption
import DeviceAdmission.Proofs.Store.Kinds
import DeviceAdmission.Proofs.Store.Parts
import DeviceAdmission.Proofs.Service.Isolation
import DeviceAdmission.Proofs.Store.Keys
import DeviceAdmission.Proofs.Service.Keys
import DeviceAdmission.Proofs.Service.Records
import DeviceAdmission.Proofs.Store.Rows
import DeviceAdmission.Proofs.Store.Ledger
import DeviceAdmission.Proofs.Store.Readback
import DeviceAdmission.Proofs.Config.Checked
import DeviceAdmission.Proofs.Config.Wiring
import DeviceAdmission.Proofs.Service.Checks
import DeviceAdmission.Proofs.Store.Sight
import DeviceAdmission.Proofs.Service.Paths
import DeviceAdmission.Proofs.Service.Encounters
import DeviceAdmission.Proofs.Gateway.Discretion
import DeviceAdmission.Proofs.Service.Withdrawal
import DeviceAdmission.Proofs.Store.Repeats
import DeviceAdmission.Proofs.Service.Leftovers
import DeviceAdmission.Proofs.Service.Retry
import DeviceAdmission.Proofs.Gateway.Causes
import DeviceAdmission.Proofs.Gateway.Links
import DeviceAdmission.Proofs.Gateway.Walks
import DeviceAdmission.Proofs.Gateway.Refusals
import DeviceAdmission.Proofs.Store.Imprints
import DeviceAdmission.Proofs.Service.Retention
import DeviceAdmission.Proofs.Store.Identities
import DeviceAdmission.Proofs.Gateway.Scopes
import DeviceAdmission.Proofs.Store.Changes
import DeviceAdmission.Proofs.Store.Insertions
import DeviceAdmission.Proofs.Store.FailedWrites
import DeviceAdmission.Proofs.Service.StatusChanges
import DeviceAdmission.Proofs.Service.Issuances
import DeviceAdmission.Proofs.Service.Expiry
import DeviceAdmission.Proofs.Paging
import DeviceAdmission.Proofs.Config.References
import DeviceAdmission.Proofs.Config.Slices
import DeviceAdmission.Proofs.Config.Leaves
import DeviceAdmission.Proofs.Config.Substitution
import DeviceAdmission.Proofs.Config.Escaping
import DeviceAdmission.Proofs.Config.Names
import DeviceAdmission.Proofs.Config.Trees
import DeviceAdmission.Proofs.Config.Defaults
import DeviceAdmission.Proofs.Config.Soundness
import DeviceAdmission.Proofs.Crypto.Pem
import DeviceAdmission.Proofs.Crypto.Rsa
import DeviceAdmission.Proofs.Crypto.RequestSignatures
