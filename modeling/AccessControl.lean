import AccessControl.Account.Backing
import AccessControl.Account.Email
import AccessControl.Account.Error
import AccessControl.Account.Script
import AccessControl.Account.Service
import AccessControl.Account.Store
import AccessControl.Account.User
import AccessControl.Action
import AccessControl.Bearer
import AccessControl.Calendar.Date
import AccessControl.Calendar.Rfc3339
import AccessControl.Calendar.Timestamp
import AccessControl.Decimal.Binary64
import AccessControl.Decimal.Digits
import AccessControl.Decimal.Shortest
import AccessControl.Deployment
import AccessControl.Drill
import AccessControl.Http.Exchange
import AccessControl.Http.Host
import AccessControl.Http.Percent
import AccessControl.Http.Status
import AccessControl.Http.Url
import AccessControl.Identity.Basic
import AccessControl.Identity.Claims
import AccessControl.Identity.Error
import AccessControl.Identity.GroupTable
import AccessControl.Identity.KeyTable
import AccessControl.Identity.Local
import AccessControl.Json.Reader
import AccessControl.Json.Shape
import AccessControl.Json.Value
import AccessControl.Json.Writer
import AccessControl.Logging.Event
import AccessControl.Logging.Filter
import AccessControl.Logging.Format
import AccessControl.Logging.Logger
import AccessControl.Page
import AccessControl.Password.Argon2
import AccessControl.Password.Blake2b
import AccessControl.Password.Costs
import AccessControl.Password.Error
import AccessControl.Password.HashString
import AccessControl.Password.Hashing
import AccessControl.Pattern.Basic
import AccessControl.Pattern.CharClass
import AccessControl.Pattern.Expr
import AccessControl.Pattern.Meaning
import AccessControl.Pattern.Parser
import AccessControl.Pattern.Term
import AccessControl.Policy.Agent
import AccessControl.Policy.Batch
import AccessControl.Policy.Error
import AccessControl.Policy.Remote
import AccessControl.Policy.TupleSet
import AccessControl.Proofs.Account.Alike
import AccessControl.Proofs.Account.Calls
import AccessControl.Proofs.Account.Commutation
import AccessControl.Proofs.Account.Conditions
import AccessControl.Proofs.Account.Courses
import AccessControl.Proofs.Account.Credentials
import AccessControl.Proofs.Account.Effects
import AccessControl.Proofs.Account.EmailGrammar
import AccessControl.Proofs.Account.EmailPatterns
import AccessControl.Proofs.Account.Exchanges
import AccessControl.Proofs.Account.Failures
import AccessControl.Proofs.Account.Grants
import AccessControl.Proofs.Account.GroupFence
import AccessControl.Proofs.Account.InStep
import AccessControl.Proofs.Account.Isolation
import AccessControl.Proofs.Account.Listing
import AccessControl.Proofs.Account.Locality
import AccessControl.Proofs.Account.Members
import AccessControl.Proofs.Account.Outage
import AccessControl.Proofs.Account.Pages
import AccessControl.Proofs.Account.PasswordPolicy
import AccessControl.Proofs.Account.Provenance
import AccessControl.Proofs.Account.RecordTable
import AccessControl.Proofs.Account.Recovery
import AccessControl.Proofs.Account.Redaction
import AccessControl.Proofs.Account.Registration
import AccessControl.Proofs.Account.Repository
import AccessControl.Proofs.Account.Residue
import AccessControl.Proofs.Account.Secrecy
import AccessControl.Proofs.Account.Sessions
import AccessControl.Proofs.Account.Steps
import AccessControl.Proofs.Account.Store
import AccessControl.Proofs.Account.StoreOutage
import AccessControl.Proofs.Account.Transcript
import AccessControl.Proofs.Account.Views
import AccessControl.Proofs.Bearer
import AccessControl.Proofs.Calendar.Date
import AccessControl.Proofs.Calendar.Rfc3339
import AccessControl.Proofs.Calendar.Timestamp
import AccessControl.Proofs.Decimal.Digits
import AccessControl.Proofs.Deployment
import AccessControl.Proofs.Http.Form
import AccessControl.Proofs.Http.Url
import AccessControl.Proofs.Identity.Batches
import AccessControl.Proofs.Identity.DeadGroups
import AccessControl.Proofs.Identity.DeadTokens
import AccessControl.Proofs.Identity.Fate
import AccessControl.Proofs.Identity.Groups
import AccessControl.Proofs.Identity.IssuanceLog
import AccessControl.Proofs.Identity.KeyTable
import AccessControl.Proofs.Identity.Lifetimes
import AccessControl.Proofs.Identity.Memberships
import AccessControl.Proofs.Identity.Relay
import AccessControl.Proofs.Identity.Requests
import AccessControl.Proofs.Json.ReadBack
import AccessControl.Proofs.Json.Skip
import AccessControl.Proofs.Json.Values
import AccessControl.Proofs.Json.Yields
import AccessControl.Proofs.Logging.Filter
import AccessControl.Proofs.Logging.Logger
import AccessControl.Proofs.Password.Digest
import AccessControl.Proofs.Password.HashString
import AccessControl.Proofs.Password.Hashing
import AccessControl.Proofs.Pattern.Classes
import AccessControl.Proofs.Pattern.DefaultPattern
import AccessControl.Proofs.Pattern.Matching
import AccessControl.Proofs.Policy.Acknowledgement
import AccessControl.Proofs.Policy.AgentLog
import AccessControl.Proofs.Policy.CheckBody
import AccessControl.Proofs.Policy.FailClosed
import AccessControl.Proofs.Policy.Parity
import AccessControl.Proofs.Policy.Requests
import AccessControl.Proofs.Policy.Triples
import AccessControl.Proofs.Policy.TupleServer
import AccessControl.Proofs.Policy.TupleSet
import AccessControl.Proofs.Script
import AccessControl.Proofs.Settings.Fallbacks
import AccessControl.Proofs.Settings.Values
import AccessControl.Proofs.Settings.Variables
import AccessControl.Proofs.Text.ByteOrder
import AccessControl.Proofs.Text.Pieces
import AccessControl.Proofs.Text.Trim
import AccessControl.Proofs.Uuid
import AccessControl.Proofs.Wire.RoundTrip
import AccessControl.Rehearsal
import AccessControl.Relation.Tuple
import AccessControl.Settings.Environment
import AccessControl.Settings.Load
import AccessControl.Settings.Parse
import AccessControl.Text.Base64
import AccessControl.Text.Basic
import AccessControl.Text.Unicode.Category
import AccessControl.Text.Unicode.Folding
import AccessControl.Text.Unicode.Property
import AccessControl.Text.Unicode.Ranges
import AccessControl.Text.Unicode.Script
import AccessControl.Uuid
import AccessControl.Wire.Account
import AccessControl.Wire.Identity
import AccessControl.Wire.Relation
