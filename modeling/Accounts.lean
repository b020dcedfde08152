import Accounts.Account.Basic
import Accounts.Account.Changes
import Accounts.Account.Normal
import Accounts.Account.Reader
import Accounts.Account.Violation
import Accounts.Account.Writer
import Accounts.Assoc
import Accounts.Cache.Accounts
import Accounts.Cache.Client
import Accounts.Cache.Codec
import Accounts.Cache.Key
import Accounts.Cache.Keyspace
import Accounts.Calendar.Date
import Accounts.Calendar.DateTime
import Accounts.Calendar.Reader
import Accounts.Database.Engine
import Accounts.Database.Migration
import Accounts.Database.Schema
import Accounts.Database.Url
import Accounts.Digest.Hmac
import Accounts.Digest.Roots
import Accounts.Digest.Sha2
import Accounts.Email.Address
import Accounts.Email.Domain
import Accounts.Email.Label
import Accounts.Email.Punycode
import Accounts.Http.Access
import Accounts.Http.Api
import Accounts.Http.Cookie
import Accounts.Http.Endpoint
import Accounts.Http.Message
import Accounts.Http.Origin
import Accounts.Http.Payload
import Accounts.Http.Refusal
import Accounts.Http.Target
import Accounts.Input.Problem
import Accounts.Input.Scalar
import Accounts.Json.Basic
import Accounts.Json.Encoding
import Accounts.Json.Reader
import Accounts.Json.Writer
import Accounts.Number.Binary64
import Accounts.Number.Decimal
import Accounts.Number.Integer
import Accounts.Number.Word
import Accounts.Password.Cipher
import Accounts.Password.Hash
import Accounts.Password.Pi
import Accounts.Proofs.Account.Normal
import Accounts.Proofs.Account.Prepared
import Accounts.Proofs.Account.Rules
import Accounts.Proofs.Cache.Codec
import Accounts.Proofs.Cache.Coherence
import Accounts.Proofs.Cache.Drop
import Accounts.Proofs.Cache.Keyspace
import Accounts.Proofs.Cache.Lifetime
import Accounts.Proofs.Cache.Origin
import Accounts.Proofs.Cache.Outcome
import Accounts.Proofs.Calendar.Instant
import Accounts.Proofs.Calendar.Text
import Accounts.Proofs.Http.Burial
import Accounts.Proofs.Http.Calls
import Accounts.Proofs.Http.FailedLogin
import Accounts.Proofs.Http.Handler
import Accounts.Proofs.Http.Ownership
import Accounts.Proofs.Http.Refinement
import Accounts.Proofs.Http.Rejection
import Accounts.Proofs.Http.Secrecy
import Accounts.Proofs.Http.Sharing
import Accounts.Proofs.Http.Shielding
import Accounts.Proofs.Json.Depth
import Accounts.Proofs.Json.RoundTrip
import Accounts.Proofs.Json.TooLong
import Accounts.Proofs.Number.Binary64
import Accounts.Proofs.Number.Decimal
import Accounts.Proofs.Password.Hash
import Accounts.Proofs.Password.KeyMaterial
import Accounts.Proofs.Password.Salt
import Accounts.Proofs.Program.Asks
import Accounts.Proofs.Program.Performs
import Accounts.Proofs.Program.Run
import Accounts.Proofs.Service.Atomicity
import Accounts.Proofs.Service.Burial
import Accounts.Proofs.Service.Commuting
import Accounts.Proofs.Service.Contest
import Accounts.Proofs.Service.Effects
import Accounts.Proofs.Service.Errors
import Accounts.Proofs.Service.Healing
import Accounts.Proofs.Service.History
import Accounts.Proofs.Service.Integrity
import Accounts.Proofs.Service.Invalidation
import Accounts.Proofs.Service.Login
import Accounts.Proofs.Service.Overlap
import Accounts.Proofs.Service.Precheck
import Accounts.Proofs.Service.Requests
import Accounts.Proofs.Service.Returns
import Accounts.Proofs.Service.Revision
import Accounts.Proofs.Service.Rows
import Accounts.Proofs.Service.Secrecy
import Accounts.Proofs.Service.Staleness
import Accounts.Proofs.Service.Straddle
import Accounts.Proofs.Service.Transparency
import Accounts.Proofs.Service.Winner
import Accounts.Proofs.Settings.Origins
import Accounts.Proofs.Store.Columns
import Accounts.Proofs.Store.Profiles
import Accounts.Proofs.Store.Table
import Accounts.Proofs.Text.Base64Url
import Accounts.Proofs.Text.Fold
import Accounts.Proofs.Text.Hex
import Accounts.Proofs.Text.Utf8
import Accounts.Proofs.Token.Lifetime
import Accounts.Proofs.Token.RoundTrip
import Accounts.Proofs.Token.Soundness
import Accounts.Proofs.Token.Undated
import Accounts.Proofs.Uuid.Text
import Accounts.Proofs.World.Alike
import Accounts.Proofs.World.Answer
import Accounts.Proofs.World.Pool
import Accounts.Proofs.World.Run
import Accounts.Proofs.World.Settled
import Accounts.Proofs.World.Steps
import Accounts.Proofs.World.Twin
import Accounts.Service.Event
import Accounts.Service.Failure
import Accounts.Service.Identity
import Accounts.Service.Program
import Accounts.Settings.Basic
import Accounts.Settings.Dotenv
import Accounts.Store.Accounts
import Accounts.Store.Statement
import Accounts.Store.Table
import Accounts.Text.Base64Url
import Accounts.Text.Blank
import Accounts.Text.Casing
import Accounts.Text.Cut
import Accounts.Text.Loose
import Accounts.Text.Lower
import Accounts.Text.Percent
import Accounts.Text.Quoted
import Accounts.Text.Ranges
import Accounts.Text.Utf8
import Accounts.Token.Issue
import Accounts.Token.Key
import Accounts.Token.Reader
import Accounts.Unicode.Category
import Accounts.Unicode.Composition
import Accounts.Unicode.DomainMapping
import Accounts.Unicode.LabelClass
import Accounts.Unicode.Normal
import Accounts.Uuid.Basic
import Accounts.Uuid.Lenient
import Accounts.Uuid.Reader
import Accounts.World.Basic
import Accounts.World.Start
import Accounts.World.Step
