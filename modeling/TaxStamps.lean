import TaxStamps.Api.Audited
import TaxStamps.Api.Auth
import TaxStamps.Api.FieldVerify
import TaxStamps.Api.Guarded
import TaxStamps.Api.Idempotency
import TaxStamps.Api.IntakeText
import TaxStamps.Api.Pbac
import TaxStamps.Api.Routes
import TaxStamps.Api.Sample
import TaxStamps.Api.Schemas
import TaxStamps.Api.Validation
import TaxStamps.Concurrency.AuditChain
import TaxStamps.Concurrency.Decisions
import TaxStamps.Concurrency.FirstScan
import TaxStamps.Concurrency.Flags
import TaxStamps.Concurrency.Intake
import TaxStamps.Concurrency.Issuers
import TaxStamps.Concurrency.Lots
import TaxStamps.Concurrency.Numbering
import TaxStamps.Concurrency.Publishing
import TaxStamps.Concurrency.RateLimit
import TaxStamps.Concurrency.Receipts
import TaxStamps.Crypto.Base58
import TaxStamps.Crypto.Canonical
import TaxStamps.Crypto.Documents
import TaxStamps.Crypto.Floats
import TaxStamps.Crypto.Interoperable
import TaxStamps.Crypto.Jcs
import TaxStamps.Crypto.JcsFaithful
import TaxStamps.Crypto.JcsNumbers
import TaxStamps.Crypto.Numerals
import TaxStamps.Crypto.Recanonical
import TaxStamps.Crypto.Refusals
import TaxStamps.Crypto.Rendering
import TaxStamps.Crypto.Representable
import TaxStamps.Crypto.Rescan
import TaxStamps.Crypto.StatusList
import TaxStamps.Crypto.Vc
import TaxStamps.Crypto.VcProofs
import TaxStamps.Domain.Headings
import TaxStamps.Domain.Merkle
import TaxStamps.Domain.MerkleBinding
import TaxStamps.Domain.Quality
import TaxStamps.Domain.Sampling
import TaxStamps.Domain.SerialCheck
import TaxStamps.Domain.SerialCodec
import TaxStamps.Domain.SerialTypos
import TaxStamps.Domain.Serials
import TaxStamps.Domain.Tariff
import TaxStamps.Effects.Flow
import TaxStamps.Effects.Requests
import TaxStamps.Effects.Scans
import TaxStamps.Effects.Stamps
import TaxStamps.Effects.Tables
import TaxStamps.Env
import TaxStamps.Events.About
import TaxStamps.Events.Applied
import TaxStamps.Events.Consumer
import TaxStamps.Events.Deliveries
import TaxStamps.Events.Envelope
import TaxStamps.Events.Escapes
import TaxStamps.Events.Intakes
import TaxStamps.Events.OutboxPublisher
import TaxStamps.Events.Poison
import TaxStamps.Events.Segments
import TaxStamps.Events.Tamper
import TaxStamps.Events.Unsigned
import TaxStamps.Events.Wire
import TaxStamps.Invariants.Accepts
import TaxStamps.Invariants.Anchors
import TaxStamps.Invariants.Announced
import TaxStamps.Invariants.Answers
import TaxStamps.Invariants.Attempts
import TaxStamps.Invariants.AuditHead
import TaxStamps.Invariants.Batches
import TaxStamps.Invariants.Bearer
import TaxStamps.Invariants.Clearance
import TaxStamps.Invariants.Credentials
import TaxStamps.Invariants.Cursor
import TaxStamps.Invariants.Duties
import TaxStamps.Invariants.Duty
import TaxStamps.Invariants.Entries
import TaxStamps.Invariants.FailedLots
import TaxStamps.Invariants.Gate
import TaxStamps.Invariants.Inspections
import TaxStamps.Invariants.Lifecycle
import TaxStamps.Invariants.Mirror
import TaxStamps.Invariants.Nonces
import TaxStamps.Invariants.OutboxExact
import TaxStamps.Invariants.Payable
import TaxStamps.Invariants.Pipeline
import TaxStamps.Invariants.Policy
import TaxStamps.Invariants.Posting
import TaxStamps.Invariants.Products
import TaxStamps.Invariants.PublicScans
import TaxStamps.Invariants.Published
import TaxStamps.Invariants.Replay
import TaxStamps.Invariants.Settlement
import TaxStamps.Invariants.Stamps
import TaxStamps.Invariants.StatusBits
import TaxStamps.Invariants.Trail
import TaxStamps.Invariants.Velocity
import TaxStamps.Invariants.Verdicts
import TaxStamps.Invariants.Walk
import TaxStamps.Jsonb
import TaxStamps.Library.Announcements
import TaxStamps.Library.Bands
import TaxStamps.Library.Cells
import TaxStamps.Library.Chain
import TaxStamps.Library.CheckDigit
import TaxStamps.Library.Counting
import TaxStamps.Library.Expiring
import TaxStamps.Library.Growth
import TaxStamps.Library.HashTree
import TaxStamps.Library.Idempotency
import TaxStamps.Library.Quorum
import TaxStamps.Library.Radix
import TaxStamps.Library.Raises
import TaxStamps.Library.Relock
import TaxStamps.Library.Relocking
import TaxStamps.Library.Rounding
import TaxStamps.Library.Rows
import TaxStamps.Library.Separated
import TaxStamps.Library.Sessions
import TaxStamps.Library.Transition
import TaxStamps.Library.Unwinding
import TaxStamps.Models
import TaxStamps.Python.Base64
import TaxStamps.Python.Clock
import TaxStamps.Python.Dumps
import TaxStamps.Python.Error
import TaxStamps.Python.Json
import TaxStamps.Python.Objects
import TaxStamps.Python.Repr
import TaxStamps.Python.Scanner
import TaxStamps.Python.Text
import TaxStamps.Python.Value
import TaxStamps.Services.Assessments
import TaxStamps.Services.Audit
import TaxStamps.Services.Issuance
import TaxStamps.Services.Journal
import TaxStamps.Services.Outbox
import TaxStamps.Services.Payments
import TaxStamps.Services.RedisGuard
import TaxStamps.Services.StatusLists
import TaxStamps.Services.Verification
