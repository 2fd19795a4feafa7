import TaxStamps.Crypto.Documents
import TaxStamps.Python.Clock

/-!
# The deployment

What the service is given: its settings, and the code it calls that is not its
own. Hashing, signing, compression and the JSONB column are functions with the
laws the service relies on; no law says that a hash has no collisions or that a
signature cannot be forged. Where a result needs that, it says so about the
bytes at hand.
-/

namespace TaxStamps

/-- The settings that the modelled code reads. A value of the process
environment is text that PostgreSQL can store. The velocity window is a
number of hours that a `timedelta` can move the clock back by. -/
structure Settings where
  issuerDid : PyStr
  statusListBaseUrl : PyStr
  paymentRail : PyStr
  financialControlsEndpoint : PyStr
  stampValidityDays : Int
  issuanceChunkSize : Int
  velocityWindowHours : Int
  velocityDistinctDevices : Int
  issuerDid_storable : issuerDid.all Code.storable = true
  statusListBaseUrl_storable : statusListBaseUrl.all Code.storable = true
  window_bounded : 0 ≤ velocityWindowHours ∧ velocityWindowHours ≤ 8760000

/-- `payment_rail_configured`. -/
def Settings.paymentRailConfigured (settings : Settings) : Bool :=
  !settings.paymentRail.isEmpty && !settings.financialControlsEndpoint.isEmpty

/-- `PRODUCER` and `KID`. -/
def producer : PyStr := py "blueeconomy-tax-stamps"

/-- The key identifier of the issuer. -/
def kid : PyStr := py "blueeconomy-tax-stamps-0"

/-- What the program is given: settings, Unicode tables, hash, issuer key, compression and the
reading of JSONB columns. -/
structure Env where
  settings : Settings
  unicode : Unicode
  /-- `hashlib.sha256(data).digest()`. -/
  sha256 : Bytes → Bytes
  sha256_length : ∀ data, (sha256 data).length = 32
  /-- The issuer's Ed25519 key: signing, and verification of a signature. -/
  sign : Bytes → Bytes
  verify : Bytes → Bytes → Bool
  verify_sign : ∀ message, verify (sign message) message = true
  gzipCompress : Bytes → Bytes
  gzipDecompress : Bytes → Option Bytes
  gzip_restores : ∀ data, gzipDecompress (gzipCompress data) = some data
  /-- A document written to a JSONB column and read back; nothing when the
  database refuses it. -/
  jsonb : Value → Option Value
  jsonb_accepts : ∀ document, document.plain = true → ∃ stored, jsonb document = some stored
  jsonb_restores : ∀ document stored, document.WellFormed → jsonb document = some stored →
    stored.JsonEq document ∧ stored.WellFormed
  /-- `str(uuid.uuid4())`: the text drawn for a use and a row. -/
  uuid : PyStr → Nat → PyStr
  uuid_length : ∀ use row, (uuid use row).length = 36
  uuid_storable : ∀ use row, (uuid use row).all Code.storable = true

section Sample

/-- A deployment with a payment rail. -/
def Settings.sample : Settings where
  issuerDid := py "did:web:stamps.example"
  statusListBaseUrl := py "https://stamps.example"
  paymentRail := py "clearing"
  financialControlsEndpoint := py "https://controls.example"
  stampValidityDays := 365
  issuanceChunkSize := 500
  velocityWindowHours := 24
  velocityDistinctDevices := 3
  issuerDid_storable := by decide +kernel
  statusListBaseUrl_storable := by decide
  window_bounded := by decide

/-- Functions that satisfy the laws of the deployment: a hash and a signature
that cut or fill their input to size, no compression, a column that keeps what
it accepts, and identifiers that count the rows. -/
def Env.sample : Env where
  settings := .sample
  unicode := .ascii
  sha256 data := (data ++ List.replicate 32 0).take 32
  sha256_length data := by
    rw [List.length_take, List.length_append, List.length_replicate]
    omega
  sign message := (message ++ List.replicate 64 0).take 64
  verify signature message := decide (signature = (message ++ List.replicate 64 0).take 64)
  verify_sign message := by simp
  gzipCompress data := data
  gzipDecompress data := some data
  gzip_restores data := rfl
  jsonb document := if document.plain then some document else none
  jsonb_accepts document plain := ⟨document, by simp [plain]⟩
  jsonb_restores document stored wellFormed kept := by
    split at kept
    · cases kept
      exact ⟨rfl, wellFormed⟩
    · cases kept
  uuid _ row := (List.replicate 36 (Code.digit 0) ++ PyStr.decimal row).drop (PyStr.decimal row).length
  uuid_length use row := by
    rw [List.length_drop, List.length_append, List.length_replicate]
    omega
  uuid_storable use row := by
    have zero : (Code.digit 0).storable = true := Code.digit_storable 0 (by omega)
    have digits := List.all_eq_true.mp (PyStr.decimal_storable row)
    rw [List.all_eq_true]
    intro code member
    rcases List.mem_append.mp (List.mem_of_mem_drop member) with filled | counted
    · rw [(List.mem_replicate.mp filled).2]
      exact zero
    · exact digits code counted

end Sample

/-- A reading of the clock: after 1970, within the years Python represents. -/
structure Moment where
  time : Datetime
  sinceEpoch : 719162 * Datetime.microsPerDay ≤ time
  representable : time < Datetime.limit

end TaxStamps
