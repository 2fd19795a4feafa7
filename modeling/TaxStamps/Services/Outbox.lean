import TaxStamps.Crypto.VcProofs
import TaxStamps.Services.Assessments

/-!
# Signed events

`envelope.py`, `jws_sign` of `eddsa.py` and `outbox.py`. An event is signed over
the canonical envelope without its signature and stored in the transaction that
caused it.
-/

namespace TaxStamps.Outbox

/-- The bytes of an ASCII text. -/
def asciiBytes (text : PyStr) : Bytes := text.map (fun code => UInt8.ofNat code.ord)

/-- `json.dumps` of the protected header without blanks. -/
def protectedHeader : PyStr := py "\x7b\"alg\":\"EdDSA\",\"kid\":\"" ++ kid ++ py "\"\x7d"

/-- The text that a compact JWS signs. -/
def signatureInput (payload : Bytes) : PyStr :=
  Base64.unpadded (asciiBytes protectedHeader) ++ py "." ++ Base64.unpadded payload

/-- `jws_sign`. -/
def jwsSign (env : Env) (payload : Bytes) : PyStr :=
  signatureInput payload ++ py "." ++
    Base64.unpadded (env.sign (asciiBytes (signatureInput payload)))

/-- The types of the published events. -/
inductive EventType
  | assessed | approved | issued | activated | verified | voided
deriving DecidableEq, Repr

/-- The name of a type. -/
def EventType.name : EventType → PyStr
  | .assessed => py "stamps.assessed.v1"
  | .approved => py "stamps.approved.v1"
  | .issued => py "stamps.issued.v1"
  | .activated => py "stamps.activated.v1"
  | .verified => py "stamps.verified.v1"
  | .voided => py "stamps.voided.v1"

/-- `_EVENT_RESOURCES`. -/
def EventType.resource : EventType → PyStr
  | .assessed => py "TaxStampAssessed"
  | .approved => py "TaxStampAssessmentApproved"
  | .issued => py "TaxStampBatchIssued"
  | .activated => py "TaxStampBatchActivated"
  | .verified => py "TaxStampVerified"
  | .voided => py "TaxStampVoided"

/-- `TOPIC_BY_EVENT`. -/
def EventType.topic : EventType → PyStr
  | .assessed => py "stamps.assessed"
  | .approved => py "stamps.approved"
  | .issued => py "stamps.issued"
  | .activated => py "stamps.activated"
  | .verified => py "stamps.verified"
  | .voided => py "stamps.voided"

/-- `_CLASSIFICATION_BY_EVENT`. -/
def EventType.classification : EventType → PyStr
  | .assessed => py "CONFIDENTIAL"
  | .approved => py "CONFIDENTIAL"
  | .issued => py "CONFIDENTIAL"
  | .activated => py "INTERNAL"
  | .verified => py "INTERNAL"
  | .voided => py "CONFIDENTIAL"

/-- `resource.setdefault("@type", ...)`. -/
def withType (event : EventType) (resource : List (Key × Value)) : List (Key × Value) :=
  if (Value.lookup (key "@type") resource).isSome then resource
  else resource ++ [(key "@type",
    .str (py "type.googleapis.com/blueeconomy.contracts.v1." ++ event.resource))]

/-- `value or fallback` of texts. -/
def orElse (value fallback : PyStr) : PyStr := if value.isEmpty then fallback else value

/-- The provenance of an envelope before it is signed. -/
def provenance (principalId principalRole : PyStr) : List (Key × Value) :=
  [(key "principalId", .str principalId),
    (key "principalRole", .str principalRole),
    (key "ledgerCommitHash", .str [])]

/-- `build_envelope` without `provenance`, for the row the event will have. -/
def envelopeBody (env : Env) (time : Datetime) (row : Nat) (event : EventType)
    (resource : List (Key × Value)) (correlationId : PyStr) : List (Key × Value) :=
  let eventId := py "evt-" ++ env.uuid (py "event") row
  [(key "envelopeVersion", Value.literal "1.0"),
    (key "eventId", .str eventId),
    (key "eventType", .str event.name),
    (key "occurredAt", .str (Datetime.isoSeconds time)),
    (key "producer", .str producer),
    (key "correlationId", .str (orElse correlationId eventId)),
    (key "classification", .str event.classification),
    (key "fhir", .dict
      [(key "resourceType", Value.literal "Bundle"),
        (key "type", Value.literal "message"),
        (key "bundleId", .str (py "bdl-" ++ env.uuid (py "bundle") row)),
        (key "entry", .list [.dict
          [(key "fullUrl", .str (py "urn:uuid:" ++ env.uuid (py "entry") row)),
            (key "resource", .dict (withType event resource))]])])]

/-- `_without_signature` of a built envelope. -/
def unsigned (env : Env) (time : Datetime) (row : Nat) (event : EventType)
    (resource : List (Key × Value)) (principalId principalRole correlationId : PyStr) : Value :=
  .dict (envelopeBody env time row event resource correlationId ++
    [(key "provenance", .dict (provenance principalId principalRole))])

/-- `sign_envelope`. -/
def signed (env : Env) (time : Datetime) (row : Nat) (event : EventType)
    (resource : List (Key × Value)) (principalId principalRole correlationId : PyStr) :
    Result Value := do
  let payload ← Jcs.canonicalizeBytes
    (unsigned env time row event resource principalId principalRole correlationId)
  .ok (.dict (envelopeBody env time row event resource correlationId ++
    [(key "provenance", .dict (provenance principalId principalRole ++
      [(key "signature", .str (jwsSign env payload))]))]))

/-- The text of a resource member, empty when the member is absent. -/
def memberText (name : String) (resource : List (Key × Value)) : PyStr :=
  match Value.lookup (key name) resource with
  | some (.str text) => text
  | _ => []

/-- The key a message is published under. -/
def messageKey (resource : List (Key × Value)) : PyStr :=
  orElse (memberText "assessmentId" resource)
    (orElse (memberText "batchId" resource) (memberText "serial" resource))

/-- `enqueue`. -/
def enqueue (env : Env) (occasion : Occasion) (event : EventType) (resource : List (Key × Value))
    (principalId principalRole correlationId : PyStr) (db : Db) : Result Db := do
  let envelope ← signed env occasion.time db.outboxMessages.length event resource principalId
    principalRole correlationId
  db.insertOutboxMessage env
    { topic := event.topic
      key := messageKey resource
      envelope := envelope
      createdAt := occasion.time
      publishedAt := none
      attempts := 0 }

/-- A signed text is longer than two hashes. -/
theorem signatureInput_long (payload : Bytes) : 64 < (asciiBytes (signatureInput payload)).length := by
  have header : (Base64.unpadded (asciiBytes protectedHeader)).length = 64 := by
    rw [Base64.unpadded_sextets, List.length_map, Base64.sextets_length]
    decide
  have separator : (py ".").length = 1 := by decide
  rw [asciiBytes, List.length_map, signatureInput, List.length_append, List.length_append, header,
    separator]
  omega

end TaxStamps.Outbox
