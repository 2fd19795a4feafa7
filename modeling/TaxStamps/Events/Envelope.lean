import TaxStamps.Python.Json
import TaxStamps.Services.Outbox

/-!
# Verification of signed events

`jws_verify` of `eddsa.py` and `verify_envelope` of `envelope.py`, the consumer's
side of the events. `json.loads` of the header bytes is a parameter: it also
guesses the encoding of its input. A directory resolves a key identifier to the
check of a signature under its key.

The detail of an error leaves out what it quotes from another exception or from
`repr`; only the log reads it.
-/

namespace TaxStamps.Envelope

open Outbox

/-- `KeyDirectory`: the check of a signature and a message under a known key. -/
abbrev KeyDirectory := PyStr → Option (Bytes → Bytes → Bool)

/-- `json.loads` of bytes; nothing when it raises. -/
abbrev Loads := Bytes → Option Value

/-- A character of a key identifier. -/
def kidCode (code : Code) : Bool :=
  (py "ABCDEFGHIJKLMNOPQRSTUVWXYZabcdefghijklmnopqrstuvwxyz0123456789._-").contains code

/-- `_KID_RE.match(kid)`. The `$` of the expression admits one final newline. -/
def kidAccepted (kid : PyStr) : Bool :=
  let name := if kid.getLast? = some (.scalar '\n') then kid.dropLast else kid
  decide (1 ≤ name.length ∧ name.length ≤ 256) && name.all kidCode

/-- `b64u_decode`. -/
def b64uDecode (data : PyStr) : Result Bytes :=
  if data.contains Base64.pad then
    .error (.jwsError (py "malformed-jws") (py "base64url padding is prohibited"))
  else match Base64.urlsafeB64decode (data ++ Base64.padding data) with
    | some bytes => .ok bytes
    | none => .error (.jwsError (py "malformed-jws") (py "invalid base64url"))

/-- The protected header of a JWS: exactly `alg`, which must be EdDSA, and `kid`. -/
def headerKid : Option Value → Result PyStr
  | some (.dict header) =>
    if header.length = 2 ∧ (Value.lookup (key "alg") header).isSome ∧
        (Value.lookup (key "kid") header).isSome then
      match Value.lookup (key "alg") header, Value.lookup (key "kid") header with
      | some (.str alg), some (.str kid) =>
        if alg ≠ py "EdDSA" then .error (.jwsError (py "unsupported-alg") [])
        else if kidAccepted kid then .ok kid
        else .error (.jwsError (py "malformed-jws") (py "malformed kid"))
      | some (.str alg), _ =>
        if alg ≠ py "EdDSA" then .error (.jwsError (py "unsupported-alg") [])
        else .error (.jwsError (py "malformed-jws") (py "malformed kid"))
      | _, _ => .error (.jwsError (py "unsupported-alg") [])
    else .error (.jwsError (py "malformed-jws") (py "protected header must be exactly \x7balg, kid\x7d"))
  | some _ => .error (.jwsError (py "malformed-jws") (py "protected header must be exactly \x7balg, kid\x7d"))
  | none => .error (.jwsError (py "malformed-jws") (py "protected header is not JSON"))

/-- `directory.resolve`. -/
def resolve (directory : KeyDirectory) (kid : PyStr) : Result (Bytes → Bytes → Bool) :=
  match directory kid with
  | some check => .ok check
  | none => .error (.jwsError (py "unknown-kid") kid)

/-- `jws_verify` of a text against the payload that is expected. -/
def jwsVerify (loads : Loads) (directory : KeyDirectory) (jws : PyStr) (expectedPayload : Bytes) :
    Result Bytes :=
  match jws.splitOn (.scalar '.') with
  | [seg1, seg2, seg3] => do
    Result.require (!(seg1.isEmpty || seg2.isEmpty || seg3.isEmpty))
      (.jwsError (py "malformed-jws") (py "expected three non-empty segments"))
    let header ← b64uDecode seg1
    let kid ← headerKid (loads header)
    let check ← resolve directory kid
    let payload ← b64uDecode seg2
    Result.require (decide (payload = expectedPayload)) (.jwsError (py "payload-mismatch") [])
    let signature ← b64uDecode seg3
    Result.require (check signature (asciiBytes (seg1 ++ py "." ++ seg2)))
      (.jwsError (py "invalid-signature") [])
    .ok payload
  | _ => .error (.jwsError (py "malformed-jws") (py "expected three non-empty segments"))

/-- `str(exc)` of a `JwsError`. -/
def jwsText (reason detail : PyStr) : PyStr :=
  if detail.isEmpty then reason else reason ++ py ": " ++ detail

/-- `except JwsError as exc: raise EnvelopeError(exc.reason, str(exc))`. -/
def asEnvelopeError {α : Type} : Result α → Result α
  | .error (.jwsError reason detail) => .error (.envelopeError reason (jwsText reason detail))
  | other => other

/-- `envelope.get("provenance", {})`, which must have items. -/
def provenanceOf (envelope : List (Key × Value)) : Result (List (Key × Value)) :=
  match Value.lookup (key "provenance") envelope with
  | none => .ok []
  | some (.dict members) => .ok members
  | some _ => .error .attributeError

/-- `_without_signature`, given the provenance of the envelope. -/
def withoutSignature (envelope provenance : List (Key × Value)) : Value :=
  .dict (Value.setMember envelope (key "provenance", .dict (Value.without (py "signature") provenance)))

/-- The value is the text. -/
def isText (text : PyStr) : Option Value → Bool
  | some (.str other) => decide (other = text)
  | _ => false

/-- `_EVENT_RESOURCES.get(event_type)`. -/
def knownResource (eventType : PyStr) : Option PyStr :=
  ([.assessed, .approved, .issued, .activated, .verified, .voided].find?
    (fun event => decide (EventType.name event = eventType))).map EventType.resource

/-- `str(type_url).endswith("." + known)`. Nothing but a text prints with such
an ending. -/
def namesResource (known : PyStr) : Option Value → Bool
  | some (.str typeUrl) => decide ((py "." ++ known) <:+ typeUrl)
  | _ => false

/-- What is raised for a value that is no envelope. -/
def malformed {α : Type} (detail : String) : Result α :=
  .error (.envelopeError (py "malformed-envelope") (py detail))

/-- The event type of an envelope. -/
def eventTypeOf (envelope : List (Key × Value)) : Result PyStr :=
  match Value.lookup (key "eventType") envelope with
  | some (.str eventType) => if eventType.isEmpty then malformed "eventType missing" else .ok eventType
  | _ => malformed "eventType missing"

/-- The primary resource of an envelope, the one entry of its message Bundle. -/
def resourceOf (envelope : List (Key × Value)) : Result (List (Key × Value)) :=
  match Value.lookup (key "fhir") envelope with
  | some (.dict fhir) =>
    if isText (py "Bundle") (Value.lookup (key "resourceType") fhir) &&
        isText (py "message") (Value.lookup (key "type") fhir) then
      match Value.lookup (key "entry") fhir with
      | some (.list [.dict entry]) =>
        match Value.lookup (key "resource") entry with
        | some (.dict resource) => .ok resource
        | _ => malformed "entry resource missing"
      | _ => malformed "message Bundle must carry exactly one entry"
    else malformed "fhir must be a FHIR message Bundle"
  | _ => malformed "fhir must be a FHIR message Bundle"

/-- The signature check of `verify_envelope`. -/
def checkSignature (loads : Loads) (directory : KeyDirectory) (envelope provenance : List (Key × Value)) :
    Result Unit :=
  match Value.lookup (key "signature") provenance with
  | some signature =>
    if signature.truthy then do
      let expectedPayload ← Jcs.canonicalizeBytes (withoutSignature envelope provenance)
      match signature with
      | .str jws => do
        let _ ← asEnvelopeError (jwsVerify loads directory jws expectedPayload)
        .ok ()
      | _ => .error (.envelopeError (py "malformed-jws") (py "malformed-jws: not a string"))
    else .error (.envelopeError (py "malformed-jws") (py "provenance.signature missing"))
  | none => .error (.envelopeError (py "malformed-jws") (py "provenance.signature missing"))

/-- `verify_envelope`. -/
def verifyEnvelope (loads : Loads) (directory : KeyDirectory) (expectedEventType : Option PyStr)
    (requireSignature : Bool) : Value → Result Value
  | .dict envelope => do
    Result.require (isText (py "1.0") (Value.lookup (key "envelopeVersion") envelope))
      (.envelopeError (py "malformed-envelope") (py "envelopeVersion must be 1.0"))
    let eventType ← eventTypeOf envelope
    Result.require (expectedEventType.all (fun expected => decide (eventType = expected)))
      (.envelopeError (py "event-type-mismatch") (eventType ++ py " != " ++ expectedEventType.getD []))
    let resource ← resourceOf envelope
    Result.require ((knownResource eventType).all
        (fun known => namesResource known (Value.lookup (key "@type") resource)))
      (.envelopeError (py "resource-type-mismatch") [])
    let provenance ← provenanceOf envelope
    if requireSignature then do
      checkSignature loads directory envelope provenance
      .ok (.dict resource)
    else .ok (.dict resource)
  | _ => malformed "not an object"

end TaxStamps.Envelope
