import TaxStamps.Api.Validation

/-!
# Requests with their audit events

The routes of `routes_flow.py` and `routes_stamps.py` and `_apply` of `consumer.py`
record an event in the transaction of what they do; scans record none. The event is
hashed and inserted beside the tables, so where between the writes of its request it is
recorded does not show in what is committed. Issuing to completion commits each chunk
and records once, with the last transaction.
-/

namespace TaxStamps

/-- The text of a decision. -/
def Decision.name : Decision → PyStr
  | .approve => py "APPROVE"
  | .reject => py "REJECT"

/-- The text of a receipt's status. -/
def ReceiptStatus.name : ReceiptStatus → PyStr
  | .applied => py "APPLIED"
  | .quarantined => py "QUARANTINED"

/-- The text of a result. -/
def InspectionResult.name : InspectionResult → PyStr
  | .pass => py "PASS"
  | .fail => py "FAIL"

namespace Audited

open Api

/-- The events, with the values that their payloads state. -/
inductive Note
  | received (declarationRef consigneeTin principal : PyStr)
  | applied (declarationRef eventId : PyStr) (producer : Value)
  | assessed (assessmentId : Nat) (declarationRef : PyStr) (totalDutyKobo : Int) (riskTier : RiskTier)
      (principal : PyStr)
  | decided (assessmentId : Nat) (decision : Decision) (principal : PyStr) (resultingStatus : AssessmentStatus)
  | asked (paymentIntentId assessmentId : Nat) (expectedAmountKobo : Int) (rail : PyStr)
  | receipted (externalReference : PyStr) (status : ReceiptStatus) (amountKobo : Int) (quarantineReason : PyStr)
  | opened (batchId assessmentId : Nat) (quantity : Int)
  | issued (batchId : Nat) (issuedThisCall : Int)
  | finalized (batchId : Nat) (merkleRoot : PyStr)
  | inspected (batchId : Nat) (result : InspectionResult) (defectives sampleSize : Int) (inspector : PyStr)
  | activated (batchId activatedCount : Nat) (principal : PyStr)
  | voided (serial reason principal : PyStr)

/-- The type under which a note is recorded. -/
def Note.eventType : Note → PyStr
  | .received .. => py "declaration.received"
  | .applied .. => py "declaration.received"
  | .assessed .. => py "assessment.created"
  | .decided .. => py "assessment.decision"
  | .asked .. => py "payment.intent-created"
  | .receipted .. => py "payment.receipt-recorded"
  | .opened .. => py "batch.created"
  | .issued .. => py "batch.issued-chunk"
  | .finalized .. => py "batch.finalized"
  | .inspected .. => py "batch.inspected"
  | .activated .. => py "batch.activated"
  | .voided .. => py "stamp.voided"

/-- The identifier of a payment intent, as a text. -/
def intentText (env : Env) (intentId : Nat) : PyStr := env.uuid (py "payment_intents") intentId

/-- The members of the payload. -/
def Note.members (env : Env) : Note → List (String × Value)
  | .received declarationRef consigneeTin principal =>
    [("declarationRef", .str declarationRef), ("consigneeTin", .str consigneeTin), ("principal", .str principal)]
  | .applied declarationRef eventId producer =>
    [("declarationRef", .str declarationRef), ("eventId", .str eventId), ("producer", producer)]
  | .assessed assessmentId declarationRef totalDutyKobo riskTier principal =>
    [("assessmentId", .str (Issuance.assessmentText env assessmentId)), ("declarationRef", .str declarationRef),
      ("totalDutyKobo", .int totalDutyKobo), ("riskTier", .str riskTier.name), ("principal", .str principal)]
  | .decided assessmentId decision principal resultingStatus =>
    [("assessmentId", .str (Issuance.assessmentText env assessmentId)), ("decision", .str decision.name),
      ("principal", .str principal), ("resultingStatus", .str resultingStatus.name)]
  | .asked paymentIntentId assessmentId expectedAmountKobo rail =>
    [("paymentIntentId", .str (intentText env paymentIntentId)),
      ("assessmentId", .str (Issuance.assessmentText env assessmentId)),
      ("expectedAmountKobo", .int expectedAmountKobo), ("rail", .str rail)]
  | .receipted externalReference status amountKobo quarantineReason =>
    [("externalReference", .str externalReference), ("status", .str status.name),
      ("amountKobo", .int amountKobo), ("quarantineReason", .str quarantineReason)]
  | .opened batchId assessmentId quantity =>
    [("batchId", .str (Issuance.batchText env batchId)),
      ("assessmentId", .str (Issuance.assessmentText env assessmentId)), ("quantity", .int quantity)]
  | .issued batchId issuedThisCall =>
    [("batchId", .str (Issuance.batchText env batchId)), ("issuedThisCall", .int issuedThisCall)]
  | .finalized batchId merkleRoot =>
    [("batchId", .str (Issuance.batchText env batchId)), ("merkleRoot", .str merkleRoot)]
  | .inspected batchId result defectives sampleSize inspector =>
    [("batchId", .str (Issuance.batchText env batchId)), ("result", .str result.name),
      ("defectives", .int defectives), ("sampleSize", .int sampleSize), ("inspector", .str inspector)]
  | .activated batchId activatedCount principal =>
    [("batchId", .str (Issuance.batchText env batchId)), ("activatedCount", .int activatedCount),
      ("principal", .str principal)]
  | .voided serial reason principal =>
    [("serial", .str serial), ("reason", .str reason), ("principal", .str principal)]

/-- The payload under which a note is recorded. -/
def Note.payload (env : Env) (note : Note) : Value := .object (note.members env)

/-- The event of a declaration is that of either intake. -/
theorem Note.received_payload (env : Env) (declarationRef consigneeTin principal : PyStr) :
    (Note.received declarationRef consigneeTin principal).payload env =
      receivedFrom declarationRef consigneeTin principal := rfl

/-- The consumer records a declaration with the payload of its own note. -/
theorem Note.applied_payload (env : Env) (declarationRef eventId : PyStr) (producer : Value) :
    (Note.applied declarationRef eventId producer).payload env =
      Consumer.received declarationRef (.str eventId) producer := rfl

/-- What a request commits, and the event that it records. The producer is that of the
envelope of a declaration. -/
def noted (env : Env) (occasion : Occasion) (producer : Value) (request : Request) (db : Db) :
    Result (Option Note × Db) :=
  match request with
  | .declaration subject body => do
    let db ← createDeclaration occasion subject body db
    .ok (some (.received body.declarationRef body.consigneeTin subject), db)
  | .declarationEvent event => do
    let db ← applyDeclaration occasion event db
    .ok (some (.applied event.declarationRef event.eventId producer), db)
  | .assessment subject idemKey body => do
    let (assessmentId, db) ← createAssessment env occasion subject idemKey body db
    let assessment ← Result.one db.assessments[assessmentId]?
    .ok (some (.assessed assessmentId body.declarationRef assessment.totalDutyKobo assessment.riskTier subject),
      db)
  | .decision subject assessmentId decision reason => do
    let db ← decideAssessment env occasion subject assessmentId decision reason db
    let assessment ← Result.one db.assessments[assessmentId]?
    .ok (some (.decided assessmentId decision subject assessment.status), db)
  | .paymentIntent assessmentId => do
    let (intentId, db) ← createPaymentIntent env occasion assessmentId db
    let intent ← Result.one db.paymentIntents[intentId]?
    .ok (some (.asked intentId assessmentId intent.expectedAmountKobo intent.rail), db)
  | .receipt body => do
    let (receiptId, db) ← recordPaymentReceipt env occasion body db
    let receipt ← Result.one db.paymentReceipts[receiptId]?
    .ok (some (.receipted receipt.externalReference receipt.status receipt.amountKobo receipt.quarantineReason), db)
  | .batch assessmentId => do
    let (batchId, db) ← createBatch occasion assessmentId db
    let batch ← Result.one db.stampBatches[batchId]?
    .ok (some (.opened batchId assessmentId batch.quantity), db)
  | .issue batchId chunkSize => do
    let (issued, db) ← issueBatch env occasion batchId chunkSize db
    .ok (some (.issued batchId issued), db)
  | .finalize subject batchId => do
    let db ← finalizeBatch env occasion subject batchId db
    let batch ← Result.one db.stampBatches[batchId]?
    .ok (some (.finalized batchId batch.merkleRoot), db)
  | .inspection subject batchId body => do
    let (inspection, db) ← inspectBatch occasion subject batchId body db
    .ok (some (.inspected batchId inspection.result inspection.defectives inspection.sampleSize subject), db)
  | .activate subject batchId => do
    let (count, db) ← activateBatch env occasion subject batchId db
    .ok (some (.activated batchId count subject), db)
  | .verify verifier body => do
    let (_, db) ← verify env occasion verifier body db
    .ok (none, db)
  | .verifyPublic body => do
    let (_, db) ← verifyPublic env occasion body db
    .ok (none, db)
  | .void subject serial body => do
    let db ← voidStamp env occasion subject serial body db
    .ok (some (.voided (Serials.normalize env.unicode serial) body.reason subject), db)

/-- The stored rows, the committed events with the next identifier of their sequence, and
what calls that issue to completion committed and did not come to record. -/
structure Books where
  db : Db
  trail : List AuditEvent
  sequence : Nat
  unrecorded : List (Nat × Int)

/-- Nothing is stored or recorded. -/
def Books.empty : Books := ⟨Db.empty, [], 0, []⟩

/-- `audit.record`. The sequence may have given identifiers to transactions that were
rolled back. -/
def record (env : Env) (now : Datetime) (skipped : Nat) (note : Note) (books : Books) : Result Books := do
  let row ← Audit.append env now note.eventType (note.payload env) (Audit.latestHash books.trail)
    (books.sequence + skipped) books.trail
  .ok { books with trail := books.trail ++ [row], sequence := books.sequence + skipped + 1 }

/-- The loop of `issue_batch` when it runs to completion. -/
structure Loop where
  /-- What is committed. -/
  db : Db
  /-- What the committed chunks issued. -/
  issued : Int
  /-- The open transaction of the chunk that issued nothing. -/
  last : Option (Occasion × Db)

/-- Each occasion is a round. The process may die after any of them. -/
def runToCompletion (env : Env) (batchId : Nat) (chunkSize : Option ChunkSize) :
    List Occasion → Int → Db → Loop
  | [], issued, db => ⟨db, issued, none⟩
  | occasion :: rest, issued, db =>
    match issueBatch env occasion batchId chunkSize db with
    | .error _ => ⟨db, issued, none⟩
    | .ok (number, after) =>
      if number = 0 then ⟨db, issued, some (occasion, after)⟩
      else runToCompletion env batchId chunkSize rest (issued + number) after

/-- A request with its audit event, or a call that issues to completion in rounds. -/
inductive Call
  | request (occasion : Occasion) (skipped : Nat) (producer : Value) (request : Request)
  | complete (rounds : List Occasion) (skipped : Nat) (batchId : Nat) (chunkSize : Option ChunkSize)

/-- A transaction with its event. -/
def commit (env : Env) (now : Datetime) (skipped : Nat) (note : Option Note) (db : Db) (books : Books) :
    Result Books :=
  match note with
  | none => .ok { books with db := db }
  | some note => do
    let books ← record env now skipped note books
    .ok { books with db := db }

/-- One call. -/
def serve (env : Env) (books : Books) : Call → Books
  | .request occasion skipped producer request =>
    match noted env occasion producer request books.db with
    | .error _ => books
    | .ok (note, db) =>
      match commit env occasion.time skipped note db books with
      | .ok later => later
      | .error _ => books
  | .complete rounds skipped batchId chunkSize =>
    let loop := runToCompletion env batchId chunkSize rounds 0 books.db
    let died : Books :=
      { books with db := loop.db, unrecorded := books.unrecorded ++ [(batchId, loop.issued)] }
    match loop.last with
    | none => died
    | some (occasion, db) =>
      match commit env occasion.time skipped (some (.issued batchId loop.issued)) db books with
      | .ok later => later
      | .error _ => died

/-- Any number of calls, from the empty database. -/
def serveAll (env : Env) (calls : List Call) : Books := calls.foldl (serve env) Books.empty

end Audited

end TaxStamps
