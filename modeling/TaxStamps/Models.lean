import TaxStamps.Library.Rows
import TaxStamps.Env

/-!
# The database

The tables of `models.py` as lists of rows. A row's identifier is its position,
so a foreign key always names the row it was created for. An insertion checks
the constraints of its table: lengths, integer ranges, CHECK clauses and unique
keys; a violation is a `DBAPIError` and the request that caused it rolls back.

Left out are the columns that no modelled function reads back: the JSON envelope
of a declaration and the completion time of a batch. The verifier credentials, the
audit events, the idempotency records and the consumed events are read by code of
their own and are modelled with it.
-/

namespace TaxStamps

/-- An `Integer` column accepts the number. -/
def integerColumn (value : Int) : Bool := decide (-2147483648 ≤ value ∧ value ≤ 2147483647)

/-- A `BigInteger` column accepts the number. -/
def bigIntegerColumn (value : Int) : Bool :=
  decide (-9223372036854775808 ≤ value ∧ value ≤ 9223372036854775807)

/-- A `Text` column accepts the text. -/
def textColumn (value : PyStr) : Bool := value.all Code.storable

/-- `ASSESSMENT_STATUSES`. -/
inductive AssessmentStatus
  | pendingApproval | rejected | approved | paymentPending | paid | issuing | issued | cancelled
deriving DecidableEq, Repr

/-- The text of a status. -/
def AssessmentStatus.name : AssessmentStatus → PyStr
  | .pendingApproval => py "PENDING_APPROVAL"
  | .rejected => py "REJECTED"
  | .approved => py "APPROVED"
  | .paymentPending => py "PAYMENT_PENDING"
  | .paid => py "PAID"
  | .issuing => py "ISSUING"
  | .issued => py "ISSUED"
  | .cancelled => py "CANCELLED"

/-- The risk tiers of an assessment. -/
inductive RiskTier
  | low | standard | high
deriving DecidableEq, Repr

/-- The text of a tier. -/
def RiskTier.name : RiskTier → PyStr
  | .low => py "LOW"
  | .standard => py "STANDARD"
  | .high => py "HIGH"

/-- What a checker decides. -/
inductive Decision
  | approve | reject
deriving DecidableEq, Repr

/-- The statuses of a payment intent. -/
inductive IntentStatus
  | pending | settled | failed
deriving DecidableEq, Repr

/-- The statuses of a payment receipt. -/
inductive ReceiptStatus
  | applied | quarantined
deriving DecidableEq, Repr

/-- `BATCH_STATUSES`. -/
inductive BatchStatus
  | pending | issuing | issued | inspectionFailed | ready | active | completed | void
deriving DecidableEq, Repr

/-- The text of a status. -/
def BatchStatus.name : BatchStatus → PyStr
  | .pending => py "PENDING"
  | .issuing => py "ISSUING"
  | .issued => py "ISSUED"
  | .inspectionFailed => py "INSPECTION_FAILED"
  | .ready => py "READY"
  | .active => py "ACTIVE"
  | .completed => py "COMPLETED"
  | .void => py "VOID"

/-- `STAMP_STATUSES`. -/
inductive StampStatus
  | issued | active | consumed | void | expired | suspect
deriving DecidableEq, Repr

/-- The text of a status. -/
def StampStatus.name : StampStatus → PyStr
  | .issued => py "ISSUED"
  | .active => py "ACTIVE"
  | .consumed => py "CONSUMED"
  | .void => py "VOID"
  | .expired => py "EXPIRED"
  | .suspect => py "SUSPECT"

/-- The results of an inspection. -/
inductive InspectionResult
  | pass | fail
deriving DecidableEq, Repr

/-- `VERIFICATION_OUTCOMES`. -/
inductive Outcome
  | valid | alreadyVerified | cloneSuspect | unknownSerial | malformedSerial | notActive | void
  | expired | invalidCredential | active
deriving DecidableEq, Repr

/-- A row of `declarations`. -/
structure Declaration where
  declarationRef : PyStr
  consigneeTin : PyStr
  consigneeName : PyStr
  sourceEventId : PyStr
  occurredAt : Datetime
  receivedAt : Datetime

/-- A row of `declaration_lines`. -/
structure DeclarationLine where
  declarationId : Nat
  hsCode : PyStr
  description : PyStr
  quantity : Int
  unit : PyStr
  customsValueKobo : Int
  stampsRequired : Int

/-- A row of `assessments`. -/
structure Assessment where
  declarationId : Nat
  status : AssessmentStatus
  currency : PyStr
  totalDutyKobo : Int
  stampsRequired : Int
  riskTier : RiskTier
  approvalsRequired : Int
  submittedBy : PyStr
  submittedAt : Datetime
  decidedAt : Option Datetime
  idempotencyKey : PyStr

/-- A row of `assessment_lines`. -/
structure AssessmentLine where
  assessmentId : Nat
  hsCode : PyStr
  category : PyStr
  quantity : Int
  unit : PyStr
  customsValueKobo : Int
  specificDutyKobo : Int
  adValoremDutyKobo : Int
  totalDutyKobo : Int
  statutoryRef : PyStr
  tariffEffectiveFrom : Date

/-- A row of `approvals`: one decision of one principal. -/
structure Approval where
  assessmentId : Nat
  principalSub : PyStr
  decision : Decision
  level : Int
  reason : PyStr
  decidedAt : Datetime

/-- A row of `payment_intents`. -/
structure PaymentIntent where
  assessmentId : Nat
  rail : PyStr
  expectedAmountKobo : Int
  currency : PyStr
  status : IntentStatus
  createdAt : Datetime
  settledAt : Option Datetime

/-- A row of `payment_receipts`. -/
structure PaymentReceipt where
  paymentIntentId : Option Nat
  externalReference : PyStr
  amountKobo : Int
  currency : PyStr
  status : ReceiptStatus
  quarantineReason : PyStr
  receivedAt : Datetime

/-- A row of `journals`. -/
structure Journal where
  reference : PyStr
  narration : PyStr
  postedAt : Datetime

/-- A row of `ledger_entries`: one leg of a journal. -/
structure LedgerEntry where
  journalId : Nat
  account : PyStr
  debitKobo : Int
  creditKobo : Int

/-- A row of `serial_counters`: the next number of a category and year. -/
structure SerialCounter where
  categoryCode : PyStr
  year : Int
  nextSequence : Int

/-- A row of `stamp_batches`. -/
structure StampBatch where
  assessmentId : Nat
  categoryCode : PyStr
  year : Int
  quantity : Int
  issuedCount : Int
  status : BatchStatus
  merkleRoot : PyStr
  createdAt : Datetime

/-- A row of `stamps`. -/
structure Stamp where
  batchId : Nat
  serial : PyStr
  categoryCode : PyStr
  year : Int
  sequence : Int
  status : StampStatus
  hsCode : PyStr
  declarationRef : PyStr
  consigneeTin : PyStr
  dutyPaidKobo : Int
  statusListIndex : Nat
  credential : Value
  validFrom : Datetime
  validUntil : Datetime
  activatedAt : Option Datetime
  firstScanAt : Option Datetime
  firstScanVerifier : PyStr
  firstScanLatMicros : Option Int
  firstScanLongMicros : Option Int

/-- A row of `inspections`. -/
structure Inspection where
  batchId : Nat
  lotSize : Int
  codeLetter : PyStr
  sampleSize : Int
  accept : Int
  reject : Int
  defectives : Int
  result : InspectionResult
  inspectorSub : PyStr
  createdAt : Datetime

/-- A row of `verifications`: one attempt. -/
structure Verification where
  stampId : Option Nat
  serialPresented : PyStr
  verifierId : PyStr
  publicScan : Bool
  outcome : Outcome
  detail : PyStr
  latMicros : Option Int
  longMicros : Option Int
  verifiedAt : Datetime

/-- A row of `outbox_messages`. -/
structure OutboxMessage where
  topic : PyStr
  key : PyStr
  envelope : Value
  createdAt : Datetime
  publishedAt : Option Datetime
  attempts : Int

/-- A row of `status_list_snapshots`: one published version of a list. -/
structure StatusListSnapshot where
  purpose : PyStr
  version : Int
  credential : Value
  publishedAt : Datetime

/-- The tables. A row's identifier is its position. -/
structure Db where
  declarations : List Declaration
  declarationLines : List DeclarationLine
  assessments : List Assessment
  assessmentLines : List AssessmentLine
  approvals : List Approval
  paymentIntents : List PaymentIntent
  paymentReceipts : List PaymentReceipt
  journals : List Journal
  ledgerEntries : List LedgerEntry
  serialCounters : List SerialCounter
  stampBatches : List StampBatch
  stamps : List Stamp
  inspections : List Inspection
  verifications : List Verification
  outboxMessages : List OutboxMessage
  statusListSnapshots : List StatusListSnapshot

namespace Db

/-- The database after the migration. -/
def empty : Db := ⟨[], [], [], [], [], [], [], [], [], [], [], [], [], [], [], []⟩

/-- The table refuses what its constraints exclude. -/
def constrain (table : String) (accepted : Bool) : Result Unit :=
  Result.require accepted (.dbApiError (py table))

/-- Adds a declaration whose reference and source event are new. -/
def insertDeclaration (row : Declaration) (db : Db) : Result Db := do
  constrain "declarations" (PyStr.fits 64 row.declarationRef && PyStr.fits 32 row.consigneeTin &&
    PyStr.fits 256 row.consigneeName && PyStr.fits 128 row.sourceEventId &&
    db.declarations.all (fun other => decide (other.declarationRef ≠ row.declarationRef) &&
      decide (other.sourceEventId ≠ row.sourceEventId)))
  .ok { db with declarations := db.declarations ++ [row] }

/-- Adds a line of a declaration. -/
def insertDeclarationLine (row : DeclarationLine) (db : Db) : Result Db := do
  constrain "declaration_lines" (PyStr.fits 16 row.hsCode && textColumn row.description &&
    bigIntegerColumn row.quantity && PyStr.fits 16 row.unit && bigIntegerColumn row.customsValueKobo &&
    bigIntegerColumn row.stampsRequired && decide (0 ≤ row.quantity) &&
    decide (0 ≤ row.customsValueKobo) && decide (0 ≤ row.stampsRequired))
  .ok { db with declarationLines := db.declarationLines ++ [row] }

/-- Adds an assessment whose idempotency key is new. -/
def insertAssessment (row : Assessment) (db : Db) : Result Db := do
  constrain "assessments" (PyStr.fits 3 row.currency && bigIntegerColumn row.totalDutyKobo &&
    bigIntegerColumn row.stampsRequired && integerColumn row.approvalsRequired &&
    PyStr.fits 256 row.submittedBy && PyStr.fits 128 row.idempotencyKey &&
    decide (0 ≤ row.totalDutyKobo) && decide (0 ≤ row.stampsRequired) &&
    decide (1 ≤ row.approvalsRequired ∧ row.approvalsRequired ≤ 3) &&
    db.assessments.all (fun other => decide (other.idempotencyKey ≠ row.idempotencyKey)))
  .ok { db with assessments := db.assessments ++ [row] }

/-- Adds a line of an assessment. -/
def insertAssessmentLine (row : AssessmentLine) (db : Db) : Result Db := do
  constrain "assessment_lines" (PyStr.fits 16 row.hsCode && PyStr.fits 32 row.category &&
    bigIntegerColumn row.quantity && PyStr.fits 16 row.unit && bigIntegerColumn row.customsValueKobo &&
    bigIntegerColumn row.specificDutyKobo && bigIntegerColumn row.adValoremDutyKobo &&
    bigIntegerColumn row.totalDutyKobo && textColumn row.statutoryRef &&
    decide (row.totalDutyKobo = row.specificDutyKobo + row.adValoremDutyKobo) &&
    decide (0 ≤ row.quantity))
  .ok { db with assessmentLines := db.assessmentLines ++ [row] }

/-- Adds a decision of a principal who has not decided on the assessment. -/
def insertApproval (row : Approval) (db : Db) : Result Db := do
  constrain "approvals" (PyStr.fits 256 row.principalSub && integerColumn row.level &&
    textColumn row.reason &&
    db.approvals.all (fun other => !(decide (other.assessmentId = row.assessmentId) &&
      decide (other.principalSub = row.principalSub))))
  .ok { db with approvals := db.approvals ++ [row] }

/-- Adds the payment intent of an assessment that has none. -/
def insertPaymentIntent (row : PaymentIntent) (db : Db) : Result Db := do
  constrain "payment_intents" (PyStr.fits 32 row.rail && bigIntegerColumn row.expectedAmountKobo &&
    PyStr.fits 3 row.currency && decide (0 < row.expectedAmountKobo) &&
    db.paymentIntents.all (fun other => decide (other.assessmentId ≠ row.assessmentId)))
  .ok { db with paymentIntents := db.paymentIntents ++ [row] }

/-- Adds a receipt whose external reference is new. -/
def insertPaymentReceipt (row : PaymentReceipt) (db : Db) : Result Db := do
  constrain "payment_receipts" (PyStr.fits 128 row.externalReference &&
    bigIntegerColumn row.amountKobo && PyStr.fits 3 row.currency && textColumn row.quarantineReason &&
    decide (0 ≤ row.amountKobo) &&
    db.paymentReceipts.all (fun other => decide (other.externalReference ≠ row.externalReference)))
  .ok { db with paymentReceipts := db.paymentReceipts ++ [row] }

/-- Adds a journal whose reference is new. -/
def insertJournal (row : Journal) (db : Db) : Result Db := do
  constrain "journals" (PyStr.fits 128 row.reference && textColumn row.narration &&
    db.journals.all (fun other => decide (other.reference ≠ row.reference)))
  .ok { db with journals := db.journals ++ [row] }

/-- Adds an entry that debits or credits, not both. -/
def insertLedgerEntry (row : LedgerEntry) (db : Db) : Result Db := do
  constrain "ledger_entries" (PyStr.fits 64 row.account && bigIntegerColumn row.debitKobo &&
    bigIntegerColumn row.creditKobo && decide (0 ≤ row.debitKobo ∧ 0 ≤ row.creditKobo) &&
    decide ¬(0 < row.debitKobo ∧ 0 < row.creditKobo))
  .ok { db with ledgerEntries := db.ledgerEntries ++ [row] }

/-- The CHECK clauses and columns of a batch, on insertion and on update. -/
def batchAccepted (row : StampBatch) : Bool :=
  PyStr.fits 3 row.categoryCode && integerColumn row.year && bigIntegerColumn row.quantity &&
    bigIntegerColumn row.issuedCount && PyStr.fits 64 row.merkleRoot && decide (0 < row.quantity) &&
    decide (0 ≤ row.issuedCount ∧ row.issuedCount ≤ row.quantity)

/-- Adds the batch of an assessment that has none. -/
def insertStampBatch (row : StampBatch) (db : Db) : Result Db := do
  constrain "stamp_batches" (batchAccepted row &&
    db.stampBatches.all (fun other => decide (other.assessmentId ≠ row.assessmentId)))
  .ok { db with stampBatches := db.stampBatches ++ [row] }

/-- `UPDATE stamp_batches ... WHERE id = :id`. -/
def updateStampBatch (id : Nat) (change : StampBatch → StampBatch) (db : Db) : Result Db := do
  constrain "stamp_batches" (match db.stampBatches[id]? with
    | some row => batchAccepted (change row)
    | none => true)
  .ok { db with stampBatches := db.stampBatches.modify id change }

/-- A JSONB column stores what the database makes of the document. -/
def jsonbColumn (env : Env) (table : String) (document : Value) : Result Value :=
  match env.jsonb document with
  | some stored => .ok stored
  | none => .error (.dbApiError (py table))

/-- Adds a stamp whose serial, number and list index are new. -/
def insertStamp (env : Env) (row : Stamp) (db : Db) : Result Db := do
  let stored ← jsonbColumn env "stamps" row.credential
  constrain "stamps" (PyStr.fits 32 row.serial && PyStr.fits 3 row.categoryCode &&
    integerColumn row.year && bigIntegerColumn row.sequence && PyStr.fits 16 row.hsCode &&
    PyStr.fits 64 row.declarationRef && PyStr.fits 32 row.consigneeTin &&
    bigIntegerColumn row.dutyPaidKobo && integerColumn row.statusListIndex &&
    db.stamps.all (fun other => decide (other.serial ≠ row.serial) &&
      decide (other.statusListIndex ≠ row.statusListIndex) &&
      !(decide (other.categoryCode = row.categoryCode) && decide (other.year = row.year) &&
        decide (other.sequence = row.sequence))))
  .ok { db with stamps := db.stamps ++ [{ row with credential := stored }] }

/-- `UPDATE stamps ... WHERE id = :id`. -/
def updateStamp (id : Nat) (change : Stamp → Stamp) (db : Db) : Db :=
  { db with stamps := db.stamps.modify id change }

/-- Adds an inspection. -/
def insertInspection (row : Inspection) (db : Db) : Result Db := do
  constrain "inspections" (bigIntegerColumn row.lotSize && PyStr.fits 2 row.codeLetter &&
    integerColumn row.sampleSize && integerColumn row.accept && integerColumn row.reject &&
    integerColumn row.defectives && PyStr.fits 256 row.inspectorSub &&
    decide (0 ≤ row.defectives ∧ row.defectives ≤ row.sampleSize))
  .ok { db with inspections := db.inspections ++ [row] }

/-- A nullable `BigInteger` column. -/
def microsColumn (value : Option Int) : Bool := value.all bigIntegerColumn

/-- Adds an attempt. -/
def insertVerification (row : Verification) (db : Db) : Result Db := do
  constrain "verifications" (PyStr.fits 64 row.serialPresented && PyStr.fits 128 row.verifierId &&
    textColumn row.detail && microsColumn row.latMicros && microsColumn row.longMicros)
  .ok { db with verifications := db.verifications ++ [row] }

/-- Adds a message with its envelope. -/
def insertOutboxMessage (env : Env) (row : OutboxMessage) (db : Db) : Result Db := do
  let stored ← jsonbColumn env "outbox_messages" row.envelope
  constrain "outbox_messages" (PyStr.fits 128 row.topic && PyStr.fits 128 row.key)
  .ok { db with outboxMessages := db.outboxMessages ++ [{ row with envelope := stored }] }

/-- The primary key is (purpose, version). -/
def insertStatusListSnapshot (env : Env) (row : StatusListSnapshot) (db : Db) : Result Db := do
  let stored ← jsonbColumn env "status_list_snapshots" row.credential
  constrain "status_list_snapshots" (PyStr.fits 16 row.purpose && integerColumn row.version &&
    db.statusListSnapshots.all (fun other => !(decide (other.purpose = row.purpose) &&
      decide (other.version = row.version))))
  .ok { db with statusListSnapshots := db.statusListSnapshots ++ [{ row with credential := stored }] }

end Db

end TaxStamps
