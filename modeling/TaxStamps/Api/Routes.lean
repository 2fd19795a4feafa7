import TaxStamps.Api.Schemas
import TaxStamps.Services.Issuance
import TaxStamps.Services.Payments
import TaxStamps.Services.Verification

/-!
# Requests and runs

`routes_flow.py`, `routes_stamps.py`, `routes_verify.py` and `_apply` of
`consumer.py`: each route as one transaction on the stored rows. `submit`
commits a request that succeeds and rolls back one that raises; a run is any
finite sequence of requests from the empty database. Issuing to completion is a
sequence of chunks with a commit after each, hence a sequence of requests here.

The policy, the audit chain, the idempotency keys of the intake and the Redis
guards read and write none of these tables; a request that they refuse leaves the
database as it is. Each is modelled with the routes in a module of its own.
-/

namespace TaxStamps.Api

/-- `except ... raise HTTPException(...)`. -/
def translated {α : Type} (translate : PyError → PyError) : Result α → Result α
  | .ok value => .ok value
  | .error problem => .error (translate problem)

/-- Translating exceptions keeps the values. -/
@[simp] theorem translated_ok {α : Type} {translate : PyError → PyError} {result : Result α}
    {value : α} : translated translate result = .ok value ↔ result = .ok value := by
  cases result <;> simp [translated]

/-- `HTTPException(404, reason)`. -/
def notFound (reason : String) : PyError := .httpException 404 (py reason)

/-- The row a path parameter names. -/
def found {α : Type} (row : Option α) (reason : String) : Result α :=
  match row with
  | some row => .ok row
  | none => .error (notFound reason)

/-- A row that must be there is the row that is there. -/
@[simp] theorem found_ok {α : Type} {row : Option α} {reason : String} {value : α} :
    found row reason = .ok value ↔ row = some value := by
  cases row <;> simp [found]

section Flow

/-- The row of a line item. -/
def lineRow (declarationId : Nat) (item : LineItem) : DeclarationLine :=
  { declarationId := declarationId
    hsCode := item.hsCode
    description := item.description
    quantity := item.quantity
    unit := item.unit
    customsValueKobo := item.customsValueKobo
    stampsRequired := item.stampsRequired }

/-- The loop that adds the lines of a declaration. -/
def addLines (declarationId : Nat) : List LineItem → Db → Result Db
  | [], db => .ok db
  | item :: rest, db => do
    let db ← db.insertDeclarationLine (lineRow declarationId item)
    addLines declarationId rest db

/-- A declaration and its lines. -/
def addDeclaration (occasion : Occasion) (declarationRef consigneeTin consigneeName sourceEventId : PyStr)
    (items : List LineItem) (db : Db) : Result Db := do
  let declarationId := db.declarations.length
  let db ← db.insertDeclaration
    { declarationRef := declarationRef
      consigneeTin := consigneeTin
      consigneeName := consigneeName
      sourceEventId := sourceEventId
      occurredAt := occasion.time
      receivedAt := occasion.time }
  addLines declarationId items db

/-- `if existing is not None: raise ...` of `create_declaration`. -/
def requireUndeclared (body : DeclarationIn) (db : Db) : Result Unit :=
  Result.require (db.declarations.all (fun row => decide (row.declarationRef ≠ body.declarationRef)))
    (.httpException 409 (py "declaration-exists"))

/-- The declaration that `create_declaration` adds. -/
def declare (occasion : Occasion) (subject : PyStr) (body : DeclarationIn) (db : Db) : Result Db :=
  addDeclaration occasion body.declarationRef body.consigneeTin body.consigneeName
    (py "api:" ++ subject ++ py ":" ++ body.declarationRef) body.lines db

/-- `create_declaration`. -/
def createDeclaration (occasion : Occasion) (subject : PyStr) (body : DeclarationIn) (db : Db) :
    Result Db := do
  requireUndeclared body db
  declare occasion subject body db

/-- `_apply` for an event that has not been processed. -/
def applyDeclaration (occasion : Occasion) (event : DeclarationEvent) (db : Db) : Result Db :=
  addDeclaration occasion event.declarationRef event.consigneeTin event.consigneeName event.eventId
    event.lineItems db

/-- The identifier of a declaration, as a text. -/
def declarationText (env : Env) (declarationId : Nat) : PyStr :=
  env.uuid (py "declarations") declarationId

/-- The answer to an `AssessmentError`. -/
def ofAssessment : PyError → PyError
  | .assessmentError reason _ =>
    .httpException (if reason = py "self-approval" ∨ reason = py "duplicate-decision" then 403 else 422)
      reason
  | problem => problem

/-- The declaration that a request names. -/
def declarationNamed (declarationRef : PyStr) (db : Db) : Result (Nat × Declaration) :=
  found (Rows.select (fun row => decide (row.declarationRef = declarationRef)) db.declarations)
    "declaration-not-found"

/-- `idem_key or f"auto:{identity.subject}:{declaration.id}"`. -/
def assessmentKey (env : Env) (subject idemKey : PyStr) (declarationId : Nat) : PyStr :=
  Outbox.orElse idemKey (py "auto:" ++ subject ++ py ":" ++ declarationText env declarationId)

/-- The event of an assessment that `create_assessment` returned. -/
def announceAssessment (env : Env) (occasion : Occasion) (subject : PyStr) (declaration : Declaration)
    (assessmentId : Nat) (db : Db) : Result (Nat × Db) := do
  let assessment ← Result.one db.assessments[assessmentId]?
  let db ← Outbox.enqueue env occasion .assessed
    [(key "assessmentId", .str (Issuance.assessmentText env assessmentId)),
      (key "declarationRef", .str declaration.declarationRef),
      (key "consigneeTin", .str declaration.consigneeTin),
      (key "totalDutyKobo", .int assessment.totalDutyKobo),
      (key "stampsRequired", .int assessment.stampsRequired),
      (key "riskTier", .str assessment.riskTier.name)]
    subject (py "excise-officer") declaration.declarationRef db
  .ok (assessmentId, db)

/-- The route `create_assessment`; the identifier of the assessment. Its header
`Idempotency-Key` is required and may be empty. -/
def createAssessment (env : Env) (occasion : Occasion) (subject idemKey : PyStr)
    (body : AssessmentCreateIn) (db : Db) : Result (Nat × Db) := do
  let (declarationId, declaration) ← declarationNamed body.declarationRef db
  let (assessmentId, db) ← translated ofAssessment (Assessments.createAssessment env occasion
    declarationId subject (assessmentKey env subject idemKey declarationId) db)
  announceAssessment env occasion subject declaration assessmentId db

/-- `decide_assessment`. -/
def decideAssessment (env : Env) (occasion : Occasion) (subject : PyStr) (assessmentId : Nat)
    (decision : Decision) (reason : PyStr) (db : Db) : Result Db := do
  let db ← translated ofAssessment
    (Assessments.recordDecision occasion assessmentId subject decision reason db)
  let assessment ← Result.one db.assessments[assessmentId]?
  if assessment.status = .approved then
    Outbox.enqueue env occasion .approved
      [(key "assessmentId", .str (Issuance.assessmentText env assessmentId)),
        (key "approvalsRequired", .int assessment.approvalsRequired)]
      subject (py "excise-approver") (declarationText env assessment.declarationId) db
  else .ok db

/-- The answer to a `PaymentError`. -/
def ofPayment : PyError → PyError
  | .paymentError reason _ =>
    .httpException (if reason = py "rail-unavailable" then 503 else 422) reason
  | problem => problem

/-- `create_payment_intent`; the identifier of the intent. -/
def createPaymentIntent (env : Env) (occasion : Occasion) (assessmentId : Nat) (db : Db) :
    Result (Nat × Db) := do
  let assessment ← found db.assessments[assessmentId]? "assessment-not-found"
  translated ofPayment (Payments.createIntent env occasion assessmentId assessment db)

/-- `record_payment_receipt`; the identifier of the receipt. -/
def recordPaymentReceipt (env : Env) (occasion : Occasion) (body : ReceiptIn) (db : Db) :
    Result (Nat × Db) := do
  let _ ← found db.paymentIntents[body.paymentIntentId]? "intent-not-found"
  Payments.recordReceipt env occasion body.paymentIntentId body.externalReference body.amountKobo
    body.currency db

end Flow

section Stamps

/-- The answer to an `IssuanceError`. -/
def ofIssuance : PyError → PyError
  | .issuanceError reason _ => .httpException 422 reason
  | problem => problem

/-- The exceptions that are a `ValueError` to `inspect_batch`. -/
def ofInspection : PyError → PyError
  | .issuanceError _ _ => .httpException 422 (py "inspection-rejected")
  | .samplingError _ => .httpException 422 (py "inspection-rejected")
  | .valueError => .httpException 422 (py "inspection-rejected")
  | problem => problem

/-- The route `create_batch`; the identifier of the batch. -/
def createBatch (occasion : Occasion) (assessmentId : Nat) (db : Db) : Result (Nat × Db) := do
  let assessment ← found db.assessments[assessmentId]? "assessment-not-found"
  translated ofIssuance (Issuance.createBatch occasion assessmentId assessment db)

/-- `issue_batch` for one chunk; the number of stamps issued. -/
def issueBatch (env : Env) (occasion : Occasion) (batchId : Nat) (chunkSize : Option ChunkSize)
    (db : Db) : Result (Int × Db) := do
  let batch ← found db.stampBatches[batchId]? "batch-not-found"
  let (issued, _, db) ← Issuance.issueChunk env occasion (chunkSize.map ChunkSize.value) batchId batch db
  .ok (issued, db)

/-- The route `finalize_batch`. -/
def finalizeBatch (env : Env) (occasion : Occasion) (subject : PyStr) (batchId : Nat) (db : Db) :
    Result Db := do
  let batch ← found db.stampBatches[batchId]? "batch-not-found"
  translated ofIssuance (Issuance.finalizeBatch env occasion subject batchId batch db)

/-- `inspect_batch`; the inspection it records. -/
def inspectBatch (occasion : Occasion) (subject : PyStr) (batchId : Nat) (body : InspectionIn)
    (db : Db) : Result (Inspection × Db) := do
  let batch ← found db.stampBatches[batchId]? "batch-not-found"
  translated ofInspection
    (Issuance.recordInspection occasion body.defectives subject batchId batch db)

/-- The route `activate_batch`; the number of stamps activated. -/
def activateBatch (env : Env) (occasion : Occasion) (subject : PyStr) (batchId : Nat) (db : Db) :
    Result (Nat × Db) := do
  let batch ← found db.stampBatches[batchId]? "batch-not-found"
  translated ofIssuance (Issuance.activateBatch env occasion subject batchId batch db)

/-- The answer to a `VerificationError` of a void. -/
def ofVoid : PyError → PyError
  | .verificationError reason _ => .httpException (if reason = py "not-found" then 404 else 422) reason
  | problem => problem

/-- `void_stamp_route`. -/
def voidStamp (env : Env) (occasion : Occasion) (subject serial : PyStr) (body : VoidIn) (db : Db) :
    Result Db :=
  translated ofVoid (Verify.voidStamp env occasion serial body.reason subject db)

end Stamps

section Verification

/-- `_load_status_lists`, over the purposes that remain. -/
def loadLists (env : Env) (db : Db) : List PyStr → Result Verify.Lists
  | [] => .ok []
  | purpose :: rest => match StatusLists.currentCredential purpose db with
    | none => loadLists env db rest
    | some credential => do
      let (_, list) ← StatusList.parse env credential
      let others ← loadLists env db rest
      .ok ((purpose, list) :: others)

/-- `_load_status_lists`. -/
def loadStatusLists (env : Env) (db : Db) : Result Verify.Lists := loadLists env db purposes

/-- The scan of `POST /v1/verify`. -/
def fieldScan (verifier : Verifier) (body : VerifyIn) (lists : Verify.Lists) : Verify.Scan :=
  { verifierId := verifier.verifierId
    publicScan := false
    latMicros := body.latMicros
    longMicros := body.longMicros
    credential := body.credential
    consume := true
    statusLists := lists }

/-- `POST /v1/verify` for an authenticated verifier. -/
def verify (env : Env) (occasion : Occasion) (verifier : Verifier) (body : VerifyIn) (db : Db) :
    Result (Verify.ScanResult × Db) := do
  let lists ← loadStatusLists env db
  Verify.verifyStamp env occasion (fieldScan verifier body lists) body.serial db

/-- The scan of `POST /v1/verify/public`. -/
def publicScan (body : PublicVerifyIn) : Verify.Scan :=
  { verifierId := []
    publicScan := true
    latMicros := body.latMicros
    longMicros := body.longMicros
    credential := none
    consume := false
    statusLists := [] }

/-- `serial or subject.get("serial")`. -/
def publicSerial (serial : PyStr) (credential : List (Key × Value)) : Result Value :=
  if serial.isEmpty then do
    let stated ← Verify.subjectSerial credential
    .ok (stated.getD .none)
  else .ok (.str serial)

/-- The answer of the public route: the failures of the credential, and the scan. -/
structure PublicAnswer where
  credentialFailures : Option (List PyStr)
  scan : Option Verify.ScanResult

/-- `if serial: ...` of the public check. Only a string has `strip`. -/
def publicCheck (env : Env) (occasion : Occasion) (body : PublicVerifyIn) (serial : Value) (db : Db) :
    Result (Option Verify.ScanResult × Db) :=
  if serial.truthy then match serial with
    | .str text => do
      let (result, db) ← Verify.verifyStamp env occasion (publicScan body) text db
      .ok (some result, db)
    | _ => .error .attributeError
  else .ok (none, db)

/-- `POST /v1/verify/public`. -/
def verifyPublic (env : Env) (occasion : Occasion) (body : PublicVerifyIn) (db : Db) :
    Result (PublicAnswer × Db) :=
  match body.credential with
  | none => do
    let (scan, db) ← publicCheck env occasion body (.str (body.serial.getD [])) db
    .ok (⟨none, scan⟩, db)
  | some credential => do
    let serial ← publicSerial (body.serial.getD []) credential
    let lists ← loadStatusLists env db
    let failures ← Verify.verifyCredentialOffline env credential lists
    let (scan, db) ← publicCheck env occasion body serial db
    .ok (⟨some failures, scan⟩, db)

end Verification

/-- A request, with the subject of its bearer token where the route uses it. Of the
header `Idempotency-Key`, which both intake routes require, only an assessment keeps the
value. -/
inductive Request
  | declaration (subject : PyStr) (body : DeclarationIn)
  | declarationEvent (event : DeclarationEvent)
  | assessment (subject idemKey : PyStr) (body : AssessmentCreateIn)
  | decision (subject : PyStr) (assessmentId : Nat) (decision : Decision) (reason : PyStr)
  | paymentIntent (assessmentId : Nat)
  | receipt (body : ReceiptIn)
  | batch (assessmentId : Nat)
  | issue (batchId : Nat) (chunkSize : Option ChunkSize)
  | finalize (subject : PyStr) (batchId : Nat)
  | inspection (subject : PyStr) (batchId : Nat) (body : InspectionIn)
  | activate (subject : PyStr) (batchId : Nat)
  | verify (verifier : Verifier) (body : VerifyIn)
  | verifyPublic (body : PublicVerifyIn)
  | void (subject serial : PyStr) (body : VoidIn)

/-- The database that a successful request commits. -/
def handle (env : Env) (occasion : Occasion) (request : Request) (db : Db) : Result Db :=
  match request with
  | .declaration subject body => createDeclaration occasion subject body db
  | .declarationEvent event => applyDeclaration occasion event db
  | .assessment subject idemKey body =>
    (createAssessment env occasion subject idemKey body db).map Prod.snd
  | .decision subject assessmentId decision reason =>
    decideAssessment env occasion subject assessmentId decision reason db
  | .paymentIntent assessmentId => (createPaymentIntent env occasion assessmentId db).map Prod.snd
  | .receipt body => (recordPaymentReceipt env occasion body db).map Prod.snd
  | .batch assessmentId => (createBatch occasion assessmentId db).map Prod.snd
  | .issue batchId chunkSize => (issueBatch env occasion batchId chunkSize db).map Prod.snd
  | .finalize subject batchId => finalizeBatch env occasion subject batchId db
  | .inspection subject batchId body => (inspectBatch occasion subject batchId body db).map Prod.snd
  | .activate subject batchId => (activateBatch env occasion subject batchId db).map Prod.snd
  | .verify verifier body => (verify env occasion verifier body db).map Prod.snd
  | .verifyPublic body => (verifyPublic env occasion body db).map Prod.snd
  | .void subject serial body => voidStamp env occasion subject serial body db

/-- A request commits as a whole or rolls back as a whole. -/
def submit (env : Env) (occasion : Occasion) (request : Request) (db : Db) : Db :=
  match handle env occasion request db with
  | .ok committed => committed
  | .error _ => db

/-- One request, with any arguments at any time. -/
def Step (env : Env) (before after : Db) : Prop :=
  ∃ occasion request, after = submit env occasion request before

/-- The states of a run. -/
def Reachable (env : Env) : Db → Prop := Relation.ReflTransGen (Step env) Db.empty

/-- A step commits one request or changes nothing. -/
theorem step_cases {env : Env} {before after : Db} (step : Step env before after) :
    after = before ∨ ∃ occasion request, handle env occasion request before = .ok after := by
  obtain ⟨occasion, request, rfl⟩ := step
  cases handled : handle env occasion request before with
  | ok committed => exact Or.inr ⟨occasion, request, by simp [submit, handled]⟩
  | error problem => exact Or.inl (by simp [submit, handled])

/-- A committed request is a step. -/
theorem Reachable.commit {env : Env} {before after : Db} (reached : Reachable env before)
    {occasion : Occasion} {request : Request} (handled : handle env occasion request before = .ok after) :
    Reachable env after :=
  reached.tail ⟨occasion, request, by simp [submit, handled]⟩

/-- A sequence of requests, each with its occasion. -/
def run (env : Env) (requests : List (Occasion × Request)) (db : Db) : Db :=
  requests.foldl (fun db step => submit env step.1 step.2 db) db

/-- The reachable states are the ends of the sequences of requests. -/
theorem reachable_iff_run {env : Env} {db : Db} :
    Reachable env db ↔ ∃ requests, run env requests Db.empty = db := by
  constructor
  · intro reached
    induction reached with
    | refl => exact ⟨[], rfl⟩
    | tail _ step inductionHypothesis =>
      obtain ⟨requests, rfl⟩ := inductionHypothesis
      obtain ⟨occasion, request, rfl⟩ := step
      exact ⟨requests ++ [(occasion, request)], by rw [run, List.foldl_append]; rfl⟩
  · rintro ⟨requests, rfl⟩
    induction requests using List.reverseRecOn with
    | nil => exact Relation.ReflTransGen.refl
    | append_singleton requests last inductionHypothesis =>
      rw [run, List.foldl_append]
      exact inductionHypothesis.tail ⟨last.1, last.2, rfl⟩

end TaxStamps.Api
