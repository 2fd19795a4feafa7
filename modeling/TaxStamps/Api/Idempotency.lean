import TaxStamps.Api.Routes
import TaxStamps.Python.Dumps

/-!
# Intake under an idempotency key

`idempotent_replay` and `store_idempotency` of `deps.py`, and the two intake
routes of `routes_flow.py` with them. A request is compared with an earlier one
by the hash of the JSON text of its validated body. The response of the first
one comes back from its column.

The time at which a record was created is read by nothing and left out.
-/

namespace TaxStamps.Api

/-- An integer that Python reads from a JSON text and writes to one. -/
def legible (value : Int) : Bool := decide (value.natAbs < PyStr.digitLimit)

/-- The numbers of a line can be written in decimals. -/
def legibleLine (item : LineItem) : Bool :=
  legible item.quantity && legible item.customsValueKobo && legible item.stampsRequired

/-- The body of an intake request. -/
inductive IntakeBody
  | declaration (body : DeclarationIn)
  | assessment (body : AssessmentCreateIn)

/-- The integers of a body were read from a JSON text. -/
def IntakeBody.legible : IntakeBody → Bool
  | .declaration body => body.lines.all legibleLine
  | .assessment _ => true

/-- `DeclarationLineIn.model_dump`. -/
def lineModelDump (item : LineItem) : Value :=
  Value.object
    [("hs_code", .str item.hsCode),
      ("description", .str item.description),
      ("quantity", .int item.quantity),
      ("unit", .str item.unit),
      ("customs_value_kobo", .int item.customsValueKobo),
      ("stamps_required", .int item.stampsRequired)]

/-- `body.model_dump()`. -/
def IntakeBody.modelDump : IntakeBody → Value
  | .declaration body =>
    Value.object
      [("declaration_ref", .str body.declarationRef),
        ("consignee_tin", .str body.consigneeTin),
        ("consignee_name", .str body.consigneeName),
        ("lines", .list (body.lines.map lineModelDump))]
  | .assessment body => Value.object [("declaration_ref", .str body.declarationRef)]

/-- An authorised request to one of the two intake routes. -/
structure IntakeRequest where
  occasion : Occasion
  subject : PyStr
  idemKey : PyStr
  body : IntakeBody
  body_legible : body.legible = true

/-- A row of `idempotency_records`. -/
structure IdempotencyRecord where
  key : PyStr
  principalSub : PyStr
  requestHash : PyStr
  responseStatus : Int
  responseBody : Value

/-- The key a request presents. The header is required; an empty one is no key. -/
def presented (key : PyStr) : Option PyStr := if key.isEmpty then none else some key

/-- `hashlib.sha256(json.dumps(request_body, sort_keys=True).encode()).hexdigest()`. -/
def requestHash (env : Env) (requestBody : Value) : Result PyStr := do
  let text ← requestBody.dumps
  let bytes ← Jcs.utf8 text
  .ok (Merkle.hex (env.sha256 bytes))

/-- The primary key of a record. -/
def IdempotencyRecord.isFor (key principalSub : PyStr) (record : IdempotencyRecord) : Bool :=
  decide (record.key = key) && decide (record.principalSub = principalSub)

/-- `idempotent_replay`. -/
def idempotentReplay (env : Env) (key principalSub : PyStr) (requestBody : Value)
    (records : List IdempotencyRecord) : Result (Option IdempotencyRecord) :=
  match presented key with
  | none => .ok none
  | some key => match records.find? (IdempotencyRecord.isFor key principalSub) with
    | none => .ok none
    | some record => do
      let bodyHash ← requestHash env requestBody
      Result.require (decide (record.requestHash = bodyHash))
        (.httpException 409 (py "idempotency-conflict"))
      .ok (some record)

/-- The columns of a record accept its values; the response as it is stored. -/
def storedResponse (env : Env) (key principalSub bodyHash : PyStr) (status : Int) (response : Value) :
    Result Value := do
  Db.constrain "idempotency_records" (PyStr.fits 128 key && PyStr.fits 256 principalSub &&
    PyStr.fits 64 bodyHash && integerColumn status)
  Db.jsonbColumn env "idempotency_records" response

/-- `store_idempotency`. The primary key is (key, principal). -/
def storeIdempotency (env : Env) (key principalSub : PyStr) (requestBody : Value)
    (status : Int) (responseBody : Value) (records : List IdempotencyRecord) :
    Result (List IdempotencyRecord) :=
  match presented key with
  | none => .ok records
  | some key => do
    let bodyHash ← requestHash env requestBody
    let stored ← storedResponse env key principalSub bodyHash status responseBody
    Db.constrain "idempotency_records" (!records.any (IdempotencyRecord.isFor key principalSub))
    .ok (records ++
      [{ key := key
         principalSub := principalSub
         requestHash := bodyHash
         responseStatus := status
         responseBody := stored }])

/-- The response of `create_declaration`. -/
def declarationView (body : DeclarationIn) : Value :=
  Value.object [("declarationRef", .str body.declarationRef), ("lines", .int body.lines.length)]

/-- `_assessment_view`. -/
def assessmentView (env : Env) (assessmentId : Nat) (assessment : Assessment) : Value :=
  Value.object
    [("assessmentId", .str (Issuance.assessmentText env assessmentId)),
      ("declarationId", .str (declarationText env assessment.declarationId)),
      ("status", .str assessment.status.name),
      ("currency", .str assessment.currency),
      ("totalDutyKobo", .int assessment.totalDutyKobo),
      ("stampsRequired", .int assessment.stampsRequired),
      ("riskTier", .str assessment.riskTier.name),
      ("approvalsRequired", .int assessment.approvalsRequired),
      ("submittedBy", .str assessment.submittedBy)]

/-- What an intake route does between the replay and the record. -/
def handleIntake (env : Env) (request : IntakeRequest) (db : Db) : Result (Value × Db) :=
  match request.body with
  | .declaration body => do
    let db ← createDeclaration request.occasion request.subject body db
    .ok (declarationView body, db)
  | .assessment body => do
    let (assessmentId, db) ← createAssessment env request.occasion request.subject request.idemKey body db
    let assessment ← Result.one db.assessments[assessmentId]?
    .ok (assessmentView env assessmentId assessment, db)

/-- The two intake routes, one request at a time. -/
def intake (env : Env) (request : IntakeRequest) (records : List IdempotencyRecord) (db : Db) :
    Result (Value × List IdempotencyRecord × Db) := do
  let replay ← idempotentReplay env request.idemKey request.subject request.body.modelDump records
  match replay with
  | some record => .ok (record.responseBody, records, db)
  | none => do
    let (response, db) ← handleIntake env request db
    let records ← storeIdempotency env request.idemKey request.subject request.body.modelDump 201
      response records
    .ok (response, records, db)

end TaxStamps.Api
