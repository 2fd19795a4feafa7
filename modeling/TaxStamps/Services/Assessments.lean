import TaxStamps.Domain.Tariff
import TaxStamps.Models

/-!
# Assessments and maker-checker decisions

`assessments.py`. The duty and the number of stamps are computed from the
declaration's own lines; a client total never enters.
-/

namespace TaxStamps

/-- What a request finds besides the database: a reading of the clock, and which
of several rows of equal rank a query with a limit returns. -/
structure Occasion where
  now : Moment
  pick : Nat

/-- The clock reading. -/
abbrev Occasion.time (occasion : Occasion) : Datetime := occasion.now.time

namespace Assessments

/-- `risk_tier_for`. -/
def riskTierFor (totalDutyKobo : Int) : RiskTier × Int :=
  if 2500000000 ≤ totalDutyKobo then (.high, 3)
  else if 100000000 ≤ totalDutyKobo then (.standard, 2)
  else (.low, 1)

/-- What the loop over the declaration's lines accumulates. -/
structure Computed where
  total : Int
  stamps : Int
  lines : List AssessmentLine

/-- One pass of the loop for one line, over a table of any rows. A line that bears no
stamp is skipped. -/
def assessLineIn (table : List Tariff.TariffRate) (env : Env) (on : Date) (assessmentId : Nat)
    (computed : Computed) (line : DeclarationLine) : Result Computed := do
  let duty ← Tariff.computeLineDutyIn table env.unicode line.hsCode line.quantity line.customsValueKobo on
  match duty with
  | none => .ok computed
  | some duty =>
    .ok
      { total := computed.total + duty.totalKobo
        stamps := computed.stamps + line.stampsRequired
        lines := computed.lines ++
          [{ assessmentId := assessmentId
             hsCode := line.hsCode
             category := duty.tariff.category
             quantity := line.quantity
             unit := line.unit
             customsValueKobo := line.customsValueKobo
             specificDutyKobo := duty.specificDutyKobo
             adValoremDutyKobo := duty.adValoremDutyKobo
             totalDutyKobo := duty.totalKobo
             statutoryRef := duty.tariff.statutoryRef
             tariffEffectiveFrom := duty.tariff.effectiveFrom }] }

/-- The loop over the declaration's lines, over a table of any rows. -/
def assessLinesIn (table : List Tariff.TariffRate) (env : Env) (on : Date) (assessmentId : Nat) :
    List DeclarationLine → Computed → Result Computed
  | [], computed => .ok computed
  | line :: rest, computed => do
    let computed ← assessLineIn table env on assessmentId computed line
    assessLinesIn table env on assessmentId rest computed

/-- One pass of the loop for one line. -/
def assessLine : Env → Date → Nat → Computed → DeclarationLine → Result Computed :=
  assessLineIn Tariff.tariffTable

/-- The loop over the declaration's lines. -/
def assessLines : Env → Date → Nat → List DeclarationLine → Computed → Result Computed :=
  assessLinesIn Tariff.tariffTable

/-- Adds the lines of an assessment in turn. -/
def insertLines : List AssessmentLine → Db → Result Db
  | [], db => .ok db
  | line :: rest, db => do
    let db ← db.insertAssessmentLine line
    insertLines rest db

/-- `SELECT ... WHERE idempotency_key = :key`. -/
def heldUnder (idempotencyKey : PyStr) (db : Db) : Option (Nat × Assessment) :=
  Rows.select (fun row => decide (row.idempotencyKey = idempotencyKey)) db.assessments

/-- The lines of a declaration. -/
def linesOf (declarationId : Nat) (lines : List DeclarationLine) : List DeclarationLine :=
  lines.filter (fun line => decide (line.declarationId = declarationId))

/-- `if not lines: raise ...`. -/
def requireLines (declarationId : Nat) (db : Db) : Result Unit :=
  Result.require (!(linesOf declarationId db.declarationLines).isEmpty)
    (.assessmentError (py "empty-declaration") (py "declaration has no line items"))

/-- The assessment of the lines, and its lines. -/
def addAssessment (env : Env) (occasion : Occasion) (declarationId : Nat)
    (submittedBy idempotencyKey : PyStr) (lines : List DeclarationLine) (db : Db) : Result (Nat × Db) := do
  let assessmentId := db.assessments.length
  let computed ← assessLines env (Datetime.date occasion.time) assessmentId lines ⟨0, 0, []⟩
  Result.require (!computed.lines.isEmpty)
    (.assessmentError (py "not-stamp-bearing") (py "no line item maps to a stamp category"))
  let tier := riskTierFor computed.total
  let db ← db.insertAssessment
    { declarationId := declarationId
      status := .pendingApproval
      currency := py "NGN"
      totalDutyKobo := computed.total
      stampsRequired := computed.stamps
      riskTier := tier.1
      approvalsRequired := tier.2
      submittedBy := submittedBy
      submittedAt := occasion.time
      decidedAt := none
      idempotencyKey := idempotencyKey }
  let db ← insertLines computed.lines db
  .ok (assessmentId, db)

/-- `create_assessment`; the identifier of the assessment it returns. -/
def createAssessment (env : Env) (occasion : Occasion) (declarationId : Nat)
    (submittedBy idempotencyKey : PyStr) (db : Db) : Result (Nat × Db) :=
  match heldUnder idempotencyKey db with
  | some existing => .ok (existing.1, db)
  | none => do
    requireLines declarationId db
    addAssessment env occasion declarationId submittedBy idempotencyKey
      (linesOf declarationId db.declarationLines) db

/-- The decisions on an assessment. -/
def approvalsOf (assessmentId : Nat) (db : Db) : List Approval :=
  db.approvals.filter (fun approval => decide (approval.assessmentId = assessmentId))

/-- Writes the status of an assessment. -/
def setStatus (id : Nat) (status : AssessmentStatus) (db : Db) : Db :=
  { db with assessments := db.assessments.modify id (fun row => { row with status := status }) }

/-- The status a decision leads to and the time it was decided. -/
def decided (id : Nat) (status : AssessmentStatus) (time : Datetime) (db : Db) : Db :=
  { db with
    assessments := db.assessments.modify id
      (fun row => { row with status := status, decidedAt := some time }) }

/-- `record_decision`. The decision is one of the two the schema admits. -/
def recordDecision (occasion : Occasion) (assessmentId : Nat) (principalSub : PyStr)
    (decision : Decision) (reason : PyStr) (db : Db) : Result Db :=
  match db.assessments[assessmentId]? with
  | none => .error (.assessmentError (py "not-found") (py "assessment not found"))
  | some assessment => do
    Result.require (decide (principalSub ≠ assessment.submittedBy))
      (.assessmentError (py "self-approval") (py "the submitter cannot approve their own assessment"))
    Result.require
      (!(approvalsOf assessmentId db).any (fun approval => decide (approval.principalSub = principalSub)))
      (.assessmentError (py "duplicate-decision") (py "principal already decided on this assessment"))
    Result.require (decide (assessment.status = .pendingApproval))
      (.assessmentError (py "invalid-state") (py "assessment is " ++ assessment.status.name))
    let level : Int := (approvalsOf assessmentId db).length + 1
    let db ← db.insertApproval
      { assessmentId := assessmentId
        principalSub := principalSub
        decision := decision
        level := level
        reason := reason
        decidedAt := occasion.time }
    match decision with
    | .reject => .ok (decided assessmentId .rejected occasion.time db)
    | .approve =>
      -- The count includes the decision that was just recorded.
      let approvals : Int := (approvalsOf assessmentId db).countP (fun approval =>
        decide (approval.decision = .approve))
      if assessment.approvalsRequired ≤ approvals then
        .ok (decided assessmentId .approved occasion.time db)
      else .ok db

end Assessments

end TaxStamps
