import TaxStamps.Models

/-!
# What an insertion does

An accepted insertion appends the row and passes the constraints of its table.
Nothing below an operation needs to be unfolded again.
-/

namespace TaxStamps.Db

variable {db after : Db}

/-- A constrained change passes its constraints and is the change. -/
theorem constrained {table : String} {accepted : Bool} {changed : Db} :
    (constrain table accepted >>= fun _ => (.ok changed : Result Db)) = .ok after ↔
      accepted = true ∧ after = changed := by
  cases accepted <;> simp [constrain, Result.require, eq_comm]

/-- An inserted declaration is the last row. -/
theorem insertDeclaration_ok {row : Declaration} (inserted : db.insertDeclaration row = .ok after) :
    after = { db with declarations := db.declarations ++ [row] } := (constrained.mp inserted).2

/-- An inserted line of a declaration is the last row. -/
theorem insertDeclarationLine_ok {row : DeclarationLine}
    (inserted : db.insertDeclarationLine row = .ok after) :
    after = { db with declarationLines := db.declarationLines ++ [row] } := (constrained.mp inserted).2

/-- The duty of an assessment fits its column. -/
theorem insertAssessment_ok {row : Assessment} (inserted : db.insertAssessment row = .ok after) :
    bigIntegerColumn row.totalDutyKobo = true ∧
      after = { db with assessments := db.assessments ++ [row] } := by
  obtain ⟨accepted, changed⟩ := constrained.mp inserted
  simp only [Bool.and_eq_true] at accepted
  obtain ⟨⟨⟨⟨⟨⟨⟨⟨⟨_, total⟩, _⟩, _⟩, _⟩, _⟩, _⟩, _⟩, _⟩, _⟩ := accepted
  exact ⟨total, changed⟩

/-- An inserted line of an assessment is the last row. -/
theorem insertAssessmentLine_ok {row : AssessmentLine}
    (inserted : db.insertAssessmentLine row = .ok after) :
    after = { db with assessmentLines := db.assessmentLines ++ [row] } := (constrained.mp inserted).2

/-- An inserted decision is the last row. -/
theorem insertApproval_ok {row : Approval} (inserted : db.insertApproval row = .ok after) :
    after = { db with approvals := db.approvals ++ [row] } := (constrained.mp inserted).2

/-- An intent has a positive amount. -/
theorem insertPaymentIntent_ok {row : PaymentIntent} (inserted : db.insertPaymentIntent row = .ok after) :
    0 < row.expectedAmountKobo ∧ after = { db with paymentIntents := db.paymentIntents ++ [row] } := by
  obtain ⟨accepted, changed⟩ := constrained.mp inserted
  simp only [Bool.and_eq_true, decide_eq_true_eq] at accepted
  exact ⟨accepted.1.2, changed⟩

/-- A receipt's reference is new. -/
theorem insertPaymentReceipt_ok {row : PaymentReceipt}
    (inserted : db.insertPaymentReceipt row = .ok after) :
    (∀ other ∈ db.paymentReceipts, other.externalReference ≠ row.externalReference) ∧
      after = { db with paymentReceipts := db.paymentReceipts ++ [row] } := by
  obtain ⟨accepted, changed⟩ := constrained.mp inserted
  simp only [Bool.and_eq_true, decide_eq_true_eq, List.all_eq_true] at accepted
  exact ⟨accepted.2, changed⟩

/-- An inserted journal is the last row. -/
theorem insertJournal_ok {row : Journal} (inserted : db.insertJournal row = .ok after) :
    after = { db with journals := db.journals ++ [row] } := (constrained.mp inserted).2

/-- An inserted ledger entry is the last row. -/
theorem insertLedgerEntry_ok {row : LedgerEntry} (inserted : db.insertLedgerEntry row = .ok after) :
    after = { db with ledgerEntries := db.ledgerEntries ++ [row] } := (constrained.mp inserted).2

/-- A batch's assessment has no other batch. -/
theorem insertStampBatch_ok {row : StampBatch} (inserted : db.insertStampBatch row = .ok after) :
    (∀ other ∈ db.stampBatches, other.assessmentId ≠ row.assessmentId) ∧
      after = { db with stampBatches := db.stampBatches ++ [row] } := by
  obtain ⟨accepted, changed⟩ := constrained.mp inserted
  simp only [Bool.and_eq_true, decide_eq_true_eq, List.all_eq_true] at accepted
  exact ⟨accepted.2, changed⟩

/-- An updated batch passes the checks of its table. -/
theorem updateStampBatch_ok {id : Nat} {change : StampBatch → StampBatch}
    (updated : db.updateStampBatch id change = .ok after) :
    (∀ row, db.stampBatches[id]? = some row → batchAccepted (change row) = true) ∧
      after = { db with stampBatches := db.stampBatches.modify id change } := by
  obtain ⟨accepted, changed⟩ := constrained.mp updated
  refine ⟨fun row stored => ?_, changed⟩
  rw [stored] at accepted
  exact accepted

/-- An inserted inspection is the last row. -/
theorem insertInspection_ok {row : Inspection} (inserted : db.insertInspection row = .ok after) :
    after = { db with inspections := db.inspections ++ [row] } := (constrained.mp inserted).2

/-- An inserted attempt is the last row. -/
theorem insertVerification_ok {row : Verification} (inserted : db.insertVerification row = .ok after) :
    after = { db with verifications := db.verifications ++ [row] } := (constrained.mp inserted).2

variable {env : Env}

/-- What a JSONB column accepts it stores as the database reads it. -/
theorem jsonbColumn_ok {table : String} {document stored : Value}
    (accepted : jsonbColumn env table document = .ok stored) : env.jsonb document = some stored := by
  unfold jsonbColumn at accepted
  split at accepted
  case _ value found =>
    cases accepted
    exact found
  · cases accepted

/-- What an accepted stamp adds: unique keys and columns that fit. -/
structure StampAccepted (stamps : List Stamp) (row : Stamp) : Prop where
  serial_new : ∀ other ∈ stamps, other.serial ≠ row.serial
  index_new : ∀ other ∈ stamps, other.statusListIndex ≠ row.statusListIndex
  hsCode_fits : PyStr.fits 16 row.hsCode = true
  reference_fits : PyStr.fits 64 row.declarationRef = true
  tin_fits : PyStr.fits 32 row.consigneeTin = true

/-- An inserted stamp is accepted by its table and is the last row, its credential as the column
keeps it. -/
theorem insertStamp_ok {row : Stamp} (inserted : db.insertStamp env row = .ok after) :
    ∃ stored, env.jsonb row.credential = some stored ∧ StampAccepted db.stamps row ∧
      after = { db with stamps := db.stamps ++ [{ row with credential := stored }] } := by
  obtain ⟨stored, column, inserted⟩ := Result.bind_ok.mp inserted
  obtain ⟨accepted, changed⟩ := constrained.mp inserted
  simp only [Bool.and_eq_true, List.all_eq_true, decide_eq_true_eq] at accepted
  obtain ⟨⟨⟨⟨⟨⟨_, hsCode⟩, reference⟩, tin⟩, _⟩, _⟩, unique⟩ := accepted
  exact ⟨stored, jsonbColumn_ok column, ⟨fun other present => (unique other present).1.1,
    fun other present => (unique other present).1.2, hsCode, reference, tin⟩, changed⟩

/-- An inserted message is the last row, its envelope as the column keeps it. -/
theorem insertOutboxMessage_ok {row : OutboxMessage} (inserted : db.insertOutboxMessage env row = .ok after) :
    ∃ stored, env.jsonb row.envelope = some stored ∧
      after = { db with outboxMessages := db.outboxMessages ++ [{ row with envelope := stored }] } := by
  obtain ⟨stored, column, inserted⟩ := Result.bind_ok.mp inserted
  exact ⟨stored, jsonbColumn_ok column, (constrained.mp inserted).2⟩

/-- An inserted snapshot has a version that its purpose did not have. -/
theorem insertStatusListSnapshot_ok {row : StatusListSnapshot}
    (inserted : db.insertStatusListSnapshot env row = .ok after) :
    ∃ stored, env.jsonb row.credential = some stored ∧
      (∀ other ∈ db.statusListSnapshots, other.purpose = row.purpose → other.version ≠ row.version) ∧
      after = { db with
        statusListSnapshots := db.statusListSnapshots ++ [{ row with credential := stored }] } := by
  obtain ⟨stored, column, inserted⟩ := Result.bind_ok.mp inserted
  obtain ⟨accepted, changed⟩ := constrained.mp inserted
  simp only [Bool.and_eq_true, List.all_eq_true, Bool.not_eq_true', Bool.and_eq_false_iff,
    decide_eq_false_iff_not] at accepted
  refine ⟨stored, jsonbColumn_ok column, fun other present same => ?_, changed⟩
  exact (accepted.2 other present).resolve_left (not_not_intro same)

end TaxStamps.Db
