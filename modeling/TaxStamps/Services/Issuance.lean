import TaxStamps.Domain.Merkle
import TaxStamps.Domain.Quality
import TaxStamps.Domain.Serials
import TaxStamps.Library.Relock
import TaxStamps.Services.Outbox
import TaxStamps.Services.StatusLists

/-!
# Issuance

`issuance.py`: batches, chunks of stamps, the Merkle anchor, inspection and
activation. Each operation on a batch works on the copy of the row that its
session holds and writes back the columns in which the copy was changed; a
session that reads the row only under its lock passes the stored row.
-/

namespace TaxStamps.Issuance

/-- `IssuanceError(reason, detail)`. -/
def issuanceError (reason : String) (detail : PyStr) : PyError := .issuanceError (py reason) detail

/-- `_primary_line`: a line with the greatest duty, any of them on a tie. -/
def primaryLine (pick assessmentId : Nat) (db : Db) : Result AssessmentLine :=
  let lines := db.assessmentLines.filter (fun line => decide (line.assessmentId = assessmentId))
  let top := lines.filter (fun line =>
    lines.all (fun other => decide (other.totalDutyKobo ≤ line.totalDutyKobo)))
  match top[pick % top.length]? with
  | some line => .ok line
  | none => .error (issuanceError "no-lines" (py "assessment has no stamp-bearing lines"))

/-- `CATEGORIES[line.category]`. -/
def categoryCodeOf (line : AssessmentLine) : Result PyStr :=
  match Serials.categories line.category with
  | some code => .ok code
  | none => .error .keyError

/-- `create_batch`; the identifier of the batch it returns. -/
def createBatch (occasion : Occasion) (assessmentId : Nat) (assessment : Assessment) (db : Db) :
    Result (Nat × Db) := do
  Result.require (decide (assessment.status = .paid))
    (issuanceError "invalid-state"
      (py "assessment is " ++ assessment.status.name ++ py ", expected PAID"))
  match Rows.select (fun row => decide (row.assessmentId = assessmentId)) db.stampBatches with
  | some existing => .ok (existing.1, db)
  | none => do
    Result.require (decide (0 < assessment.stampsRequired))
      (issuanceError "nothing-to-issue" (py "assessment requires zero stamps"))
    let line ← primaryLine occasion.pick assessmentId db
    let categoryCode ← categoryCodeOf line
    let db := Assessments.setStatus assessmentId .issuing db
    let batchId := db.stampBatches.length
    let db ← db.insertStampBatch
      { assessmentId := assessmentId
        categoryCode := categoryCode
        year := Datetime.year occasion.time
        quantity := assessment.stampsRequired
        issuedCount := 0
        status := .pending
        merkleRoot := []
        createdAt := occasion.time }
    .ok (batchId, db)

/-- `_claim_serial_block`; the first sequence of the block. -/
def claimSerialBlock (categoryCode : PyStr) (year count : Int) (db : Db) : Result (Int × Db) :=
  match Rows.select (fun row => decide (row.categoryCode = categoryCode ∧ row.year = year))
      db.serialCounters with
  | some (id, counter) => do
    let next := counter.nextSequence + count
    Db.constrain "serial_counters" (bigIntegerColumn next)
    .ok (next - count, { db with
      serialCounters := db.serialCounters.modify id (fun row => { row with nextSequence := next }) })
  | none => do
    Db.constrain "serial_counters"
      (PyStr.fits 3 categoryCode && integerColumn year && bigIntegerColumn count)
    .ok (count - count, { db with serialCounters := db.serialCounters ++ [⟨categoryCode, year, count⟩] })

/-- The three status purposes in the order of the credential. -/
def statusPurposes : List PyStr := purposes

/-- What all stamps of a chunk share. -/
structure Chunk where
  batchId : Nat
  categoryCode : PyStr
  year : Int
  hsCode : PyStr
  declarationRef : PyStr
  consigneeTin : PyStr
  dutyPaidKobo : Int
  validFrom : Datetime
  validUntil : Datetime

/-- The credential of a stamp before it is signed. -/
def stampDocument (env : Env) (chunk : Chunk) (serial : PyStr) (index : Nat) : List (Key × Value) :=
  Vc.buildStampCredential (env.settings.issuerDid ++ py "/credentials/" ++ serial)
    env.settings.issuerDid serial chunk.hsCode chunk.declarationRef chunk.consigneeTin
    chunk.dutyPaidKobo (Datetime.isoSeconds chunk.validFrom) (Datetime.isoSeconds chunk.validUntil)
    (statusPurposes.map (fun purpose => .dict
      (StatusList.statusEntry (StatusLists.listCredentialId env.settings purpose) index purpose)))

/-- One pass of the issuing loop. -/
def issueStamp (env : Env) (time : Datetime) (chunk : Chunk) (sequence : Int) (db : Db) :
    Result Db := do
  let serial ← Serials.buildSerial env.unicode chunk.categoryCode chunk.year sequence
  let index ← StatusLists.allocateIndex db
  let credential ← Vc.issueProof env (stampDocument env chunk serial index)
    (StatusLists.verificationMethod env.settings) (Datetime.isoSeconds time)
  db.insertStamp env
    { batchId := chunk.batchId
      serial := serial
      categoryCode := chunk.categoryCode
      year := chunk.year
      sequence := sequence
      status := .issued
      hsCode := chunk.hsCode
      declarationRef := chunk.declarationRef
      consigneeTin := chunk.consigneeTin
      dutyPaidKobo := chunk.dutyPaidKobo
      statusListIndex := index
      credential := .dict credential
      validFrom := chunk.validFrom
      validUntil := chunk.validUntil
      activatedAt := none
      firstScanAt := none
      firstScanVerifier := []
      firstScanLatMicros := none
      firstScanLongMicros := none }

/-- The issuing loop. -/
def issueStamps (env : Env) (time : Datetime) (chunk : Chunk) : Nat → Int → Db → Result Db
  | 0, _, db => .ok db
  | count + 1, sequence, db => do
    let db ← issueStamp env time chunk sequence db
    issueStamps env time chunk count (sequence + 1) db

/-- `UPDATE stamp_batches`: the columns in which the session's copy was changed. -/
def writeBatch (batchId : Nat) (copy changed : StampBatch) (db : Db) : Result Db :=
  db.updateStampBatch batchId (fun stored =>
    { stored with
      issuedCount := Relock.column copy.issuedCount changed.issuedCount stored.issuedCount
      status := Relock.column copy.status changed.status stored.status
      merkleRoot := Relock.column copy.merkleRoot changed.merkleRoot stored.merkleRoot })

/-- The size of the next chunk. -/
def chunkSize (settings : Settings) (requested : Option Int) (remaining : Int) : Int :=
  let size := match requested with
    | some size => if size = 0 then settings.issuanceChunkSize else size
    | none => settings.issuanceChunkSize
  min size remaining

/-- `issue_chunk` once the batch's lock is held, on the session's copy; the number
issued and the copy after the call. -/
def issueChunk (env : Env) (occasion : Occasion) (requested : Option Int) (batchId : Nat)
    (locked : StampBatch) (db : Db) : Result (Int × StampBatch × Db) :=
  if locked.status ≠ .pending ∧ locked.status ≠ .issuing then .ok (0, locked, db)
  else
    let remaining := locked.quantity - locked.issuedCount
    if remaining ≤ 0 then do
      let changed := { locked with status := BatchStatus.issued }
      let db ← writeBatch batchId locked changed db
      .ok (0, changed, db)
    else do
      let size := chunkSize env.settings requested remaining
      let (base, db) ← claimSerialBlock locked.categoryCode locked.year size db
      let assessment ← Result.one db.assessments[locked.assessmentId]?
      let declaration ← Result.one db.declarations[assessment.declarationId]?
      let line ← primaryLine occasion.pick locked.assessmentId db
      let validUntil ← Datetime.addDays occasion.time env.settings.stampValidityDays
      let db ← issueStamps env occasion.time
        { batchId := batchId
          categoryCode := locked.categoryCode
          year := locked.year
          hsCode := line.hsCode
          declarationRef := declaration.declarationRef
          consigneeTin := declaration.consigneeTin
          dutyPaidKobo := assessment.totalDutyKobo
          validFrom := occasion.time
          validUntil := validUntil } size.toNat base db
      let issuedCount := locked.issuedCount + size
      let changed := { locked with
        issuedCount := issuedCount
        status := if issuedCount < locked.quantity then BatchStatus.issuing else .issued }
      let db ← writeBatch batchId locked changed db
      .ok (size, changed, db)

/-- The serials of a batch in the order of their sequences. -/
def batchSerials (batchId : Nat) (db : Db) : List PyStr :=
  ((db.stamps.filter (fun stamp => decide (stamp.batchId = batchId))).insertionSort
    (fun left right => left.sequence ≤ right.sequence)).map Stamp.serial

/-- The bytes of each text, up to the first that has none. -/
def encodeAll : List PyStr → Result (List Bytes)
  | [] => .ok []
  | text :: rest => do
    let bytes ← Jcs.utf8 text
    let others ← encodeAll rest
    .ok (bytes :: others)

/-- The identifier of a batch, as a text. -/
def batchText (env : Env) (batchId : Nat) : PyStr := env.uuid (py "stamp_batches") batchId

/-- The identifier of an assessment, as a text. -/
def assessmentText (env : Env) (assessmentId : Nat) : PyStr :=
  env.uuid (py "assessments") assessmentId

/-- `finalize_batch`. -/
def finalizeBatch (env : Env) (occasion : Occasion) (principalSub : PyStr) (batchId : Nat)
    (locked : StampBatch) (db : Db) : Result Db := do
  Result.require (decide (locked.status = .issued))
    (issuanceError "invalid-state" (py "batch is " ++ locked.status.name ++ py ", expected ISSUED"))
  let leaves ← encodeAll (batchSerials batchId db)
  let root := Merkle.merkleRoot env leaves
  let db ← writeBatch batchId locked { locked with merkleRoot := root, status := .ready } db
  Outbox.enqueue env occasion .issued
    [(key "batchId", .str (batchText env batchId)),
      (key "assessmentId", .str (assessmentText env locked.assessmentId)),
      (key "categoryCode", .str locked.categoryCode),
      (key "quantity", .int locked.quantity),
      (key "merkleRoot", .str root)]
    principalSub (py "excise-officer") (assessmentText env locked.assessmentId) db

/-- `record_inspection`; the row it records. -/
def recordInspection (occasion : Occasion) (defectives : Int) (inspectorSub : PyStr) (batchId : Nat)
    (locked : StampBatch) (db : Db) : Result (Inspection × Db) := do
  Result.require (decide (locked.status = .ready ∨ locked.status = .active))
    (issuanceError "invalid-state" (py "batch is " ++ locked.status.name ++ py ", expected READY"))
  let plan ← Quality.planForLot locked.quantity
  let passed ← Quality.evaluateSample plan defectives
  let inspection : Inspection :=
    { batchId := batchId
      lotSize := locked.quantity
      codeLetter := plan.codeLetter
      sampleSize := plan.sampleSize
      accept := plan.accept
      reject := plan.reject
      defectives := defectives
      result := if passed then .pass else .fail
      inspectorSub := inspectorSub
      createdAt := occasion.time }
  let db ← db.insertInspection inspection
  if passed then .ok (inspection, db)
  else do
    let db ← writeBatch batchId locked { locked with status := .inspectionFailed } db
    .ok (inspection, db)

/-- The stamps that the activation of a batch touches. -/
def activates (batchId : Nat) (stamp : Stamp) : Bool :=
  decide (stamp.batchId = batchId) && decide (stamp.status = .issued)

/-- `UPDATE stamps SET status = 'ACTIVE' ... WHERE batch_id = :bid AND status = 'ISSUED'`. -/
def activateStamps (batchId : Nat) (time : Datetime) (db : Db) : Db :=
  { db with
    stamps := db.stamps.map (fun stamp =>
      if activates batchId stamp then { stamp with status := .active, activatedAt := some time }
      else stamp) }

/-- `activate_batch`; the number of stamps activated. -/
def activateBatch (env : Env) (occasion : Occasion) (principalSub : PyStr) (batchId : Nat)
    (locked : StampBatch) (db : Db) : Result (Nat × Db) := do
  Result.require (decide (locked.status = .ready))
    (issuanceError "invalid-state" (py "batch is " ++ locked.status.name ++ py ", expected READY"))
  Result.require
    (db.inspections.any (fun row => decide (row.batchId = batchId) && decide (row.result = .pass)))
    (issuanceError "inspection-required" (py "batch has no passing inspection"))
  let count := db.stamps.countP (activates batchId)
  let db := activateStamps batchId occasion.time db
  let db ← writeBatch batchId locked { locked with status := .active } db
  let db ← Outbox.enqueue env occasion .activated
    [(key "batchId", .str (batchText env batchId)), (key "activatedCount", .int count)]
    principalSub (py "excise-officer") (assessmentText env locked.assessmentId) db
  .ok (count, db)

end TaxStamps.Issuance
