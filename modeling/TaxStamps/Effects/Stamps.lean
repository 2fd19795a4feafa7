import TaxStamps.Effects.Flow

/-!
# From batch to activation

What each operation on a batch does to the tables when it succeeds. The
operations work on the session's copy of the batch, so each statement speaks of
the copy where the code does and of the stored row where the database does.
-/

namespace TaxStamps.Issuance

variable {env : Env} {occasion : Occasion} {db after : Db}

/-- A new batch of an assessment. -/
structure Opened (db : Db) (assessmentId : Nat) (assessment : Assessment) (batch : StampBatch) : Prop where
  subject : batch.assessmentId = assessmentId
  quantity : batch.quantity = assessment.stampsRequired
  count : batch.issuedCount = 0
  pending : batch.status = .pending
  only : ∀ other ∈ db.stampBatches, other.assessmentId ≠ assessmentId

/-- A batch that is returned was there, or is opened for a paid assessment. -/
theorem createBatch_ok {assessmentId batchId : Nat} {assessment : Assessment}
    (created : createBatch occasion assessmentId assessment db = .ok (batchId, after)) :
    assessment.status = .paid ∧ (after = db ∨ ∃ batch, Opened db assessmentId assessment batch ∧
      after = { db with
        assessments := db.assessments.modify assessmentId (fun row => { row with status := .issuing })
        stampBatches := db.stampBatches ++ [batch] }) := by
  obtain ⟨_, paid, created⟩ := Result.bind_ok.mp created
  rw [Result.require_ok, decide_eq_true_eq] at paid
  refine ⟨paid, ?_⟩
  split at created
  case _ existing _ =>
    cases created
    exact Or.inl rfl
  case _ =>
    obtain ⟨_, _, created⟩ := Result.bind_ok.mp created
    obtain ⟨line, _, created⟩ := Result.bind_ok.mp created
    obtain ⟨categoryCode, _, created⟩ := Result.bind_ok.mp created
    obtain ⟨middle, inserted, created⟩ := Result.bind_ok.mp created
    obtain ⟨rfl, rfl⟩ := Prod.mk.inj (Except.ok.inj created)
    obtain ⟨only, rfl⟩ := Db.insertStampBatch_ok inserted
    refine Or.inr ⟨_, ?_, rfl⟩
    exact ⟨rfl, rfl, rfl, rfl, only⟩

/-- What a new batch was made of: a positive number of stamps, and a line of the
assessment with the greatest duty. -/
structure Made (db : Db) (assessmentId : Nat) (assessment : Assessment) (batch : StampBatch) : Prop where
  positive : 0 < assessment.stampsRequired
  line : ∃ pick line, primaryLine pick assessmentId db = .ok line ∧
    categoryCodeOf line = .ok batch.categoryCode

/-- A batch row that the call added is the batch that was opened. -/
theorem createBatch_made {assessmentId batchId : Nat} {assessment : Assessment} {batch : StampBatch}
    (created : createBatch occasion assessmentId assessment db = .ok (batchId, { db with
      assessments := db.assessments.modify assessmentId (fun row => { row with status := .issuing })
      stampBatches := db.stampBatches ++ [batch] })) : Made db assessmentId assessment batch := by
  obtain ⟨_, _, created⟩ := Result.bind_ok.mp created
  split at created
  case _ existing _ =>
    have batches := congrArg Db.stampBatches (Prod.mk.inj (Except.ok.inj created)).2
    have lengths := congrArg List.length batches
    rw [List.length_append, List.length_singleton] at lengths
    omega
  case _ =>
    obtain ⟨_, positive, created⟩ := Result.bind_ok.mp created
    rw [Result.require_ok, decide_eq_true_eq] at positive
    obtain ⟨line, primary, created⟩ := Result.bind_ok.mp created
    obtain ⟨categoryCode, coded, created⟩ := Result.bind_ok.mp created
    obtain ⟨middle, inserted, created⟩ := Result.bind_ok.mp created
    obtain ⟨_, rfl⟩ := Prod.mk.inj (Except.ok.inj created)
    obtain ⟨_, changed⟩ := Db.insertStampBatch_ok inserted
    have batches := congrArg Db.stampBatches changed
    obtain ⟨_, last⟩ := List.append_inj' batches rfl
    obtain rfl := (List.cons.inj last).1
    exact ⟨positive, occasion.pick, line, primary, coded⟩

/-- A claimed block of serial numbers changes the counters alone. -/
theorem claimSerialBlock_ok {categoryCode : PyStr} {year count base : Int}
    (claimed : claimSerialBlock categoryCode year count db = .ok (base, after)) :
    ∃ counters, after = { db with serialCounters := counters } := by
  unfold claimSerialBlock at claimed
  split at claimed
  all_goals
    obtain ⟨_, _, claimed⟩ := Result.bind_ok.mp claimed
    obtain ⟨_, rfl⟩ := Prod.mk.inj (Except.ok.inj claimed)
    exact ⟨_, rfl⟩

/-- A stamp as a pass of the issuing loop adds it to the stamps there are. -/
structure FreshStamp (env : Env) (time : Datetime) (chunk : Chunk) (stamps : List Stamp) (row : Stamp) :
    Prop where
  accepted : Db.StampAccepted stamps row
  batch : row.batchId = chunk.batchId
  issued : row.status = .issued
  unscanned : row.firstScanAt = none
  validity : row.validUntil = chunk.validUntil
  numbered : ∃ sequence, Serials.buildSerial env.unicode chunk.categoryCode chunk.year sequence =
    .ok row.serial
  index_bounded : row.statusListIndex < defaultListSizeBits
  reference : row.declarationRef = chunk.declarationRef
  credential : ∃ signed, Vc.issueProof env (stampDocument env chunk row.serial row.statusListIndex)
      (StatusLists.verificationMethod env.settings) (Datetime.isoSeconds time) = .ok signed ∧
    env.jsonb (.dict signed) = some row.credential
  hsCode : row.hsCode = chunk.hsCode
  consignee : row.consigneeTin = chunk.consigneeTin

/-- An allocated index lies within a status list. -/
theorem allocateIndex_ok {index : Nat} (allocated : StatusLists.allocateIndex db = .ok index) :
    index < defaultListSizeBits := by
  unfold StatusLists.allocateIndex at allocated
  dsimp only at allocated
  split at allocated <;> split at allocated
  all_goals cases allocated
  all_goals omega

/-- An issued stamp is one fresh row. -/
theorem issueStamp_ok {time : Datetime} {chunk : Chunk} {sequence : Int}
    (issued : issueStamp env time chunk sequence db = .ok after) :
    ∃ row, FreshStamp env time chunk db.stamps row ∧ after = { db with stamps := db.stamps ++ [row] } := by
  obtain ⟨serial, numbered, issued⟩ := Result.bind_ok.mp issued
  obtain ⟨index, allocated, issued⟩ := Result.bind_ok.mp issued
  obtain ⟨signed, signing, inserted⟩ := Result.bind_ok.mp issued
  obtain ⟨stored, kept, accepted, rfl⟩ := Db.insertStamp_ok inserted
  refine ⟨_, ?_, rfl⟩
  exact
    { accepted := ⟨accepted.serial_new, accepted.index_new, accepted.hsCode_fits,
        accepted.reference_fits, accepted.tin_fits⟩
      batch := rfl
      issued := rfl
      unscanned := rfl
      validity := rfl
      numbered := ⟨sequence, numbered⟩
      index_bounded := allocateIndex_ok allocated
      reference := rfl
      credential := ⟨signed, signing, kept⟩
      hsCode := rfl
      consignee := rfl }

/-- The stamps of a chunk, each fresh when it was added. -/
def Issued (env : Env) (time : Datetime) (chunk : Chunk) : List Stamp → List Stamp → Prop
  | _, [] => True
  | stamps, row :: rest =>
    FreshStamp env time chunk stamps row ∧ Issued env time chunk (stamps ++ [row]) rest

/-- What holds of the stamps and is kept by one fresh stamp is kept by a chunk. -/
theorem Issued.preserves {time : Datetime} {chunk : Chunk} {stamps new : List Stamp}
    (issued : Issued env time chunk stamps new) {holds : List Stamp → Prop}
    (step : ∀ stamps row, holds stamps → FreshStamp env time chunk stamps row → holds (stamps ++ [row]))
    (initially : holds stamps) : holds (stamps ++ new) := by
  induction new generalizing stamps with
  | nil => simpa using initially
  | cons row rest inductionHypothesis =>
    obtain ⟨fresh, later⟩ := issued
    have joined := inductionHypothesis later (step stamps row initially fresh)
    rwa [List.append_assoc, List.singleton_append] at joined

/-- What every fresh stamp has, every stamp of a chunk has. -/
theorem Issued.each {time : Datetime} {chunk : Chunk} {stamps new : List Stamp}
    (issued : Issued env time chunk stamps new) {row : Stamp} (member : row ∈ new) :
    ∃ earlier, FreshStamp env time chunk earlier row := by
  induction new generalizing stamps with
  | nil => cases member
  | cons first rest inductionHypothesis =>
    obtain ⟨fresh, later⟩ := issued
    rcases List.mem_cons.mp member with rfl | member
    · exact ⟨stamps, fresh⟩
    · exact inductionHypothesis later member

/-- Issuing a number of stamps adds as many fresh rows, each fresh after those before it. -/
theorem issueStamps_ok {time : Datetime} {chunk : Chunk} {count : Nat} {sequence : Int}
    (issued : issueStamps env time chunk count sequence db = .ok after) :
    ∃ new, new.length = count ∧ Issued env time chunk db.stamps new ∧
      after = { db with stamps := db.stamps ++ new } := by
  induction count generalizing sequence db with
  | zero =>
    cases issued
    exact ⟨[], rfl, trivial, by simp⟩
  | succ count inductionHypothesis =>
    obtain ⟨middle, first, issued⟩ := Result.bind_ok.mp issued
    obtain ⟨row, fresh, rfl⟩ := issueStamp_ok first
    obtain ⟨rest, counted, later, rfl⟩ := inductionHypothesis issued
    exact ⟨row :: rest, by simp [counted], ⟨fresh, later⟩, by simp⟩

/-- The batches after a session wrote the columns it changed in its copy. -/
def written (batchId : Nat) (copy changed : StampBatch) (batches : List StampBatch) : List StampBatch :=
  batches.modify batchId (fun stored =>
    { stored with
      issuedCount := Relock.column copy.issuedCount changed.issuedCount stored.issuedCount
      status := Relock.column copy.status changed.status stored.status
      merkleRoot := Relock.column copy.merkleRoot changed.merkleRoot stored.merkleRoot })

/-- A written batch satisfies the checks of its table, and no other table changes. -/
theorem writeBatch_ok {batchId : Nat} {copy changed : StampBatch}
    (wrote : writeBatch batchId copy changed db = .ok after) :
    (∀ row, (written batchId copy changed db.stampBatches)[batchId]? = some row →
        Db.batchAccepted row = true) ∧
      after = { db with stampBatches := written batchId copy changed db.stampBatches } := by
  obtain ⟨accepted, changed⟩ := Db.updateStampBatch_ok wrote
  refine ⟨fun row stored => ?_, changed⟩
  rcases Rows.stored_modify_cases stored with ⟨other, _⟩ | ⟨_, old, present, rfl⟩
  · exact absurd rfl other
  · exact accepted old present

/-- Writing a batch keeps what is told by its other columns. -/
theorem written_keeps {κ : Type*} (facts : StampBatch → κ)
    (same : ∀ (row : StampBatch) (count : Int) (status : BatchStatus) (root : PyStr),
      facts { row with issuedCount := count, status := status, merkleRoot := root } = facts row)
    {batchId : Nat} {copy changed : StampBatch} {batches : List StampBatch} :
    (written batchId copy changed batches).map facts = batches.map facts :=
  Rows.keys_modify facts batches batchId _ (fun row => same row _ _ _)

/-- A session whose copy is the stored row writes what it changed. -/
theorem written_current {batchId : Nat} {copy changed : StampBatch} {batches : List StampBatch}
    (stored : batches[batchId]? = some copy) :
    (written batchId copy changed batches)[batchId]? = some { copy with
      issuedCount := changed.issuedCount, status := changed.status, merkleRoot := changed.merkleRoot } := by
  rw [written, Rows.stored_modify_self stored]
  simp only [Relock.column_current]

/-- A batch after a write: another batch is as it was, and the written one keeps
its assessment and quantity. -/
theorem written_cases {batchId other : Nat} {copy changed row : StampBatch} {batches : List StampBatch}
    (stored : (written batchId copy changed batches)[other]? = some row) :
    (other ≠ batchId ∧ batches[other]? = some row) ∨
      (other = batchId ∧ ∃ old, batches[batchId]? = some old ∧ row.assessmentId = old.assessmentId ∧
        row.quantity = old.quantity ∧
        row.issuedCount = Relock.column copy.issuedCount changed.issuedCount old.issuedCount ∧
        row.status = Relock.column copy.status changed.status old.status ∧
        row.merkleRoot = Relock.column copy.merkleRoot changed.merkleRoot old.merkleRoot) := by
  rcases Rows.stored_modify_cases stored with kept | ⟨same, old, present, rfl⟩
  · exact Or.inl kept
  · exact Or.inr ⟨same, old, present, rfl, rfl, rfl, rfl, rfl⟩

/-- The copy after a chunk of the given size. -/
def advanced (locked : StampBatch) (size : Int) : StampBatch :=
  { locked with
    issuedCount := locked.issuedCount + size
    status := if locked.issuedCount + size < locked.quantity then BatchStatus.issuing else .issued }

/-- A batch that was advanced is being issued or is issued. -/
theorem advanced_status (locked : StampBatch) (size : Int) :
    (advanced locked size).status = .issuing ∨ (advanced locked size).status = .issued := by
  unfold advanced
  dsimp only
  split
  · exact Or.inl rfl
  · exact Or.inr rfl

/-- What a chunk does: nothing on a batch that is past issuing, the status when
nothing remains, or the stamps of the chunk and the cursor. -/
inductive Chunked (env : Env) (requested : Option Int) (batchId : Nat) (locked : StampBatch) (db : Db) :
    Int → StampBatch → Db → Prop
  | past (past : locked.status ≠ .pending ∧ locked.status ≠ .issuing) :
      Chunked env requested batchId locked db 0 locked db
  | exhausted (open_ : locked.status = .pending ∨ locked.status = .issuing)
      (done : locked.quantity - locked.issuedCount ≤ 0) :
      Chunked env requested batchId locked db 0 { locked with status := .issued }
        { db with stampBatches :=
            written batchId locked { locked with status := .issued } db.stampBatches }
  | issues {time : Datetime} {chunk : Chunk} {counters : List SerialCounter} {new : List Stamp}
      (open_ : locked.status = .pending ∨ locked.status = .issuing)
      (remaining : 0 < locked.quantity - locked.issuedCount)
      (batch : chunk.batchId = batchId)
      (counted : new.length =
        (chunkSize env.settings requested (locked.quantity - locked.issuedCount)).toNat)
      (issued : Issued env time chunk db.stamps new)
      (accepted : ∀ row, (written batchId locked (advanced locked
          (chunkSize env.settings requested (locked.quantity - locked.issuedCount)))
          db.stampBatches)[batchId]? = some row → Db.batchAccepted row = true) :
      Chunked env requested batchId locked db
        (chunkSize env.settings requested (locked.quantity - locked.issuedCount))
        (advanced locked (chunkSize env.settings requested (locked.quantity - locked.issuedCount)))
        { db with
          serialCounters := counters
          stamps := db.stamps ++ new
          stampBatches := written batchId locked (advanced locked
            (chunkSize env.settings requested (locked.quantity - locked.issuedCount)))
            db.stampBatches }

/-- What one chunk writes: the counters, the fresh stamps and the advanced batch. -/
theorem issueChunk_ok {requested : Option Int} {batchId : Nat} {locked copy : StampBatch} {issued : Int}
    (chunked : issueChunk env occasion requested batchId locked db = .ok (issued, copy, after)) :
    Chunked env requested batchId locked db issued copy after := by
  unfold issueChunk at chunked
  split at chunked
  case isTrue past =>
    cases chunked
    exact .past past
  case isFalse inProgress =>
    have open_ : locked.status = .pending ∨ locked.status = .issuing := by
      by_contra closed
      exact inProgress (not_or.mp closed)
    dsimp only at chunked
    split at chunked
    case isTrue done =>
      obtain ⟨middle, wrote, chunked⟩ := Result.bind_ok.mp chunked
      cases chunked
      obtain ⟨_, rfl⟩ := writeBatch_ok wrote
      exact .exhausted open_ done
    case isFalse remaining =>
      obtain ⟨⟨base, claimed⟩, claiming, chunked⟩ := Result.bind_ok.mp chunked
      obtain ⟨assessment, _, chunked⟩ := Result.bind_ok.mp chunked
      obtain ⟨declaration, _, chunked⟩ := Result.bind_ok.mp chunked
      obtain ⟨line, _, chunked⟩ := Result.bind_ok.mp chunked
      obtain ⟨validUntil, _, chunked⟩ := Result.bind_ok.mp chunked
      obtain ⟨filled, issuing, chunked⟩ := Result.bind_ok.mp chunked
      obtain ⟨last, wrote, chunked⟩ := Result.bind_ok.mp chunked
      cases chunked
      obtain ⟨counters, rfl⟩ := claimSerialBlock_ok claiming
      obtain ⟨new, counted, issued, rfl⟩ := issueStamps_ok issuing
      obtain ⟨accepted, rfl⟩ := writeBatch_ok wrote
      exact .issues open_ (not_le.mp remaining) rfl counted issued accepted

/-- A batch is finalized under the root of its serials. -/
theorem finalizeBatch_ok {principalSub : PyStr} {batchId : Nat} {locked : StampBatch}
    (finalized : finalizeBatch env occasion principalSub batchId locked db = .ok after) :
    locked.status = .issued ∧ ∃ root message, root ≠ [] ∧
      after = { db with
        stampBatches := written batchId locked { locked with merkleRoot := root, status := .ready }
          db.stampBatches
        outboxMessages := db.outboxMessages ++ [message] } := by
  obtain ⟨_, issued, finalized⟩ := Result.bind_ok.mp finalized
  rw [Result.require_ok, decide_eq_true_eq] at issued
  obtain ⟨leaves, _, finalized⟩ := Result.bind_ok.mp finalized
  obtain ⟨middle, wrote, queued⟩ := Result.bind_ok.mp finalized
  obtain ⟨_, rfl⟩ := writeBatch_ok wrote
  obtain ⟨message, rfl⟩ := Outbox.enqueue_ok queued
  have present : Merkle.merkleRoot env leaves ≠ [] := by
    intro absent
    have length := Merkle.merkleRoot_length env leaves
    rw [absent] at length
    cases length
  exact ⟨issued, _, message, present, rfl⟩

/-- An inspection is recorded on a batch that is READY or ACTIVE, and fails it
when the sample does. -/
theorem recordInspection_ok {defectives : Int} {inspectorSub : PyStr} {batchId : Nat}
    {locked : StampBatch} {inspection : Inspection}
    (recorded : recordInspection occasion defectives inspectorSub batchId locked db =
      .ok (inspection, after)) :
    (locked.status = .ready ∨ locked.status = .active) ∧ inspection.batchId = batchId ∧
      ((inspection.result = .pass ∧ after = { db with inspections := db.inspections ++ [inspection] }) ∨
        (inspection.result = .fail ∧ after = { db with
          inspections := db.inspections ++ [inspection]
          stampBatches := written batchId locked { locked with status := .inspectionFailed }
            db.stampBatches })) := by
  obtain ⟨_, inspectable, recorded⟩ := Result.bind_ok.mp recorded
  rw [Result.require_ok, decide_eq_true_eq] at inspectable
  refine ⟨inspectable, ?_⟩
  obtain ⟨plan, _, recorded⟩ := Result.bind_ok.mp recorded
  obtain ⟨passed, _, recorded⟩ := Result.bind_ok.mp recorded
  obtain ⟨middle, inserted, recorded⟩ := Result.bind_ok.mp recorded
  obtain rfl := Db.insertInspection_ok inserted
  cases passed with
  | true =>
    cases recorded
    exact ⟨rfl, Or.inl ⟨rfl, rfl⟩⟩
  | false =>
    obtain ⟨last, wrote, recorded⟩ := Result.bind_ok.mp recorded
    cases recorded
    obtain ⟨_, rfl⟩ := writeBatch_ok wrote
    exact ⟨rfl, Or.inr ⟨rfl, rfl⟩⟩

/-- The sample of a lot has too many defectives. -/
def SampleFails (quantity defectives : Int) : Prop :=
  ∃ plan, Quality.planForLot quantity = .ok plan ∧ Quality.evaluateSample plan defectives = .ok false

/-- A recorded FAIL is the verdict on the sample. -/
theorem recordInspection_fails {defectives : Int} {inspectorSub : PyStr} {batchId : Nat}
    {locked : StampBatch} {inspection : Inspection}
    (recorded : recordInspection occasion defectives inspectorSub batchId locked db =
      .ok (inspection, after))
    (fail : inspection.result = .fail) : SampleFails locked.quantity defectives := by
  obtain ⟨_, _, recorded⟩ := Result.bind_ok.mp recorded
  obtain ⟨plan, planned, recorded⟩ := Result.bind_ok.mp recorded
  obtain ⟨passed, evaluated, recorded⟩ := Result.bind_ok.mp recorded
  obtain ⟨middle, _, recorded⟩ := Result.bind_ok.mp recorded
  cases passed with
  | true =>
    cases recorded
    cases fail
  | false => exact ⟨plan, planned, evaluated⟩

/-- A batch is activated from READY, with a passing inspection. -/
theorem activateBatch_ok {principalSub : PyStr} {batchId count : Nat} {locked : StampBatch}
    (activated : activateBatch env occasion principalSub batchId locked db = .ok (count, after)) :
    locked.status = .ready ∧
      (∃ inspection ∈ db.inspections, inspection.batchId = batchId ∧ inspection.result = .pass) ∧
      ∃ message, after = { db with
        stamps := (activateStamps batchId occasion.time db).stamps
        stampBatches := written batchId locked { locked with status := .active } db.stampBatches
        outboxMessages := db.outboxMessages ++ [message] } := by
  obtain ⟨_, ready, activated⟩ := Result.bind_ok.mp activated
  rw [Result.require_ok, decide_eq_true_eq] at ready
  obtain ⟨_, passing, activated⟩ := Result.bind_ok.mp activated
  simp only [Result.require_ok, List.any_eq_true, Bool.and_eq_true, decide_eq_true_eq] at passing
  obtain ⟨middle, wrote, activated⟩ := Result.bind_ok.mp activated
  obtain ⟨last, queued, activated⟩ := Result.bind_ok.mp activated
  obtain ⟨_, rfl⟩ := Prod.mk.inj (Except.ok.inj activated)
  obtain ⟨_, rfl⟩ := writeBatch_ok wrote
  obtain ⟨message, rfl⟩ := Outbox.enqueue_ok queued
  exact ⟨ready, passing, message, rfl⟩

end TaxStamps.Issuance
