import TaxStamps.Effects.Scans
import TaxStamps.Library.Transition

/-!
# What a request does

Every committed request has one of the effects below. An invariant of all runs
is proved by looking at the effects that touch its tables; the others leave it
as it is.
-/

namespace TaxStamps.Api

open Relation

/-- The effects of requests on the database. -/
inductive Effect (env : Env) (db : Db) : Db → Prop
  | nothing : Effect env db db
  | queued (message : OutboxMessage) :
      Effect env db { db with outboxMessages := db.outboxMessages ++ [message] }
  | declared (declaration : Declaration) (lines : List DeclarationLine)
      (owned : ∀ line ∈ lines, line.declarationId = db.declarations.length) :
      Effect env db { db with
        declarations := db.declarations ++ [declaration]
        declarationLines := db.declarationLines ++ lines }
  | assessed {assessment : Assessment} {lines : List AssessmentLine} {message : OutboxMessage}
      (declared : assessment.declarationId < db.declarations.length)
      (assessed : Assessments.Assessed env db assessment lines) :
      Effect env db { db with
        assessments := db.assessments ++ [assessment]
        assessmentLines := db.assessmentLines ++ lines
        outboxMessages := db.outboxMessages ++ [message] }
  | decided {assessmentId : Nat} {assessment : Assessment} {approval : Approval}
      {verdict : Option AssessmentStatus} {time : Datetime} {messages : List OutboxMessage}
      (decided : Assessments.Decided db assessmentId assessment approval)
      (judged : Assessments.Verdict db assessmentId assessment approval verdict) :
      Effect env db { db with
        approvals := db.approvals ++ [approval]
        assessments := Assessments.judged assessmentId time verdict db.assessments
        outboxMessages := db.outboxMessages ++ messages }
  | asked {assessmentId : Nat} {assessment : Assessment} {intent : PaymentIntent}
      (stored : db.assessments[assessmentId]? = some assessment)
      (approved : assessment.status = .approved)
      (asked : Payments.Asked assessmentId assessment intent) :
      Effect env db { db with
        assessments := db.assessments.modify assessmentId
          (fun row => { row with status := .paymentPending })
        paymentIntents := db.paymentIntents ++ [intent] }
  | quarantined {externalReference : PyStr} {receipt : PaymentReceipt}
      (quarantined : Payments.Quarantined db externalReference receipt) :
      Effect env db { db with paymentReceipts := db.paymentReceipts ++ [receipt] }
  | settled {intentId : Nat} {intent : PaymentIntent} {externalReference : PyStr} {time : Datetime}
      {receipt : PaymentReceipt} {journal : Journal}
      (stored : db.paymentIntents[intentId]? = some intent)
      (applied : Payments.Applied db intentId intent externalReference receipt journal) :
      Effect env db (Payments.settled intentId intent time receipt journal db)
  | opened {assessmentId : Nat} {assessment : Assessment} {batch : StampBatch}
      (stored : db.assessments[assessmentId]? = some assessment) (paid : assessment.status = .paid)
      (opened : Issuance.Opened db assessmentId assessment batch)
      (made : Issuance.Made db assessmentId assessment batch) :
      Effect env db { db with
        assessments := db.assessments.modify assessmentId (fun row => { row with status := .issuing })
        stampBatches := db.stampBatches ++ [batch] }
  | issued {chunkSize : Option ChunkSize} {batchId : Nat} {batch copy : StampBatch} {issued : Int}
      {after : Db} (stored : db.stampBatches[batchId]? = some batch)
      (chunked : Issuance.Chunked env (chunkSize.map ChunkSize.value) batchId batch db issued copy after)
      (ran : ∃ occasion, Issuance.issueChunk env occasion (chunkSize.map ChunkSize.value) batchId batch db =
        .ok (issued, copy, after)) :
      Effect env db after
  | finalized {batchId : Nat} {batch : StampBatch} {root : PyStr} {message : OutboxMessage}
      (stored : db.stampBatches[batchId]? = some batch) (issued : batch.status = .issued)
      (present : root ≠ [])
      (ran : ∃ occasion principalSub, Issuance.finalizeBatch env occasion principalSub batchId batch db =
        .ok { db with
          stampBatches := Issuance.written batchId batch { batch with merkleRoot := root, status := .ready }
            db.stampBatches
          outboxMessages := db.outboxMessages ++ [message] }) :
      Effect env db { db with
        stampBatches := Issuance.written batchId batch { batch with merkleRoot := root, status := .ready }
          db.stampBatches
        outboxMessages := db.outboxMessages ++ [message] }
  | passed {batchId : Nat} {batch : StampBatch} {inspection : Inspection}
      (stored : db.stampBatches[batchId]? = some batch)
      (inspectable : batch.status = .ready ∨ batch.status = .active)
      (subject : inspection.batchId = batchId) (pass : inspection.result = .pass) :
      Effect env db { db with inspections := db.inspections ++ [inspection] }
  | failed {batchId : Nat} {batch : StampBatch} {inspection : Inspection}
      (stored : db.stampBatches[batchId]? = some batch)
      (inspectable : batch.status = .ready ∨ batch.status = .active)
      (subject : inspection.batchId = batchId) (fail : inspection.result = .fail) :
      Effect env db { db with
        inspections := db.inspections ++ [inspection]
        stampBatches := Issuance.written batchId batch { batch with status := .inspectionFailed }
          db.stampBatches }
  | activated {batchId : Nat} {batch : StampBatch} {time : Datetime} {message : OutboxMessage}
      (stored : db.stampBatches[batchId]? = some batch) (ready : batch.status = .ready)
      (passing : ∃ inspection ∈ db.inspections, inspection.batchId = batchId ∧ inspection.result = .pass) :
      Effect env db { db with
        stamps := (Issuance.activateStamps batchId time db).stamps
        stampBatches := Issuance.written batchId batch { batch with status := .active } db.stampBatches
        outboxMessages := db.outboxMessages ++ [message] }
  | attempted {row : Verification} (unmatched : row.stampId = none)
      (refused : row.outcome = .malformedSerial ∨ row.outcome = .unknownSerial) :
      Effect env db { db with verifications := db.verifications ++ [row] }
  | scanned {occasion : Occasion} {scan : Verify.Scan} {serial : PyStr} {stampId : Nat} {stamp : Stamp}
      {outcome : Outcome} {after : Db} (stored : db.stamps[stampId]? = some stamp)
      (scanned : Verify.Scanned env occasion scan serial stampId stamp db outcome after) :
      Effect env db after
  | voided {stampId : Nat} {stamp : Stamp} {after : Db} (stored : db.stamps[stampId]? = some stamp)
      (voided : Verify.Voided env stampId stamp db after) : Effect env db after

variable {env : Env} {occasion : Occasion} {db after : Db}

/-- The tables of a request whose answer is dropped are the ones it left. -/
theorem map_snd_ok {α : Type} {result : Result (α × Db)}
    (mapped : result.map Prod.snd = .ok after) : ∃ value, result = .ok (value, after) := by
  cases result with
  | error problem => cases mapped
  | ok pair =>
    obtain ⟨value, committed⟩ := pair
    cases mapped
    exact ⟨value, rfl⟩

/-- An effect that records no inspection. -/
structure Quiet (env : Env) (db after : Db) : Prop where
  effect : Effect env db after
  inspections : after.inspections = db.inspections

/-- An assessment request has an effect and records no inspection. -/
theorem createAssessment_quiet {subject idemKey : PyStr} {body : AssessmentCreateIn}
    {assessmentId : Nat}
    (created : createAssessment env occasion subject idemKey body db = .ok (assessmentId, after)) :
    Quiet env db after := by
  obtain ⟨⟨declarationId, declaration⟩, named, created⟩ := Result.bind_ok.mp created
  obtain ⟨⟨id, middle⟩, assessed, created⟩ := Result.bind_ok.mp created
  obtain ⟨assessment, _, created⟩ := Result.bind_ok.mp created
  obtain ⟨last, queued, created⟩ := Result.bind_ok.mp created
  obtain ⟨rfl, rfl⟩ := Prod.mk.inj (Except.ok.inj created)
  obtain ⟨message, rfl⟩ := Outbox.enqueue_ok queued
  obtain ⟨stored, _⟩ := Rows.select_some (found_ok.mp named)
  rcases Assessments.createAssessment_ok (translated_ok.mp assessed) with
    rfl | ⟨assessment, lines, computed, rfl, rfl⟩
  · exact ⟨.queued message, rfl⟩
  · exact ⟨.assessed (List.getElem?_eq_some_iff.mp stored).1 computed, rfl⟩

/-- A decision request has an effect and records no inspection. -/
theorem decideAssessment_quiet {subject reason : PyStr} {assessmentId : Nat} {decision : Decision}
    (settled : decideAssessment env occasion subject assessmentId decision reason db = .ok after) :
    Quiet env db after := by
  obtain ⟨middle, recorded, settled⟩ := Result.bind_ok.mp settled
  obtain ⟨assessment, approval, verdict, decided, judged, rfl⟩ :=
    Assessments.recordDecision_ok (translated_ok.mp recorded)
  obtain ⟨current, _, settled⟩ := Result.bind_ok.mp settled
  split at settled
  case isTrue =>
    obtain ⟨message, rfl⟩ := Outbox.enqueue_ok settled
    exact ⟨.decided decided judged, rfl⟩
  case isFalse =>
    cases settled
    have unqueued : db.outboxMessages = db.outboxMessages ++ [] := (List.append_nil _).symm
    rw [unqueued]
    exact ⟨.decided decided judged, rfl⟩

/-- A receipt request has an effect and records no inspection. -/
theorem recordPaymentReceipt_quiet {body : ReceiptIn} {receiptId : Nat}
    (recorded : recordPaymentReceipt env occasion body db = .ok (receiptId, after)) :
    Quiet env db after := by
  obtain ⟨_, _, recorded⟩ := Result.bind_ok.mp recorded
  unfold Payments.recordReceipt at recorded
  split at recorded
  case _ existing _ =>
    cases recorded
    exact ⟨.nothing, rfl⟩
  case _ =>
    obtain ⟨intent, stored, recorded⟩ := Result.bind_ok.mp recorded
    rw [Result.one_ok] at stored
    rcases Payments.recordLocked_ok recorded with
      ⟨receipt, quarantined, rfl⟩ | ⟨_, receipt, journal, applied, rfl⟩
    · exact ⟨.quarantined quarantined, rfl⟩
    · exact ⟨.settled stored applied, rfl⟩

/-- A presented serial has an effect and records no inspection. -/
theorem presented_quiet {scan : Verify.Scan} {serial : PyStr} {outcome : Outcome}
    (presented : Verify.Presented env occasion scan serial db outcome after) : Quiet env db after := by
  cases presented with
  | unmatched presented detail refused => exact ⟨.attempted rfl refused, rfl⟩
  | matched _ found scanned =>
    have inspections : after.inspections = db.inspections := by
      cases scanned with
      | answered => rfl
      | suspected => rfl
      | consumes => rfl
    exact ⟨.scanned (Rows.select_some found).1 scanned, inspections⟩

/-- A verified scan has loaded the published lists and presented its serial with them. -/
theorem verify_presented {verifier : Verifier} {body : VerifyIn} {result : Verify.ScanResult}
    (verified : verify env occasion verifier body db = .ok (result, after)) :
    ∃ lists, loadStatusLists env db = .ok lists ∧
      Verify.Presented env occasion (fieldScan verifier body lists) body.serial db result.outcome after := by
  obtain ⟨lists, loaded, verified⟩ := Result.bind_ok.mp verified
  exact ⟨lists, loaded, Verify.verifyStamp_ok verified⟩

/-- A public scan has an effect and records no inspection. -/
theorem verifyPublic_quiet {body : PublicVerifyIn} {answer : PublicAnswer}
    (verified : verifyPublic env occasion body db = .ok (answer, after)) : Quiet env db after := by
  rcases verifyPublic_scanned verified with rfl | ⟨serial, result, scanned⟩
  · exact ⟨.nothing, rfl⟩
  · exact presented_quiet (Verify.verifyStamp_ok scanned)

/-- What an inspection request commits. -/
theorem inspectBatch_ok {subject : PyStr} {batchId : Nat} {body : InspectionIn} {inspection : Inspection}
    (inspected : inspectBatch occasion subject batchId body db = .ok (inspection, after)) :
    ∃ batch, db.stampBatches[batchId]? = some batch ∧
      Issuance.recordInspection occasion body.defectives subject batchId batch db =
        .ok (inspection, after) := by
  obtain ⟨batch, stored, inspected⟩ := Result.bind_ok.mp inspected
  exact ⟨batch, found_ok.mp stored, translated_ok.mp inspected⟩

/-- A committed request that is no inspection. -/
theorem quiet_of_handle {request : Request} (handled : handle env occasion request db = .ok after) :
    (∃ subject batchId body, request = .inspection subject batchId body) ∨ Quiet env db after := by
  cases request with
  | inspection subject batchId body => exact Or.inl ⟨subject, batchId, body, rfl⟩
  | declaration subject body =>
    obtain ⟨_, _, added⟩ := Result.bind_ok.mp handled
    obtain ⟨declaration, lines, owned, rfl⟩ := addDeclaration_ok added
    exact Or.inr ⟨.declared declaration lines owned, rfl⟩
  | declarationEvent event =>
    obtain ⟨declaration, lines, owned, rfl⟩ := addDeclaration_ok handled
    exact Or.inr ⟨.declared declaration lines owned, rfl⟩
  | assessment subject idemKey body =>
    obtain ⟨assessmentId, created⟩ := map_snd_ok handled
    exact Or.inr (createAssessment_quiet created)
  | decision subject assessmentId decision reason => exact Or.inr (decideAssessment_quiet handled)
  | paymentIntent assessmentId =>
    obtain ⟨intentId, created⟩ := map_snd_ok handled
    obtain ⟨assessment, stored, created⟩ := Result.bind_ok.mp created
    obtain ⟨approved, rfl | ⟨intent, asked, rfl⟩⟩ := Payments.createIntent_ok (translated_ok.mp created)
    · exact Or.inr ⟨.nothing, rfl⟩
    · exact Or.inr ⟨.asked (found_ok.mp stored) approved asked, rfl⟩
  | receipt body =>
    obtain ⟨receiptId, recorded⟩ := map_snd_ok handled
    exact Or.inr (recordPaymentReceipt_quiet recorded)
  | batch assessmentId =>
    obtain ⟨batchId, created⟩ := map_snd_ok handled
    obtain ⟨assessment, stored, created⟩ := Result.bind_ok.mp created
    have making := translated_ok.mp created
    obtain ⟨paid, rfl | ⟨batch, opened, rfl⟩⟩ := Issuance.createBatch_ok making
    · exact Or.inr ⟨.nothing, rfl⟩
    · exact Or.inr ⟨.opened (found_ok.mp stored) paid opened (Issuance.createBatch_made making), rfl⟩
  | issue batchId chunkSize =>
    obtain ⟨count, issued⟩ := map_snd_ok handled
    obtain ⟨batch, stored, issued⟩ := Result.bind_ok.mp issued
    obtain ⟨⟨number, copy, last⟩, chunking, issued⟩ := Result.bind_ok.mp issued
    obtain ⟨rfl, rfl⟩ := Prod.mk.inj (Except.ok.inj issued)
    have chunked := Issuance.issueChunk_ok chunking
    have inspections : last.inspections = db.inspections := by
      cases chunked with
      | past => rfl
      | exhausted => rfl
      | issues => rfl
    exact Or.inr ⟨.issued (found_ok.mp stored) chunked ⟨_, chunking⟩, inspections⟩
  | finalize subject batchId =>
    obtain ⟨batch, stored, finalized⟩ := Result.bind_ok.mp handled
    have finalizing := translated_ok.mp finalized
    obtain ⟨issued, root, message, present, rfl⟩ := Issuance.finalizeBatch_ok finalizing
    exact Or.inr ⟨.finalized (found_ok.mp stored) issued present ⟨_, _, finalizing⟩, rfl⟩
  | activate subject batchId =>
    obtain ⟨count, activated⟩ := map_snd_ok handled
    obtain ⟨batch, stored, activated⟩ := Result.bind_ok.mp activated
    obtain ⟨ready, passing, message, rfl⟩ := Issuance.activateBatch_ok (translated_ok.mp activated)
    exact Or.inr ⟨.activated (found_ok.mp stored) ready passing, rfl⟩
  | verify verifier body =>
    obtain ⟨result, verified⟩ := map_snd_ok handled
    obtain ⟨lists, _, presented⟩ := verify_presented verified
    exact Or.inr (presented_quiet presented)
  | verifyPublic body =>
    obtain ⟨answer, verified⟩ := map_snd_ok handled
    exact Or.inr (verifyPublic_quiet verified)
  | void subject serial body =>
    obtain ⟨stampId, stamp, stored, voided⟩ := Verify.voidStamp_ok (translated_ok.mp handled)
    have inspections : after.inspections = db.inspections := by
      cases voided with
      | already => rfl
      | voids => rfl
    exact Or.inr ⟨.voided stored voided, inspections⟩

/-- A committed request has one of the effects. -/
theorem effect_of_handle {request : Request} (handled : handle env occasion request db = .ok after) :
    Effect env db after := by
  rcases quiet_of_handle handled with ⟨subject, batchId, body, rfl⟩ | quiet
  · obtain ⟨row, inspected⟩ := map_snd_ok handled
    obtain ⟨batch, stored, recorded⟩ := inspectBatch_ok inspected
    obtain ⟨inspectable, named, ⟨pass, rfl⟩ | ⟨fail, rfl⟩⟩ := Issuance.recordInspection_ok recorded
    · exact .passed stored inspectable named pass
    · exact .failed stored inspectable named fail
  · exact quiet.effect

/-- An effect that touches none of the payment tables. -/
structure Unpaid (db after : Db) : Prop where
  paymentIntents : after.paymentIntents = db.paymentIntents
  paymentReceipts : after.paymentReceipts = db.paymentReceipts
  journals : after.journals = db.journals
  ledgerEntries : after.ledgerEntries = db.ledgerEntries

/-- What requests do to the payment tables. -/
theorem Effect.payments (effect : Effect env db after) :
    Unpaid db after ∨
    (∃ (assessmentId : Nat) (assessment : Assessment) (intent : PaymentIntent),
      db.assessments[assessmentId]? = some assessment ∧ assessment.status = .approved ∧
      Payments.Asked assessmentId assessment intent ∧
      after = { db with
        assessments := db.assessments.modify assessmentId
          (fun row => { row with status := .paymentPending })
        paymentIntents := db.paymentIntents ++ [intent] }) ∨
    (∃ (externalReference : PyStr) (receipt : PaymentReceipt),
      Payments.Quarantined db externalReference receipt ∧
      after = { db with paymentReceipts := db.paymentReceipts ++ [receipt] }) ∨
    ∃ (intentId : Nat) (intent : PaymentIntent) (externalReference : PyStr) (time : Datetime)
      (receipt : PaymentReceipt) (journal : Journal),
      db.paymentIntents[intentId]? = some intent ∧
      Payments.Applied db intentId intent externalReference receipt journal ∧
      after = Payments.settled intentId intent time receipt journal db := by
  cases effect with
  | asked stored approved asked => exact Or.inr (Or.inl ⟨_, _, _, stored, approved, asked, rfl⟩)
  | quarantined quarantined => exact Or.inr (Or.inr (Or.inl ⟨_, _, quarantined, rfl⟩))
  | settled stored applied => exact Or.inr (Or.inr (Or.inr ⟨_, _, _, _, _, _, stored, applied, rfl⟩))
  | issued _ chunked => cases chunked <;> exact Or.inl ⟨rfl, rfl, rfl, rfl⟩
  | scanned _ scanned => cases scanned <;> exact Or.inl ⟨rfl, rfl, rfl, rfl⟩
  | voided _ voided => cases voided <;> exact Or.inl ⟨rfl, rfl, rfl, rfl⟩
  | _ => exact Or.inl ⟨rfl, rfl, rfl, rfl⟩

/-- A step has one of the effects. -/
theorem Step.effect {before : Db} (step : Step env before after) : Effect env before after := by
  rcases step_cases step with rfl | ⟨occasion, request, handled⟩
  · exact .nothing
  · exact effect_of_handle handled

/-- What holds of the empty database and is kept by every effect holds in every
reachable state. -/
theorem Reachable.invariant (reached : Reachable env db) (holds : Db → Prop)
    (initially : holds Db.empty)
    (kept : ∀ before after, holds before → Effect env before after → holds after) : holds db :=
  Transition.invariant holds (fun before after known step => kept before after known step.effect)
    reached initially

/-- The same with an invariant of all runs at hand in every step. -/
theorem Reachable.invariant_along (reached : Reachable env db) (holds : Db → Prop)
    (initially : holds Db.empty)
    (kept : ∀ before after, Reachable env before → holds before → Effect env before after →
      holds after) : holds db := by
  induction reached with
  | refl => exact initially
  | tail earlier step inductionHypothesis =>
    exact kept _ _ earlier inductionHypothesis (Step.effect step)

end TaxStamps.Api
