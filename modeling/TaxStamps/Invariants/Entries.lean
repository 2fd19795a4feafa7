import TaxStamps.Invariants.Announced
import TaxStamps.Invariants.Cursor

/-!
# Who enters what

What a request leaves in the tables for which somebody answers: each entry that is
there after a committed request was there before, or is what this request enters.
-/

namespace TaxStamps.Entries

open Api

variable {env : Env} {occasion : Occasion} {db after : Db}

/-- Rows, and statuses of rows, that somebody answers for. A row is told by its position;
the tables of decisions, receipts and inspections never change a row, so that their entries
are the rows as they are. -/
inductive Entry
  | assessment (id : Nat) (submittedBy : PyStr)
  | approval (id : Nat) (row : Approval)
  | intent (id assessmentId : Nat)
  | receipt (id : Nat) (row : PaymentReceipt)
  | batch (id assessmentId : Nat)
  | stamp (id batchId : Nat)
  | anchor (batchId : Nat)
  | inspection (id : Nat) (row : Inspection)
  | activation (id batchId : Nat)
  | void (id : Nat) (serial : PyStr)

/-- The table has a row at the position, and something holds of it. -/
def At {ρ : Type} (rows : List ρ) (id : Nat) (holds : ρ → Prop) : Prop :=
  ∃ row, rows[id]? = some row ∧ holds row

/-- The tables have the entry. -/
def Has (db : Db) : Entry → Prop
  | .assessment id submittedBy => At db.assessments id (fun row => row.submittedBy = submittedBy)
  | .approval id row => db.approvals[id]? = some row
  | .intent id assessmentId => At db.paymentIntents id (fun row => row.assessmentId = assessmentId)
  | .receipt id row => db.paymentReceipts[id]? = some row
  | .batch id assessmentId => At db.stampBatches id (fun row => row.assessmentId = assessmentId)
  | .stamp id batchId => At db.stamps id (fun row => row.batchId = batchId)
  | .anchor batchId => At db.stampBatches batchId (fun row => Outbox.Anchored row.status)
  | .inspection id row => db.inspections[id]? = some row
  | .activation id batchId => At db.stamps id (fun row => row.batchId = batchId ∧ row.status = .active)
  | .void id serial => At db.stamps id (fun row => row.serial = serial ∧ row.status = .void)

/-- A receipt as a request states it; one that is applied is applied to the request's
intent. -/
structure Receives (body : ReceiptIn) (row : PaymentReceipt) : Prop where
  externalReference : row.externalReference = body.externalReference
  amountKobo : row.amountKobo = body.amountKobo
  currency : row.currency = body.currency
  applied : row.status = .applied → row.paymentIntentId = some body.paymentIntentId

/-- What a request enters. -/
def Enters (tables : Unicode) : Request → Entry → Prop
  | .assessment subject _ _, .assessment _ submittedBy => submittedBy = subject
  | .decision subject id decision _, .approval _ row =>
    row.assessmentId = id ∧ row.principalSub = subject ∧ row.decision = decision
  | .paymentIntent id, .intent _ assessmentId => assessmentId = id
  | .receipt body, .receipt _ row => Receives body row
  | .batch id, .batch _ assessmentId => assessmentId = id
  | .issue id _, .stamp _ batchId => batchId = id
  | .finalize _ id, .anchor batchId => batchId = id
  | .inspection subject id _, .inspection _ row => row.batchId = id ∧ row.inspectorSub = subject
  | .activate _ id, .activation _ batchId => batchId = id
  | .void _ presented _, .void _ serial => serial = Serials.normalize tables presented
  | _, _ => False

section Rows

/-- A row more, of which something holds. -/
theorem added {ρ : Type} {holds : ρ → Prop} {rows : List ρ} {new : ρ} (fresh : holds new) :
    ∀ (id : Nat) row, (rows ++ [new])[id]? = some row → rows[id]? = some row ∨ holds row := by
  intro id row stored
  rcases Rows.stored_insert_cases stored with old | ⟨_, rfl⟩
  · exact Or.inl old
  · exact Or.inr fresh

/-- An assessment is entered for the principal who asked for it. -/
theorem submitted {declarationId assessmentId : Nat} {submittedBy idempotencyKey : PyStr}
    (created : Assessments.createAssessment env occasion declarationId submittedBy idempotencyKey db =
      .ok (assessmentId, after)) :
    ∀ (id : Nat) row, after.assessments[id]? = some row → db.assessments[id]? = some row ∨
      row.submittedBy = submittedBy := by
  unfold Assessments.createAssessment at created
  split at created
  case _ =>
    cases created
    exact fun id row stored => Or.inl stored
  case _ =>
    obtain ⟨_, _, created⟩ := Result.bind_ok.mp created
    obtain ⟨computed, _, created⟩ := Result.bind_ok.mp created
    obtain ⟨_, _, created⟩ := Result.bind_ok.mp created
    obtain ⟨middle, inserted, created⟩ := Result.bind_ok.mp created
    obtain ⟨last, listed, created⟩ := Result.bind_ok.mp created
    obtain ⟨_, rfl⟩ := Prod.mk.inj (Except.ok.inj created)
    obtain ⟨_, rfl⟩ := Db.insertAssessment_ok inserted
    obtain rfl := Assessments.insertLines_ok listed
    exact added rfl

/-- A decision is entered for the principal who made it. -/
theorem decided {assessmentId : Nat} {principalSub reason : PyStr} {decision : Decision}
    (recorded : Assessments.recordDecision occasion assessmentId principalSub decision reason db = .ok after) :
    ∀ (id : Nat) row, after.approvals[id]? = some row → db.approvals[id]? = some row ∨
      (row.assessmentId = assessmentId ∧ row.principalSub = principalSub ∧ row.decision = decision) := by
  unfold Assessments.recordDecision at recorded
  split at recorded
  case _ => cases recorded
  case _ =>
    obtain ⟨_, _, recorded⟩ := Result.bind_ok.mp recorded
    obtain ⟨_, _, recorded⟩ := Result.bind_ok.mp recorded
    obtain ⟨_, _, recorded⟩ := Result.bind_ok.mp recorded
    obtain ⟨middle, inserted, recorded⟩ := Result.bind_ok.mp recorded
    obtain rfl := Db.insertApproval_ok inserted
    cases decision with
    | reject =>
      cases recorded
      exact added ⟨rfl, rfl, rfl⟩
    | approve =>
      dsimp only at recorded
      split at recorded
      case isTrue =>
        cases recorded
        exact added ⟨rfl, rfl, rfl⟩
      case isFalse =>
        cases recorded
        exact added ⟨rfl, rfl, rfl⟩

/-- A receipt is entered as it is reported. -/
theorem received {body : ReceiptIn} {receiptId : Nat}
    (recorded : Payments.recordReceipt env occasion body.paymentIntentId body.externalReference
      body.amountKobo body.currency db = .ok (receiptId, after)) :
    ∀ (id : Nat) row, after.paymentReceipts[id]? = some row → db.paymentReceipts[id]? = some row ∨
      Receives body row := by
  have kept : ∀ {reason : PyStr}, Payments.quarantine occasion body.externalReference body.amountKobo
      body.currency reason db = .ok (receiptId, after) →
      ∀ (id : Nat) row, after.paymentReceipts[id]? = some row → db.paymentReceipts[id]? = some row ∨
        Receives body row := by
    intro reason kept
    obtain ⟨middle, inserted, kept⟩ := Result.bind_ok.mp kept
    obtain ⟨_, rfl⟩ := Prod.mk.inj (Except.ok.inj kept)
    obtain ⟨_, rfl⟩ := Db.insertPaymentReceipt_ok inserted
    exact added ⟨rfl, rfl, rfl, fun absurdity => by cases absurdity⟩
  unfold Payments.recordReceipt at recorded
  split at recorded
  case _ =>
    cases recorded
    exact fun id row stored => Or.inl stored
  case _ =>
    obtain ⟨intent, _, recorded⟩ := Result.bind_ok.mp recorded
    unfold Payments.recordLocked at recorded
    split at recorded
    case isTrue => exact kept recorded
    case isFalse =>
      split at recorded
      case isTrue => exact kept recorded
      case isFalse =>
        obtain ⟨middle, inserted, recorded⟩ := Result.bind_ok.mp recorded
        obtain ⟨_, _, recorded⟩ := Result.bind_ok.mp recorded
        obtain ⟨last, posted, recorded⟩ := Result.bind_ok.mp recorded
        obtain ⟨_, rfl⟩ := Prod.mk.inj (Except.ok.inj recorded)
        obtain ⟨_, rfl⟩ := Db.insertPaymentReceipt_ok inserted
        obtain ⟨journal, _, rfl⟩ := Payments.postJournal_ok posted
        exact added ⟨rfl, rfl, rfl, fun _ => rfl⟩

/-- An inspection is entered for the inspector who reports it. -/
theorem inspected {defectives : Int} {inspectorSub : PyStr} {batchId : Nat} {locked : StampBatch}
    {inspection : Inspection}
    (recorded : Issuance.recordInspection occasion defectives inspectorSub batchId locked db =
      .ok (inspection, after)) : inspection.inspectorSub = inspectorSub := by
  obtain ⟨_, _, recorded⟩ := Result.bind_ok.mp recorded
  obtain ⟨plan, _, recorded⟩ := Result.bind_ok.mp recorded
  obtain ⟨passed, _, recorded⟩ := Result.bind_ok.mp recorded
  obtain ⟨middle, _, recorded⟩ := Result.bind_ok.mp recorded
  split at recorded
  case isTrue =>
    cases recorded
    rfl
  case isFalse =>
    obtain ⟨last, _, recorded⟩ := Result.bind_ok.mp recorded
    cases recorded
    rfl

/-- The stamp that is voided has the serial that was asked for. -/
theorem voided {serial reason principalSub : PyStr}
    (voided : Verify.voidStamp env occasion serial reason principalSub db = .ok after) :
    ∃ stampId stamp, db.stamps[stampId]? = some stamp ∧ stamp.serial = Serials.normalize env.unicode serial ∧
      Verify.Voided env stampId stamp db after := by
  unfold Verify.voidStamp at voided
  split at voided
  case isTrue => cases voided
  case isFalse =>
    split at voided
    case _ => cases voided
    case _ stampId stamp found =>
      obtain ⟨stored, named⟩ := Rows.select_some found
      exact ⟨stampId, stamp, stored, of_decide_eq_true named, Verify.voidLocked_ok voided⟩

end Rows

section Tables

variable {ρ : Type} {rows extra : List ρ} {holds : ρ → Prop}

/-- A row of an extended table was there before or is new. -/
theorem at_append {id : Nat} (found : At (rows ++ extra) id holds) :
    At rows id holds ∨ ∃ row ∈ extra, holds row := by
  obtain ⟨row, stored, holds⟩ := found
  rcases Rows.stored_append_cases stored with old | ⟨_, new⟩
  · exact Or.inl ⟨row, old, holds⟩
  · exact Or.inr ⟨row, List.mem_of_getElem? new, holds⟩

/-- An update that brings nothing about. -/
theorem at_modify {id changed : Nat} {change : ρ → ρ} (inert : ∀ old, holds (change old) → holds old)
    (found : At (rows.modify changed change) id holds) : At rows id holds := by
  obtain ⟨row, stored, holds⟩ := found
  rcases Rows.stored_modify_cases stored with ⟨_, kept⟩ | ⟨rfl, old, present, rfl⟩
  · exact ⟨row, kept, holds⟩
  · exact ⟨old, present, inert old holds⟩

/-- A written batch is anchored by what is written. -/
theorem anchored_written {batchId id : Nat} {copy changed : StampBatch} {batches : List StampBatch}
    (stored : batches[batchId]? = some copy)
    (found : At (Issuance.written batchId copy changed batches) id (fun row => Outbox.Anchored row.status)) :
    At batches id (fun row => Outbox.Anchored row.status) ∨
      (id = batchId ∧ Outbox.Anchored changed.status) := by
  obtain ⟨row, present, anchored⟩ := found
  rcases Cursor.written_rows stored present with ⟨_, old⟩ | ⟨same, rfl⟩
  · exact Or.inl ⟨row, old, anchored⟩
  · exact Or.inr ⟨same, anchored⟩

end Tables

section Requests

/-- The request enters nothing. -/
def Idle (db after : Db) : Prop := ∀ entry, Has after entry → Has db entry

/-- A scan enters nothing. -/
theorem scanned_idle {scan : Verify.Scan} {serial : PyStr} {stampId : Nat} {stamp : Stamp} {outcome : Outcome}
    (scanned : Verify.Scanned env occasion scan serial stampId stamp db outcome after) : Idle db after := by
  intro entry has
  cases scanned with
  | answered => cases entry <;> exact has
  | suspected =>
    cases entry with
    | stamp => exact at_modify (fun _ same => by exact same) has
    | activation => exact at_modify (fun _ same => by simp at same) has
    | void => exact at_modify (fun _ same => by simp at same) has
    | _ => exact has
  | consumes =>
    cases entry with
    | stamp => exact at_modify (fun _ same => by exact same) has
    | activation => exact at_modify (fun _ same => by simp [Verify.consumed] at same) has
    | void => exact at_modify (fun _ same => by simp [Verify.consumed] at same) has
    | _ => exact has

/-- A presented serial enters nothing. -/
theorem presented_idle {scan : Verify.Scan} {serial : PyStr} {outcome : Outcome}
    (presented : Verify.Presented env occasion scan serial db outcome after) : Idle db after := by
  cases presented with
  | unmatched => exact fun entry has => by cases entry <;> exact has
  | matched _ _ scanned => exact scanned_idle scanned

/-- A public scan enters nothing. -/
theorem verifyPublic_idle {body : PublicVerifyIn} {answer : PublicAnswer}
    (verified : verifyPublic env occasion body db = .ok (answer, after)) : Idle db after := by
  rcases verifyPublic_scanned verified with rfl | ⟨serial, result, scanned⟩
  · exact fun _ has => has
  · exact presented_idle (Verify.verifyStamp_ok scanned)

/-- A declaration is no entry. -/
theorem addDeclaration_idle {declarationRef consigneeTin consigneeName sourceEventId : PyStr}
    {items : List LineItem}
    (added : addDeclaration occasion declarationRef consigneeTin consigneeName sourceEventId items db =
      .ok after) : Idle db after := by
  obtain ⟨declaration, lines, _, rfl⟩ := addDeclaration_ok added
  exact fun entry has => by cases entry <;> exact has

/-- What the request enters, and nothing else. -/
def Entered (env : Env) (request : Request) (db after : Db) : Prop :=
  ∀ entry, Has after entry → Has db entry ∨ Enters env.unicode request entry

/-- An idle request enters only what it may. -/
theorem Idle.entered {request : Request} (idle : Idle db after) : Entered env request db after :=
  fun entry has => Or.inl (idle entry has)

/-- An assessment request enters an assessment of its principal. -/
theorem createAssessment_entered {subject idemKey : PyStr} {body : AssessmentCreateIn}
    {assessmentId : Nat}
    (created : createAssessment env occasion subject idemKey body db = .ok (assessmentId, after)) :
    Entered env (.assessment subject idemKey body) db after := by
  obtain ⟨⟨declarationId, declaration⟩, _, created⟩ := Result.bind_ok.mp created
  obtain ⟨⟨id, middle⟩, assessed, created⟩ := Result.bind_ok.mp created
  obtain ⟨assessment, _, created⟩ := Result.bind_ok.mp created
  obtain ⟨last, queued, created⟩ := Result.bind_ok.mp created
  obtain ⟨_, rfl⟩ := Prod.mk.inj (Except.ok.inj created)
  obtain ⟨message, rfl⟩ := Outbox.enqueue_ok queued
  have rows := submitted (translated_ok.mp assessed)
  intro entry has
  rcases Assessments.createAssessment_ok (translated_ok.mp assessed) with rfl | ⟨row, lines, _, _, rfl⟩
  · exact Or.inl (by cases entry <;> exact has)
  · cases entry with
    | assessment id submittedBy =>
      obtain ⟨held, stored, same⟩ := has
      rcases rows id held stored with old | new
      · exact Or.inl ⟨held, old, same⟩
      · exact Or.inr (same.symm.trans new)
    | _ => exact Or.inl has

/-- A decision request enters a decision of its principal. -/
theorem decideAssessment_entered {subject reason : PyStr} {assessmentId : Nat} {decision : Decision}
    (settled : decideAssessment env occasion subject assessmentId decision reason db = .ok after) :
    Entered env (.decision subject assessmentId decision reason) db after := by
  obtain ⟨middle, recorded, settled⟩ := Result.bind_ok.mp settled
  have rows := decided (translated_ok.mp recorded)
  obtain ⟨assessment, approval, verdict, _, _, rfl⟩ :=
    Assessments.recordDecision_ok (translated_ok.mp recorded)
  obtain ⟨current, _, settled⟩ := Result.bind_ok.mp settled
  obtain ⟨messages, rfl⟩ : ∃ messages, after = { db with
      approvals := db.approvals ++ [approval]
      assessments := Assessments.judged assessmentId occasion.time verdict db.assessments
      outboxMessages := messages } := by
    split at settled
    case isTrue =>
      obtain ⟨message, rfl⟩ := Outbox.enqueue_ok settled
      exact ⟨_, rfl⟩
    case isFalse =>
      cases settled
      exact ⟨_, rfl⟩
  intro entry has
  cases entry with
  | assessment id submittedBy =>
    refine Or.inl ?_
    cases verdict with
    | none => exact has
    | some status => exact at_modify (fun _ same => by exact same) has
  | approval id row => exact rows id row has
  | _ => exact Or.inl has

/-- An intent request enters an intent of its assessment. -/
theorem createPaymentIntent_entered {assessmentId intentId : Nat}
    (created : createPaymentIntent env occasion assessmentId db = .ok (intentId, after)) :
    Entered env (.paymentIntent assessmentId) db after := by
  obtain ⟨assessment, _, created⟩ := Result.bind_ok.mp created
  obtain ⟨_, rfl | ⟨intent, asked, rfl⟩⟩ := Payments.createIntent_ok (translated_ok.mp created)
  · exact fun _ has => Or.inl has
  · intro entry has
    cases entry with
    | assessment => exact Or.inl (at_modify (fun _ same => by exact same) has)
    | intent id subject =>
      rcases at_append has with old | ⟨row, new, same⟩
      · exact Or.inl old
      · obtain rfl := List.mem_singleton.mp new
        exact Or.inr (same.symm.trans asked.subject)
    | _ => exact Or.inl has

/-- A receipt request enters a receipt under its reference. -/
theorem recordPaymentReceipt_entered {body : ReceiptIn} {receiptId : Nat}
    (recorded : recordPaymentReceipt env occasion body db = .ok (receiptId, after)) :
    Entered env (.receipt body) db after := by
  obtain ⟨_, _, recorded⟩ := Result.bind_ok.mp recorded
  have rows := received recorded
  unfold Payments.recordReceipt at recorded
  split at recorded
  case _ =>
    cases recorded
    exact fun _ has => Or.inl has
  case _ =>
    obtain ⟨intent, _, recorded⟩ := Result.bind_ok.mp recorded
    intro entry has
    rcases Payments.recordLocked_ok recorded with ⟨receipt, _, rfl⟩ | ⟨_, receipt, journal, _, rfl⟩
    · cases entry with
      | receipt id row => exact rows id row has
      | _ => exact Or.inl has
    · cases entry with
      | receipt id row => exact rows id row has
      | assessment => exact Or.inl (at_modify (fun _ same => by exact same) has)
      | intent => exact Or.inl (at_modify (fun _ same => by exact same) has)
      | _ => exact Or.inl has

/-- A batch request enters a batch of its assessment. -/
theorem createBatch_entered {assessmentId batchId : Nat}
    (created : createBatch occasion assessmentId db = .ok (batchId, after)) :
    Entered env (.batch assessmentId) db after := by
  obtain ⟨assessment, _, created⟩ := Result.bind_ok.mp created
  obtain ⟨_, rfl | ⟨batch, opened, rfl⟩⟩ := Issuance.createBatch_ok (translated_ok.mp created)
  · exact fun _ has => Or.inl has
  · intro entry has
    cases entry with
    | assessment => exact Or.inl (at_modify (fun _ same => by exact same) has)
    | batch id subject =>
      rcases at_append has with old | ⟨row, new, same⟩
      · exact Or.inl old
      · obtain rfl := List.mem_singleton.mp new
        exact Or.inr (same.symm.trans opened.subject)
    | anchor id =>
      obtain ⟨row, stored, anchored⟩ := has
      rcases Rows.stored_insert_cases stored with old | ⟨_, rfl⟩
      · exact Or.inl ⟨row, old, anchored⟩
      · rcases anchored with same | same | same <;> cases opened.pending.symm.trans same
    | _ => exact Or.inl has

/-- A chunk enters stamps of its batch. -/
theorem issueBatch_entered {batchId : Nat} {chunkSize : Option ChunkSize} {count : Int}
    (issued : issueBatch env occasion batchId chunkSize db = .ok (count, after)) :
    Entered env (.issue batchId chunkSize) db after := by
  obtain ⟨batch, stored, issued⟩ := Result.bind_ok.mp issued
  have stored := found_ok.mp stored
  obtain ⟨⟨number, copy, last⟩, chunking, answered⟩ := Result.bind_ok.mp issued
  obtain ⟨_, rfl⟩ := Prod.mk.inj (Except.ok.inj answered)
  intro entry has
  cases Issuance.issueChunk_ok chunking with
  | past => exact Or.inl has
  | exhausted =>
    cases entry with
    | batch => exact Or.inl (at_modify (fun _ same => by exact same) has)
    | anchor =>
      rcases anchored_written stored has with old | ⟨_, anchored⟩
      · exact Or.inl old
      · rcases anchored with same | same | same <;> cases same
    | _ => exact Or.inl has
  | issues _ _ subject _ made =>
    cases entry with
    | batch => exact Or.inl (at_modify (fun _ same => by exact same) has)
    | anchor =>
      rcases anchored_written stored has with old | ⟨_, anchored⟩
      · exact Or.inl old
      · rcases Issuance.advanced_status batch _ with status | status
        · rcases anchored with same | same | same <;> cases status.symm.trans same
        · rcases anchored with same | same | same <;> cases status.symm.trans same
    | stamp =>
      rcases at_append has with old | ⟨row, new, same⟩
      · exact Or.inl old
      · obtain ⟨_, fresh⟩ := made.each new
        exact Or.inr (same.symm.trans (fresh.batch.trans subject))
    | activation =>
      rcases at_append has with old | ⟨row, new, _, active⟩
      · exact Or.inl old
      · obtain ⟨_, fresh⟩ := made.each new
        cases fresh.issued.symm.trans active
    | void =>
      rcases at_append has with old | ⟨row, new, _, void⟩
      · exact Or.inl old
      · obtain ⟨_, fresh⟩ := made.each new
        cases fresh.issued.symm.trans void
    | _ => exact Or.inl has

/-- A finalize request enters the anchor of its batch. -/
theorem finalizeBatch_entered {subject : PyStr} {batchId : Nat}
    (finalized : finalizeBatch env occasion subject batchId db = .ok after) :
    Entered env (.finalize subject batchId) db after := by
  obtain ⟨batch, stored, finalized⟩ := Result.bind_ok.mp finalized
  obtain ⟨_, root, message, _, rfl⟩ := Issuance.finalizeBatch_ok (translated_ok.mp finalized)
  intro entry has
  cases entry with
  | batch => exact Or.inl (at_modify (fun _ same => by exact same) has)
  | anchor =>
    rcases anchored_written (found_ok.mp stored) has with old | ⟨same, _⟩
    · exact Or.inl old
    · exact Or.inr same
  | _ => exact Or.inl has

/-- An inspection request enters an inspection of its principal. -/
theorem inspectBatch_entered {subject : PyStr} {batchId : Nat} {body : InspectionIn} {inspection : Inspection}
    (recorded : inspectBatch occasion subject batchId body db = .ok (inspection, after)) :
    Entered env (.inspection subject batchId body) db after := by
  obtain ⟨batch, stored, recorded⟩ := inspectBatch_ok recorded
  have inspector := inspected recorded
  obtain ⟨inspectable, named, rest⟩ := Issuance.recordInspection_ok recorded
  have rows := @added _ (fun row : Inspection => row.batchId = batchId ∧ row.inspectorSub = subject)
    db.inspections inspection ⟨named, inspector⟩
  intro entry has
  rcases rest with ⟨_, rfl⟩ | ⟨_, rfl⟩
  · cases entry with
    | inspection id row => exact rows id row has
    | _ => exact Or.inl has
  · cases entry with
    | inspection id row => exact rows id row has
    | batch => exact Or.inl (at_modify (fun _ same => by exact same) has)
    | anchor =>
      rcases anchored_written stored has with old | ⟨rfl, _⟩
      · exact Or.inl old
      · exact Or.inl ⟨batch, stored, inspectable.elim Or.inl (fun active => Or.inr (Or.inl active))⟩
    | _ => exact Or.inl has

/-- An activation request enters activations of its batch. -/
theorem activateBatch_entered {subject : PyStr} {batchId count : Nat}
    (activated : activateBatch env occasion subject batchId db = .ok (count, after)) :
    Entered env (.activate subject batchId) db after := by
  obtain ⟨batch, stored, activated⟩ := Result.bind_ok.mp activated
  obtain ⟨ready, _, message, rfl⟩ := Issuance.activateBatch_ok (translated_ok.mp activated)
  have touched : ∀ row : Stamp, ∀ changed, changed = (if Issuance.activates batchId row then
      { row with status := .active, activatedAt := some occasion.time } else row) →
      changed = row ∨ (changed.batchId = batchId ∧ changed.batchId = row.batchId ∧ changed.status = .active) := by
    rintro row _ rfl
    split
    case isTrue touched =>
      simp only [Issuance.activates, Bool.and_eq_true, decide_eq_true_eq] at touched
      exact Or.inr ⟨touched.1, rfl, rfl⟩
    case isFalse => exact Or.inl rfl
  have mapped : ∀ {id : Nat} {row : Stamp} {change : Stamp → Stamp}, (db.stamps.map change)[id]? = some row →
      ∃ old, db.stamps[id]? = some old ∧ change old = row := by
    intro id row change stored
    rwa [List.getElem?_map, Option.map_eq_some_iff] at stored
  intro entry has
  cases entry with
  | batch => exact Or.inl (at_modify (fun _ same => by exact same) has)
  | anchor =>
    rcases anchored_written (found_ok.mp stored) has with old | ⟨rfl, _⟩
    · exact Or.inl old
    · exact Or.inl ⟨batch, found_ok.mp stored, Or.inl ready⟩
  | stamp =>
    obtain ⟨row, stored, same⟩ := has
    obtain ⟨old, present, changed⟩ := mapped stored
    refine Or.inl ⟨old, present, ?_⟩
    rcases touched old row changed.symm with rfl | ⟨_, kept, _⟩
    · exact same
    · exact kept.symm.trans same
  | activation =>
    obtain ⟨row, stored, same, active⟩ := has
    obtain ⟨old, present, changed⟩ := mapped stored
    rcases touched old row changed.symm with rfl | ⟨here, _, _⟩
    · exact Or.inl ⟨row, present, same, active⟩
    · exact Or.inr (same.symm.trans here)
  | void =>
    obtain ⟨row, stored, same, void⟩ := has
    obtain ⟨old, present, changed⟩ := mapped stored
    rcases touched old row changed.symm with rfl | ⟨_, _, active⟩
    · exact Or.inl ⟨row, present, same, void⟩
    · cases active.symm.trans void
  | _ => exact Or.inl has

/-- A void request enters the void of its serial. -/
theorem voidStamp_entered {subject serial : PyStr} {body : VoidIn}
    (done : voidStamp env occasion subject serial body db = .ok after) :
    Entered env (.void subject serial body) db after := by
  obtain ⟨stampId, stamp, stored, named, voided⟩ := voided (translated_ok.mp done)
  intro entry has
  cases voided with
  | already => exact Or.inl has
  | voids =>
    cases entry with
    | stamp => exact Or.inl (at_modify (fun _ same => by exact same) has)
    | activation => exact Or.inl (at_modify (fun _ same => by simp at same) has)
    | void =>
      obtain ⟨row, present, same, void⟩ := has
      rcases Rows.stored_modify_cases present with ⟨_, kept⟩ | ⟨_, old, held, rfl⟩
      · exact Or.inl ⟨row, kept, same, void⟩
      · obtain rfl := Option.some.inj (held.symm.trans stored)
        exact Or.inr (same.symm.trans named)
    | _ => exact Or.inl has

/-- A committed request enters its own entries only. -/
theorem entered {request : Request} (handled : handle env occasion request db = .ok after) :
    Entered env request db after := by
  cases request with
  | declaration subject body =>
    obtain ⟨_, _, added⟩ := Result.bind_ok.mp handled
    exact (addDeclaration_idle added).entered
  | declarationEvent event => exact (addDeclaration_idle handled).entered
  | assessment subject idemKey body =>
    obtain ⟨_, created⟩ := map_snd_ok handled
    exact createAssessment_entered created
  | decision subject assessmentId decision reason => exact decideAssessment_entered handled
  | paymentIntent assessmentId =>
    obtain ⟨_, created⟩ := map_snd_ok handled
    exact createPaymentIntent_entered created
  | receipt body =>
    obtain ⟨_, recorded⟩ := map_snd_ok handled
    exact recordPaymentReceipt_entered recorded
  | batch assessmentId =>
    obtain ⟨_, created⟩ := map_snd_ok handled
    exact createBatch_entered created
  | issue batchId chunkSize =>
    obtain ⟨_, issued⟩ := map_snd_ok handled
    exact issueBatch_entered issued
  | finalize subject batchId => exact finalizeBatch_entered handled
  | inspection subject batchId body =>
    obtain ⟨_, recorded⟩ := map_snd_ok handled
    exact inspectBatch_entered recorded
  | activate subject batchId =>
    obtain ⟨_, activated⟩ := map_snd_ok handled
    exact activateBatch_entered activated
  | verify verifier body =>
    obtain ⟨_, verified⟩ := map_snd_ok handled
    obtain ⟨_, _, presented⟩ := verify_presented verified
    exact (presented_idle presented).entered
  | verifyPublic body =>
    obtain ⟨_, verified⟩ := map_snd_ok handled
    exact (verifyPublic_idle verified).entered
  | void subject serial body => exact voidStamp_entered handled

end Requests

end TaxStamps.Entries
