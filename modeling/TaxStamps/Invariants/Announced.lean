import TaxStamps.Events.About
import TaxStamps.Invariants.Stamps
import TaxStamps.Library.Announcements

/-!
# Every event is announced once

A request appends to the outbox the events that it makes happen: an assessment
is approved, a batch is anchored or activated, a stamp is scanned or voided.
None of them can happen again, so over a whole run the outbox holds one message
for each. The announcement of a new assessment is left aside, since a repeated
call announces the assessment again.
-/

namespace TaxStamps.Outbox

open Api Announcements

variable {env : Env} {occasion : Occasion} {db before after : Db} {added : List OutboxMessage}

/-- An event and the subject that its message names. -/
abbrev Notice := EventType × PyStr

/-- What messages announce, apart from new assessments. -/
def heard (messages : List OutboxMessage) : List Notice :=
  (messages.filterMap about).filter (fun notice => decide (notice.1 ≠ .assessed))

/-- The number of messages about a subject. -/
def announced (db : Db) (event : EventType) (subject : PyStr) : Nat :=
  db.outboxMessages.countP (fun message => decide (about message = some (event, subject)))

/-- Further messages are heard after the earlier ones. -/
theorem heard_append (messages added : List OutboxMessage) :
    heard (messages ++ added) = heard messages ++ heard added := by
  rw [heard, List.filterMap_append, List.filter_append]
  rfl

/-- What is heard counts the messages about a subject. -/
theorem announced_count {event : EventType} (once : event ≠ .assessed) (subject : PyStr) :
    announced db event subject = (heard db.outboxMessages).count (event, subject) := by
  rw [announced, heard, List.count_filter (by simpa using once), List.count, List.countP_filterMap]
  apply List.countP_congr
  intro message _
  cases about message <;> simp

/-- The subjects of an event. -/
def subjects (event : EventType) (notices : List Notice) : List PyStr :=
  (notices.filter (fun notice => decide (notice.1 = event))).map Prod.snd

/-- The subjects of an event are those it is heard about. -/
theorem mem_subjects {event : EventType} {notices : List Notice} {subject : PyStr} :
    subject ∈ subjects event notices ↔ (event, subject) ∈ notices := by
  rw [subjects, List.mem_map]
  constructor
  · rintro ⟨⟨other, text⟩, listed, rfl⟩
    obtain ⟨present, same⟩ := List.mem_filter.mp listed
    rwa [← of_decide_eq_true same]
  · exact fun listed => ⟨_, List.mem_filter.mpr ⟨listed, decide_eq_true rfl⟩, rfl⟩

section Marks

/-- An assessment is named by its identifier. -/
def assessmentName (env : Env) (assessmentId : Nat) (_ : Assessment) : PyStr :=
  Issuance.assessmentText env assessmentId

/-- A batch is named by its identifier. -/
def batchName (env : Env) (batchId : Nat) (_ : StampBatch) : PyStr := Issuance.batchText env batchId

/-- A stamp is named by its serial. -/
def stampName (_ : Nat) (stamp : Stamp) : PyStr := stamp.serial

/-- The batch has its anchor. -/
def Anchored (status : BatchStatus) : Prop :=
  status = .ready ∨ status = .active ∨ status = .inspectionFailed

/-- The batch is active. -/
def Active (status : BatchStatus) : Prop := status = .active

/-- The statuses that an active batch can have later. -/
def Released (status : BatchStatus) : Prop := status = .active ∨ status = .inspectionFailed

/-- The event about the subject is the case. -/
def Marks (env : Env) (db : Db) : Notice → Prop
  | (.assessed, _) => False
  | (.approved, subject) => Holds (assessmentName env) (fun row => row.status = .approved) db.assessments subject
  | (.issued, subject) => Holds (batchName env) (fun row => Anchored row.status) db.stampBatches subject
  | (.activated, subject) => Holds (batchName env) (fun row => Active row.status) db.stampBatches subject
  | (.verified, subject) => Holds stampName (fun stamp => stamp.firstScanAt.isSome = true) db.stamps subject
  | (.voided, subject) => Holds stampName (fun stamp => stamp.status = .void) db.stamps subject

/-- The event about the subject cannot happen any more. -/
def Past (env : Env) (db : Db) : Notice → Prop
  | (.assessed, _) => False
  | (.approved, subject) =>
    Holds (assessmentName env) (fun row => row.status ≠ .pendingApproval) db.assessments subject
  | (.issued, subject) => Holds (batchName env) (fun row => Anchored row.status) db.stampBatches subject
  | (.activated, subject) => Holds (batchName env) (fun row => Released row.status) db.stampBatches subject
  | (.verified, subject) => Holds stampName (fun stamp => stamp.firstScanAt.isSome = true) db.stamps subject
  | (.voided, subject) => Holds stampName (fun stamp => stamp.status = .void) db.stamps subject

/-- What is the case cannot happen any more. -/
theorem Marks.past {notice : Notice} (marks : Marks env db notice) : Past env db notice := by
  obtain ⟨event, subject⟩ := notice
  cases event with
  | assessed => exact marks
  | approved =>
    obtain ⟨id, row, stored, named, approved⟩ := marks
    exact ⟨id, row, stored, named, by simp [approved]⟩
  | activated =>
    obtain ⟨id, row, stored, named, active⟩ := marks
    exact ⟨id, row, stored, named, Or.inl active⟩
  | issued => exact marks
  | verified => exact marks
  | voided => exact marks

/-- The outbox as the log of what happens. -/
def board (env : Env) : Board Db Notice where
  log db := heard db.outboxMessages
  marks := Marks env
  past := Past env

end Marks

/-- The identifiers that PostgreSQL keeps apart as primary keys. -/
structure PrimaryKeys (env : Env) (db : Db) : Prop where
  assessments : ∀ first second, first < db.assessments.length → second < db.assessments.length →
    Issuance.assessmentText env first = Issuance.assessmentText env second → first = second
  stampBatches : ∀ first second, first < db.stampBatches.length → second < db.stampBatches.length →
    Issuance.batchText env first = Issuance.batchText env second → first = second

/-- What a step does to the assessments, the batches and the stamps. -/
structure Happens (env : Env) (before after : Db) (notices : List Notice) : Prop where
  approved : Turns (assessmentName env) (fun row => row.status = .approved)
    (fun row => row.status ≠ .pendingApproval) before.assessments after.assessments (subjects .approved notices)
  issued : Turns (batchName env) (fun row => Anchored row.status) (fun row => Anchored row.status)
    before.stampBatches after.stampBatches (subjects .issued notices)
  activated : Turns (batchName env) (fun row => Active row.status) (fun row => Released row.status)
    before.stampBatches after.stampBatches (subjects .activated notices)
  verified : Turns stampName (fun stamp => stamp.firstScanAt.isSome = true)
    (fun stamp => stamp.firstScanAt.isSome = true) before.stamps after.stamps (subjects .verified notices)
  voided : Turns stampName (fun stamp => stamp.status = .void) (fun stamp => stamp.status = .void)
    before.stamps after.stamps (subjects .voided notices)

/-- The message states a number of activated stamps. -/
def Counts (message : OutboxMessage) (count : Nat) : Prop :=
  ∃ stored, member "activatedCount" message = some stored ∧ stored.JsonEq (.int count)

/-- The activation of a batch, counted in its message. -/
structure Activation (env : Env) (before after : Db) (message : OutboxMessage) (batchId : Nat) : Prop where
  named : about message = some (.activated, Issuance.batchText env batchId)
  ready : ∃ batch, before.stampBatches[batchId]? = some batch ∧ batch.status = .ready
  stamps : ∃ time, after.stamps = (Issuance.activateStamps batchId time before).stamps
  counts : Counts message (before.stamps.countP (Issuance.activates batchId))

/-- A step that announces what it makes happen. -/
structure Tells (env : Env) (before after : Db) (added : List OutboxMessage) : Prop where
  appended : after.outboxMessages = before.outboxMessages ++ added
  distinct : (heard added).Nodup
  happens : Happens env before after (heard added)
  counted : ∀ message ∈ added, ∀ subject, about message = some (.activated, subject) →
    ∃ batchId, Activation env before after message batchId

/-- A step that tells what happens announces exactly the marks that it makes. -/
theorem Tells.announces (tells : Tells env before after added) (keys : PrimaryKeys env before)
    (serials : Named stampName before.stamps) : Announces (board env) before after (heard added) := by
  have bounded : ∀ {ρ : Type} {rows : List ρ} {id : Nat} {row : ρ}, rows[id]? = some row → id < rows.length :=
    fun stored => (List.getElem?_eq_some_iff.mp stored).1
  have assessments : Named (assessmentName env) before.assessments := fun first second left right here there =>
    keys.assessments first second (bounded here) (bounded there)
  have batches : Named (batchName env) before.stampBatches := fun first second left right here there =>
    keys.stampBatches first second (bounded here) (bounded there)
  have happens := tells.happens
  constructor
  · exact (congrArg heard tells.appended).trans (heard_append _ _)
  · exact tells.distinct
  · rintro ⟨event, subject⟩ gone
    cases event with
    | assessed => exact gone
    | approved => exact happens.approved.holds_lasting gone
    | issued => exact happens.issued.holds_lasting gone
    | activated => exact happens.activated.holds_lasting gone
    | verified => exact happens.verified.holds_lasting gone
    | voided => exact happens.voided.holds_lasting gone
  · rintro ⟨event, subject⟩ marks
    rw [← mem_subjects]
    cases event with
    | assessed => exact absurd marks id
    | approved => exact happens.approved.holds_announced marks
    | issued => exact happens.issued.holds_announced marks
    | activated => exact happens.activated.holds_announced marks
    | verified => exact happens.verified.holds_announced marks
    | voided => exact happens.voided.holds_announced marks
  · rintro ⟨event, subject⟩ listed
    have once : event ≠ .assessed := of_decide_eq_true (List.mem_filter.mp listed).2
    rw [← mem_subjects] at listed
    have fresh : Marks env after (event, subject) ∧ ¬ Past env before (event, subject) := by
      cases event with
      | assessed => exact absurd rfl once
      | approved => exact happens.approved.holds_fresh assessments listed
      | issued => exact happens.issued.holds_fresh batches listed
      | activated => exact happens.activated.holds_fresh batches listed
      | verified => exact happens.verified.holds_fresh serials listed
      | voided => exact happens.voided.holds_fresh serials listed
    exact ⟨fresh.1, fresh.1.past, fresh.2⟩

section Tables

/-- Nothing happens in tables that stay. -/
theorem Happens.same (assessments : after.assessments = before.assessments)
    (batches : after.stampBatches = before.stampBatches) (stamps : after.stamps = before.stamps) :
    Happens env before after [] := by
  constructor
  · rw [assessments]
    exact .same
  · rw [batches]
    exact .same
  · rw [batches]
    exact .same
  · rw [stamps]
    exact .same
  · rw [stamps]
    exact .same

/-- A message about an event other than an assessment is heard. -/
theorem heard_one {message : OutboxMessage} {event : EventType} {subject : PyStr}
    (named : about message = some (event, subject)) (once : event ≠ .assessed) :
    heard [message] = [(event, subject)] := by
  simp [heard, named, once]

/-- A step that says nothing. -/
theorem Tells.silent (happens : Happens env before after [])
    (outbox : after.outboxMessages = before.outboxMessages) : ∃ added, Tells env before after added := by
  refine ⟨[], by rw [outbox, List.append_nil], List.nodup_nil, happens, ?_⟩
  exact fun message absent => absurd absent List.not_mem_nil

/-- A step that announces a new assessment only. -/
theorem Tells.assessed {subject : PyStr} (announced : Announced .assessed subject before after)
    (happens : Happens env before after []) : ∃ added, Tells env before after added := by
  obtain ⟨message, outbox, named⟩ := announced
  have unheard : heard [message] = [] := by simp [heard, named]
  refine ⟨[message], outbox, ?_, ?_, ?_⟩
  · rw [unheard]
    exact List.nodup_nil
  · rwa [unheard]
  · intro other listed text activated
    rw [List.mem_singleton.mp listed, named] at activated
    cases activated

/-- A step that announces one event other than an activation. -/
theorem Tells.one {event : EventType} {subject : PyStr} (announced : Announced event subject before after)
    (once : event ≠ .assessed) (other : event ≠ .activated)
    (happens : Happens env before after [(event, subject)]) : ∃ added, Tells env before after added := by
  obtain ⟨message, outbox, named⟩ := announced
  refine ⟨[message], outbox, ?_, ?_, ?_⟩
  · rw [heard_one named once]
    exact List.nodup_singleton _
  · rwa [heard_one named once]
  · intro held listed text activated
    rw [List.mem_singleton.mp listed, named] at activated
    exact absurd (Prod.mk.inj (Option.some.inj activated)).1 other

variable {assessments : List Assessment} {batches : List StampBatch} {stamps : List Stamp}

/-- An assessment moves on, past its approval. -/
theorem assessments_change {id : Nat} {change : Assessment → Assessment}
    (onward : ∀ row, (change row).status ≠ .pendingApproval ∧ (change row).status ≠ .approved) :
    Turns (assessmentName env) (fun row => row.status = .approved) (fun row => row.status ≠ .pendingApproval)
      assessments (assessments.modify id change) [] :=
  Turns.modify (fun _ _ => rfl) (fun row _ _ => (onward row).1) (fun row _ same => absurd same (onward row).2)

/-- A write to a batch that gives it no mark. -/
theorem written_change {batchId : Nat} {batch changed : StampBatch} {marks past : BatchStatus → Prop}
    (stored : batches[batchId]? = some batch) (lasts : past batch.status → past changed.status)
    (unmarked : marks changed.status → marks batch.status) :
    Turns (batchName env) (fun row => marks row.status) (fun row => past row.status) batches
      (Issuance.written batchId batch changed batches) [] := by
  apply Turns.modify
  · exact fun _ _ => rfl
  · intro row present gone
    obtain rfl := Option.some.inj (stored.symm.trans present)
    simp only [Relock.column_current]
    exact lasts gone
  · intro row present marked
    obtain rfl := Option.some.inj (stored.symm.trans present)
    simp only [Relock.column_current] at marked
    exact unmarked marked

/-- A write to a batch that marks it. -/
theorem written_mark {batchId : Nat} {batch changed : StampBatch} {marks past : BatchStatus → Prop}
    (stored : batches[batchId]? = some batch) (unpast : ¬ past batch.status) (marked : marks changed.status) :
    Turns (batchName env) (fun row => marks row.status) (fun row => past row.status) batches
      (Issuance.written batchId batch changed batches) [Issuance.batchText env batchId] := by
  apply Turns.mark stored
  · exact fun _ _ => rfl
  · exact unpast
  · simp only [Relock.column_current]
    exact marked

/-- A stamp that is not void gets another status. -/
theorem voided_change {stampId : Nat} {stamp : Stamp} {change : Stamp → Stamp}
    (stored : stamps[stampId]? = some stamp) (open_ : stamp.status ≠ .void)
    (named : ∀ row, (change row).serial = row.serial) (other : ∀ row, (change row).status ≠ .void) :
    Turns stampName (fun stamp => stamp.status = .void) (fun stamp => stamp.status = .void) stamps
      (stamps.modify stampId change) [] := by
  apply Turns.modify
  · exact fun _ row => named row
  · intro row present void
    obtain rfl := Option.some.inj (stored.symm.trans present)
    exact absurd void open_
  · exact fun row _ void => absurd void (other row)

end Tables

section Requests

variable {subject : PyStr}

/-- An assessment request announces what it makes happen. -/
theorem createAssessment_tells {idemKey : PyStr} {body : AssessmentCreateIn} {assessmentId : Nat}
    (created : createAssessment env occasion subject idemKey body db = .ok (assessmentId, after)) :
    ∃ added, Tells env db after added := by
  have announced := createAssessment_announces created
  obtain ⟨⟨declarationId, declaration⟩, _, created⟩ := Result.bind_ok.mp created
  obtain ⟨⟨id, middle⟩, assessed, created⟩ := Result.bind_ok.mp created
  obtain ⟨assessment, _, created⟩ := Result.bind_ok.mp created
  obtain ⟨last, queued, created⟩ := Result.bind_ok.mp created
  obtain ⟨rfl, rfl⟩ := Prod.mk.inj (Except.ok.inj created)
  obtain ⟨message, rfl⟩ := enqueue_ok queued
  rcases Assessments.createAssessment_ok (translated_ok.mp assessed) with
    rfl | ⟨assessment, lines, computed, _, rfl⟩
  · exact Tells.assessed announced (.same rfl rfl rfl)
  · apply Tells.assessed announced
    have pending : ∀ row ∈ [assessment], ¬ row.status = .approved := by simp [computed.pending]
    exact ⟨.append pending, .same, .same, .same, .same⟩

/-- A decision request announces what it makes happen. -/
theorem decideAssessment_tells {reason : PyStr} {assessmentId : Nat} {decision : Decision}
    (settled : decideAssessment env occasion subject assessmentId decision reason db = .ok after) :
    ∃ added, Tells env db after added := by
  obtain ⟨assessment, approval, verdict, messages, decided, judged, rfl, announced⟩ :=
    decideAssessment_announces settled
  have pending : ¬ assessment.status ≠ .pendingApproval := not_not_intro decided.pending
  cases judged with
  | rejects =>
    rcases announced with ⟨approved, _⟩ | ⟨_, rfl⟩
    · cases approved
    · refine Tells.silent ?_ (List.append_nil _)
      exact ⟨assessments_change (fun row => ⟨by simp, by simp⟩), .same, .same, .same, .same⟩
  | approves =>
    rcases announced with ⟨_, announced⟩ | ⟨other, _⟩
    · apply Tells.one announced (by decide) (by decide)
      exact ⟨.mark decided.stored (fun _ _ => rfl) pending rfl, .same, .same, .same, .same⟩
    · exact absurd rfl other
  | waits =>
    rcases announced with ⟨approved, _⟩ | ⟨_, rfl⟩
    · cases approved
    · exact Tells.silent (.same rfl rfl rfl) (List.append_nil _)

/-- An intent request announces what it makes happen. -/
theorem createPaymentIntent_tells {assessmentId intentId : Nat}
    (created : createPaymentIntent env occasion assessmentId db = .ok (intentId, after)) :
    ∃ added, Tells env db after added := by
  obtain ⟨assessment, _, created⟩ := Result.bind_ok.mp created
  obtain ⟨_, rfl | ⟨intent, _, rfl⟩⟩ := Payments.createIntent_ok (translated_ok.mp created)
  · exact Tells.silent (.same rfl rfl rfl) rfl
  · refine Tells.silent ?_ rfl
    exact ⟨assessments_change (fun row => ⟨by simp, by simp⟩), .same, .same, .same, .same⟩

/-- A receipt request announces what it makes happen. -/
theorem recordPaymentReceipt_tells {body : ReceiptIn} {receiptId : Nat}
    (recorded : recordPaymentReceipt env occasion body db = .ok (receiptId, after)) :
    ∃ added, Tells env db after added := by
  obtain ⟨_, _, recorded⟩ := Result.bind_ok.mp recorded
  unfold Payments.recordReceipt at recorded
  split at recorded
  case _ existing _ =>
    cases recorded
    exact Tells.silent (.same rfl rfl rfl) rfl
  case _ =>
    obtain ⟨intent, _, recorded⟩ := Result.bind_ok.mp recorded
    rcases Payments.recordLocked_ok recorded with ⟨receipt, _, rfl⟩ | ⟨_, receipt, journal, _, rfl⟩
    · exact Tells.silent (.same rfl rfl rfl) rfl
    · refine Tells.silent ?_ rfl
      exact ⟨assessments_change (fun row => ⟨by simp, by simp⟩), .same, .same, .same, .same⟩

/-- A batch request announces what it makes happen. -/
theorem createBatch_tells {assessmentId batchId : Nat}
    (created : createBatch occasion assessmentId db = .ok (batchId, after)) :
    ∃ added, Tells env db after added := by
  obtain ⟨assessment, _, created⟩ := Result.bind_ok.mp created
  obtain ⟨_, rfl | ⟨batch, opened, rfl⟩⟩ := Issuance.createBatch_ok (translated_ok.mp created)
  · exact Tells.silent (.same rfl rfl rfl) rfl
  · refine Tells.silent ?_ rfl
    refine ⟨assessments_change (fun row => ⟨by simp, by simp⟩), .append ?_, .append ?_, .same, .same⟩
    · simp [opened.pending, Anchored]
    · simp [opened.pending, Active]

/-- Fresh stamps are neither scanned nor void. -/
theorem issued_turns {time : Datetime} {chunk : Issuance.Chunk} {stamps new : List Stamp}
    (issued : Issuance.Issued env time chunk stamps new) :
    (∀ stamp ∈ new, ¬ stamp.firstScanAt.isSome = true) ∧ ∀ stamp ∈ new, ¬ stamp.status = .void := by
  constructor
  · intro stamp member
    obtain ⟨_, fresh⟩ := issued.each member
    simp [fresh.unscanned]
  · intro stamp member
    obtain ⟨_, fresh⟩ := issued.each member
    simp [fresh.issued]

/-- A chunk announces what it makes happen. -/
theorem issueBatch_tells {batchId : Nat} {chunkSize : Option ChunkSize} {count : Int}
    (issued : issueBatch env occasion batchId chunkSize db = .ok (count, after)) :
    ∃ added, Tells env db after added := by
  obtain ⟨batch, stored, issued⟩ := Result.bind_ok.mp issued
  obtain ⟨⟨number, copy, last⟩, chunking, issued⟩ := Result.bind_ok.mp issued
  obtain ⟨rfl, rfl⟩ := Prod.mk.inj (Except.ok.inj issued)
  rw [found_ok] at stored
  cases Issuance.issueChunk_ok chunking with
  | past => exact Tells.silent (.same rfl rfl rfl) rfl
  | exhausted open_ =>
    refine Tells.silent ?_ rfl
    refine ⟨.same, written_change stored ?_ ?_, written_change stored ?_ ?_, .same, .same⟩
    · rcases open_ with status | status <;> simp [status, Anchored]
    · simp [Anchored]
    · rcases open_ with status | status <;> simp [status, Released]
    · simp [Active]
  | issues open_ _ _ _ fresh =>
    obtain ⟨unscanned, unvoided⟩ := issued_turns fresh
    have advanced := Issuance.advanced_status batch
      (Issuance.chunkSize env.settings (chunkSize.map ChunkSize.value) (batch.quantity - batch.issuedCount))
    refine Tells.silent ?_ rfl
    refine ⟨.same, written_change stored ?_ ?_, written_change stored ?_ ?_, .append unscanned,
      .append unvoided⟩
    · rcases open_ with status | status <;> simp [status, Anchored]
    · rcases advanced with status | status <;> simp [status, Anchored]
    · rcases open_ with status | status <;> simp [status, Released]
    · rcases advanced with status | status <;> simp [status, Active]

/-- A finalize request announces what it makes happen. -/
theorem finalizeBatch_tells {batchId : Nat}
    (finalized : finalizeBatch env occasion subject batchId db = .ok after) :
    ∃ added, Tells env db after added := by
  obtain ⟨batch, stored, finalized⟩ := Result.bind_ok.mp finalized
  rw [found_ok] at stored
  rw [translated_ok] at finalized
  have announced := Issuance.finalizeBatch_announces finalized
  obtain ⟨issued, root, message, _, rfl⟩ := Issuance.finalizeBatch_ok finalized
  apply Tells.one announced (by decide) (by decide)
  refine ⟨.same, written_mark stored ?_ ?_, written_change stored ?_ ?_, .same, .same⟩
  · simp [issued, Anchored]
  · exact Or.inl rfl
  · simp [issued, Released]
  · simp [Active]

/-- An inspection request announces what it makes happen. -/
theorem inspectBatch_tells {batchId : Nat} {body : InspectionIn} {inspection : Inspection}
    (inspected : inspectBatch occasion subject batchId body db = .ok (inspection, after)) :
    ∃ added, Tells env db after added := by
  obtain ⟨batch, stored, recorded⟩ := inspectBatch_ok inspected
  obtain ⟨inspectable, _, ⟨_, rfl⟩ | ⟨_, rfl⟩⟩ := Issuance.recordInspection_ok recorded
  · exact Tells.silent (.same rfl rfl rfl) rfl
  · refine Tells.silent ?_ rfl
    refine ⟨.same, written_change stored ?_ ?_, written_change stored ?_ ?_, .same, .same⟩
    · exact fun _ => Or.inr (Or.inr rfl)
    · rcases inspectable with status | status <;> simp [status, Anchored]
    · exact fun _ => Or.inr rfl
    · simp [Active]

/-- An activation request announces what it makes happen. -/
theorem activateBatch_tells {batchId count : Nat}
    (activated : activateBatch env occasion subject batchId db = .ok (count, after)) :
    ∃ added, Tells env db after added := by
  obtain ⟨batch, stored, activated⟩ := Result.bind_ok.mp activated
  rw [found_ok] at stored
  rw [translated_ok] at activated
  obtain ⟨message, outbox, named, counts⟩ := Issuance.activateBatch_announces activated
  obtain ⟨ready, _, _, rfl⟩ := Issuance.activateBatch_ok activated
  refine ⟨[message], outbox, ?_, ?_, ?_⟩
  · rw [heard_one named (by decide)]
    exact List.nodup_singleton _
  · rw [heard_one named (by decide)]
    refine ⟨.same, written_change stored ?_ ?_, written_mark stored ?_ rfl, ?_, ?_⟩
    · exact fun _ => Or.inr (Or.inl rfl)
    · simp [ready, Anchored]
    · simp [ready, Released]
    · apply Turns.change (Rows.pointwise_map _ db.stamps)
      · intro _ stamp
        split <;> rfl
      · intro _ stamp _ scanned
        split <;> exact scanned
      · intro _ stamp _ scanned
        split at scanned <;> exact scanned
    · apply Turns.change (Rows.pointwise_map _ db.stamps)
      · intro _ stamp
        split <;> rfl
      · intro _ stamp _ void
        rwa [if_neg (by simp [Issuance.activates, void])]
      · intro _ stamp _ void
        split at void
        case isTrue => cases void
        case isFalse => exact void
  · intro other listed text activated
    rw [List.mem_singleton.mp listed] at activated ⊢
    exact ⟨batchId, named, ⟨batch, stored, ready⟩, ⟨occasion.time, rfl⟩, counts⟩

/-- A scan of a stored stamp. -/
theorem verifyLocked_tells {scan : Verify.Scan} {serial : PyStr} {stampId : Nat} {stamp : Stamp}
    {result : Verify.ScanResult} (stored : db.stamps[stampId]? = some stamp)
    (verified : Verify.verifyLocked env occasion scan serial stampId stamp db = .ok (result, after)) :
    ∃ added, Tells env db after added := by
  have announced := Verify.verifyLocked_announces verified
  have scanned := Verify.verifyLocked_ok verified
  generalize result.outcome = outcome at scanned
  cases scanned with
  | answered => exact Tells.silent (.same rfl rfl rfl) rfl
  | suspected live =>
    refine Tells.silent ?_ rfl
    refine ⟨.same, .same, .same, ?_, ?_⟩
    · exact Turns.modify (fun _ _ => rfl) (fun _ _ scanned => scanned) (fun _ _ scanned => scanned)
    · exact voided_change stored live.notVoid (fun _ => rfl) (fun _ => by simp)
  | consumes live active unscanned =>
    have announced : Announced .verified stamp.serial db _ :=
      announced.resolve_left (fun same => absurd (congrArg List.length same) (by simp))
    apply Tells.one announced (by decide) (by decide)
    refine ⟨.same, .same, .same, ?_, ?_⟩
    · exact Turns.mark stored (fun _ _ => rfl) (by simp [unscanned]) rfl
    · exact voided_change stored live.notVoid (fun _ => rfl) (fun _ => by simp [Verify.consumed])

/-- A scan announces what it makes happen. -/
theorem verifyStamp_tells {scan : Verify.Scan} {serial : PyStr} {result : Verify.ScanResult}
    (verified : Verify.verifyStamp env occasion scan serial db = .ok (result, after)) :
    ∃ added, Tells env db after added := by
  unfold Verify.verifyStamp at verified
  dsimp only at verified
  split at verified
  case _ text _ =>
    obtain ⟨middle, recorded, verified⟩ := Result.bind_ok.mp verified
    obtain ⟨_, rfl⟩ := Prod.mk.inj (Except.ok.inj verified)
    obtain rfl := Verify.recordAttempt_ok recorded
    exact Tells.silent (.same rfl rfl rfl) rfl
  case _ => cases verified
  case _ parts _ =>
    split at verified
    case _ =>
      obtain ⟨middle, recorded, verified⟩ := Result.bind_ok.mp verified
      obtain ⟨_, rfl⟩ := Prod.mk.inj (Except.ok.inj verified)
      obtain rfl := Verify.recordAttempt_ok recorded
      exact Tells.silent (.same rfl rfl rfl) rfl
    case _ stampId stamp found => exact verifyLocked_tells (Rows.select_some found).1 verified

/-- A public scan announces what it makes happen. -/
theorem verifyPublic_tells {body : PublicVerifyIn} {answer : PublicAnswer}
    (verified : verifyPublic env occasion body db = .ok (answer, after)) :
    ∃ added, Tells env db after added := by
  rcases verifyPublic_scanned verified with rfl | ⟨serial, result, scanned⟩
  · exact Tells.silent (.same rfl rfl rfl) rfl
  · exact verifyStamp_tells scanned

/-- A void announces what it makes happen. -/
theorem voidLocked_tells {reason principalSub : PyStr} {stampId : Nat} {stamp : Stamp}
    (stored : db.stamps[stampId]? = some stamp)
    (voided : Verify.voidLocked env occasion reason principalSub stampId stamp db = .ok after) :
    ∃ added, Tells env db after added := by
  have announced := Verify.voidLocked_announces voided
  cases Verify.voidLocked_ok voided with
  | already => exact Tells.silent (.same rfl rfl rfl) rfl
  | voids open_ =>
    have announced : Announced .voided stamp.serial db _ :=
      announced.resolve_left (fun same => absurd (congrArg List.length same) (by simp))
    apply Tells.one announced (by decide) (by decide)
    refine ⟨.same, .same, .same, ?_, ?_⟩
    · exact Turns.modify (fun _ _ => rfl) (fun _ _ scanned => scanned) (fun _ _ scanned => scanned)
    · exact Turns.mark stored (fun _ _ => rfl) open_ rfl

/-- A declaration happens without an event. -/
theorem addDeclaration_tells {declarationRef consigneeTin consigneeName sourceEventId : PyStr}
    {items : List LineItem}
    (added : addDeclaration occasion declarationRef consigneeTin consigneeName sourceEventId items db =
      .ok after) : ∃ messages, Tells env db after messages := by
  obtain ⟨declaration, lines, _, rfl⟩ := addDeclaration_ok added
  exact Tells.silent (.same rfl rfl rfl) rfl

/-- Every committed request announces what it makes happen. -/
theorem handle_tells {request : Request} (handled : handle env occasion request db = .ok after) :
    ∃ added, Tells env db after added := by
  cases request with
  | declaration subject body =>
    obtain ⟨_, _, added⟩ := Result.bind_ok.mp handled
    exact addDeclaration_tells added
  | declarationEvent event => exact addDeclaration_tells handled
  | assessment subject idemKey body =>
    obtain ⟨_, created⟩ := map_snd_ok handled
    exact createAssessment_tells created
  | decision subject assessmentId decision reason => exact decideAssessment_tells handled
  | paymentIntent assessmentId =>
    obtain ⟨_, created⟩ := map_snd_ok handled
    exact createPaymentIntent_tells created
  | receipt body =>
    obtain ⟨_, recorded⟩ := map_snd_ok handled
    exact recordPaymentReceipt_tells recorded
  | batch assessmentId =>
    obtain ⟨_, created⟩ := map_snd_ok handled
    exact createBatch_tells created
  | issue batchId chunkSize =>
    obtain ⟨_, issued⟩ := map_snd_ok handled
    exact issueBatch_tells issued
  | finalize subject batchId => exact finalizeBatch_tells handled
  | inspection subject batchId body =>
    obtain ⟨_, inspected⟩ := map_snd_ok handled
    exact inspectBatch_tells inspected
  | activate subject batchId =>
    obtain ⟨_, activated⟩ := map_snd_ok handled
    exact activateBatch_tells activated
  | verify verifier body =>
    obtain ⟨_, verified⟩ := map_snd_ok handled
    obtain ⟨lists, _, verified⟩ := Result.bind_ok.mp verified
    exact verifyStamp_tells verified
  | verifyPublic body =>
    obtain ⟨_, verified⟩ := map_snd_ok handled
    exact verifyPublic_tells verified
  | void subject serial body =>
    rw [handle, voidStamp, translated_ok, Verify.voidStamp] at handled
    split at handled
    case isTrue => cases handled
    case isFalse =>
      split at handled
      case _ => cases handled
      case _ stampId stamp found => exact voidLocked_tells (Rows.select_some found).1 handled

/-- A request that is refused announces nothing. -/
theorem submit_tells (env : Env) (occasion : Occasion) (request : Request) (db : Db) :
    ∃ added, Tells env db (submit env occasion request db) added := by
  cases handled : handle env occasion request db with
  | ok committed =>
    rw [submit, handled]
    exact handle_tells handled
  | error problem =>
    rw [submit, handled]
    exact Tells.silent (.same rfl rfl rfl) rfl

end Requests

end TaxStamps.Outbox
