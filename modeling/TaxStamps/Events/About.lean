import TaxStamps.Effects.Scans
import TaxStamps.Events.Wire

/-!
# What a stored message is about

A message in the outbox is read through its envelope: the event it announces,
and the subject that its resource names. Each operation that enqueues an event
leaves one more message about its own subject.
-/

namespace TaxStamps

namespace Outbox

open Envelope

/-- The member of a resource that names the subject of an event. -/
def EventType.subject : EventType → String
  | .assessed => "assessmentId"
  | .approved => "assessmentId"
  | .issued => "batchId"
  | .activated => "batchId"
  | .verified => "serial"
  | .voided => "serial"

/-- The event type of a name. -/
def EventType.ofName (name : PyStr) : Option EventType :=
  [.assessed, .approved, .issued, .activated, .verified, .voided].find?
    (fun event => decide (EventType.name event = name))

/-- The event and the resource of an envelope. -/
def content : Value → Option (EventType × List (Key × Value))
  | .dict members => do
    let event ← (eventTypeOf members).toOption.bind EventType.ofName
    let resource ← (resourceOf members).toOption
    some (event, resource)
  | _ => none

/-- A member of the resource of a message. -/
def member (name : String) (message : OutboxMessage) : Option Value :=
  (content message.envelope).bind (fun content => Value.lookup (key name) content.2)

/-- The event that a message announces and the subject that it names. -/
def about (message : OutboxMessage) : Option (EventType × PyStr) := do
  let content ← content message.envelope
  match ← Value.lookup (key content.1.subject) content.2 with
  | .str subject => some (content.1, subject)
  | _ => none

variable {env : Env} {occasion : Occasion} {db after : Db}

/-- The name of an event type is read back. -/
theorem ofName_name (event : EventType) : EventType.ofName event.name = some event := by
  cases event <;> decide

/-- One more message, about a subject. -/
def Announced (event : EventType) (subject : PyStr) (db after : Db) : Prop :=
  ∃ message, after.outboxMessages = db.outboxMessages ++ [message] ∧ about message = some (event, subject)

section Enqueue

variable {event : EventType} {resource : List (Key × Value)} {principalId principalRole correlationId : PyStr}

/-- What a stored envelope announces. -/
theorem content_stored {time : Datetime} {row : Nat} {envelope stored : Value}
    (object : (Value.dict resource).WellFormed) (untyped : Value.lookup (key "@type") resource = none)
    (built : signed env time row event resource principalId principalRole correlationId = .ok envelope)
    (column : env.jsonb envelope = some stored) :
    ∃ returned, content stored = some (event, returned) ∧
      (Value.dict returned).JsonEq (.dict (withType event resource)) := by
  obtain ⟨payload, _, stated, same⟩ := stored_envelope object untyped built column
  obtain ⟨members, rfl, _⟩ := Value.denote_obj same
  obtain ⟨returned, found, meaning⟩ := resourceOf_received stated same
  have named := @Value.lookup_stored_text _ _ same (py "eventType") _ rfl
  have typed : eventTypeOf members = .ok event.name := by
    simp only [eventTypeOf, named, eventType_present, Bool.false_eq_true, if_false]
  refine ⟨returned, ?_, meaning⟩
  simp only [content, typed, found, Except.toOption, Option.bind_some, ofName_name, Option.bind_eq_bind]

/-- An event is one more message about its subject, whose resource has the
members that were given. -/
theorem enqueue_announces {subject : PyStr}
    (queued : enqueue env occasion event resource principalId principalRole correlationId db = .ok after)
    (object : (Value.dict resource).WellFormed) (untyped : Value.lookup (key "@type") resource = none)
    (names : Value.lookup (key event.subject) (withType event resource) = some (.str subject)) :
    ∃ message, after = { db with outboxMessages := db.outboxMessages ++ [message] } ∧
      about message = some (event, subject) ∧
      ∀ name value, Value.lookup (key name) (withType event resource) = some value →
        ∃ stored, member name message = some stored ∧ stored.JsonEq value := by
  obtain ⟨envelope, built, inserted⟩ := Result.bind_ok.mp queued
  obtain ⟨stored, column, changed⟩ := Db.insertOutboxMessage_ok inserted
  obtain ⟨returned, reads, meaning⟩ := content_stored object untyped built column
  refine ⟨_, changed, ?_, ?_⟩
  · simp only [about, reads, Value.lookup_stored_text meaning names, Option.bind_eq_bind, Option.bind_some]
  · intro name value found
    obtain ⟨kept, present, same⟩ := Value.lookup_stored meaning found
    exact ⟨kept, by simp only [member, reads, Option.bind_some, present], same⟩

end Enqueue

end Outbox

namespace Issuance

variable {env : Env} {occasion : Occasion} {db after : Db} {principalSub : PyStr} {batchId : Nat}
  {locked : StampBatch}

/-- Finalizing announces the batch once. -/
theorem finalizeBatch_announces
    (finalized : finalizeBatch env occasion principalSub batchId locked db = .ok after) :
    Outbox.Announced .issued (batchText env batchId) db after := by
  obtain ⟨_, _, finalized⟩ := Result.bind_ok.mp finalized
  obtain ⟨leaves, _, finalized⟩ := Result.bind_ok.mp finalized
  obtain ⟨middle, wrote, queued⟩ := Result.bind_ok.mp finalized
  obtain ⟨_, rfl⟩ := writeBatch_ok wrote
  obtain ⟨message, rfl, named, _⟩ := Outbox.enqueue_announces queued
    ⟨show [key "batchId", key "assessmentId", key "categoryCode", key "quantity", key "merkleRoot"].Nodup by
      decide, ⟨_, rfl⟩, trivial, ⟨_, rfl⟩, trivial, ⟨_, rfl⟩, trivial, ⟨_, rfl⟩, trivial, ⟨_, rfl⟩, trivial,
      trivial⟩ rfl rfl
  exact ⟨message, rfl, named⟩

/-- The message of an activation counts the stamps that were activated. -/
theorem activateBatch_announces {count : Nat}
    (activated : activateBatch env occasion principalSub batchId locked db = .ok (count, after)) :
    ∃ message, after.outboxMessages = db.outboxMessages ++ [message] ∧
      Outbox.about message = some (.activated, batchText env batchId) ∧
      ∃ stored, Outbox.member "activatedCount" message = some stored ∧
        stored.JsonEq (.int (db.stamps.countP (activates batchId))) := by
  obtain ⟨_, _, activated⟩ := Result.bind_ok.mp activated
  obtain ⟨_, _, activated⟩ := Result.bind_ok.mp activated
  obtain ⟨middle, wrote, activated⟩ := Result.bind_ok.mp activated
  obtain ⟨last, queued, activated⟩ := Result.bind_ok.mp activated
  obtain ⟨_, rfl⟩ := Prod.mk.inj (Except.ok.inj activated)
  obtain ⟨_, rfl⟩ := writeBatch_ok wrote
  obtain ⟨message, rfl, named, members⟩ := Outbox.enqueue_announces queued
    ⟨show [key "batchId", key "activatedCount"].Nodup by decide, ⟨_, rfl⟩, trivial, ⟨_, rfl⟩, trivial,
      trivial⟩ rfl rfl
  exact ⟨message, rfl, named, members "activatedCount" _ rfl⟩

end Issuance

namespace Verify

variable {env : Env} {occasion : Occasion} {db after : Db} {scan : Scan} {serial : PyStr} {stampId : Nat}
  {stamp : Stamp} {result : ScanResult}

/-- Consuming announces the stamp once. -/
theorem consumeStamp_announces
    (consuming : consumeStamp env occasion scan serial stampId stamp db = .ok (result, after)) :
    Outbox.Announced .verified stamp.serial db after := by
  obtain ⟨middle, recorded, consuming⟩ := Result.bind_ok.mp consuming
  obtain ⟨velocity, _, consuming⟩ := Result.bind_ok.mp consuming
  obtain ⟨last, queued, consuming⟩ := Result.bind_ok.mp consuming
  obtain ⟨_, rfl⟩ := Prod.mk.inj (Except.ok.inj consuming)
  obtain rfl := recordAttempt_ok recorded
  have stated : ∀ value, (micros value).WellFormed := by
    intro value
    cases value <;> trivial
  obtain ⟨message, rfl, named, _⟩ := Outbox.enqueue_announces queued
    ⟨show [key "serial", key "batchId", key "verifierId", key "publicScan", key "latMicros",
      key "longMicros", key "velocitySuspect"].Nodup by decide, ⟨_, rfl⟩, trivial, ⟨_, rfl⟩, trivial,
      ⟨_, rfl⟩, trivial, ⟨_, rfl⟩, trivial, ⟨_, rfl⟩, stated _, ⟨_, rfl⟩, stated _, ⟨_, rfl⟩, trivial,
      trivial⟩ rfl rfl
  exact ⟨message, rfl, named⟩

/-- An answer that leaves the stamp as it is enqueues nothing. -/
theorem answer_silent {outcome : Outcome} {detail : PyStr}
    (answered : answer occasion scan serial stampId stamp outcome detail db = .ok (result, after)) :
    after.outboxMessages = db.outboxMessages := by
  obtain ⟨middle, recorded, answered⟩ := Result.bind_ok.mp answered
  obtain ⟨_, rfl⟩ := Prod.mk.inj (Except.ok.inj answered)
  obtain rfl := recordAttempt_ok recorded
  rfl

/-- A repeated scan announces nothing. -/
theorem repeatScan_silent
    (repeated : repeatScan env occasion scan serial stampId stamp db = .ok (result, after)) :
    after.outboxMessages = db.outboxMessages := by
  obtain ⟨middle, recorded, repeated⟩ := Result.bind_ok.mp repeated
  obtain rfl := recordAttempt_ok recorded
  split at repeated
  case isTrue =>
    obtain ⟨last, flagged, repeated⟩ := Result.bind_ok.mp repeated
    obtain ⟨_, rfl⟩ := Prod.mk.inj (Except.ok.inj repeated)
    obtain ⟨_, list, row, _, _, _, rfl⟩ := StatusLists.setFlag_ok flagged
    rfl
  case isFalse =>
    cases repeated
    rfl

/-- A scan is silent, or announces that the stamp was verified. -/
theorem verifyLocked_announces
    (verified : verifyLocked env occasion scan serial stampId stamp db = .ok (result, after)) :
    after.outboxMessages = db.outboxMessages ∨ Outbox.Announced .verified stamp.serial db after := by
  unfold verifyLocked at verified
  split at verified
  case isTrue => exact Or.inl (answer_silent verified)
  case isFalse =>
    split at verified
    case isTrue => exact Or.inl (answer_silent verified)
    case isFalse =>
      split at verified
      case isTrue => exact Or.inl (repeatScan_silent verified)
      case isFalse =>
        split at verified
        case isTrue => exact Or.inl (answer_silent verified)
        case isFalse =>
          split at verified
          case isTrue => exact Or.inl (answer_silent verified)
          case isFalse =>
            obtain ⟨failures, _, verified⟩ := Result.bind_ok.mp verified
            split at verified
            case isTrue => exact Or.inr (consumeStamp_announces verified)
            case isFalse => exact Or.inl (answer_silent verified)

/-- A void announces the stamp at most once. -/
theorem voidLocked_announces {reason principalSub : PyStr}
    (voided : voidLocked env occasion reason principalSub stampId stamp db = .ok after) :
    after.outboxMessages = db.outboxMessages ∨ Outbox.Announced .voided stamp.serial db after := by
  unfold voidLocked at voided
  split at voided
  case isTrue =>
    cases voided
    exact Or.inl rfl
  case isFalse =>
    obtain ⟨middle, flagged, queued⟩ := Result.bind_ok.mp voided
    obtain ⟨_, list, row, _, _, _, rfl⟩ := StatusLists.setFlag_ok flagged
    obtain ⟨message, rfl, named, _⟩ := Outbox.enqueue_announces queued
      ⟨show [key "serial", key "reason", key "batchId"].Nodup by decide, ⟨_, rfl⟩, trivial, ⟨_, rfl⟩, trivial,
        ⟨_, rfl⟩, trivial, trivial⟩ rfl rfl
    exact Or.inr ⟨message, rfl, named⟩

end Verify

namespace Api

variable {env : Env} {occasion : Occasion} {db after : Db} {subject : PyStr}

/-- The event of a new assessment, and of a repeated call. -/
theorem createAssessment_announces {idemKey : PyStr} {body : AssessmentCreateIn} {assessmentId : Nat}
    (created : createAssessment env occasion subject idemKey body db = .ok (assessmentId, after)) :
    Outbox.Announced .assessed (Issuance.assessmentText env assessmentId) db after := by
  obtain ⟨⟨declarationId, declaration⟩, _, created⟩ := Result.bind_ok.mp created
  obtain ⟨⟨id, middle⟩, assessed, created⟩ := Result.bind_ok.mp created
  obtain ⟨assessment, _, created⟩ := Result.bind_ok.mp created
  obtain ⟨last, queued, created⟩ := Result.bind_ok.mp created
  obtain ⟨rfl, rfl⟩ := Prod.mk.inj (Except.ok.inj created)
  obtain ⟨message, rfl, named, _⟩ := Outbox.enqueue_announces queued
    ⟨show [key "assessmentId", key "declarationRef", key "consigneeTin", key "totalDutyKobo",
      key "stampsRequired", key "riskTier"].Nodup by decide, ⟨_, rfl⟩, trivial, ⟨_, rfl⟩, trivial, ⟨_, rfl⟩,
      trivial, ⟨_, rfl⟩, trivial, ⟨_, rfl⟩, trivial, ⟨_, rfl⟩, trivial, trivial⟩ rfl rfl
  rcases Assessments.createAssessment_ok (translated_ok.mp assessed) with
    rfl | ⟨assessment, lines, _, _, rfl⟩
  · exact ⟨message, rfl, named⟩
  · exact ⟨message, rfl, named⟩

/-- A decision announces an approval exactly when it is the last that was
required. -/
theorem decideAssessment_announces {assessmentId : Nat} {decision : Decision} {reason : PyStr}
    (settled : decideAssessment env occasion subject assessmentId decision reason db = .ok after) :
    ∃ assessment approval verdict messages, Assessments.Decided db assessmentId assessment approval ∧
      Assessments.Verdict db assessmentId assessment approval verdict ∧
      after = { db with
        approvals := db.approvals ++ [approval]
        assessments := Assessments.judged assessmentId occasion.time verdict db.assessments
        outboxMessages := db.outboxMessages ++ messages } ∧
      (verdict = some .approved ∧
          Outbox.Announced .approved (Issuance.assessmentText env assessmentId) db after ∨
        verdict ≠ some .approved ∧ messages = []) := by
  obtain ⟨middle, recorded, settled⟩ := Result.bind_ok.mp settled
  obtain ⟨assessment, approval, verdict, decided, judged, rfl⟩ :=
    Assessments.recordDecision_ok (translated_ok.mp recorded)
  obtain ⟨current, stored, settled⟩ := Result.bind_ok.mp settled
  rw [Result.one_ok] at stored
  have status : current.status = .approved ↔ verdict = some .approved := by
    cases verdict with
    | none =>
      obtain rfl := Option.some.inj (decided.stored.symm.trans stored)
      simp [decided.pending]
    | some judgement =>
      have found := @Rows.stored_modify_self _ _ (fun row : Assessment =>
        { row with status := judgement, decidedAt := some occasion.time }) _ _ decided.stored
      rw [← Option.some.inj (found.symm.trans stored), Option.some.injEq]
  split at settled
  case isTrue approved =>
    obtain ⟨message, rfl, named, _⟩ := Outbox.enqueue_announces settled
      ⟨show [key "assessmentId", key "approvalsRequired"].Nodup by decide, ⟨_, rfl⟩, trivial, ⟨_, rfl⟩, trivial,
        trivial⟩ rfl rfl
    exact ⟨assessment, approval, verdict, [message], decided, judged, rfl,
      Or.inl ⟨status.mp approved, message, rfl, named⟩⟩
  case isFalse other =>
    cases settled
    refine ⟨assessment, approval, verdict, [], decided, judged, ?_,
      Or.inr ⟨fun approved => other (status.mpr approved), rfl⟩⟩
    rw [List.append_nil]

end Api

end TaxStamps
