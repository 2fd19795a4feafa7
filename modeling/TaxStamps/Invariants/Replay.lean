import TaxStamps.Api.Audited
import TaxStamps.Invariants.Entries
import TaxStamps.Invariants.Lifecycle

/-!
# What the events tell of the tables

A ledger is what the audit events are about: what was declared, assessed, decided,
asked, received, opened, inspected, anchored, issued, activated and voided. Every
request changes the ledger of the tables as its event says, and changes nothing in it
when it records none.
-/

namespace TaxStamps.Audited

open Api
open Outbox (awake)

/-- What the audit trail is to give back: the rows' facts, and per batch the root and the
numbers. -/
@[ext] structure Ledger where
  declarations : List PyStr
  assessments : List (Int × RiskTier × PyStr)
  decisions : List (Nat × Decision × PyStr)
  intents : List (Nat × Int × PyStr)
  receipts : List (PyStr × ReceiptStatus × Int × PyStr)
  batches : List (Nat × Int)
  inspections : List (Nat × InspectionResult × Int × Int × PyStr)
  /-- The roots of the batches that have one. -/
  anchors : Nat → Option PyStr
  /-- How many stamps of a batch were issued. -/
  issued : Nat → Int
  /-- How many stamps of a batch were activated. -/
  activated : Nat → Nat
  voids : Set PyStr

/-- The ledger of empty tables. -/
def Ledger.empty : Ledger := ⟨[], [], [], [], [], [], [], fun _ => none, fun _ => 0, fun _ => 0, ∅⟩

section Tables

/-- What the event of an assessment tells. -/
def assessmentFacts (row : Assessment) : Int × RiskTier × PyStr :=
  (row.totalDutyKobo, row.riskTier, row.submittedBy)

/-- What the event of a decision tells. -/
def decisionFacts (row : Approval) : Nat × Decision × PyStr :=
  (row.assessmentId, row.decision, row.principalSub)

/-- What the event of an intent tells. -/
def intentFacts (row : PaymentIntent) : Nat × Int × PyStr :=
  (row.assessmentId, row.expectedAmountKobo, row.rail)

/-- What the event of a receipt tells. -/
def receiptFacts (row : PaymentReceipt) : PyStr × ReceiptStatus × Int × PyStr :=
  (row.externalReference, row.status, row.amountKobo, row.quarantineReason)

/-- What the event of a batch tells. -/
def batchFacts (row : StampBatch) : Nat × Int := (row.assessmentId, row.quantity)

/-- What the event of an inspection tells. -/
def inspectionFacts (row : Inspection) : Nat × InspectionResult × Int × Int × PyStr :=
  (row.batchId, row.result, row.defectives, row.sampleSize, row.inspectorSub)

/-- The root of a batch once it has its place. -/
def anchorOf (row : StampBatch) : Option PyStr :=
  match row.status with
  | .ready => some row.merkleRoot
  | .active => some row.merkleRoot
  | .inspectionFailed => some row.merkleRoot
  | _ => none

/-- The anchored root of a batch. -/
def anchorsIn (batches : List StampBatch) (batchId : Nat) : Option PyStr := batches[batchId]?.bind anchorOf

/-- The number of stamps of a batch. -/
def issuedIn (stamps : List Stamp) (batchId : Nat) : Int :=
  stamps.countP (fun stamp => decide (stamp.batchId = batchId))

/-- The number of stamps of a batch that were activated. -/
def activatedIn (stamps : List Stamp) (batchId : Nat) : Nat := stamps.countP (awake batchId)

/-- The serials of the void stamps. -/
def voidsIn (stamps : List Stamp) : Set PyStr :=
  { serial | ∃ row ∈ stamps, row.serial = serial ∧ row.status = .void }

/-- The ledger of the tables. -/
def Ledger.ofDb (db : Db) : Ledger where
  declarations := db.declarations.map (·.declarationRef)
  assessments := db.assessments.map assessmentFacts
  decisions := db.approvals.map decisionFacts
  intents := db.paymentIntents.map intentFacts
  receipts := db.paymentReceipts.map receiptFacts
  batches := db.stampBatches.map batchFacts
  inspections := db.inspections.map inspectionFacts
  anchors := anchorsIn db.stampBatches
  issued := issuedIn db.stamps
  activated := activatedIn db.stamps
  voids := voidsIn db.stamps

end Tables

section Events

/-- A row with an identifier, which may be a row that is there already. -/
def entered {α : Type} (id : Nat) (row : α) (rows : List α) : List α :=
  if id < rows.length then rows else rows ++ [row]

/-- A receipt, which may be there already under its reference. -/
def receipted (row : PyStr × ReceiptStatus × Int × PyStr) (rows : List (PyStr × ReceiptStatus × Int × PyStr)) :
    List (PyStr × ReceiptStatus × Int × PyStr) :=
  if rows.any (fun other => decide (other.1 = row.1)) then rows else rows ++ [row]

/-- What an event says. -/
def Ledger.read (ledger : Ledger) : Note → Ledger
  | .received declarationRef _ _ => { ledger with declarations := ledger.declarations ++ [declarationRef] }
  | .applied declarationRef _ _ => { ledger with declarations := ledger.declarations ++ [declarationRef] }
  | .assessed assessmentId _ totalDutyKobo riskTier principal =>
    { ledger with assessments := entered assessmentId (totalDutyKobo, riskTier, principal) ledger.assessments }
  | .decided assessmentId decision principal _ =>
    { ledger with decisions := ledger.decisions ++ [(assessmentId, decision, principal)] }
  | .asked paymentIntentId assessmentId expectedAmountKobo rail =>
    { ledger with intents := entered paymentIntentId (assessmentId, expectedAmountKobo, rail) ledger.intents }
  | .receipted externalReference status amountKobo quarantineReason =>
    { ledger with
      receipts := receipted (externalReference, status, amountKobo, quarantineReason) ledger.receipts }
  | .opened batchId assessmentId quantity =>
    { ledger with batches := entered batchId (assessmentId, quantity) ledger.batches }
  | .issued batchId issuedThisCall =>
    { ledger with issued := Function.update ledger.issued batchId (ledger.issued batchId + issuedThisCall) }
  | .finalized batchId merkleRoot =>
    { ledger with anchors := Function.update ledger.anchors batchId (some merkleRoot) }
  | .inspected batchId result defectives sampleSize inspector =>
    { ledger with
      inspections := ledger.inspections ++ [(batchId, result, defectives, sampleSize, inspector)] }
  | .activated batchId activatedCount _ =>
    { ledger with
      activated := Function.update ledger.activated batchId (ledger.activated batchId + activatedCount) }
  | .voided serial _ _ => { ledger with voids := insert serial ledger.voids }

/-- What all events say. -/
def replay (notes : List Note) : Ledger := notes.foldl Ledger.read Ledger.empty

/-- The last note is read after the others. -/
theorem replay_append (notes : List Note) (note : Note) :
    replay (notes ++ [note]) = (replay notes).read note := by
  rw [replay, List.foldl_append]
  rfl

end Events

variable {env : Env} {occasion : Occasion} {db after : Db}

section Rows

/-- A row that is found says nothing new. -/
theorem entered_found {α β : Type} {facts : α → β} {rows : List α} {id : Nat} {row : α} (stored : rows[id]? = some row)
    (told : β) : entered id told (rows.map facts) = rows.map facts := by
  have bound := (List.getElem?_eq_some_iff.mp stored).1
  rw [entered, if_pos (by rwa [List.length_map])]

/-- A new row is entered behind the others. -/
theorem entered_new {α β : Type} {facts : α → β} {rows : List α} {row : α} :
    entered rows.length (facts row) (rows.map facts) = (rows ++ [row]).map facts := by
  rw [entered, if_neg (by rw [List.length_map]; omega), List.map_append, List.map_singleton]

/-- A receipt whose reference is there is not entered again. -/
theorem receipted_found {rows : List PaymentReceipt} {row : PaymentReceipt} (listed : row ∈ rows) :
    receipted (receiptFacts row) (rows.map receiptFacts) = rows.map receiptFacts := by
  rw [receipted, if_pos]
  rw [List.any_map, List.any_eq_true]
  exact ⟨row, listed, decide_eq_true rfl⟩

/-- A receipt with a new reference is entered. -/
theorem receipted_new {rows : List PaymentReceipt} {row : PaymentReceipt}
    (fresh : ∀ other ∈ rows, other.externalReference ≠ row.externalReference) :
    receipted (receiptFacts row) (rows.map receiptFacts) = (rows ++ [row]).map receiptFacts := by
  rw [receipted, if_neg, List.map_append, List.map_singleton]
  rw [List.any_map, List.any_eq_true]
  rintro ⟨other, listed, same⟩
  exact fresh other listed (of_decide_eq_true same)

/-- Fresh stamps are not void. -/
theorem voidsIn_append {stamps new : List Stamp} (fresh : ∀ row ∈ new, row.status ≠ .void) :
    voidsIn (stamps ++ new) = voidsIn stamps := by
  ext serial
  constructor
  · rintro ⟨row, member, named, void⟩
    rcases List.mem_append.mp member with old | added
    · exact ⟨row, old, named, void⟩
    · exact absurd void (fresh row added)
  · rintro ⟨row, member, named, void⟩
    exact ⟨row, List.mem_append_left _ member, named, void⟩

/-- A stamp that was not void and does not become void. -/
theorem voidsIn_modify {stamps : List Stamp} {stampId : Nat} {stamp : Stamp} {change : Stamp → Stamp}
    (stored : stamps[stampId]? = some stamp) (before : stamp.status ≠ .void)
    (later : (change stamp).status ≠ .void) : voidsIn (stamps.modify stampId change) = voidsIn stamps := by
  ext serial
  constructor
  · rintro ⟨row, member, named, void⟩
    obtain ⟨id, present⟩ := List.mem_iff_getElem?.mp member
    rcases Rows.stored_modify_cases present with ⟨_, kept⟩ | ⟨_, old, held, rfl⟩
    · exact ⟨row, List.mem_of_getElem? kept, named, void⟩
    · obtain rfl := Option.some.inj (held.symm.trans stored)
      exact absurd void later
  · rintro ⟨row, member, named, void⟩
    obtain ⟨id, present⟩ := List.mem_iff_getElem?.mp member
    have other : id ≠ stampId := by
      rintro rfl
      obtain rfl := Option.some.inj (present.symm.trans stored)
      exact before void
    exact ⟨row, List.mem_of_getElem? ((Rows.stored_modify_other other).trans present), named, void⟩

/-- A change that keeps the batches keeps the numbers of stamps. -/
theorem issuedIn_modify {stamps : List Stamp} {stampId : Nat} {change : Stamp → Stamp}
    (same : ∀ row, (change row).batchId = row.batchId) :
    issuedIn (stamps.modify stampId change) = issuedIn stamps := by
  funext batchId
  exact congrArg Nat.cast (Rows.countP_modify _ stamps stampId change fun row _ => by rw [same row])

/-- Activation issues nothing. -/
theorem issuedIn_activate (batchId : Nat) (time : Datetime) :
    issuedIn (Issuance.activateStamps batchId time db).stamps = issuedIn db.stamps := by
  funext other
  refine congrArg Nat.cast (Rows.countP_map _ db.stamps _ fun row _ => ?_)
  split <;> rfl

/-- New stamps of one batch. -/
theorem issuedIn_append {stamps new : List Stamp} {batchId : Nat} (own : ∀ row ∈ new, row.batchId = batchId) :
    issuedIn (stamps ++ new) = Function.update (issuedIn stamps) batchId (issuedIn stamps batchId + new.length) := by
  funext other
  rw [issuedIn, List.countP_append, Function.update_apply]
  split
  case isTrue same =>
    have all : new.countP (fun stamp => decide (stamp.batchId = other)) = new.length := by
      rw [List.countP_eq_length]
      exact fun row member => decide_eq_true ((own row member).trans same.symm)
    rw [all, same, Nat.cast_add]
    rfl
  case isFalse apart =>
    have none : new.countP (fun stamp => decide (stamp.batchId = other)) = 0 := by
      rw [List.countP_eq_zero]
      intro row member
      rw [decide_eq_true_eq]
      exact fun same => apart (same.symm.trans (own row member))
    rw [none, Nat.add_zero]
    rfl

/-- A change that keeps batches and activations keeps the numbers of activated stamps. -/
theorem activatedIn_modify {stamps : List Stamp} {stampId : Nat} {change : Stamp → Stamp}
    (same : ∀ row, (change row).batchId = row.batchId ∧ (change row).activatedAt = row.activatedAt) :
    activatedIn (stamps.modify stampId change) = activatedIn stamps := by
  funext batchId
  refine Rows.countP_modify _ stamps stampId change fun row _ => ?_
  rw [awake, awake, (same row).1, (same row).2]

/-- Dormant stamps are not activated. -/
theorem activatedIn_append {stamps new : List Stamp} (dormant : ∀ row ∈ new, row.activatedAt = none) :
    activatedIn (stamps ++ new) = activatedIn stamps := by
  funext batchId
  exact Outbox.countP_dormant dormant stamps batchId

/-- A void adds the serial of its stamp. -/
theorem voidsIn_void {stamps : List Stamp} {stampId : Nat} {stamp : Stamp}
    (stored : stamps[stampId]? = some stamp) :
    voidsIn (stamps.modify stampId (fun row => { row with status := .void })) =
      insert stamp.serial (voidsIn stamps) := by
  ext serial
  constructor
  · rintro ⟨row, member, named, void⟩
    obtain ⟨id, present⟩ := List.mem_iff_getElem?.mp member
    rcases Rows.stored_modify_cases present with ⟨_, kept⟩ | ⟨_, old, held, rfl⟩
    · exact Or.inr ⟨row, List.mem_of_getElem? kept, named, void⟩
    · obtain rfl := Option.some.inj (held.symm.trans stored)
      exact Or.inl named.symm
  · rintro (rfl | ⟨row, member, named, void⟩)
    · exact ⟨_, List.mem_of_getElem? (Rows.stored_modify_self stored), rfl, rfl⟩
    · obtain ⟨id, present⟩ := List.mem_iff_getElem?.mp member
      by_cases same : id = stampId
      · subst same
        obtain rfl := Option.some.inj (present.symm.trans stored)
        exact ⟨_, List.mem_of_getElem? (Rows.stored_modify_self stored), named, rfl⟩
      · exact ⟨row, List.mem_of_getElem? ((Rows.stored_modify_other same).trans present), named, void⟩

/-- Activation voids nothing. -/
theorem voidsIn_activate (batchId : Nat) (time : Datetime) :
    voidsIn (Issuance.activateStamps batchId time db).stamps = voidsIn db.stamps := by
  ext serial
  constructor
  · rintro ⟨row, member, named, void⟩
    obtain ⟨old, present, rfl⟩ := List.mem_map.mp member
    split at void
    case isTrue => cases void
    case isFalse untouched =>
      rw [if_neg untouched] at named
      exact ⟨old, present, named, void⟩
  · rintro ⟨row, member, named, void⟩
    refine ⟨row, List.mem_map.mpr ⟨row, member, if_neg ?_⟩, named, void⟩
    intro touched
    cases (Lifecycle.activates_issued touched).symm.trans void

/-- A stamp that is activated was not, and then is one of its batch. -/
theorem awake_touched {batchId : Nat} {stamp : Stamp} (shaped : Lifecycle.Shaped stamp) (other : Nat)
    (time : Datetime) (touched : Issuance.activates batchId stamp = true) :
    awake other stamp = false ∧
      awake other { stamp with status := .active, activatedAt := some time } = decide (other = batchId) := by
  have dormant := shaped.dormant (Lifecycle.activates_issued touched)
  simp only [Issuance.activates, Bool.and_eq_true, decide_eq_true_eq] at touched
  constructor
  · rw [awake, dormant, Option.isSome_none, Bool.and_false]
  · rw [awake, Option.isSome_some, Bool.and_true, decide_eq_decide, touched.1]
    exact eq_comm

/-- An activation activates the stamps of its batch that were issued, and these were
never activated before. -/
theorem activatedIn_activate (shaped : ∀ stamp ∈ db.stamps, Lifecycle.Shaped stamp) (batchId : Nat)
    (time : Datetime) :
    activatedIn (Issuance.activateStamps batchId time db).stamps =
      Function.update (activatedIn db.stamps) batchId
        (activatedIn db.stamps batchId + db.stamps.countP (Issuance.activates batchId)) := by
  funext other
  rw [activatedIn, Issuance.activateStamps]
  by_cases same : other = batchId
  · subst same
    rw [Function.update_self, activatedIn, List.countP_map]
    generalize db.stamps = stamps at shaped
    induction stamps with
    | nil => rfl
    | cons stamp rest inductionHypothesis =>
      obtain ⟨here, others⟩ := List.forall_mem_cons.mp shaped
      have later := inductionHypothesis others
      simp only [List.countP_cons, Function.comp_apply]
      by_cases touched : Issuance.activates other stamp = true
      · obtain ⟨dormant, turned⟩ := awake_touched here other time touched
        simp only [touched, if_true, dormant, turned, Bool.false_eq_true, if_false, decide_true]
        omega
      · simp only [touched, Bool.false_eq_true, if_false]
        omega
  · rw [Function.update_of_ne same]
    refine Rows.countP_map _ db.stamps _ fun stamp member => ?_
    split
    case isTrue touched =>
      obtain ⟨dormant, turned⟩ := awake_touched (shaped stamp member) other time touched
      rw [turned, dormant, decide_eq_false same]
    case isFalse => rfl

/-- A batch that is written has the anchor of what is written. -/
theorem anchorsIn_written {batchId : Nat} {copy changed : StampBatch} {batches : List StampBatch}
    (stored : batches[batchId]? = some copy) :
    anchorsIn (Issuance.written batchId copy changed batches) =
      Function.update (anchorsIn batches) batchId (anchorOf changed) := by
  funext other
  by_cases same : other = batchId
  · subst same
    rw [Function.update_self, anchorsIn, Issuance.written_current stored]
    rfl
  · rw [Function.update_of_ne same, anchorsIn, anchorsIn, Issuance.written, Rows.stored_modify_other same]

/-- A write that leaves the anchor of a batch leaves the anchors. -/
theorem anchorsIn_kept {batchId : Nat} {copy changed : StampBatch} {batches : List StampBatch}
    (stored : batches[batchId]? = some copy) (same : anchorOf changed = anchorOf copy) :
    anchorsIn (Issuance.written batchId copy changed batches) = anchorsIn batches := by
  have here : anchorsIn batches batchId = anchorOf copy := by rw [anchorsIn, stored]; rfl
  rw [anchorsIn_written stored, same, ← here, Function.update_eq_self]

/-- A new batch has no anchor. -/
theorem anchorsIn_append {batches : List StampBatch} {batch : StampBatch} (pending : batch.status = .pending) :
    anchorsIn (batches ++ [batch]) = anchorsIn batches := by
  funext other
  rcases Nat.lt_trichotomy other batches.length with within | same | beyond
  · rw [anchorsIn, anchorsIn, List.getElem?_append_left within]
  · subst same
    rw [anchorsIn, anchorsIn, Rows.stored_inserted, List.getElem?_eq_none_iff.mpr (Nat.le_refl _)]
    simp [anchorOf, pending]
  · rw [anchorsIn, anchorsIn, List.getElem?_eq_none_iff.mpr (by rw [List.length_append, List.length_singleton]; omega),
      List.getElem?_eq_none_iff.mpr (by omega)]

end Rows

section Requests

/-- The ledger changes as the event says. -/
def Told (db after : Db) (note : Note) : Prop := Ledger.ofDb after = (Ledger.ofDb db).read note

/-- A declaration is told by its reference. -/
theorem addDeclaration_told {declarationRef consigneeTin consigneeName sourceEventId : PyStr}
    {items : List LineItem}
    (added : addDeclaration occasion declarationRef consigneeTin consigneeName sourceEventId items db = .ok after) :
    Ledger.ofDb after =
      { Ledger.ofDb db with declarations := (Ledger.ofDb db).declarations ++ [declarationRef] } := by
  obtain ⟨middle, inserted, added⟩ := Result.bind_ok.mp added
  obtain ⟨lines, _, rfl⟩ := addLines_ok added
  obtain rfl := Db.insertDeclaration_ok inserted
  simp [Ledger.ofDb]

/-- An assessment request changes the ledger as its event says. -/
theorem createAssessment_told {subject idemKey : PyStr} {body : AssessmentCreateIn}
    {assessmentId : Nat} {assessment : Assessment}
    (created : createAssessment env occasion subject idemKey body db = .ok (assessmentId, after))
    (stored : after.assessments[assessmentId]? = some assessment) :
    Told db after (.assessed assessmentId body.declarationRef assessment.totalDutyKobo assessment.riskTier subject) := by
  obtain ⟨⟨declarationId, declaration⟩, _, created⟩ := Result.bind_ok.mp created
  obtain ⟨⟨id, middle⟩, assessed, created⟩ := Result.bind_ok.mp created
  obtain ⟨_, _, created⟩ := Result.bind_ok.mp created
  obtain ⟨last, queued, created⟩ := Result.bind_ok.mp created
  obtain ⟨rfl, rfl⟩ := Prod.mk.inj (Except.ok.inj created)
  obtain ⟨message, rfl⟩ := Outbox.enqueue_ok queued
  have assessed := translated_ok.mp assessed
  unfold Assessments.createAssessment at assessed
  split at assessed
  case _ existing found =>
    cases assessed
    ext1 <;> try rfl
    exact (entered_found stored _).symm
  case _ =>
    obtain ⟨_, _, assessed⟩ := Result.bind_ok.mp assessed
    obtain ⟨computed, _, assessed⟩ := Result.bind_ok.mp assessed
    obtain ⟨_, _, assessed⟩ := Result.bind_ok.mp assessed
    obtain ⟨between, inserted, assessed⟩ := Result.bind_ok.mp assessed
    obtain ⟨last, listed, assessed⟩ := Result.bind_ok.mp assessed
    obtain ⟨rfl, rfl⟩ := Prod.mk.inj (Except.ok.inj assessed)
    obtain ⟨_, rfl⟩ := Db.insertAssessment_ok inserted
    obtain rfl := Assessments.insertLines_ok listed
    obtain rfl := Option.some.inj ((Rows.stored_inserted db.assessments _).symm.trans stored)
    ext1 <;> try rfl
    exact entered_new.symm

/-- The ledger leaves out the status of an assessment. -/
theorem assessments_modify {assessments : List Assessment} {assessmentId : Nat} {change : Assessment → Assessment}
    (same : ∀ row, assessmentFacts (change row) = assessmentFacts row) :
    (assessments.modify assessmentId change).map assessmentFacts = assessments.map assessmentFacts :=
  Rows.keys_modify assessmentFacts assessments assessmentId change same

/-- A decision request changes the ledger as its event says. -/
theorem decideAssessment_told {subject reason : PyStr} {assessmentId : Nat} {decision : Decision}
    (settled : decideAssessment env occasion subject assessmentId decision reason db = .ok after)
    (status : AssessmentStatus) : Told db after (.decided assessmentId decision subject status) := by
  obtain ⟨middle, recorded, settled⟩ := Result.bind_ok.mp settled
  have recorded := translated_ok.mp recorded
  have rows := Entries.decided recorded
  obtain ⟨assessment, approval, verdict, decided, _, rfl⟩ := Assessments.recordDecision_ok recorded
  have stated : approval.principalSub = subject ∧ approval.decision = decision := by
    rcases rows db.approvals.length approval (Rows.stored_inserted db.approvals approval) with old | ⟨_, sub, made⟩
    · rw [List.getElem?_eq_none le_rfl] at old
      cases old
    · exact ⟨sub, made⟩
  obtain ⟨current, _, settled⟩ := Result.bind_ok.mp settled
  obtain ⟨messages, rfl⟩ : ∃ messages, after = { db with
      approvals := db.approvals ++ [approval]
      assessments := Assessments.judged assessmentId occasion.time verdict db.assessments
      outboxMessages := messages } := by
    split at settled
    case isTrue =>
      obtain ⟨message, rfl⟩ := Outbox.enqueue_ok settled
      exact ⟨_, rfl⟩
    case isFalse =>
      cases settled
      exact ⟨_, rfl⟩
  ext1 <;> try rfl
  case assessments =>
    cases verdict with
    | none => rfl
    | some status => exact assessments_modify (fun _ => rfl)
  case decisions =>
    show (db.approvals ++ [approval]).map decisionFacts = _
    rw [List.map_append, List.map_singleton, decisionFacts, decided.subject, stated.1, stated.2]
    rfl

/-- An intent request changes the ledger as its event says. -/
theorem createPaymentIntent_told {assessmentId intentId : Nat} {intent : PaymentIntent}
    (created : createPaymentIntent env occasion assessmentId db = .ok (intentId, after))
    (stored : after.paymentIntents[intentId]? = some intent) :
    Told db after (.asked intentId assessmentId intent.expectedAmountKobo intent.rail) := by
  obtain ⟨assessment, _, created⟩ := Result.bind_ok.mp created
  have created := translated_ok.mp created
  obtain ⟨_, _, created⟩ := Result.bind_ok.mp created
  obtain ⟨_, _, created⟩ := Result.bind_ok.mp created
  split at created
  case _ existing _ =>
    cases created
    ext1 <;> try rfl
    exact (entered_found stored _).symm
  case _ =>
    obtain ⟨middle, inserted, created⟩ := Result.bind_ok.mp created
    obtain ⟨rfl, rfl⟩ := Prod.mk.inj (Except.ok.inj created)
    obtain ⟨_, rfl⟩ := Db.insertPaymentIntent_ok inserted
    obtain rfl := Option.some.inj ((Rows.stored_inserted db.paymentIntents _).symm.trans stored)
    ext1 <;> try rfl
    case assessments => exact assessments_modify (fun _ => rfl)
    case intents => exact entered_new.symm

/-- A batch request changes the ledger as its event says. -/
theorem createBatch_told {assessmentId batchId : Nat} {batch : StampBatch}
    (created : createBatch occasion assessmentId db = .ok (batchId, after))
    (stored : after.stampBatches[batchId]? = some batch) :
    Told db after (.opened batchId assessmentId batch.quantity) := by
  obtain ⟨assessment, _, created⟩ := Result.bind_ok.mp created
  have created := translated_ok.mp created
  obtain ⟨_, _, created⟩ := Result.bind_ok.mp created
  split at created
  case _ existing _ =>
    cases created
    ext1 <;> try rfl
    exact (entered_found stored _).symm
  case _ =>
    obtain ⟨_, _, created⟩ := Result.bind_ok.mp created
    obtain ⟨line, _, created⟩ := Result.bind_ok.mp created
    obtain ⟨code, _, created⟩ := Result.bind_ok.mp created
    obtain ⟨middle, inserted, created⟩ := Result.bind_ok.mp created
    obtain ⟨rfl, rfl⟩ := Prod.mk.inj (Except.ok.inj created)
    obtain ⟨_, rfl⟩ := Db.insertStampBatch_ok inserted
    obtain rfl := Option.some.inj ((Rows.stored_inserted db.stampBatches _).symm.trans stored)
    ext1 <;> try rfl
    case assessments => exact assessments_modify (fun _ => rfl)
    case batches => exact entered_new.symm
    case anchors => exact anchorsIn_append rfl

/-- An activation counts the stamps that it touches. -/
theorem activateBatch_count {subject : PyStr} {batchId count : Nat} {locked : StampBatch}
    (activated : Issuance.activateBatch env occasion subject batchId locked db = .ok (count, after)) :
    count = db.stamps.countP (Issuance.activates batchId) := by
  obtain ⟨_, _, activated⟩ := Result.bind_ok.mp activated
  obtain ⟨_, _, activated⟩ := Result.bind_ok.mp activated
  obtain ⟨middle, _, activated⟩ := Result.bind_ok.mp activated
  obtain ⟨last, _, activated⟩ := Result.bind_ok.mp activated
  exact (Prod.mk.inj (Except.ok.inj activated)).1.symm

/-- A receipt request changes the ledger as its event says. -/
theorem recordPaymentReceipt_told {body : ReceiptIn} {receiptId : Nat} {receipt : PaymentReceipt}
    (recorded : recordPaymentReceipt env occasion body db = .ok (receiptId, after))
    (stored : after.paymentReceipts[receiptId]? = some receipt) :
    Told db after
      (.receipted receipt.externalReference receipt.status receipt.amountKobo receipt.quarantineReason) := by
  obtain ⟨_, _, recorded⟩ := Result.bind_ok.mp recorded
  unfold Payments.recordReceipt at recorded
  split at recorded
  case _ =>
    cases recorded
    ext1 <;> try rfl
    exact (receipted_found (List.mem_of_getElem? stored)).symm
  case _ =>
    obtain ⟨intent, held, recorded⟩ := Result.bind_ok.mp recorded
    have place := Payments.recordLocked_position recorded
    rcases Payments.recordLocked_ok recorded with ⟨row, quarantined, rfl⟩ | ⟨_, row, journal, applied, rfl⟩
    · rw [place] at stored
      obtain rfl := Option.some.inj ((Rows.stored_inserted db.paymentReceipts _).symm.trans stored)
      ext1 <;> try rfl
      exact (receipted_new (quarantined.named ▸ quarantined.fresh)).symm
    · rw [place] at stored
      obtain rfl := Option.some.inj ((Rows.stored_inserted db.paymentReceipts _).symm.trans stored)
      ext1 <;> try rfl
      case assessments => exact assessments_modify (fun _ => rfl)
      case intents => exact Rows.keys_modify intentFacts db.paymentIntents _ _ (fun _ => rfl)
      case receipts => exact (receipted_new (applied.named ▸ applied.fresh)).symm

/-- A chunk is at least as large as nothing. -/
theorem chunkSize_natural (sized : 0 ≤ env.settings.issuanceChunkSize) (chunkSize : Option ChunkSize)
    {remaining : Int} (left : 0 < remaining) :
    0 ≤ Issuance.chunkSize env.settings (chunkSize.map ChunkSize.value) remaining := by
  unfold Issuance.chunkSize
  cases chunkSize with
  | none => exact le_min sized left.le
  | some size =>
    have positive := size.positive
    have used : size.value ≠ 0 := by omega
    simp only [Option.map_some, if_neg used]
    omega

/-- A chunk changes the ledger as its event says. -/
theorem issueBatch_told (sized : 0 ≤ env.settings.issuanceChunkSize) {batchId : Nat}
    {chunkSize : Option ChunkSize} {count : Int}
    (issued : issueBatch env occasion batchId chunkSize db = .ok (count, after)) :
    Told db after (.issued batchId count) := by
  obtain ⟨batch, stored, issued⟩ := Result.bind_ok.mp issued
  have stored := found_ok.mp stored
  obtain ⟨⟨number, copy, last⟩, chunking, answered⟩ := Result.bind_ok.mp issued
  obtain ⟨rfl, rfl⟩ := Prod.mk.inj (Except.ok.inj answered)
  have nothing : issuedIn db.stamps = Function.update (issuedIn db.stamps) batchId (issuedIn db.stamps batchId + 0) := by
    rw [Int.add_zero, Function.update_eq_self]
  cases Issuance.issueChunk_ok chunking with
  | past =>
    ext1 <;> try rfl
    case issued => exact nothing
  | exhausted open_ =>
    ext1 <;> try rfl
    case issued => exact nothing
    case batches => exact Issuance.written_keeps batchFacts (fun _ _ _ _ => rfl)
    case anchors =>
      refine anchorsIn_kept stored ?_
      rcases open_ with same | same <;> simp [anchorOf, same]
  | issues open_ remaining own counted made =>
    have fresh := Lifecycle.chunk_fresh chunking rfl made
    ext1 <;> try rfl
    case issued =>
      have natural := chunkSize_natural sized chunkSize remaining
      refine (@issuedIn_append db.stamps _ batchId fun row member => ?_).trans ?_
      · obtain ⟨_, issued⟩ := made.each member
        exact issued.batch.trans own
      · rw [counted, Int.toNat_of_nonneg natural]
        rfl
    case batches => exact Issuance.written_keeps batchFacts (fun _ _ _ _ => rfl)
    case anchors =>
      refine anchorsIn_kept stored ?_
      have advanced := Issuance.advanced_status batch
        (Issuance.chunkSize env.settings (chunkSize.map ChunkSize.value) (batch.quantity - batch.issuedCount))
      rcases advanced with later | later <;> rcases open_ with same | same <;> simp [anchorOf, same, later]
    case activated => exact activatedIn_append (fun row member => (fresh row member).dormant)
    case voids => exact voidsIn_append (fun row member => by simp [(fresh row member).issued])

/-- A finalize request changes the ledger as its event says. -/
theorem finalizeBatch_told {subject : PyStr} {batchId : Nat} {batch : StampBatch}
    (finalized : finalizeBatch env occasion subject batchId db = .ok after)
    (present : after.stampBatches[batchId]? = some batch) :
    Told db after (.finalized batchId batch.merkleRoot) := by
  obtain ⟨copy, stored, finalized⟩ := Result.bind_ok.mp finalized
  have stored := found_ok.mp stored
  obtain ⟨_, root, message, _, rfl⟩ := Issuance.finalizeBatch_ok (translated_ok.mp finalized)
  obtain rfl := Option.some.inj ((Issuance.written_current stored).symm.trans present)
  ext1 <;> try rfl
  case batches => exact Issuance.written_keeps batchFacts (fun _ _ _ _ => rfl)
  case anchors => exact anchorsIn_written stored

/-- An inspection request changes the ledger as its event says. -/
theorem inspectBatch_told {subject : PyStr} {batchId : Nat} {body : InspectionIn} {inspection : Inspection}
    (recorded : inspectBatch occasion subject batchId body db = .ok (inspection, after)) :
    Told db after
      (.inspected batchId inspection.result inspection.defectives inspection.sampleSize subject) := by
  obtain ⟨batch, stored, recorded⟩ := inspectBatch_ok recorded
  have inspector := Entries.inspected recorded
  obtain ⟨inspectable, named, rest⟩ := Issuance.recordInspection_ok recorded
  have listed : (db.inspections ++ [inspection]).map inspectionFacts = db.inspections.map inspectionFacts ++
      [(batchId, inspection.result, inspection.defectives, inspection.sampleSize, subject)] := by
    rw [List.map_append, List.map_singleton, inspectionFacts, named, inspector]
  rcases rest with ⟨_, rfl⟩ | ⟨_, rfl⟩
  · ext1 <;> try rfl
    exact listed
  · ext1 <;> try rfl
    case batches => exact Issuance.written_keeps batchFacts (fun _ _ _ _ => rfl)
    case inspections => exact listed
    case anchors =>
      refine anchorsIn_kept stored ?_
      rcases inspectable with same | same <;> simp [anchorOf, same]

/-- An activation request changes the ledger as its event says. -/
theorem activateBatch_told {subject : PyStr} {batchId count : Nat} (reached : Reachable env db)
    (activated : activateBatch env occasion subject batchId db = .ok (count, after)) :
    Told db after (.activated batchId count subject) := by
  obtain ⟨batch, stored, activated⟩ := Result.bind_ok.mp activated
  have stored := found_ok.mp stored
  have activated := translated_ok.mp activated
  have counted := activateBatch_count activated
  obtain ⟨ready, _, message, rfl⟩ := Issuance.activateBatch_ok activated
  ext1 <;> try rfl
  case batches => exact Issuance.written_keeps batchFacts (fun _ _ _ _ => rfl)
  case anchors =>
    refine anchorsIn_kept stored ?_
    simp [anchorOf, ready]
  case issued => exact issuedIn_activate batchId occasion.time
  case activated => exact counted ▸ activatedIn_activate (Lifecycle.shaped reached) batchId occasion.time
  case voids => exact voidsIn_activate batchId occasion.time

/-- A scan leaves the ledger. -/
theorem scanned_told {scan : Verify.Scan} {serial : PyStr} {stampId : Nat} {stamp : Stamp} {outcome : Outcome}
    (stored : db.stamps[stampId]? = some stamp)
    (scanned : Verify.Scanned env occasion scan serial stampId stamp db outcome after) :
    Ledger.ofDb after = Ledger.ofDb db := by
  cases scanned with
  | answered => rfl
  | suspected live =>
    ext1 <;> try rfl
    case issued => exact issuedIn_modify (fun _ => rfl)
    case activated => exact activatedIn_modify (fun _ => ⟨rfl, rfl⟩)
    case voids => exact voidsIn_modify stored live.notVoid (by simp)
  | consumes live =>
    ext1 <;> try rfl
    case issued => exact issuedIn_modify (fun _ => rfl)
    case activated => exact activatedIn_modify (fun _ => ⟨rfl, rfl⟩)
    case voids => exact voidsIn_modify stored live.notVoid (by simp [Verify.consumed])

/-- A presented serial leaves the ledger. -/
theorem presented_told {scan : Verify.Scan} {serial : PyStr} {outcome : Outcome}
    (presented : Verify.Presented env occasion scan serial db outcome after) :
    Ledger.ofDb after = Ledger.ofDb db := by
  cases presented with
  | unmatched => rfl
  | matched _ found scanned => exact scanned_told (Rows.select_some found).1 scanned

/-- A public scan leaves the ledger. -/
theorem verifyPublic_told {body : PublicVerifyIn} {answer : PublicAnswer}
    (verified : verifyPublic env occasion body db = .ok (answer, after)) :
    Ledger.ofDb after = Ledger.ofDb db := by
  rcases verifyPublic_scanned verified with rfl | ⟨serial, result, scanned⟩
  · rfl
  · exact presented_told (Verify.verifyStamp_ok scanned)

/-- A void changes the ledger as its event says. -/
theorem voidStamp_told {subject serial : PyStr} {body : VoidIn}
    (done : voidStamp env occasion subject serial body db = .ok after) (reason principal : PyStr) :
    Told db after (.voided (Serials.normalize env.unicode serial) reason principal) := by
  obtain ⟨stampId, stamp, stored, named, voided⟩ := Entries.voided (translated_ok.mp done)
  rw [← named]
  cases voided with
  | already void =>
    ext1 <;> try rfl
    have listed : stamp.serial ∈ voidsIn db.stamps := ⟨stamp, List.mem_of_getElem? stored, rfl, void⟩
    exact (Set.insert_eq_of_mem listed).symm
  | voids =>
    ext1 <;> try rfl
    case issued => exact issuedIn_modify (fun _ => rfl)
    case activated => exact activatedIn_modify (fun _ => ⟨rfl, rfl⟩)
    case voids => exact voidsIn_void stored

/-- The producer of a declaration envelope is a text. -/
def Note.Textual : Note → Prop
  | .applied _ _ producer => ∃ text, producer = .str text
  | _ => True

/-- What a request commits and records. -/
structure Noted (env : Env) (occasion : Occasion) (producer : Value) (request : Request) (db after : Db)
    (note : Option Note) : Prop where
  handled : handle env occasion request db = .ok after
  textual : (∃ text, producer = .str text) → ∀ stated, note = some stated → stated.Textual
  told : Ledger.ofDb after = note.elim (Ledger.ofDb db) (Ledger.ofDb db).read

/-- The tables of an answered request are those it left. -/
theorem map_snd {α : Type} {result : Result (α × Db)} {value : α} (answer : result = .ok (value, after)) :
    result.map Prod.snd = .ok after := by
  rw [answer]
  rfl

/-- A request commits what it does without its event, and its event tells it. -/
theorem noted_ok (sized : 0 ≤ env.settings.issuanceChunkSize) (reached : Reachable env db) {producer : Value}
    {request : Request} {note : Option Note}
    (done : noted env occasion producer request db = .ok (note, after)) :
    Noted env occasion producer request db after note := by
  have plain : ∀ {stated : Note}, stated.Textual → (∃ text, producer = .str text) → ∀ other,
      some stated = some other → other.Textual :=
    fun textual _ other same => Option.some.inj same ▸ textual
  cases request with
  | declaration subject body =>
    obtain ⟨last, created, done⟩ := Result.bind_ok.mp done
    cases done
    obtain ⟨_, _, added⟩ := Result.bind_ok.mp created
    exact ⟨created, plain trivial, addDeclaration_told added⟩
  | declarationEvent event =>
    obtain ⟨last, applied, done⟩ := Result.bind_ok.mp done
    cases done
    exact ⟨applied, fun text => plain text text, addDeclaration_told applied⟩
  | assessment subject idemKey body =>
    obtain ⟨⟨id, last⟩, created, done⟩ := Result.bind_ok.mp done
    obtain ⟨row, stored, done⟩ := Result.bind_ok.mp done
    cases done
    exact ⟨map_snd created, plain trivial, createAssessment_told created (Result.one_ok.mp stored)⟩
  | decision subject assessmentId decision reason =>
    obtain ⟨last, decided, done⟩ := Result.bind_ok.mp done
    obtain ⟨row, _, done⟩ := Result.bind_ok.mp done
    cases done
    exact ⟨decided, plain trivial, decideAssessment_told decided row.status⟩
  | paymentIntent assessmentId =>
    obtain ⟨⟨id, last⟩, created, done⟩ := Result.bind_ok.mp done
    obtain ⟨row, stored, done⟩ := Result.bind_ok.mp done
    cases done
    exact ⟨map_snd created, plain trivial, createPaymentIntent_told created (Result.one_ok.mp stored)⟩
  | receipt body =>
    obtain ⟨⟨id, last⟩, recorded, done⟩ := Result.bind_ok.mp done
    obtain ⟨row, stored, done⟩ := Result.bind_ok.mp done
    cases done
    exact ⟨map_snd recorded, plain trivial, recordPaymentReceipt_told recorded (Result.one_ok.mp stored)⟩
  | batch assessmentId =>
    obtain ⟨⟨id, last⟩, created, done⟩ := Result.bind_ok.mp done
    obtain ⟨row, stored, done⟩ := Result.bind_ok.mp done
    cases done
    exact ⟨map_snd created, plain trivial, createBatch_told created (Result.one_ok.mp stored)⟩
  | issue batchId chunkSize =>
    obtain ⟨⟨count, last⟩, issued, done⟩ := Result.bind_ok.mp done
    cases done
    exact ⟨map_snd issued, plain trivial, issueBatch_told sized issued⟩
  | finalize subject batchId =>
    obtain ⟨last, finalized, done⟩ := Result.bind_ok.mp done
    obtain ⟨row, stored, done⟩ := Result.bind_ok.mp done
    cases done
    exact ⟨finalized, plain trivial, finalizeBatch_told finalized (Result.one_ok.mp stored)⟩
  | inspection subject batchId body =>
    obtain ⟨⟨inspection, last⟩, inspected, done⟩ := Result.bind_ok.mp done
    cases done
    exact ⟨map_snd inspected, plain trivial, inspectBatch_told inspected⟩
  | activate subject batchId =>
    obtain ⟨⟨count, last⟩, activated, done⟩ := Result.bind_ok.mp done
    cases done
    exact ⟨map_snd activated, plain trivial, activateBatch_told reached activated⟩
  | verify verifier body =>
    obtain ⟨⟨result, last⟩, verified, done⟩ := Result.bind_ok.mp done
    cases done
    obtain ⟨_, _, presented⟩ := verify_presented verified
    exact ⟨map_snd verified, (fun _ _ absurdity => by cases absurdity), presented_told presented⟩
  | verifyPublic body =>
    obtain ⟨⟨answer, last⟩, verified, done⟩ := Result.bind_ok.mp done
    cases done
    exact ⟨map_snd verified, (fun _ _ absurdity => by cases absurdity), verifyPublic_told verified⟩
  | void subject serial body =>
    obtain ⟨last, voided, done⟩ := Result.bind_ok.mp done
    cases done
    exact ⟨voided, plain trivial, voidStamp_told voided body.reason subject⟩

end Requests

end TaxStamps.Audited
