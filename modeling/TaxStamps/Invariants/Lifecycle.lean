import TaxStamps.Invariants.Batches
import TaxStamps.Invariants.Cursor
import TaxStamps.Invariants.OutboxExact
import TaxStamps.Invariants.Stamps
import TaxStamps.Library.Growth

/-!
# What never changes and what only moves forward

No request deletes a row or goes back on one. The tables of lines, approvals,
receipts, postings, inspections, attempts, snapshots and messages are append-only.
The rows of the others keep the columns they were created with, and their status moves
along the graph of the functions that write it.
-/

namespace TaxStamps

open Api Relation Growth

/-- The columns of an intent that are never updated. -/
def PaymentIntent.fixed (intent : PaymentIntent) : PaymentIntent :=
  { intent with status := .pending, settledAt := none }

/-- The columns of a batch that are never updated. -/
def StampBatch.fixed (batch : StampBatch) : StampBatch :=
  { batch with issuedCount := 0, status := .pending, merkleRoot := [] }

namespace Lifecycle

section Graphs

/-- `record_decision`, `create_intent`, `record_receipt` and `create_batch`. -/
def assessmentMoves : AssessmentStatus → List AssessmentStatus
  | .pendingApproval => [.rejected, .approved]
  | .approved => [.paymentPending]
  | .paymentPending => [.paid]
  | .paid => [.issuing]
  | _ => []

/-- `record_receipt` settles whatever is not settled. -/
def intentMoves : IntentStatus → List IntentStatus
  | .settled => []
  | _ => [.settled]

/-- `issue_chunk`, `finalize_batch`, `record_inspection` and `activate_batch`. -/
def batchMoves : BatchStatus → List BatchStatus
  | .pending => [.issuing, .issued]
  | .issuing => [.issuing, .issued]
  | .issued => [.ready]
  | .ready => [.active, .inspectionFailed]
  | .active => [.inspectionFailed]
  | _ => []

/-- `activate_batch`, `verify_stamp` and `void_stamp`. -/
def stampMoves : StampStatus → List StampStatus
  | .issued => [.active, .void]
  | .active => [.consumed, .void]
  | .consumed => [.suspect, .void]
  | .suspect => [.suspect, .void]
  | .expired => [.void]
  | .void => []

end Graphs

variable {env : Env} {db before after : Db}

section Stamps

/-- What a request does to the row of a stamp. -/
inductive Moves : Stamp → Stamp → Prop
  | activates {old : Stamp} (time : Datetime) (issued : old.status = .issued) :
      Moves old { old with status := .active, activatedAt := some time }
  | consumes {old : Stamp} (time : Datetime) (scan : Verify.Scan) (active : old.status = .active)
      (unscanned : old.firstScanAt = none) : Moves old (Verify.consumed time scan old)
  | suspects {old : Stamp} (scanned : old.status = .consumed ∨ old.firstScanAt.isSome = true)
      (notVoid : old.status ≠ .void) : Moves old { old with status := .suspect }
  | voids {old : Stamp} (open_ : old.status ≠ .void) : Moves old { old with status := .void }

/-- The status of a stamp says what has been recorded about it. -/
structure Shaped (stamp : Stamp) : Prop where
  dormant : stamp.status = .issued → stamp.activatedAt = none
  fresh : stamp.status = .issued ∨ stamp.status = .active → stamp.firstScanAt = none
  scanned : stamp.status = .consumed ∨ stamp.status = .suspect → stamp.firstScanAt.isSome = true
  known : stamp.status ≠ .expired

/-- A later version of a stamp. -/
structure LaterStamp (old row : Stamp) : Prop where
  fixed : row.fixed = old.fixed
  forward : Forward stampMoves old.status row.status
  activated : old.activatedAt.isSome = true → row.activatedAt = old.activatedAt
  scanned : old.firstScanAt.isSome = true → row.firstScanAt = old.firstScanAt ∧
    row.firstScanVerifier = old.firstScanVerifier ∧ row.firstScanLatMicros = old.firstScanLatMicros ∧
    row.firstScanLongMicros = old.firstScanLongMicros

/-- A stamp is a later version of itself. -/
theorem LaterStamp.refl (row : Stamp) : LaterStamp row row :=
  ⟨rfl, .refl, fun _ => rfl, fun _ => ⟨rfl, rfl, rfl, rfl⟩⟩

/-- A version of a stamp later than a later one is later. -/
theorem LaterStamp.trans {first second third : Stamp} (earlier : LaterStamp first second)
    (rest : LaterStamp second third) : LaterStamp first third := by
  constructor
  case fixed => exact rest.fixed.trans earlier.fixed
  case forward => exact ReflTransGen.trans earlier.forward rest.forward
  case activated =>
    intro present
    have same := earlier.activated present
    exact (rest.activated (same ▸ present)).trans same
  case scanned =>
    intro present
    obtain ⟨time, verifier, lat, long⟩ := earlier.scanned present
    obtain ⟨time', verifier', lat', long'⟩ := rest.scanned (time ▸ present)
    exact ⟨time'.trans time, verifier'.trans verifier, lat'.trans lat, long'.trans long⟩

/-- The batch of a stamp does not change. -/
theorem LaterStamp.batchId {old row : Stamp} (later : LaterStamp old row) : row.batchId = old.batchId := by
  have same : row.fixed.batchId = old.fixed.batchId := congrArg Stamp.batchId later.fixed
  exact same

/-- VOID is final. -/
theorem LaterStamp.void {old row : Stamp} (later : LaterStamp old row) (void : old.status = .void) :
    row.status = .void := by
  refine later.forward.stays (· = .void) ?_ void
  rintro _ rfl next allowed
  cases allowed

/-- A stamp that is ACTIVE was never anything but ISSUED and ACTIVE. -/
theorem LaterStamp.active {old row : Stamp} (later : LaterStamp old row) (active : row.status = .active) :
    old.status = .issued ∨ old.status = .active := by
  by_contra left
  rw [not_or] at left
  have stays := later.forward.stays (fun status => status ≠ .issued ∧ status ≠ .active) ?_ left
  · exact stays.2 active
  · intro status known next allowed
    cases status <;> simp_all [stampMoves]
    all_goals rcases allowed with rfl | rfl <;> simp

/-- A move keeps the shape and makes a later version. -/
theorem Moves.later {old row : Stamp} (moves : Moves old row) (shaped : Shaped old) :
    Shaped row ∧ LaterStamp old row := by
  cases moves with
  | activates time issued =>
    have unscanned := shaped.fresh (Or.inl issued)
    refine ⟨⟨by simp, fun _ => unscanned, by simp, by simp⟩, rfl, .single (by simp [issued, stampMoves]), ?_,
      fun _ => ⟨rfl, rfl, rfl, rfl⟩⟩
    intro present
    rw [shaped.dormant issued] at present
    cases present
  | consumes time scan active unscanned =>
    refine ⟨⟨by simp [Verify.consumed], by simp [Verify.consumed], fun _ => rfl, by simp [Verify.consumed]⟩,
      rfl, .single (by simp [Verify.consumed, active, stampMoves]), fun _ => rfl, ?_⟩
    intro present
    rw [unscanned] at present
    cases present
  | suspects scanned notVoid =>
    have present : old.firstScanAt.isSome = true := scanned.elim (fun same => shaped.scanned (Or.inl same)) id
    have placed : old.status = .consumed ∨ old.status = .suspect := by
      cases status : old.status with
      | consumed => exact Or.inl rfl
      | suspect => exact Or.inr rfl
      | issued => rw [shaped.fresh (Or.inl status)] at present; cases present
      | active => rw [shaped.fresh (Or.inr status)] at present; cases present
      | expired => exact absurd status shaped.known
      | void => exact absurd status notVoid
    refine ⟨⟨by simp, by simp, fun _ => present, by simp⟩, rfl, .single ?_, fun _ => rfl,
      fun _ => ⟨rfl, rfl, rfl, rfl⟩⟩
    rcases placed with consumed | suspect
    · simp [consumed, stampMoves]
    · simp [suspect, stampMoves]
  | voids open_ =>
    refine ⟨⟨by simp, by simp, by simp, by simp⟩, rfl, .single ?_, fun _ => rfl,
      fun _ => ⟨rfl, rfl, rfl, rfl⟩⟩
    cases status : old.status <;> simp_all [stampMoves]

/-- A stamp as it is issued. -/
structure FreshRow (row : Stamp) : Prop where
  issued : row.status = .issued
  dormant : row.activatedAt = none
  unscanned : row.firstScanAt = none

/-- A fresh stamp is shaped. -/
theorem FreshRow.shaped {row : Stamp} (fresh : FreshRow row) : Shaped row :=
  ⟨fun _ => fresh.dormant, fun _ => fresh.unscanned, by simp [fresh.issued], by simp [fresh.issued]⟩

/-- The stamps of a chunk are fresh. -/
theorem chunk_fresh {occasion : Occasion} {requested : Option Int} {batchId : Nat} {locked copy : StampBatch}
    {count : Int} {time : Datetime} {chunk : Issuance.Chunk} {new : List Stamp}
    (chunking : Issuance.issueChunk env occasion requested batchId locked before = .ok (count, copy, after))
    (stamps : after.stamps = before.stamps ++ new)
    (issued : Issuance.Issued env time chunk before.stamps new) : ∀ row ∈ new, FreshRow row := by
  obtain ⟨added, dormant, same⟩ := Outbox.issueChunk_dormant chunking
  obtain rfl := List.append_cancel_left (stamps.symm.trans same)
  intro row member
  obtain ⟨_, fresh⟩ := issued.each member
  exact ⟨fresh.issued, dormant row member, fresh.unscanned⟩

/-- A stamp as it was or moved once. -/
def Touched (old row : Stamp) : Prop := row = old ∨ Moves old row

/-- An unchanged row is touched. -/
theorem Touched.refl (row : Stamp) : Touched row row := Or.inl rfl

/-- The rows of stamps after a request: each where it was, touched or not, and new ones. -/
structure Passes (before after : List Stamp) : Prop where
  carried : Carried Touched before after
  origin : ∀ (id : Nat) (row : Stamp), after[id]? = some row →
    FreshRow row ∨ ∃ old, before[id]? = some old ∧ Touched old row

/-- Rows that stay pass. -/
theorem Passes.refl (stamps : List Stamp) : Passes stamps stamps :=
  ⟨Carried.refl Touched.refl stamps, fun _ row stored => Or.inr ⟨row, stored, Touched.refl row⟩⟩

/-- Issuing passes the rows on, with new ones. -/
theorem Passes.issue (stamps : List Stamp) {new : List Stamp} (fresh : ∀ row ∈ new, FreshRow row) :
    Passes stamps (stamps ++ new) := by
  refine ⟨Carried.append Touched.refl stamps new, ?_⟩
  intro id row stored
  rcases Rows.stored_append_cases stored with old | ⟨_, added⟩
  · exact Or.inr ⟨row, old, Touched.refl row⟩
  · exact Or.inl (fresh row (List.mem_of_getElem? added))

/-- A move of one row passes the others on. -/
theorem Passes.modify {stamps : List Stamp} {stampId : Nat} {old : Stamp} {change : Stamp → Stamp}
    (stored : stamps[stampId]? = some old) (moves : Moves old (change old)) :
    Passes stamps (stamps.modify stampId change) := by
  constructor
  · refine Carried.modify Touched.refl ?_
    intro row present
    obtain rfl := Option.some.inj (stored.symm.trans present)
    exact Or.inr moves
  · intro id row present
    rcases Rows.stored_modify_cases present with ⟨_, kept⟩ | ⟨rfl, held, current, rfl⟩
    · exact Or.inr ⟨row, kept, Touched.refl row⟩
    · obtain rfl := Option.some.inj (stored.symm.trans current)
      exact Or.inr ⟨old, stored, Or.inr moves⟩

/-- A row that is activated if it is one of those that the update reaches. -/
theorem Touched.activate {reached : Prop} [Decidable reached] {old : Stamp} (time : Datetime)
    (issued : reached → old.status = .issued) :
    Touched old (if reached then { old with status := .active, activatedAt := some time } else old) := by
  split
  case isTrue touched => exact Or.inr (.activates time (issued touched))
  case isFalse => exact Touched.refl old

/-- What an activation reaches is issued. -/
theorem activates_issued {batchId : Nat} {stamp : Stamp} (activates : Issuance.activates batchId stamp = true) :
    stamp.status = .issued := by
  simp only [Issuance.activates, Bool.and_eq_true, decide_eq_true_eq] at activates
  exact activates.2

/-- An activation moves the issued stamps of its batch and passes the others on. -/
theorem Passes.activate (batchId : Nat) (time : Datetime) :
    Passes db.stamps (Issuance.activateStamps batchId time db).stamps := by
  constructor
  · exact Carried.map (fun _ _ => Touched.activate time activates_issued)
  · intro id row stored
    obtain ⟨old, present, rfl⟩ := Rows.Pointwise.origin (Rows.pointwise_map _ db.stamps) stored
    exact Or.inr ⟨old, present, Touched.activate time activates_issued⟩

/-- Every request issues, activates, consumes, suspects or voids stamps, or leaves them. -/
theorem passes (effect : Effect env before after) : Passes before.stamps after.stamps := by
  cases effect with
  | issued stored chunked ran =>
    obtain ⟨occasion, chunking⟩ := ran
    cases chunked with
    | past => exact Passes.refl _
    | exhausted => exact Passes.refl _
    | issues _ _ _ _ issued => exact Passes.issue _ (chunk_fresh chunking rfl issued)
  | activated => exact Passes.activate _ _
  | scanned stored scanned =>
    cases scanned with
    | answered => exact Passes.refl _
    | suspected live scanned => exact Passes.modify stored (.suspects scanned live.notVoid)
    | consumes live active unscanned => exact Passes.modify stored (.consumes _ _ active unscanned)
  | voided stored voided =>
    cases voided with
    | already => exact Passes.refl _
    | voids open_ => exact Passes.modify stored (.voids open_)
  | _ => exact Passes.refl _

/-- Rows stay shaped. -/
theorem Passes.shaped {stamps later : List Stamp} (passes : Passes stamps later)
    (known : ∀ stamp ∈ stamps, Shaped stamp) : ∀ stamp ∈ later, Shaped stamp := by
  intro row member
  obtain ⟨id, stored⟩ := List.mem_iff_getElem?.mp member
  rcases passes.origin id row stored with fresh | ⟨old, present, rfl | moves⟩
  · exact fresh.shaped
  · exact known row (List.mem_of_getElem? present)
  · exact (moves.later (known old (List.mem_of_getElem? present))).1

/-- Every stamp has its shape in every reachable state. -/
theorem shaped (reached : Reachable env db) : ∀ stamp ∈ db.stamps, Shaped stamp :=
  reached.invariant (fun state => ∀ stamp ∈ state.stamps, Shaped stamp)
    (fun _ absent => absurd absent List.not_mem_nil) (fun _ _ known effect => (passes effect).shaped known)

/-- Rows of shaped stamps are later versions of them. -/
theorem Passes.later {stamps later : List Stamp} (passes : Passes stamps later)
    (known : ∀ stamp ∈ stamps, Shaped stamp) : Carried LaterStamp stamps later := by
  intro id old stored
  obtain ⟨row, present, rfl | moves⟩ := passes.carried id old stored
  · exact ⟨row, present, LaterStamp.refl row⟩
  · exact ⟨row, present, (moves.later (known old (List.mem_of_getElem? stored))).2⟩

end Stamps

section Tables

/-- A later version of an assessment. -/
structure LaterAssessment (old row : Assessment) : Prop where
  fixed : row.fixed = old.fixed
  forward : Forward assessmentMoves old.status row.status

/-- A later version of an intent. -/
structure LaterIntent (old row : PaymentIntent) : Prop where
  fixed : row.fixed = old.fixed
  forward : Forward intentMoves old.status row.status

/-- A later version of a batch. Its root stays once it was anchored. -/
structure LaterBatch (old row : StampBatch) : Prop where
  fixed : row.fixed = old.fixed
  forward : Forward batchMoves old.status row.status
  anchored : Outbox.Anchored old.status → row.merkleRoot = old.merkleRoot

/-- A later version of a serial counter. -/
def LaterCounter (old row : SerialCounter) : Prop :=
  row.categoryCode = old.categoryCode ∧ row.year = old.year

/-- The later of two states of the database. -/
structure Grows (before after : Db) : Prop where
  declarations : before.declarations <+: after.declarations
  declarationLines : before.declarationLines <+: after.declarationLines
  assessments : Carried LaterAssessment before.assessments after.assessments
  assessmentLines : before.assessmentLines <+: after.assessmentLines
  approvals : before.approvals <+: after.approvals
  paymentIntents : Carried LaterIntent before.paymentIntents after.paymentIntents
  paymentReceipts : before.paymentReceipts <+: after.paymentReceipts
  journals : before.journals <+: after.journals
  ledgerEntries : before.ledgerEntries <+: after.ledgerEntries
  serialCounters : Carried LaterCounter before.serialCounters after.serialCounters
  stampBatches : Carried LaterBatch before.stampBatches after.stampBatches
  stamps : Carried LaterStamp before.stamps after.stamps
  inspections : before.inspections <+: after.inspections
  verifications : before.verifications <+: after.verifications
  outboxMessages : before.outboxMessages <+: after.outboxMessages
  statusListSnapshots : before.statusListSnapshots <+: after.statusListSnapshots

/-- A state that stays grows. -/
theorem Grows.refl (db : Db) : Grows db db where
  declarations := List.prefix_refl _
  declarationLines := List.prefix_refl _
  assessments := Carried.refl (fun _ => ⟨rfl, .refl⟩) _
  assessmentLines := List.prefix_refl _
  approvals := List.prefix_refl _
  paymentIntents := Carried.refl (fun _ => ⟨rfl, .refl⟩) _
  paymentReceipts := List.prefix_refl _
  journals := List.prefix_refl _
  ledgerEntries := List.prefix_refl _
  serialCounters := Carried.refl (fun _ => ⟨rfl, rfl⟩) _
  stampBatches := Carried.refl (fun _ => ⟨rfl, .refl, fun _ => rfl⟩) _
  stamps := Carried.refl LaterStamp.refl _
  inspections := List.prefix_refl _
  verifications := List.prefix_refl _
  outboxMessages := List.prefix_refl _
  statusListSnapshots := List.prefix_refl _

/-- A version of an assessment later than a later one is later. -/
theorem LaterAssessment.trans {first second third : Assessment} (earlier : LaterAssessment first second)
    (rest : LaterAssessment second third) : LaterAssessment first third :=
  ⟨rest.fixed.trans earlier.fixed, ReflTransGen.trans earlier.forward rest.forward⟩

/-- A version of an intent later than a later one is later. -/
theorem LaterIntent.trans {first second third : PaymentIntent} (earlier : LaterIntent first second)
    (rest : LaterIntent second third) : LaterIntent first third :=
  ⟨rest.fixed.trans earlier.fixed, ReflTransGen.trans earlier.forward rest.forward⟩

/-- An anchored batch stays anchored. -/
theorem anchored_stays {old new : BatchStatus} (forward : Forward batchMoves old new)
    (anchored : Outbox.Anchored old) : Outbox.Anchored new := by
  refine forward.stays Outbox.Anchored ?_ anchored
  intro status known next allowed
  rcases known with rfl | rfl | rfl
  · rcases List.mem_cons.mp allowed with rfl | rest
    · exact Or.inr (Or.inl rfl)
    · rw [List.mem_singleton.mp rest]
      exact Or.inr (Or.inr rfl)
  · rw [List.mem_singleton.mp allowed]
    exact Or.inr (Or.inr rfl)
  · cases allowed

/-- A version of a batch later than a later one is later. -/
theorem LaterBatch.trans {first second third : StampBatch} (earlier : LaterBatch first second)
    (rest : LaterBatch second third) : LaterBatch first third := by
  constructor
  case fixed => exact rest.fixed.trans earlier.fixed
  case forward => exact ReflTransGen.trans earlier.forward rest.forward
  case anchored =>
    intro anchored
    rw [rest.anchored (anchored_stays earlier.forward anchored), earlier.anchored anchored]

/-- A state that grows twice grows. -/
theorem Grows.trans {first second third : Db} (earlier : Grows first second) (rest : Grows second third) :
    Grows first third where
  declarations := earlier.declarations.trans rest.declarations
  declarationLines := earlier.declarationLines.trans rest.declarationLines
  assessments := earlier.assessments.trans (fun left right => left.trans right) rest.assessments
  assessmentLines := earlier.assessmentLines.trans rest.assessmentLines
  approvals := earlier.approvals.trans rest.approvals
  paymentIntents := earlier.paymentIntents.trans (fun left right => left.trans right) rest.paymentIntents
  paymentReceipts := earlier.paymentReceipts.trans rest.paymentReceipts
  journals := earlier.journals.trans rest.journals
  ledgerEntries := earlier.ledgerEntries.trans rest.ledgerEntries
  serialCounters := earlier.serialCounters.trans
    (fun left right => ⟨right.1.trans left.1, right.2.trans left.2⟩) rest.serialCounters
  stampBatches := earlier.stampBatches.trans (fun left right => left.trans right) rest.stampBatches
  stamps := earlier.stamps.trans (fun left right => left.trans right) rest.stamps
  inspections := earlier.inspections.trans rest.inspections
  verifications := earlier.verifications.trans rest.verifications
  outboxMessages := earlier.outboxMessages.trans rest.outboxMessages
  statusListSnapshots := earlier.statusListSnapshots.trans rest.statusListSnapshots

end Tables

section Steps

/-- One assessment moves along an edge. -/
theorem assessment_moved {assessments : List Assessment} {id : Nat} {assessment : Assessment}
    {change : Assessment → Assessment} (stored : assessments[id]? = some assessment)
    (fixed : (change assessment).fixed = assessment.fixed)
    (allowed : (change assessment).status ∈ assessmentMoves assessment.status) :
    Carried LaterAssessment assessments (assessments.modify id change) := by
  refine Carried.modify (fun _ => ⟨rfl, .refl⟩) ?_
  intro row present
  obtain rfl := Option.some.inj (stored.symm.trans present)
  exact ⟨fixed, .single allowed⟩

/-- A decision moves a pending assessment or leaves it. -/
theorem decision_moved {assessmentId : Nat} {assessment : Assessment} {approval : Approval}
    {verdict : Option AssessmentStatus} {time : Datetime}
    (decided : Assessments.Decided db assessmentId assessment approval)
    (judged : Assessments.Verdict db assessmentId assessment approval verdict) :
    Carried LaterAssessment db.assessments
      (Assessments.judged assessmentId time verdict db.assessments) := by
  have allowed : ∀ status ∈ assessmentMoves .pendingApproval,
      status ∈ assessmentMoves assessment.status := by rw [decided.pending]; exact fun _ same => same
  cases judged with
  | rejects => exact assessment_moved decided.stored rfl (allowed _ (by simp [assessmentMoves]))
  | approves => exact assessment_moved decided.stored rfl (allowed _ (by simp [assessmentMoves]))
  | waits => exact Carried.refl (fun _ => ⟨rfl, .refl⟩) _

/-- An intent is settled from its stored row. -/
theorem intent_settled {intentId : Nat} {intent : PaymentIntent} {time : Datetime}
    (stored : db.paymentIntents[intentId]? = some intent) (open_ : intent.status ≠ .settled) :
    Carried LaterIntent db.paymentIntents (Payments.settleIntent intentId intent time db).paymentIntents := by
  refine Carried.modify (fun _ => ⟨rfl, .refl⟩) ?_
  intro row present
  obtain rfl := Option.some.inj (stored.symm.trans present)
  refine ⟨rfl, .single ?_⟩
  simp only [Relock.column_current]
  cases status : intent.status <;> simp_all [intentMoves]

/-- A batch is written from its stored row. -/
theorem batch_moved {batches : List StampBatch} {batchId : Nat} {copy changed : StampBatch}
    (stored : batches[batchId]? = some copy) (forward : Forward batchMoves copy.status changed.status)
    (anchored : Outbox.Anchored copy.status → changed.merkleRoot = copy.merkleRoot) :
    Carried LaterBatch batches (Issuance.written batchId copy changed batches) := by
  refine Carried.modify (fun _ => ⟨rfl, .refl, fun _ => rfl⟩) ?_
  intro row present
  obtain rfl := Option.some.inj (stored.symm.trans present)
  simp only [Relock.column_current]
  exact ⟨rfl, forward, anchored⟩

/-- Claiming a block of serials moves one counter or adds one. -/
theorem counter_moved (categoryCode : PyStr) (year count : Int) (counters : List SerialCounter) :
    Carried LaterCounter counters (Numbering.bumped categoryCode year count counters) := by
  cases found : Numbering.counterOf categoryCode year counters with
  | none =>
    rw [Numbering.bumped_absent found]
    exact Carried.append (fun _ => ⟨rfl, rfl⟩) _ _
  | some counter =>
    rw [Numbering.bumped_found found]
    exact Carried.modify (fun _ => ⟨rfl, rfl⟩) (fun _ _ => ⟨rfl, rfl⟩)

/-- A chunk leaves the counters or moves one. -/
theorem counters_chunked {occasion : Occasion} {requested : Option Int} {batchId : Nat}
    {locked copy : StampBatch} {issued : Int}
    (chunked : Issuance.issueChunk env occasion requested batchId locked before = .ok (issued, copy, after)) :
    Carried LaterCounter before.serialCounters after.serialCounters := by
  cases Cursor.issueChunk_advances chunked with
  | past => exact Carried.refl (fun _ => ⟨rfl, rfl⟩) _
  | exhausted => exact Carried.refl (fun _ => ⟨rfl, rfl⟩) _
  | issues => exact counter_moved _ _ _ _

/-- The assessment of an unsettled intent waits for its payment. -/
theorem awaits_payment (reached : Reachable env db) {intentId : Nat} {intent : PaymentIntent}
    (stored : db.paymentIntents[intentId]? = some intent) (open_ : intent.status ≠ .settled) :
    ∃ assessment : Assessment, db.assessments[intent.assessmentId]? = some assessment ∧
      assessment.status = .paymentPending := by
  obtain ⟨assessment, present, billed, _⟩ := (Clearance.bills reached).asks intentId intent stored
  have uncleared : Clearance.cleared assessment.status ≠ true := fun cleared =>
    open_ (Batches.paid_settled reached (Batches.opened reached).once present cleared intent
      (List.mem_of_getElem? stored) rfl)
  refine ⟨assessment, present, ?_⟩
  cases status : assessment.status <;> simp_all [Clearance.billed, Clearance.cleared]

/-- A chunk writes a batch that is still being issued. -/
theorem chunk_forward {locked : StampBatch} (open_ : locked.status = .pending ∨ locked.status = .issuing)
    {next : BatchStatus} (status : next = .issuing ∨ next = .issued) :
    Forward batchMoves locked.status next := by
  refine .single ?_
  rcases open_ with same | same <;> rcases status with rfl | rfl <;> simp [same, batchMoves]

/-- A batch that is still being issued has no anchor. -/
theorem chunk_unanchored {locked : StampBatch} (open_ : locked.status = .pending ∨ locked.status = .issuing) :
    ¬ Outbox.Anchored locked.status := by
  rcases open_ with same | same <;> simp [same, Outbox.Anchored]

/-- Every effect on a reachable state grows it. -/
theorem grows_effect (reached : Reachable env before) (effect : Effect env before after) :
    Grows before after := by
  have stamps := (passes effect).later (shaped reached)
  cases effect with
  | nothing => exact .refl before
  | queued => exact { Grows.refl before with outboxMessages := List.prefix_append _ _ }
  | declared =>
    exact { Grows.refl before with
      declarations := List.prefix_append _ _
      declarationLines := List.prefix_append _ _ }
  | assessed =>
    exact { Grows.refl before with
      assessments := Carried.append (fun _ => ⟨rfl, .refl⟩) _ _
      assessmentLines := List.prefix_append _ _
      outboxMessages := List.prefix_append _ _ }
  | decided decided judged =>
    exact { Grows.refl before with
      approvals := List.prefix_append _ _
      assessments := decision_moved decided judged
      outboxMessages := List.prefix_append _ _ }
  | asked stored approved =>
    exact { Grows.refl before with
      assessments := assessment_moved stored rfl (by simp [approved, assessmentMoves])
      paymentIntents := Carried.append (fun _ => ⟨rfl, .refl⟩) _ _ }
  | quarantined => exact { Grows.refl before with paymentReceipts := List.prefix_append _ _ }
  | settled stored applied =>
    obtain ⟨assessment, present, pending⟩ := awaits_payment reached stored applied.open_
    exact { Grows.refl before with
      paymentReceipts := List.prefix_append _ _
      paymentIntents := intent_settled stored applied.open_
      assessments := assessment_moved present rfl (by simp [pending, assessmentMoves])
      journals := List.prefix_append _ _
      ledgerEntries := List.prefix_append _ _ }
  | opened stored paid =>
    exact { Grows.refl before with
      assessments := assessment_moved stored rfl (by simp [paid, assessmentMoves])
      stampBatches := Carried.append (fun _ => ⟨rfl, .refl, fun _ => rfl⟩) _ _ }
  | @issued _ batchId batch _ _ _ stored chunked ran =>
    obtain ⟨occasion, chunking⟩ := ran
    have counters := counters_chunked chunking
    cases chunked with
    | past => exact .refl before
    | exhausted open_ =>
      exact { Grows.refl before with
        stampBatches := batch_moved stored (chunk_forward open_ (Or.inr rfl))
          (fun anchored => absurd anchored (chunk_unanchored open_)) }
    | issues open_ =>
      exact { Grows.refl before with
        serialCounters := counters
        stamps := stamps
        stampBatches := batch_moved stored (chunk_forward open_ (Issuance.advanced_status _ _))
          (fun anchored => absurd anchored (chunk_unanchored open_)) }
  | finalized stored issued =>
    exact { Grows.refl before with
      stampBatches := batch_moved stored (.single (by simp [issued, batchMoves]))
        (by simp [issued, Outbox.Anchored])
      outboxMessages := List.prefix_append _ _ }
  | passed => exact { Grows.refl before with inspections := List.prefix_append _ _ }
  | @failed _ batch _ stored inspectable =>
    have allowed : BatchStatus.inspectionFailed ∈ batchMoves batch.status := by
      rcases inspectable with same | same <;> simp [same, batchMoves]
    exact { Grows.refl before with
      inspections := List.prefix_append _ _
      stampBatches := batch_moved stored (.single allowed) (fun _ => rfl) }
  | activated stored ready =>
    exact { Grows.refl before with
      stamps := stamps
      stampBatches := batch_moved stored (.single (by simp [ready, batchMoves])) (fun _ => rfl)
      outboxMessages := List.prefix_append _ _ }
  | attempted => exact { Grows.refl before with verifications := List.prefix_append _ _ }
  | scanned _ scanned =>
    cases scanned with
    | answered => exact { Grows.refl before with verifications := List.prefix_append _ _ }
    | suspected =>
      exact { Grows.refl before with
        verifications := List.prefix_append _ _
        stamps := stamps
        statusListSnapshots := List.prefix_append _ _ }
    | consumes =>
      exact { Grows.refl before with
        verifications := List.prefix_append _ _
        stamps := stamps
        outboxMessages := List.prefix_append _ _ }
  | voided _ voided =>
    cases voided with
    | already => exact .refl before
    | voids =>
      exact { Grows.refl before with
        stamps := stamps
        statusListSnapshots := List.prefix_append _ _
        outboxMessages := List.prefix_append _ _ }

/-- A reachable state grows along every further run. -/
theorem grows_path {earlier later : Db} (reached : Reachable env earlier)
    (path : ReflTransGen (Step env) earlier later) : Grows earlier later := by
  induction path with
  | refl => exact .refl earlier
  | tail path step inductionHypothesis =>
    exact inductionHypothesis.trans (grows_effect (reached.trans path) step.effect)

/-- No run loses a row, changes a fixed column or moves a status backwards, and the
status of every stamp says what was recorded about it. -/
theorem forward_only {earlier later : Db} (reached : Reachable env earlier)
    (path : ReflTransGen (Step env) earlier later) :
    Grows earlier later ∧ ∀ stamp ∈ later.stamps, Shaped stamp :=
  ⟨grows_path reached path, shaped (reached.trans path)⟩

/-- A sequence of requests is a path. -/
theorem run_path (requests : List (Occasion × Request)) (db : Db) :
    ReflTransGen (Step env) db (run env requests db) := by
  induction requests generalizing db with
  | nil => exact .refl
  | cons first rest inductionHypothesis => exact .head ⟨first.1, first.2, rfl⟩ (inductionHypothesis _)

/-- A longer sample continues a shorter one. -/
theorem sample_path (requests more : List Request) :
    ReflTransGen (Step .sample) (Sample.state requests) (Sample.state (requests ++ more)) := by
  have continued : ReflTransGen (Step .sample) (Sample.state requests)
      (run .sample (more.map (fun request => (Sample.occasion, request))) (Sample.state requests)) :=
    run_path _ _
  rwa [run, Sample.state, run, ← List.foldl_append, ← List.map_append] at continued

/-- The sample from its anchor to its activation. -/
theorem forward_only_sample : Grows (Sample.state Sample.issuing) (Sample.state Sample.activating) ∧
    ∀ stamp ∈ (Sample.state Sample.activating).stamps, Shaped stamp :=
  forward_only (Sample.state_reachable Sample.issuing) (sample_path _ _)

end Steps

end Lifecycle

end TaxStamps
