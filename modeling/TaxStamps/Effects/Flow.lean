import TaxStamps.Api.Routes
import TaxStamps.Effects.Tables

/-!
# From declaration to payment

What each operation of the intake, the assessment and the payment does to the
tables when it succeeds, and under which conditions it does.
-/

namespace TaxStamps

variable {env : Env} {occasion : Occasion} {db after : Db}

/-- An event is one more outbox message. -/
theorem Outbox.enqueue_ok {event : Outbox.EventType} {resource : List (Key × Value)}
    {principalId principalRole correlationId : PyStr}
    (queued : Outbox.enqueue env occasion event resource principalId principalRole correlationId db =
      .ok after) :
    ∃ message, after = { db with outboxMessages := db.outboxMessages ++ [message] } := by
  obtain ⟨envelope, _, inserted⟩ := Result.bind_ok.mp queued
  obtain ⟨stored, _, changed⟩ := Db.insertOutboxMessage_ok inserted
  exact ⟨_, changed⟩

namespace Api

/-- Declared items become lines of the declaration, behind the lines that are there. -/
theorem addLines_ok {declarationId : Nat} {items : List LineItem}
    (added : addLines declarationId items db = .ok after) :
    ∃ lines : List DeclarationLine, (∀ line ∈ lines, line.declarationId = declarationId) ∧
      after = { db with declarationLines := db.declarationLines ++ lines } := by
  induction items generalizing db with
  | nil =>
    cases added
    exact ⟨[], by simp, by simp⟩
  | cons item rest inductionHypothesis =>
    obtain ⟨middle, inserted, added⟩ := Result.bind_ok.mp added
    obtain ⟨lines, owned, rfl⟩ := inductionHypothesis added
    obtain rfl := Db.insertDeclarationLine_ok inserted
    exact ⟨lineRow declarationId item :: lines, List.forall_mem_cons.mpr ⟨rfl, owned⟩, by simp⟩

/-- A declaration arrives together with its lines. -/
theorem addDeclaration_ok {declarationRef consigneeTin consigneeName sourceEventId : PyStr}
    {items : List LineItem}
    (added : addDeclaration occasion declarationRef consigneeTin consigneeName sourceEventId items db =
      .ok after) :
    ∃ (declaration : Declaration) (lines : List DeclarationLine),
      (∀ line ∈ lines, line.declarationId = db.declarations.length) ∧
      after = { db with
        declarations := db.declarations ++ [declaration]
        declarationLines := db.declarationLines ++ lines } := by
  obtain ⟨middle, inserted, added⟩ := Result.bind_ok.mp added
  obtain ⟨lines, owned, rfl⟩ := addLines_ok added
  obtain rfl := Db.insertDeclaration_ok inserted
  exact ⟨_, lines, owned, rfl⟩

end Api

namespace Assessments

/-- Inserted lines stand behind the lines that are there. -/
theorem insertLines_ok {lines : List AssessmentLine} (inserted : insertLines lines db = .ok after) :
    after = { db with assessmentLines := db.assessmentLines ++ lines } := by
  induction lines generalizing db with
  | nil =>
    cases inserted
    simp
  | cons line rest inductionHypothesis =>
    obtain ⟨middle, first, inserted⟩ := Result.bind_ok.mp inserted
    obtain rfl := inductionHypothesis inserted
    obtain rfl := Db.insertAssessmentLine_ok first
    simp

/-- A new assessment holds what the loop over the declaration's lines computed
on the day of its submission. -/
structure Assessed (env : Env) (db : Db) (assessment : Assessment) (lines : List AssessmentLine) :
    Prop where
  computed : ∃ computed : Computed,
    assessLines env (Datetime.date assessment.submittedAt) db.assessments.length
      (linesOf assessment.declarationId db.declarationLines) ⟨0, 0, []⟩ = .ok computed ∧
    assessment.totalDutyKobo = computed.total ∧ assessment.stampsRequired = computed.stamps ∧
    lines = computed.lines
  pending : assessment.status = .pendingApproval
  required : 0 < assessment.approvalsRequired
  column : bigIntegerColumn assessment.totalDutyKobo = true

/-- Every risk tier asks for at least one approval. -/
theorem riskTierFor_positive (totalDutyKobo : Int) : 0 < (riskTierFor totalDutyKobo).2 := by
  unfold riskTierFor
  split
  · decide
  · split <;> decide

/-- An assessment is found under its key or made. -/
theorem createAssessment_ok {declarationId assessmentId : Nat} {submittedBy idempotencyKey : PyStr}
    (created : createAssessment env occasion declarationId submittedBy idempotencyKey db =
      .ok (assessmentId, after)) :
    after = db ∨ ∃ assessment lines, Assessed env db assessment lines ∧
      assessment.declarationId = declarationId ∧
      after = { db with
        assessments := db.assessments ++ [assessment]
        assessmentLines := db.assessmentLines ++ lines } := by
  unfold createAssessment at created
  split at created
  case _ existing found =>
    cases created
    exact Or.inl rfl
  case _ =>
    obtain ⟨_, _, created⟩ := Result.bind_ok.mp created
    obtain ⟨computed, assessed, created⟩ := Result.bind_ok.mp created
    obtain ⟨_, _, created⟩ := Result.bind_ok.mp created
    obtain ⟨middle, inserted, created⟩ := Result.bind_ok.mp created
    obtain ⟨last, listed, created⟩ := Result.bind_ok.mp created
    obtain ⟨rfl, rfl⟩ := Prod.mk.inj (Except.ok.inj created)
    obtain ⟨column, rfl⟩ := Db.insertAssessment_ok inserted
    obtain rfl := insertLines_ok listed
    refine Or.inr ⟨_, _, ?_, ?_, rfl⟩
    · exact ⟨⟨computed, assessed, rfl, rfl, rfl⟩, rfl, riskTierFor_positive _, column⟩
    · rfl

/-- The approvals of an assessment, in a table of approvals. -/
def approvalsIn (assessmentId : Nat) (approvals : List Approval) : List Approval :=
  approvals.filter (fun approval => decide (approval.assessmentId = assessmentId))

/-- The decision is an approval. -/
def approves (approval : Approval) : Bool := decide (approval.decision = .approve)

/-- A decision is recorded on a pending assessment, by a principal who neither
submitted it nor decided before. -/
structure Decided (db : Db) (assessmentId : Nat) (assessment : Assessment) (approval : Approval) :
    Prop where
  stored : db.assessments[assessmentId]? = some assessment
  pending : assessment.status = .pendingApproval
  subject : approval.assessmentId = assessmentId
  checker : approval.principalSub ≠ assessment.submittedBy
  first : ∀ other ∈ approvalsIn assessmentId db.approvals, other.principalSub ≠ approval.principalSub
  level : approval.level = (approvalsIn assessmentId db.approvals).length + 1

/-- What the assessment becomes by the decision. -/
inductive Verdict (db : Db) (assessmentId : Nat) (assessment : Assessment) (approval : Approval) :
    Option AssessmentStatus → Prop
  | rejects (reject : approval.decision = .reject) : Verdict db assessmentId assessment approval
      (some .rejected)
  | approves (approve : approval.decision = .approve)
      (enough : assessment.approvalsRequired ≤
        (approvalsIn assessmentId (db.approvals ++ [approval])).countP Assessments.approves) :
      Verdict db assessmentId assessment approval (some .approved)
  | waits (approve : approval.decision = .approve)
      (few : ((approvalsIn assessmentId (db.approvals ++ [approval])).countP Assessments.approves : Int) <
        assessment.approvalsRequired) :
      Verdict db assessmentId assessment approval none

/-- The assessments after a verdict. -/
def judged (assessmentId : Nat) (time : Datetime) (verdict : Option AssessmentStatus)
    (assessments : List Assessment) : List Assessment :=
  match verdict with
  | some status => assessments.modify assessmentId
      (fun row => { row with status := status, decidedAt := some time })
  | none => assessments

/-- A recorded decision adds one approval row, and its verdict goes to the assessment. -/
theorem recordDecision_ok {assessmentId : Nat} {principalSub reason : PyStr} {decision : Decision}
    (recorded : recordDecision occasion assessmentId principalSub decision reason db = .ok after) :
    ∃ assessment approval verdict, Decided db assessmentId assessment approval ∧
      Verdict db assessmentId assessment approval verdict ∧
      after = { db with
        approvals := db.approvals ++ [approval]
        assessments := judged assessmentId occasion.time verdict db.assessments } := by
  unfold recordDecision at recorded
  split at recorded
  case _ => cases recorded
  case _ assessment stored =>
    obtain ⟨_, checker, recorded⟩ := Result.bind_ok.mp recorded
    obtain ⟨_, first, recorded⟩ := Result.bind_ok.mp recorded
    obtain ⟨_, pending, recorded⟩ := Result.bind_ok.mp recorded
    obtain ⟨middle, inserted, recorded⟩ := Result.bind_ok.mp recorded
    obtain rfl := Db.insertApproval_ok inserted
    rw [Result.require_ok, decide_eq_true_eq] at checker pending
    simp only [Result.require_ok, Bool.not_eq_true', List.any_eq_false, decide_eq_true_eq] at first
    cases decision with
    | reject =>
      cases recorded
      refine ⟨assessment, _, some .rejected, ?_, ?_, rfl⟩
      · exact ⟨stored, pending, rfl, checker, first, rfl⟩
      · exact .rejects rfl
    | approve =>
      dsimp only at recorded
      split at recorded
      case isTrue enough =>
        cases recorded
        refine ⟨assessment, _, some .approved, ?_, ?_, rfl⟩
        · exact ⟨stored, pending, rfl, checker, first, rfl⟩
        · exact .approves rfl enough
      case isFalse few =>
        cases recorded
        refine ⟨assessment, _, none, ?_, ?_, rfl⟩
        · exact ⟨stored, pending, rfl, checker, first, rfl⟩
        · exact .waits rfl (not_le.mp few)

end Assessments

namespace Payments

/-- A new intent asks for exactly the duty. -/
structure Asked (assessmentId : Nat) (assessment : Assessment) (intent : PaymentIntent) : Prop where
  subject : intent.assessmentId = assessmentId
  amount : intent.expectedAmountKobo = assessment.totalDutyKobo
  currency : intent.currency = py "NGN"
  positive : 0 < intent.expectedAmountKobo
  pending : intent.status = .pending

/-- A payment intent that is returned was there, or is inserted for an approved assessment. -/
theorem createIntent_ok {assessmentId intentId : Nat} {assessment : Assessment}
    (created : createIntent env occasion assessmentId assessment db = .ok (intentId, after)) :
    assessment.status = .approved ∧ (after = db ∨ ∃ intent, Asked assessmentId assessment intent ∧
      after = { db with
        assessments := db.assessments.modify assessmentId
          (fun row => { row with status := .paymentPending })
        paymentIntents := db.paymentIntents ++ [intent] }) := by
  obtain ⟨_, _, created⟩ := Result.bind_ok.mp created
  obtain ⟨_, approved, created⟩ := Result.bind_ok.mp created
  rw [Result.require_ok, decide_eq_true_eq] at approved
  refine ⟨approved, ?_⟩
  split at created
  case _ existing _ =>
    cases created
    exact Or.inl rfl
  case _ =>
    obtain ⟨middle, inserted, created⟩ := Result.bind_ok.mp created
    obtain ⟨rfl, rfl⟩ := Prod.mk.inj (Except.ok.inj created)
    obtain ⟨positive, rfl⟩ := Db.insertPaymentIntent_ok inserted
    exact Or.inr ⟨_, ⟨rfl, rfl, rfl, positive, rfl⟩, rfl⟩

/-- A receipt kept aside refers to no intent. -/
structure Quarantined (db : Db) (externalReference : PyStr) (receipt : PaymentReceipt) : Prop where
  unmatched : receipt.paymentIntentId = none
  aside : receipt.status = .quarantined
  named : receipt.externalReference = externalReference
  fresh : ∀ other ∈ db.paymentReceipts, other.externalReference ≠ externalReference

/-- A receipt kept aside is one quarantined row. -/
theorem quarantine_ok {externalReference currency reason : PyStr} {amountKobo : Int} {receiptId : Nat}
    (kept : quarantine occasion externalReference amountKobo currency reason db =
      .ok (receiptId, after)) :
    ∃ receipt, Quarantined db externalReference receipt ∧
      after = { db with paymentReceipts := db.paymentReceipts ++ [receipt] } := by
  obtain ⟨middle, inserted, kept⟩ := Result.bind_ok.mp kept
  obtain ⟨rfl, rfl⟩ := Prod.mk.inj (Except.ok.inj kept)
  obtain ⟨fresh, rfl⟩ := Db.insertPaymentReceipt_ok inserted
  exact ⟨_, ⟨rfl, rfl, rfl, fresh⟩, rfl⟩

/-- The rows of the legs of a journal. -/
def entriesOf (journalId : Nat) (legs : List (PyStr × Int × Int)) : List LedgerEntry :=
  legs.map (fun leg => ⟨journalId, leg.1, leg.2.1, leg.2.2⟩)

/-- The legs of a journal become its ledger entries. -/
theorem insertLegs_ok {journalId : Nat} {legs : List (PyStr × Int × Int)}
    (inserted : Journals.insertLegs journalId legs db = .ok after) :
    after = { db with ledgerEntries := db.ledgerEntries ++ entriesOf journalId legs } := by
  induction legs generalizing db with
  | nil =>
    cases inserted
    simp [entriesOf]
  | cons leg rest inductionHypothesis =>
    obtain ⟨account, debit, credit⟩ := leg
    obtain ⟨_, _, inserted⟩ := Result.bind_ok.mp inserted
    obtain ⟨middle, first, inserted⟩ := Result.bind_ok.mp inserted
    obtain rfl := inductionHypothesis inserted
    obtain rfl := Db.insertLedgerEntry_ok first
    simp [entriesOf]

/-- A posted journal is a row with the reference and the entries of its legs. -/
theorem postJournal_ok {reference narration : PyStr} {legs : List (PyStr × Int × Int)}
    (posted : Journals.postJournal occasion reference narration legs db = .ok after) :
    ∃ journal : Journal, journal.reference = reference ∧
      after = { db with
        journals := db.journals ++ [journal]
        ledgerEntries := db.ledgerEntries ++ entriesOf db.journals.length legs } := by
  obtain ⟨_, _, posted⟩ := Result.bind_ok.mp posted
  obtain ⟨_, _, posted⟩ := Result.bind_ok.mp posted
  obtain ⟨_, _, posted⟩ := Result.bind_ok.mp posted
  obtain ⟨middle, inserted, posted⟩ := Result.bind_ok.mp posted
  obtain rfl := insertLegs_ok posted
  obtain rfl := Db.insertJournal_ok inserted
  exact ⟨_, rfl, rfl⟩

/-- The reference of the journal that settles a receipt. -/
def settlementReference (externalReference : PyStr) : PyStr :=
  py "excise-settlement:" ++ externalReference

/-- What a settlement posts: the clearing account is debited, the duty account
credited. -/
def settlementLegs (amountKobo : Int) : List (PyStr × Int × Int) :=
  [(py "assets:financial-controls-clearing", amountKobo, 0),
    (py "revenue:excise-duty-payable", 0, amountKobo)]

/-- A receipt is applied to an intent that the session holds as unsettled, for
the exact amount in the exact currency. -/
structure Applied (db : Db) (intentId : Nat) (locked : PaymentIntent) (externalReference : PyStr)
    (receipt : PaymentReceipt) (journal : Journal) : Prop where
  open_ : locked.status ≠ .settled
  matched : receipt.paymentIntentId = some intentId
  applied : receipt.status = .applied
  amount : receipt.amountKobo = locked.expectedAmountKobo
  currency : receipt.currency = locked.currency
  named : receipt.externalReference = externalReference
  fresh : ∀ other ∈ db.paymentReceipts, other.externalReference ≠ externalReference
  settles : journal.reference = settlementReference externalReference

/-- The tables after a settlement. -/
def settled (intentId : Nat) (locked : PaymentIntent) (time : Datetime) (receipt : PaymentReceipt)
    (journal : Journal) (db : Db) : Db :=
  { db with
    paymentReceipts := db.paymentReceipts ++ [receipt]
    paymentIntents := (settleIntent intentId locked time db).paymentIntents
    assessments := db.assessments.modify locked.assessmentId (fun row => { row with status := .paid })
    journals := db.journals ++ [journal]
    ledgerEntries := db.ledgerEntries ++
      entriesOf db.journals.length (settlementLegs receipt.amountKobo) }

/-- What the lock holder of an intent writes: a quarantined receipt, or an applied one with the
settled intent, the paid assessment and the journal. -/
theorem recordLocked_ok {intentId receiptId : Nat} {locked : PaymentIntent}
    {externalReference currency : PyStr} {amountKobo : Int}
    (recorded : recordLocked env occasion intentId locked externalReference amountKobo currency db =
      .ok (receiptId, after)) :
    (∃ receipt, Quarantined db externalReference receipt ∧
      after = { db with paymentReceipts := db.paymentReceipts ++ [receipt] }) ∨
    exact locked amountKobo currency = true ∧ ∃ receipt journal,
      Applied db intentId locked externalReference receipt journal ∧
      after = settled intentId locked occasion.time receipt journal db := by
  unfold recordLocked at recorded
  split at recorded
  case isTrue => exact Or.inl (quarantine_ok recorded)
  case isFalse unsettled =>
    split at recorded
    case isTrue => exact Or.inl (quarantine_ok recorded)
    case isFalse matching =>
      have matches? : exact locked amountKobo currency = true := by simpa using matching
      have same := matches?
      simp only [exact, Bool.and_eq_true, decide_eq_true_eq] at same
      obtain ⟨middle, inserted, recorded⟩ := Result.bind_ok.mp recorded
      obtain ⟨_, _, recorded⟩ := Result.bind_ok.mp recorded
      obtain ⟨last, posted, recorded⟩ := Result.bind_ok.mp recorded
      obtain ⟨rfl, rfl⟩ := Prod.mk.inj (Except.ok.inj recorded)
      obtain ⟨fresh, rfl⟩ := Db.insertPaymentReceipt_ok inserted
      obtain ⟨journal, named, rfl⟩ := postJournal_ok posted
      exact Or.inr ⟨matches?, _, journal,
        ⟨unsettled, rfl, rfl, same.1, same.2, rfl, fresh, named⟩, rfl⟩

/-- The identifier that is returned is that of the receipt just recorded. -/
theorem recordLocked_position {intentId receiptId : Nat} {locked : PaymentIntent}
    {externalReference currency : PyStr} {amountKobo : Int}
    (recorded : recordLocked env occasion intentId locked externalReference amountKobo currency db =
      .ok (receiptId, after)) : receiptId = db.paymentReceipts.length := by
  have kept : ∀ {reason : PyStr}, quarantine occasion externalReference amountKobo currency reason db =
      .ok (receiptId, after) → receiptId = db.paymentReceipts.length := by
    intro reason kept
    obtain ⟨middle, _, kept⟩ := Result.bind_ok.mp kept
    exact (Prod.mk.inj (Except.ok.inj kept)).1.symm
  unfold recordLocked at recorded
  split at recorded
  case isTrue => exact kept recorded
  case isFalse =>
    split at recorded
    case isTrue => exact kept recorded
    case isFalse =>
      obtain ⟨middle, _, recorded⟩ := Result.bind_ok.mp recorded
      obtain ⟨_, _, recorded⟩ := Result.bind_ok.mp recorded
      obtain ⟨last, _, recorded⟩ := Result.bind_ok.mp recorded
      exact (Prod.mk.inj (Except.ok.inj recorded)).1.symm

end Payments

end TaxStamps
