import TaxStamps.Api.Sample
import TaxStamps.Invariants.Clearance
import TaxStamps.Invariants.Settlement

/-!
# What can be paid

An approved assessment can be paid exactly when its duty is positive, the rail's
name fits its column, and the reference leaves room for the prefix of the
journal. A zero-rated assessment can never be paid, and a long reference is
accepted by the schema and refused by the journal.
-/

namespace TaxStamps.Payable

open Payments Api

variable {env : Env} {occasion : Occasion} {db after : Db}

/-- The intent can be made, and the receipt of its amount under the reference is
applied and leaves the assessment PAID. -/
def CanPay (env : Env) (asking paying : Occasion) (assessmentId : Nat) (externalReference : PyStr)
    (db : Db) : Prop :=
  ∃ (intentId : Nat) (billed : Db) (intent : PaymentIntent),
    createPaymentIntent env asking assessmentId db = .ok (intentId, billed) ∧
    billed.paymentIntents[intentId]? = some intent ∧
    ∀ body : ReceiptIn, body.paymentIntentId = intentId → body.externalReference = externalReference →
      body.amountKobo = intent.expectedAmountKobo → body.currency = py "NGN" →
      ∃ (receiptId : Nat) (receipt : PaymentReceipt) (paid : Db) (assessment : Assessment),
        recordPaymentReceipt env paying body billed = .ok (receiptId, paid) ∧
        paid.paymentReceipts[receiptId]? = some receipt ∧ receipt.status = .applied ∧
        paid.assessments[assessmentId]? = some assessment ∧ assessment.status = .paid

/-- The duty is positive, and the texts fit: the rail in its column, and the
reference together with the prefix of the journal. -/
def Fits (env : Env) (assessment : Assessment) (externalReference : PyStr) : Prop :=
  0 < assessment.totalDutyKobo ∧ PyStr.fits 32 env.settings.paymentRail = true ∧
    PyStr.fits 110 externalReference = true

/-- The new intent of an assessment. -/
def newIntent (env : Env) (occasion : Occasion) (assessmentId : Nat) (assessment : Assessment) :
    PaymentIntent :=
  { assessmentId := assessmentId
    rail := env.settings.paymentRail
    expectedAmountKobo := assessment.totalDutyKobo
    currency := py "NGN"
    status := .pending
    createdAt := occasion.time
    settledAt := none }

/-- The tables with the new intent. -/
def billedDb (env : Env) (occasion : Occasion) (assessmentId : Nat) (assessment : Assessment) (db : Db) :
    Db :=
  { db with
    assessments := db.assessments.modify assessmentId (fun row => { row with status := .paymentPending })
    paymentIntents := db.paymentIntents ++ [newIntent env occasion assessmentId assessment] }

/-- An intent for an assessment without one is made exactly when it fits its
table. -/
theorem createPaymentIntent_iff {assessmentId intentId : Nat} {assessment : Assessment}
    (configured : env.settings.paymentRailConfigured = true)
    (stored : db.assessments[assessmentId]? = some assessment) (approved : assessment.status = .approved)
    (column : bigIntegerColumn assessment.totalDutyKobo = true)
    (unbilled : ∀ intent ∈ db.paymentIntents, intent.assessmentId ≠ assessmentId) :
    createPaymentIntent env occasion assessmentId db = .ok (intentId, after) ↔
      PyStr.fits 32 env.settings.paymentRail = true ∧ 0 < assessment.totalDutyKobo ∧
        intentId = db.paymentIntents.length ∧
        after = billedDb env occasion assessmentId assessment db := by
  have absent : Rows.select (fun row : PaymentIntent => decide (row.assessmentId = assessmentId))
      db.paymentIntents = none := by
    rw [Rows.select_none]
    exact fun intent member => decide_eq_false (unbilled intent member)
  have naira : PyStr.fits 3 (py "NGN") = true := by decide
  have others : db.paymentIntents.all (fun other => decide (other.assessmentId ≠ assessmentId)) = true := by
    rw [List.all_eq_true]
    exact fun intent member => decide_eq_true (unbilled intent member)
  rw [createPaymentIntent, stored]
  simp only [found, Result.ok_bind, translated_ok, createIntent, configured, approved, absent,
    Result.require, decide_true, if_true]
  rw [Result.bind_ok]
  simp only [Db.insertPaymentIntent, Db.constrained, Assessments.setStatus, column, naira, others,
    Bool.and_true, Bool.and_eq_true, decide_eq_true_eq]
  constructor
  · rintro ⟨billed, ⟨⟨rail, positive⟩, rfl⟩, done⟩
    obtain ⟨rfl, rfl⟩ := Prod.mk.inj (Except.ok.inj done)
    exact ⟨rail, positive, rfl, rfl⟩
  · rintro ⟨rail, positive, rfl, rfl⟩
    exact ⟨_, ⟨⟨rail, positive⟩, rfl⟩, rfl⟩

/-- A leg on one side of the ledger fits. -/
theorem insertLeg {account : PyStr} {debit credit : Int} (named : PyStr.fits 64 account = true)
    (debits : bigIntegerColumn debit = true) (credits : bigIntegerColumn credit = true)
    (sides : (0 ≤ debit ∧ credit = 0) ∨ (debit = 0 ∧ 0 ≤ credit)) (journalId : Nat)
    (rest : List (PyStr × Int × Int)) :
    Journals.insertLegs journalId ((account, debit, credit) :: rest) db =
      Journals.insertLegs journalId rest
        { db with ledgerEntries := db.ledgerEntries ++ [⟨journalId, account, debit, credit⟩] } := by
  have legal : ¬(debit < 0 ∨ credit < 0 ∨ (debit ≠ 0 ∧ credit ≠ 0)) := by omega
  have natural : 0 ≤ debit ∧ 0 ≤ credit := by omega
  have single : ¬(0 < debit ∧ 0 < credit) := by omega
  simp only [Journals.insertLegs, Db.insertLedgerEntry, Db.constrain, Result.require, legal, natural,
    single, named, debits, credits, not_false_eq_true, and_self, decide_true, Bool.and_true, if_true,
    Result.ok_bind]

/-- The journal of a settlement is posted exactly when its reference and its
narration fit and the reference is new. -/
theorem postJournal_iff {reference narration : PyStr} {amount : Int} (positive : 0 < amount)
    (column : bigIntegerColumn amount = true) (fresh : ∀ other ∈ db.journals, other.reference ≠ reference) :
    Journals.postJournal occasion reference narration (settlementLegs amount) db = .ok after ↔
      PyStr.fits 128 reference = true ∧ textColumn narration = true ∧
        after = { db with
          journals := db.journals ++ [⟨reference, narration, occasion.time⟩]
          ledgerEntries := db.ledgerEntries ++ entriesOf db.journals.length (settlementLegs amount) } := by
  have others : db.journals.all (fun other => decide (other.reference ≠ reference)) = true := by
    rw [List.all_eq_true]
    exact fun journal member => decide_eq_true (fresh journal member)
  have present : amount ≠ 0 := by omega
  have zero : bigIntegerColumn 0 = true := by decide
  have clearing : PyStr.fits 64 (py "assets:financial-controls-clearing") = true := by decide
  have duty : PyStr.fits 64 (py "revenue:excise-duty-payable") = true := by decide
  have legs : ∀ posted : Db, Journals.insertLegs db.journals.length (settlementLegs amount) posted =
      .ok { posted with
        ledgerEntries := posted.ledgerEntries ++ entriesOf db.journals.length (settlementLegs amount) } := by
    intro posted
    rw [settlementLegs, insertLeg clearing column zero (Or.inl ⟨by omega, rfl⟩),
      insertLeg duty zero column (Or.inr ⟨rfl, by omega⟩)]
    simp [Journals.insertLegs, entriesOf]
  have balanced : ((settlementLegs amount).map (fun leg => leg.2.1)).sum = amount ∧
      ((settlementLegs amount).map (fun leg => leg.2.2)).sum = amount := by simp [settlementLegs]
  have two : 2 ≤ (settlementLegs amount).length := Nat.le_refl 2
  simp only [Journals.postJournal, balanced, Result.require, two, present, decide_true, if_true,
    Result.ok_bind, ne_eq, not_false_eq_true]
  rw [Result.bind_ok]
  simp only [Db.insertJournal, Db.constrained, others, Bool.and_true, Bool.and_eq_true]
  constructor
  · rintro ⟨posted, ⟨⟨named, narrated⟩, rfl⟩, done⟩
    rw [legs] at done
    exact ⟨named, narrated, (Except.ok.inj done).symm⟩
  · rintro ⟨named, narrated, rfl⟩
    exact ⟨_, ⟨⟨named, narrated⟩, rfl⟩, legs _⟩

/-- The reference of a journal fits exactly when 110 characters are enough for
the receipt's. -/
theorem fits_reference {externalReference : PyStr} :
    PyStr.fits 128 (settlementReference externalReference) = true ↔
      PyStr.fits 110 externalReference = true := by
  have length : (py "excise-settlement:").length = 18 := by decide
  have storable : (py "excise-settlement:").all Code.storable = true := by decide
  rw [settlementReference, PyStr.fits, PyStr.fits, List.length_append, List.all_append, length, storable,
    Bool.true_and, Bool.and_eq_true, Bool.and_eq_true, decide_eq_true_iff, decide_eq_true_iff]
  constructor
  · rintro ⟨short, codes⟩
    exact ⟨by omega, codes⟩
  · rintro ⟨short, codes⟩
    exact ⟨by omega, codes⟩

/-- The receipt of an exact payment. -/
def exactReceipt (occasion : Occasion) (intentId : Nat) (intent : PaymentIntent)
    (externalReference : PyStr) : PaymentReceipt :=
  { paymentIntentId := some intentId
    externalReference := externalReference
    amountKobo := intent.expectedAmountKobo
    currency := intent.currency
    status := .applied
    quarantineReason := []
    receivedAt := occasion.time }

/-- The journal of an exact payment. -/
def settlementJournal (env : Env) (occasion : Occasion) (assessmentId : Nat) (externalReference : PyStr) :
    Journal :=
  ⟨settlementReference externalReference, py "Excise duty settlement for assessment " ++
    env.uuid (py "assessments") assessmentId, occasion.time⟩

/-- An exact receipt for an open intent, under a new reference, is applied
exactly when the reference leaves room for the prefix. -/
theorem recordPaymentReceipt_iff {intent : PaymentIntent} {assessment : Assessment} {body : ReceiptIn}
    {receiptId : Nat} (stored : db.paymentIntents[body.paymentIntentId]? = some intent)
    (unsettled : intent.status ≠ .settled) (naira : intent.currency = py "NGN")
    (positive : 0 < intent.expectedAmountKobo) (column : bigIntegerColumn intent.expectedAmountKobo = true)
    (amount : body.amountKobo = intent.expectedAmountKobo) (currency : body.currency = intent.currency)
    (billed : db.assessments[intent.assessmentId]? = some assessment)
    (unused : ∀ receipt ∈ db.paymentReceipts, receipt.externalReference ≠ body.externalReference)
    (unposted : ∀ journal ∈ db.journals, journal.reference ≠ settlementReference body.externalReference) :
    recordPaymentReceipt env occasion body db = .ok (receiptId, after) ↔
      PyStr.fits 110 body.externalReference = true ∧ receiptId = db.paymentReceipts.length ∧
        after = settled body.paymentIntentId intent occasion.time
          (exactReceipt occasion body.paymentIntentId intent body.externalReference)
          (settlementJournal env occasion intent.assessmentId body.externalReference) db := by
  have absent : replayed body.externalReference db = none := by
    rw [replayed, Rows.select_none]
    exact fun receipt member => decide_eq_false (unused receipt member)
  have others : db.paymentReceipts.all
      (fun other => decide (other.externalReference ≠ body.externalReference)) = true := by
    rw [List.all_eq_true]
    exact fun receipt member => decide_eq_true (unused receipt member)
  have matching : exact intent intent.expectedAmountKobo intent.currency = true := by simp [exact]
  have fitsCurrency : PyStr.fits 3 intent.currency = true := by
    rw [naira]
    decide
  have natural : 0 ≤ intent.expectedAmountKobo := by omega
  have reason : textColumn [] = true := rfl
  have narrated : textColumn (py "Excise duty settlement for assessment " ++
      env.uuid (py "assessments") intent.assessmentId) = true := by
    have literal : (py "Excise duty settlement for assessment ").all Code.storable = true := by decide
    rw [textColumn, List.all_append, literal, env.uuid_storable]
    rfl
  rw [recordPaymentReceipt, stored]
  simp only [found, Result.ok_bind, recordReceipt, absent, stored, Result.one, recordLocked, unsettled,
    if_false, matching, Bool.not_true, Bool.false_eq_true, amount, currency]
  rw [Result.bind_ok]
  simp only [Db.insertPaymentReceipt, Db.constrained, others, column, fitsCurrency, natural, reason,
    decide_true, Bool.and_true]
  constructor
  · rintro ⟨received, ⟨fits, rfl⟩, done⟩
    obtain ⟨_, _, done⟩ := Result.bind_ok.mp done
    obtain ⟨posted, journal, done⟩ := Result.bind_ok.mp done
    obtain ⟨rfl, rfl⟩ := Prod.mk.inj (Except.ok.inj done)
    obtain ⟨named, _, rfl⟩ := (postJournal_iff positive column (by exact unposted)).mp journal
    exact ⟨fits_reference.mp named, rfl, rfl⟩
  · rintro ⟨short, rfl, rfl⟩
    have fits : PyStr.fits 128 body.externalReference = true := by
      rw [PyStr.fits, Bool.and_eq_true, decide_eq_true_iff] at short ⊢
      exact ⟨by omega, short.2⟩
    refine ⟨_, ⟨fits, rfl⟩, ?_⟩
    simp only [settleIntent, billed, Result.ok_bind]
    rw [Result.bind_ok]
    exact ⟨_, (postJournal_iff positive column (by exact unposted)).mpr
      ⟨fits_reference.mpr short, narrated, rfl⟩, rfl⟩

section Approved

variable {assessmentId : Nat} {assessment : Assessment} {externalReference : PyStr}

/-- An approved assessment has no intent. -/
theorem approved_unbilled (reached : Reachable env db)
    (stored : db.assessments[assessmentId]? = some assessment) (approved : assessment.status = .approved) :
    ∀ intent ∈ db.paymentIntents, intent.assessmentId ≠ assessmentId := by
  rintro intent member rfl
  obtain ⟨intentId, present⟩ := List.mem_iff_getElem?.mp member
  obtain ⟨held, current, past, _⟩ := (Clearance.bills reached).asks intentId intent present
  rw [Option.some.inj (current.symm.trans stored), approved] at past
  cases past

/-- A reference that no receipt used is the reference of no journal. -/
theorem unused_unposted (reached : Reachable env db)
    (unused : ∀ receipt ∈ db.paymentReceipts, receipt.externalReference ≠ externalReference) :
    ∀ journal ∈ db.journals, journal.reference ≠ settlementReference externalReference := by
  intro journal member same
  have listed : settlementReference externalReference ∈ db.journals.map (·.reference) :=
    List.mem_map.mpr ⟨journal, member, same⟩
  rw [(Settlement.valid reached).journals] at listed
  obtain ⟨receipt, applied, equal⟩ := List.mem_map.mp listed
  exact unused receipt (List.mem_of_mem_filter applied) (Settlement.settlementReference_injective equal)

/-- The exact receipt in the state with the new intent. -/
theorem recordBilled_iff (reached : Reachable env db) {asking paying : Occasion} {body : ReceiptIn}
    {receiptId : Nat} (stored : db.assessments[assessmentId]? = some assessment)
    (positive : 0 < assessment.totalDutyKobo) (subject : body.paymentIntentId = db.paymentIntents.length)
    (amount : body.amountKobo = assessment.totalDutyKobo) (currency : body.currency = py "NGN")
    (unused : ∀ receipt ∈ db.paymentReceipts, receipt.externalReference ≠ body.externalReference) :
    recordPaymentReceipt env paying body (billedDb env asking assessmentId assessment db) =
        .ok (receiptId, after) ↔
      PyStr.fits 110 body.externalReference = true ∧ receiptId = db.paymentReceipts.length ∧
        after = settled body.paymentIntentId (newIntent env asking assessmentId assessment) paying.time
          (exactReceipt paying body.paymentIntentId (newIntent env asking assessmentId assessment)
            body.externalReference)
          (settlementJournal env paying assessmentId body.externalReference)
          (billedDb env asking assessmentId assessment db) := by
  have column := (Clearance.computed reached).column assessmentId assessment stored
  have made : (billedDb env asking assessmentId assessment db).paymentIntents[body.paymentIntentId]? =
      some (newIntent env asking assessmentId assessment) := by
    rw [subject]
    exact Rows.stored_inserted _ _
  have unposted := unused_unposted reached unused
  exact recordPaymentReceipt_iff made (by simp [newIntent]) rfl positive column amount currency
    (Rows.stored_modify_self stored) unused unposted

/-- What fits can be paid. -/
theorem Fits.payable (fits : Fits env assessment externalReference) (reached : Reachable env db)
    (configured : env.settings.paymentRailConfigured = true)
    (stored : db.assessments[assessmentId]? = some assessment) (approved : assessment.status = .approved)
    (unused : ∀ receipt ∈ db.paymentReceipts, receipt.externalReference ≠ externalReference)
    (asking paying : Occasion) : CanPay env asking paying assessmentId externalReference db := by
  obtain ⟨positive, rail, short⟩ := fits
  have column := (Clearance.computed reached).column assessmentId assessment stored
  refine ⟨_, _, newIntent env asking assessmentId assessment, (createPaymentIntent_iff configured stored
    approved column (approved_unbilled reached stored approved)).mpr ⟨rail, positive, rfl, rfl⟩,
    Rows.stored_inserted _ _, ?_⟩
  rintro body subject rfl amount currency
  have billed : (billedDb env asking assessmentId assessment db).assessments[assessmentId]? =
      some { assessment with status := .paymentPending } := Rows.stored_modify_self stored
  exact ⟨_, _, _, _,
    (recordBilled_iff reached stored positive subject amount currency unused).mpr ⟨short, rfl, rfl⟩,
    Rows.stored_inserted _ _, rfl, Rows.stored_modify_self billed, rfl⟩

/-- What can be paid fits. -/
theorem CanPay.fits {asking paying : Occasion}
    (payable : CanPay env asking paying assessmentId externalReference db) (reached : Reachable env db)
    (configured : env.settings.paymentRailConfigured = true)
    (stored : db.assessments[assessmentId]? = some assessment) (approved : assessment.status = .approved)
    (sized : PyStr.sized 4 128 externalReference = true)
    (unused : ∀ receipt ∈ db.paymentReceipts, receipt.externalReference ≠ externalReference) :
    Fits env assessment externalReference := by
  have column := (Clearance.computed reached).column assessmentId assessment stored
  obtain ⟨intentId, billed, intent, created, present, pays⟩ := payable
  obtain ⟨rail, positive, rfl, rfl⟩ := (createPaymentIntent_iff configured stored approved column
    (approved_unbilled reached stored approved)).mp created
  have made : (billedDb env asking assessmentId assessment db).paymentIntents[db.paymentIntents.length]? =
      some (newIntent env asking assessmentId assessment) := Rows.stored_inserted _ _
  obtain rfl := Option.some.inj (made.symm.trans present)
  obtain ⟨receiptId, receipt, paid, row, recorded, _⟩ := pays ⟨db.paymentIntents.length,
    externalReference, assessment.totalDutyKobo, py "NGN", sized, by omega, by decide⟩ rfl rfl rfl rfl
  obtain ⟨short, _⟩ := (recordBilled_iff reached stored positive rfl rfl rfl unused).mp recorded
  exact ⟨positive, rail, short⟩

/-- An approved assessment can be paid under a new reference exactly when its
duty and the texts fit. -/
theorem payable_iff (reached : Reachable env db) (configured : env.settings.paymentRailConfigured = true)
    (stored : db.assessments[assessmentId]? = some assessment) (approved : assessment.status = .approved)
    (sized : PyStr.sized 4 128 externalReference = true)
    (unused : ∀ receipt ∈ db.paymentReceipts, receipt.externalReference ≠ externalReference)
    (asking paying : Occasion) :
    CanPay env asking paying assessmentId externalReference db ↔ Fits env assessment externalReference := by
  constructor
  · intro payable
    exact payable.fits reached configured stored approved sized unused
  · intro fits
    exact fits.payable reached configured stored approved unused asking paying

end Approved

/-- The sample after its approval. -/
theorem approved_sample : ∃ assessment, (Sample.state (Sample.asking.take 3)).assessments[0]? =
    some assessment ∧ assessment.status = .approved ∧
    (Sample.state (Sample.asking.take 3)).paymentReceipts = [] := by
  obtain ⟨assessment, only, approved⟩ := List.map_eq_singleton_iff.mp Sample.asked_approved.1
  exact ⟨assessment, by rw [only]; rfl, approved, List.eq_nil_of_length_eq_zero Sample.asked_approved.2.2⟩

/-- A reference of four characters. -/
theorem payable_iff_sample : ∃ assessment,
    CanPay .sample Sample.occasion Sample.occasion 0 (py "PAY1") (Sample.state (Sample.asking.take 3)) ↔
      Fits .sample assessment (py "PAY1") := by
  obtain ⟨assessment, stored, approved, unpaid⟩ := approved_sample
  refine ⟨assessment, payable_iff (Sample.state_reachable _) (by decide) stored approved (by decide) ?_ _ _⟩
  rw [unpaid]
  exact fun _ absurdity => by cases absurdity

/-- Not every approved assessment can be paid under every reference that the
schema accepts: a reference of 111 characters is refused by the journal. -/
theorem long_reference_unpayable : ¬ ∀ (db : Db) (assessmentId : Nat) (assessment : Assessment)
    (externalReference : PyStr), Reachable .sample db → db.assessments[assessmentId]? = some assessment →
    assessment.status = .approved → PyStr.sized 4 128 externalReference = true →
    (∀ receipt ∈ db.paymentReceipts, receipt.externalReference ≠ externalReference) →
    CanPay .sample Sample.occasion Sample.occasion assessmentId externalReference db := by
  intro claimed
  obtain ⟨assessment, stored, approved, unpaid⟩ := approved_sample
  have unused : ∀ receipt ∈ (Sample.state (Sample.asking.take 3)).paymentReceipts,
      receipt.externalReference ≠ List.replicate 111 (Code.digit 1) := by
    rw [unpaid]
    exact fun _ absurdity => by cases absurdity
  have payable := claimed _ 0 assessment (List.replicate 111 (Code.digit 1)) (Sample.state_reachable _) stored
    approved (by decide) unused
  have short := (payable.fits (Sample.state_reachable _) (by decide) stored approved (by decide) unused).2.2
  exact absurd short (by decide)

end TaxStamps.Payable
