import TaxStamps.Library.Relock
import TaxStamps.Services.Assessments

/-!
# Payments

`payments.py` and `journal.py`. A receipt is applied when amount and currency
match the intent exactly, and quarantined otherwise; a second remittance for a
settled intent is quarantined as well.

The settlement works on the copy of the intent that the session holds. A caller
that has read the intent only under its lock passes the stored row.
-/

namespace TaxStamps

namespace Journals

/-- The loop over the legs of `post_journal`. -/
def insertLegs (journalId : Nat) : List (PyStr × Int × Int) → Db → Result Db
  | [], db => .ok db
  | (account, debit, credit) :: rest, db => do
    Result.require (decide ¬(debit < 0 ∨ credit < 0 ∨ (debit ≠ 0 ∧ credit ≠ 0)))
      (.journalError (py "illegal leg for " ++ account ++ py ": debit " ++ PyStr.decimalInt debit ++
        py " credit " ++ PyStr.decimalInt credit))
    let db ← db.insertLedgerEntry ⟨journalId, account, debit, credit⟩
    insertLegs journalId rest db

/-- `post_journal`. -/
def postJournal (occasion : Occasion) (reference narration : PyStr) (legs : List (PyStr × Int × Int))
    (db : Db) : Result Db := do
  Result.require (decide (2 ≤ legs.length))
    (.journalError (py "a journal requires at least two legs"))
  let debits := (legs.map (fun leg => leg.2.1)).sum
  let credits := (legs.map (fun leg => leg.2.2)).sum
  Result.require (decide (debits = credits))
    (.journalError (py "unbalanced journal: debits " ++ PyStr.decimalInt debits ++ py " <> credits " ++
      PyStr.decimalInt credits))
  Result.require (decide (debits ≠ 0)) (.journalError (py "zero-amount journals are not postable"))
  let journalId := db.journals.length
  let db ← db.insertJournal ⟨reference, narration, occasion.time⟩
  insertLegs journalId legs db

end Journals

namespace Payments

/-- `create_intent`; the identifier of the intent it returns. -/
def createIntent (env : Env) (occasion : Occasion) (assessmentId : Nat) (assessment : Assessment)
    (db : Db) : Result (Nat × Db) := do
  Result.require env.settings.paymentRailConfigured
    (.paymentError (py "rail-unavailable") (py ("no payment rail configured " ++
      "(TAXSTAMPS_PAYMENT_RAIL / TAXSTAMPS_FINANCIAL_CONTROLS_ENDPOINT)")))
  Result.require (decide (assessment.status = .approved))
    (.paymentError (py "invalid-state")
      (py "assessment is " ++ assessment.status.name ++ py ", expected APPROVED"))
  match Rows.select (fun row => decide (row.assessmentId = assessmentId)) db.paymentIntents with
  | some existing => .ok (existing.1, db)
  | none => do
    let db := Assessments.setStatus assessmentId .paymentPending db
    let intentId := db.paymentIntents.length
    let db ← db.insertPaymentIntent
      { assessmentId := assessmentId
        rail := env.settings.paymentRail
        expectedAmountKobo := assessment.totalDutyKobo
        currency := py "NGN"
        status := .pending
        createdAt := occasion.time
        settledAt := none }
    .ok (intentId, db)

/-- The receipt already recorded under a reference. -/
def replayed (externalReference : PyStr) (db : Db) : Option (Nat × PaymentReceipt) :=
  Rows.select (fun row => decide (row.externalReference = externalReference)) db.paymentReceipts

/-- A receipt that is kept without being applied. -/
def quarantine (occasion : Occasion) (externalReference : PyStr) (amountKobo : Int)
    (currency reason : PyStr) (db : Db) : Result (Nat × Db) := do
  let receiptId := db.paymentReceipts.length
  let db ← db.insertPaymentReceipt
    { paymentIntentId := none
      externalReference := externalReference
      amountKobo := amountKobo
      currency := currency
      status := .quarantined
      quarantineReason := reason
      receivedAt := occasion.time }
  .ok (receiptId, db)

/-- `UPDATE payment_intents`: the columns that differ from the session's copy. -/
def settleIntent (intentId : Nat) (copy : PaymentIntent) (time : Datetime) (db : Db) : Db :=
  { db with
    paymentIntents := db.paymentIntents.modify intentId (fun stored =>
      { stored with
        status := Relock.column copy.status .settled stored.status
        settledAt := Relock.column copy.settledAt (some time) stored.settledAt }) }

/-- The exact amount in the exact currency. -/
def exact (intent : PaymentIntent) (amountKobo : Int) (currency : PyStr) : Bool :=
  decide (amountKobo = intent.expectedAmountKobo) && decide (currency = intent.currency)

/-- `record_receipt` once the intent's lock is held, on the session's copy of
the intent. -/
def recordLocked (env : Env) (occasion : Occasion) (intentId : Nat) (locked : PaymentIntent)
    (externalReference : PyStr) (amountKobo : Int) (currency : PyStr) (db : Db) : Result (Nat × Db) :=
  if locked.status = .settled then
    quarantine occasion externalReference amountKobo currency (py "intent already settled") db
  else if !exact locked amountKobo currency then
    quarantine occasion externalReference amountKobo currency
      (py "amount mismatch: expected " ++ PyStr.decimalInt locked.expectedAmountKobo ++ py " " ++
        locked.currency ++ py ", received " ++ PyStr.decimalInt amountKobo ++ py " " ++ currency) db
  else do
    let receiptId := db.paymentReceipts.length
    let db ← db.insertPaymentReceipt
      { paymentIntentId := some intentId
        externalReference := externalReference
        amountKobo := amountKobo
        currency := currency
        status := .applied
        quarantineReason := []
        receivedAt := occasion.time }
    let db := settleIntent intentId locked occasion.time db
    let _ ← Result.one db.assessments[locked.assessmentId]?
    let db := Assessments.setStatus locked.assessmentId .paid db
    let db ← Journals.postJournal occasion (py "excise-settlement:" ++ externalReference)
      (py "Excise duty settlement for assessment " ++
        env.uuid (py "assessments") locked.assessmentId)
      [(py "assets:financial-controls-clearing", amountKobo, 0),
        (py "revenue:excise-duty-payable", 0, amountKobo)] db
    .ok (receiptId, db)

/-- `record_receipt` in a session that reads the intent for the first time. -/
def recordReceipt (env : Env) (occasion : Occasion) (intentId : Nat) (externalReference : PyStr)
    (amountKobo : Int) (currency : PyStr) (db : Db) : Result (Nat × Db) :=
  match replayed externalReference db with
  | some existing => .ok (existing.1, db)
  | none => do
    let locked ← Result.one db.paymentIntents[intentId]?
    recordLocked env occasion intentId locked externalReference amountKobo currency db

end Payments

end TaxStamps
