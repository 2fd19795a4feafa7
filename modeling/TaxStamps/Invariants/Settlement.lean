import TaxStamps.Api.Sample
import TaxStamps.Effects.Requests

/-!
# The settlement ledger

Receipts, intents, journals and ledger legs tell one story in every reachable
state: each applied receipt settled one intent exactly and posted one journal of
two legs, and nothing else was posted.
-/

namespace TaxStamps.Settlement

open Payments Api

variable {env : Env} {db after : Db}

/-- The receipts that were applied. -/
def applied (receipts : List PaymentReceipt) : List PaymentReceipt :=
  receipts.filter (fun receipt => decide (receipt.status = .applied))

/-- The applied receipts that refer to an intent. -/
def appliedTo (intentId : Nat) (receipts : List PaymentReceipt) : List PaymentReceipt :=
  (applied receipts).filter (fun receipt => decide (receipt.paymentIntentId = some intentId))

/-- The intent is settled. -/
def settled (intent : PaymentIntent) : Bool := decide (intent.status = .settled)

/-- The legs of a journal. -/
def legsOf (journalId : Nat) (entries : List LedgerEntry) : List LedgerEntry :=
  entries.filter (fun entry => decide (entry.journalId = journalId))

/-- What the clearing account was debited. -/
def clearingDebits (entries : List LedgerEntry) : Int :=
  ((entries.filter (fun entry =>
    decide (entry.account = py "assets:financial-controls-clearing"))).map (·.debitKobo)).sum

/-- The ledger agrees with the receipts: the journal at a position settles the
applied receipt at that position. -/
structure Agrees (db : Db) : Prop where
  settled : ∀ (intentId : Nat) (intent : PaymentIntent), db.paymentIntents[intentId]? = some intent →
    (intent.status = .settled ↔ (appliedTo intentId db.paymentReceipts).length = 1)
  matched : ∀ receipt ∈ applied db.paymentReceipts, ∃ (intentId : Nat) (intent : PaymentIntent),
    receipt.paymentIntentId = some intentId ∧ db.paymentIntents[intentId]? = some intent ∧
      receipt.amountKobo = intent.expectedAmountKobo ∧ receipt.currency = intent.currency
  journals : db.journals.map (·.reference) =
    (applied db.paymentReceipts).map (fun receipt => settlementReference receipt.externalReference)
  distinct : (db.journals.map (·.reference)).Nodup
  legs : ∀ (journalId : Nat) (receipt : PaymentReceipt),
    (applied db.paymentReceipts)[journalId]? = some receipt →
      legsOf journalId db.ledgerEntries = entriesOf journalId (settlementLegs receipt.amountKobo)
  only : ∀ entry ∈ db.ledgerEntries, entry.journalId < db.journals.length
  total : clearingDebits db.ledgerEntries =
    ((db.paymentIntents.filter Settlement.settled).map (·.expectedAmountKobo)).sum

/-- The tables that a receipt without effect leaves alone. -/
structure Untouched (before after : Db) : Prop where
  paymentIntents : after.paymentIntents = before.paymentIntents
  assessments : after.assessments = before.assessments
  journals : after.journals = before.journals
  ledgerEntries : after.ledgerEntries = before.ledgerEntries

section Entries

/-- The legs of consecutive settlements, the first of which has a given journal. -/
def entriesFrom (first : Nat) : List PaymentReceipt → List LedgerEntry
  | [] => []
  | receipt :: rest => entriesOf first (settlementLegs receipt.amountKobo) ++ entriesFrom (first + 1) rest

/-- The entries of a further receipt stand behind the others. -/
theorem entriesFrom_append (first : Nat) (receipts : List PaymentReceipt) (receipt : PaymentReceipt) :
    entriesFrom first (receipts ++ [receipt]) =
      entriesFrom first receipts ++
        entriesOf (first + receipts.length) (settlementLegs receipt.amountKobo) := by
  induction receipts generalizing first with
  | nil => simp [entriesFrom]
  | cons head rest inductionHypothesis =>
    have shifted : first + 1 + rest.length = first + (rest.length + 1) := by omega
    simp only [List.cons_append, entriesFrom, inductionHypothesis, List.length_cons, List.append_assoc,
      shifted]

/-- The entries of a journal name it. -/
theorem entriesOf_journal {journalId : Nat} {legs : List (PyStr × Int × Int)} {entry : LedgerEntry}
    (member : entry ∈ entriesOf journalId legs) : entry.journalId = journalId := by
  obtain ⟨leg, _, rfl⟩ := List.mem_map.mp member
  rfl

/-- The entries of receipts name their journals, one each. -/
theorem entriesFrom_journal {first : Nat} {receipts : List PaymentReceipt} {entry : LedgerEntry}
    (member : entry ∈ entriesFrom first receipts) :
    first ≤ entry.journalId ∧ entry.journalId < first + receipts.length := by
  induction receipts generalizing first with
  | nil => cases member
  | cons head rest inductionHypothesis =>
    rw [List.length_cons]
    rcases List.mem_append.mp member with here | later
    · rw [entriesOf_journal here]
      omega
    · have bounds := inductionHypothesis later
      omega

/-- The legs of a journal are its entries. -/
theorem legsOf_same (journalId : Nat) (legs : List (PyStr × Int × Int)) :
    legsOf journalId (entriesOf journalId legs) = entriesOf journalId legs := by
  rw [legsOf, List.filter_eq_self]
  intro entry member
  exact decide_eq_true (entriesOf_journal member)

/-- A journal that no entry names has no legs. -/
theorem legsOf_absent {journalId : Nat} {entries : List LedgerEntry}
    (absent : ∀ entry ∈ entries, entry.journalId ≠ journalId) : legsOf journalId entries = [] := by
  rw [legsOf, List.filter_eq_nil_iff]
  intro entry member
  simpa using absent entry member

/-- The journal of a settlement has the two legs of that settlement. -/
theorem legsOf_entriesFrom {first position : Nat} {receipts : List PaymentReceipt}
    {receipt : PaymentReceipt} (listed : receipts[position]? = some receipt) :
    legsOf (first + position) (entriesFrom first receipts) =
      entriesOf (first + position) (settlementLegs receipt.amountKobo) := by
  induction receipts generalizing first position with
  | nil => simp at listed
  | cons head rest inductionHypothesis =>
    rw [entriesFrom, legsOf, List.filter_append]
    cases position with
    | zero =>
      obtain rfl : head = receipt := by simpa using listed
      have others : legsOf first (entriesFrom (first + 1) rest) = [] := by
        apply legsOf_absent
        intro entry member
        have bounds := entriesFrom_journal member
        omega
      have own := legsOf_same first (settlementLegs head.amountKobo)
      rw [legsOf] at others own
      rw [Nat.add_zero, others, own, List.append_nil]
    | succ position =>
      have others : legsOf (first + (position + 1))
          (entriesOf first (settlementLegs head.amountKobo)) = [] := by
        apply legsOf_absent
        intro entry member
        rw [entriesOf_journal member]
        omega
      have later : legsOf (first + 1 + position) (entriesFrom (first + 1) rest) =
          entriesOf (first + 1 + position) (settlementLegs receipt.amountKobo) :=
        inductionHypothesis (by simpa using listed)
      have shifted : first + 1 + position = first + (position + 1) := by omega
      rw [shifted] at later
      rw [legsOf] at others later
      rw [others, later, List.nil_append]

/-- Each settlement debits the clearing account by its amount. -/
theorem clearingDebits_entriesFrom (first : Nat) (receipts : List PaymentReceipt) :
    clearingDebits (entriesFrom first receipts) = (receipts.map (·.amountKobo)).sum := by
  induction receipts generalizing first with
  | nil => rfl
  | cons head rest inductionHypothesis =>
    have own : clearingDebits (entriesOf first (settlementLegs head.amountKobo)) = head.amountKobo := by
      have accounts : py "revenue:excise-duty-payable" ≠ py "assets:financial-controls-clearing" := by
        decide
      simp [clearingDebits, entriesOf, settlementLegs, accounts]
    have split : ∀ left right, clearingDebits (left ++ right) =
        clearingDebits left + clearingDebits right := by
      intro left right
      simp [clearingDebits]
    rw [entriesFrom, split, own, inductionHypothesis, List.map_cons, List.sum_cons]

end Entries

/-- The invariant of the payment tables. -/
structure Valid (intents : List PaymentIntent) (receipts : List PaymentReceipt)
    (journals : List Journal) (entries : List LedgerEntry) : Prop where
  count : ∀ (intentId : Nat) (intent : PaymentIntent), intents[intentId]? = some intent →
    (appliedTo intentId receipts).length = if intent.status = .settled then 1 else 0
  matched : ∀ receipt ∈ applied receipts, ∃ (intentId : Nat) (intent : PaymentIntent),
    receipt.paymentIntentId = some intentId ∧ intents[intentId]? = some intent ∧
      receipt.amountKobo = intent.expectedAmountKobo ∧ receipt.currency = intent.currency
  journals : journals.map (·.reference) =
    (applied receipts).map (fun receipt => settlementReference receipt.externalReference)
  references : (receipts.map (·.externalReference)).Nodup
  entries : entries = entriesFrom 0 (applied receipts)
  total : ((applied receipts).map (·.amountKobo)).sum =
    ((intents.filter settled).map (·.expectedAmountKobo)).sum

section Steps

variable {intents : List PaymentIntent} {receipts : List PaymentReceipt} {journals : List Journal}
  {entries : List LedgerEntry}

/-- A new intent is not settled yet. -/
theorem Valid.ask (valid : Valid intents receipts journals entries) {intent : PaymentIntent}
    (pending : intent.status = .pending) : Valid (intents ++ [intent]) receipts journals entries := by
  constructor
  case journals => exact valid.journals
  case references => exact valid.references
  case entries => exact valid.entries
  case count =>
    intro intentId row stored
    rcases Rows.stored_insert_cases stored with old | ⟨rfl, rfl⟩
    · exact valid.count intentId row old
    · have unreferred : appliedTo intents.length receipts = [] := by
        rw [appliedTo, List.filter_eq_nil_iff]
        intro receipt member
        obtain ⟨other, held, refers, present, _⟩ := valid.matched receipt member
        have bound := (List.getElem?_eq_some_iff.mp present).1
        rw [refers, decide_eq_true_iff, Option.some.injEq]
        omega
      simp [unreferred, pending]
  case matched =>
    intro receipt member
    obtain ⟨intentId, held, refers, present, same⟩ := valid.matched receipt member
    exact ⟨intentId, held, refers, Rows.stored_append _ present, same⟩
  case total =>
    have unsettled : settled intent = false := by simp [settled, pending]
    rw [List.filter_append, List.filter_cons, unsettled]
    simpa using valid.total

/-- A new reference keeps the references distinct. -/
theorem references_append {receipt : PaymentReceipt} (distinct : (receipts.map (·.externalReference)).Nodup)
    (fresh : ∀ other ∈ receipts, other.externalReference ≠ receipt.externalReference) :
    ((receipts ++ [receipt]).map (·.externalReference)).Nodup := by
  rw [List.map_append, List.nodup_append]
  refine ⟨distinct, List.nodup_singleton _, ?_⟩
  rintro reference listed other last rfl
  obtain ⟨held, member, named⟩ := List.mem_map.mp listed
  rw [List.map_cons, List.map_nil, List.mem_singleton] at last
  exact fresh held member (named.trans last)

/-- A quarantined receipt counts nowhere. -/
theorem applied_quarantined {receipt : PaymentReceipt} (aside : receipt.status = .quarantined) :
    applied (receipts ++ [receipt]) = applied receipts := by
  simp [applied, aside]

/-- A receipt that is applied is the last of those. -/
theorem applied_append {receipt : PaymentReceipt} (status : receipt.status = .applied) :
    applied (receipts ++ [receipt]) = applied receipts ++ [receipt] := by
  simp [applied, status]

/-- A receipt kept aside settles nothing. -/
theorem Valid.quarantine (valid : Valid intents receipts journals entries) {receipt : PaymentReceipt}
    (aside : receipt.status = .quarantined)
    (fresh : ∀ other ∈ receipts, other.externalReference ≠ receipt.externalReference) :
    Valid intents (receipts ++ [receipt]) journals entries := by
  have same : applied (receipts ++ [receipt]) = applied receipts := applied_quarantined aside
  constructor
  case references => exact references_append valid.references fresh
  case count => simpa only [appliedTo, same] using valid.count
  case matched => simpa only [same] using valid.matched
  case journals => simpa only [same] using valid.journals
  case entries => simpa only [same] using valid.entries
  case total => simpa only [same] using valid.total

/-- A settlement moves the four tables together. -/
theorem Valid.settle (valid : Valid intents receipts journals entries) {intentId : Nat}
    {intent paid : PaymentIntent} {receipt : PaymentReceipt} {journal : Journal}
    (stored : intents[intentId]? = some intent) (unsettled : intent.status ≠ .settled)
    (status : paid.status = .settled) (amounts : paid.expectedAmountKobo = intent.expectedAmountKobo)
    (currencies : paid.currency = intent.currency)
    (matched : receipt.paymentIntentId = some intentId) (counted : receipt.status = .applied)
    (amount : receipt.amountKobo = intent.expectedAmountKobo)
    (currency : receipt.currency = intent.currency)
    (fresh : ∀ other ∈ receipts, other.externalReference ≠ receipt.externalReference)
    (settles : journal.reference = settlementReference receipt.externalReference) :
    Valid (intents.set intentId paid) (receipts ++ [receipt]) (journals ++ [journal])
      (entries ++ entriesOf journals.length (settlementLegs receipt.amountKobo)) := by
  have grown : applied (receipts ++ [receipt]) = applied receipts ++ [receipt] := applied_append counted
  have bound := (List.getElem?_eq_some_iff.mp stored).1
  have current : (intents.set intentId paid)[intentId]? = some paid := by
    rw [List.getElem?_set_self bound]
  have others : ∀ other, other ≠ intentId → (intents.set intentId paid)[other]? = intents[other]? :=
    fun other different => List.getElem?_set_ne (Ne.symm different)
  constructor
  case references => exact references_append valid.references fresh
  case count =>
    intro other row present
    rw [appliedTo, grown, List.filter_append, List.length_append]
    by_cases same : other = intentId
    · subst same
      rw [current] at present
      obtain rfl := Option.some.inj present
      have before := valid.count other intent stored
      rw [if_neg unsettled, appliedTo] at before
      simp [before, matched, status]
    · rw [others other same] at present
      have before := valid.count other row present
      rw [appliedTo] at before
      simp [before, matched, Ne.symm same]
  case matched =>
    rw [grown]
    intro row member
    rcases List.mem_append.mp member with old | new
    · obtain ⟨other, held, refers, present, sameAmount, sameCurrency⟩ := valid.matched row old
      by_cases same : other = intentId
      · subst same
        obtain rfl := Option.some.inj (present.symm.trans stored)
        exact ⟨other, paid, refers, current, sameAmount.trans amounts.symm,
          sameCurrency.trans currencies.symm⟩
      · exact ⟨other, held, refers, (others other same).trans present, sameAmount, sameCurrency⟩
    · obtain rfl := List.mem_singleton.mp new
      exact ⟨intentId, paid, matched, current, amount.trans amounts.symm, currency.trans currencies.symm⟩
  case journals =>
    rw [grown, List.map_append, List.map_append, valid.journals]
    simp [settles]
  case entries =>
    have positions : journals.length = (applied receipts).length := by
      rw [← List.length_map (f := fun row : Journal => row.reference), valid.journals, List.length_map]
    rw [grown, entriesFrom_append, ← valid.entries, positions, Nat.zero_add]
  case total =>
    rw [grown, List.map_append, List.sum_append, valid.total, Rows.sum_filter, Rows.sum_filter,
      Rows.sum_set _ stored]
    have wasNot : settled intent = false := by simpa [settled] using unsettled
    have isNow : settled paid = true := by simp [settled, status]
    simp [wasNot, isNow, amounts, amount]

end Steps

/-- The invariant holds in every reachable state. -/
theorem valid (reached : Reachable env db) :
    Valid db.paymentIntents db.paymentReceipts db.journals db.ledgerEntries := by
  apply reached.invariant
    (fun state => Valid state.paymentIntents state.paymentReceipts state.journals state.ledgerEntries)
  · exact ⟨by simp [Db.empty], by simp [Db.empty, applied], rfl, List.nodup_nil, rfl, rfl⟩
  · intro before after known effect
    rcases effect.payments with unpaid | ⟨_, _, intent, _, _, asked, rfl⟩ |
      ⟨_, receipt, kept, rfl⟩ | ⟨intentId, intent, _, time, receipt, journal, stored, applied, rfl⟩
    · rw [unpaid.paymentIntents, unpaid.paymentReceipts, unpaid.journals, unpaid.ledgerEntries]
      exact known
    · exact known.ask asked.pending
    · exact known.quarantine kept.aside (kept.named ▸ kept.fresh)
    · rw [Payments.settled, settleIntent, Rows.modify_stored stored]
      exact known.settle stored applied.open_ (Relock.column_current _ _) rfl rfl applied.matched
        applied.applied applied.amount applied.currency (applied.named ▸ applied.fresh)
        (applied.named ▸ applied.settles)

/-- The intent an applied receipt refers to is settled. -/
theorem Valid.settles {intents : List PaymentIntent} {receipts : List PaymentReceipt}
    {journals : List Journal} {entries : List LedgerEntry} (valid : Valid intents receipts journals entries)
    {receipt : PaymentReceipt} (listed : receipt ∈ receipts) (status : receipt.status = .applied)
    {intentId : Nat} {intent : PaymentIntent} (refers : receipt.paymentIntentId = some intentId)
    (stored : intents[intentId]? = some intent) : intent.status = .settled := by
  have counted : receipt ∈ appliedTo intentId receipts := by
    simp [appliedTo, applied, listed, status, refers]
  by_contra open_
  have uncounted := valid.count intentId intent stored
  rw [if_neg open_, List.length_eq_zero_iff] at uncounted
  rw [uncounted] at counted
  cases counted

/-- Receipts have distinct journals. -/
theorem settlementReference_injective {first second : PyStr}
    (same : settlementReference first = settlementReference second) : first = second :=
  List.append_cancel_left same

/-- The invariant says that ledger and receipts agree. -/
theorem Valid.agrees (valid : Valid db.paymentIntents db.paymentReceipts db.journals db.ledgerEntries) :
    Agrees db := by
  have positions : db.journals.length = (applied db.paymentReceipts).length := by
    rw [← List.length_map (f := fun row : Journal => row.reference), valid.journals, List.length_map]
  constructor
  case settled =>
    intro intentId intent stored
    rw [valid.count intentId intent stored]
    split <;> simp_all
  case matched => exact valid.matched
  case journals => exact valid.journals
  case distinct =>
    rw [valid.journals]
    have references := valid.references.sublist (List.Sublist.map (·.externalReference)
      (List.filter_sublist (p := fun receipt : PaymentReceipt => decide (receipt.status = .applied))))
    rw [List.Nodup, List.pairwise_map] at references ⊢
    exact references.imp (fun different same => different (settlementReference_injective same))
  case legs =>
    intro journalId receipt listed
    have legs : legsOf (0 + journalId) (entriesFrom 0 (applied db.paymentReceipts)) =
        entriesOf (0 + journalId) (settlementLegs receipt.amountKobo) := legsOf_entriesFrom listed
    rw [valid.entries]
    simpa using legs
  case only =>
    intro entry member
    rw [valid.entries] at member
    have bounds := entriesFrom_journal member
    omega
  case total => rw [valid.entries, clearingDebits_entriesFrom, valid.total]

/-- A receipt that is quarantined or was there before touches nothing else. -/
theorem recordReceipt_untouched {occasion : Occasion} {body : ReceiptIn} {receiptId : Nat}
    (recorded : recordPaymentReceipt env occasion body db = .ok (receiptId, after)) :
    ∃ receipt, after.paymentReceipts[receiptId]? = some receipt ∧
      (receipt.status = .quarantined ∨ receiptId < db.paymentReceipts.length → Untouched db after) := by
  obtain ⟨_, _, recorded⟩ := Result.bind_ok.mp recorded
  unfold recordReceipt at recorded
  split at recorded
  case _ existing found =>
    cases recorded
    obtain ⟨stored, _⟩ := Rows.select_some found
    exact ⟨_, stored, fun _ => ⟨rfl, rfl, rfl, rfl⟩⟩
  case _ =>
    obtain ⟨intent, stored, recorded⟩ := Result.bind_ok.mp recorded
    have position := recordLocked_position recorded
    rcases recordLocked_ok recorded with ⟨receipt, kept, rfl⟩ | ⟨_, receipt, journal, posted, rfl⟩
    · exact ⟨receipt, position ▸ Rows.stored_inserted _ _, fun _ => ⟨rfl, rfl, rfl, rfl⟩⟩
    · refine ⟨receipt, position ▸ Rows.stored_inserted _ _, ?_⟩
      rintro (aside | older)
      · rw [posted.applied] at aside
        cases aside
      · omega

/-- In every reachable state the ledger agrees with the receipts, and a receipt
without effect changes none of its tables. -/
theorem settlement_ledger_agrees (reached : Reachable env db) :
    Agrees db ∧ ∀ occasion body receiptId after,
      recordPaymentReceipt env occasion body db = .ok (receiptId, after) →
      ∃ receipt, after.paymentReceipts[receiptId]? = some receipt ∧
        (receipt.status = .quarantined ∨ receiptId < db.paymentReceipts.length → Untouched db after) :=
  ⟨(valid reached).agrees, fun _ _ _ _ recorded => recordReceipt_untouched recorded⟩

/-- It does after the sample's payment. -/
theorem settlement_ledger_agrees_sample :
    Agrees (Sample.state Sample.paying) ∧ ∀ occasion body receiptId after,
      recordPaymentReceipt .sample occasion body (Sample.state Sample.paying) = .ok (receiptId, after) →
      ∃ receipt, after.paymentReceipts[receiptId]? = some receipt ∧
        (receipt.status = .quarantined ∨
          receiptId < (Sample.state Sample.paying).paymentReceipts.length →
            Untouched (Sample.state Sample.paying) after) :=
  settlement_ledger_agrees (Sample.state_reachable Sample.paying)

end TaxStamps.Settlement
