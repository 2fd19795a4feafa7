import TaxStamps.Concurrency.Intake
import TaxStamps.Invariants.Lifecycle
import TaxStamps.Invariants.Settlement

/-!
# Answers to repeated keys

A receipt is looked up by its reference alone and an assessment by its
idempotency key alone. Each call is answered by its own row exactly when the row
found there agrees with the call's other arguments.
-/

namespace TaxStamps.Answers

open Api

variable {env : Env} {occasion : Occasion} {db after : Db}

section Receipts

open Payments

variable {intentId receiptId : Nat} {externalReference currency : PyStr} {amountKobo : Int}

/-- The receipt that a call returns is the one it reports, and if it is applied
then to the requested intent, which is settled. -/
structure OwnReceipt (intentId : Nat) (externalReference : PyStr) (amountKobo : Int) (currency : PyStr)
    (receipt : PaymentReceipt) (after : Db) : Prop where
  named : receipt.externalReference = externalReference
  amount : receipt.amountKobo = amountKobo
  currency : receipt.currency = currency
  settles : receipt.status = .applied → receipt.paymentIntentId = some intentId ∧
    ∃ intent : PaymentIntent, after.paymentIntents[intentId]? = some intent ∧ intent.status = .settled

/-- A call of `record_receipt` that succeeds returns its own receipt. -/
def ReceiptAnswered (env : Env) (occasion : Occasion) (intentId : Nat) (externalReference : PyStr)
    (amountKobo : Int) (currency : PyStr) (db : Db) : Prop :=
  ∀ receiptId after,
    recordReceipt env occasion intentId externalReference amountKobo currency db = .ok (receiptId, after) →
      ∃ receipt, after.paymentReceipts[receiptId]? = some receipt ∧
        OwnReceipt intentId externalReference amountKobo currency receipt after

/-- What was recorded under the reference before is a repetition of the call. -/
def Repeats (intentId : Nat) (externalReference : PyStr) (amountKobo : Int) (currency : PyStr) (db : Db) :
    Prop :=
  ∀ row ∈ db.paymentReceipts, row.externalReference = externalReference →
    row.amountKobo = amountKobo ∧ row.currency = currency ∧
      (row.status = .applied → row.paymentIntentId = some intentId)

/-- A receipt kept aside is the one reported. -/
theorem quarantine_own {reason : PyStr}
    (kept : quarantine occasion externalReference amountKobo currency reason db =
      .ok (receiptId, after)) :
    ∃ receipt, after.paymentReceipts[receiptId]? = some receipt ∧
      OwnReceipt intentId externalReference amountKobo currency receipt after := by
  obtain ⟨middle, inserted, kept⟩ := Result.bind_ok.mp kept
  obtain ⟨rfl, rfl⟩ := Prod.mk.inj (Except.ok.inj kept)
  obtain ⟨_, rfl⟩ := Db.insertPaymentReceipt_ok inserted
  refine ⟨_, Rows.stored_inserted _ _, rfl, rfl, rfl, ?_⟩
  rintro ⟨⟩

/-- A receipt recorded under the lock of the stored intent is the one reported. -/
theorem recordLocked_own {intent : PaymentIntent} (stored : db.paymentIntents[intentId]? = some intent)
    (recorded : recordLocked env occasion intentId intent externalReference amountKobo currency db =
      .ok (receiptId, after)) :
    ∃ receipt, after.paymentReceipts[receiptId]? = some receipt ∧
      OwnReceipt intentId externalReference amountKobo currency receipt after := by
  unfold recordLocked at recorded
  split at recorded
  case isTrue => exact quarantine_own recorded
  case isFalse unsettled =>
    split at recorded
    case isTrue => exact quarantine_own recorded
    case isFalse matching =>
      obtain ⟨middle, inserted, recorded⟩ := Result.bind_ok.mp recorded
      obtain ⟨_, _, recorded⟩ := Result.bind_ok.mp recorded
      obtain ⟨last, posted, recorded⟩ := Result.bind_ok.mp recorded
      obtain ⟨rfl, rfl⟩ := Prod.mk.inj (Except.ok.inj recorded)
      obtain ⟨_, rfl⟩ := Db.insertPaymentReceipt_ok inserted
      obtain ⟨journal, _, rfl⟩ := postJournal_ok posted
      refine ⟨_, Rows.stored_inserted _ _, rfl, rfl, rfl, fun _ => ⟨rfl, ?_⟩⟩
      exact ⟨_, Rows.stored_modify_self stored, Relock.column_current _ _⟩

/-- A recorded receipt under the reference is the only one, and it is returned. -/
theorem recordReceipt_replays (reached : Reachable env db) {row : PaymentReceipt}
    (recorded : row ∈ db.paymentReceipts) (named : row.externalReference = externalReference) :
    ∃ position, db.paymentReceipts[position]? = some row ∧
      recordReceipt env occasion intentId externalReference amountKobo currency db =
        .ok (position, db) := by
  obtain ⟨position, stored⟩ := List.mem_iff_getElem?.mp recorded
  have found : replayed externalReference db = some (position, row) := by
    apply Rows.select_unique stored (decide_eq_true named)
    intro other candidate present same
    exact Rows.key_unique (Settlement.valid reached).references present stored
      ((of_decide_eq_true same).trans named.symm)
  exact ⟨position, stored, by simp only [recordReceipt, found]⟩

/-- In every reachable state, a call is answered by its own receipt exactly when
nothing else was recorded under its reference. -/
theorem receipt_answered_iff (reached : Reachable env db) :
    ReceiptAnswered env occasion intentId externalReference amountKobo currency db ↔
      Repeats intentId externalReference amountKobo currency db := by
  constructor
  · intro answered row recorded named
    obtain ⟨position, stored, replays⟩ := recordReceipt_replays reached recorded named
    obtain ⟨receipt, returned, own⟩ := answered position db replays
    obtain rfl := Option.some.inj (stored.symm.trans returned)
    exact ⟨own.amount, own.currency, fun status => (own.settles status).1⟩
  · intro repeats receiptId after recorded
    unfold recordReceipt at recorded
    split at recorded
    case _ existing found =>
      cases recorded
      obtain ⟨stored, same⟩ := Rows.select_some found
      have member := List.mem_of_getElem? stored
      have named := of_decide_eq_true same
      obtain ⟨amount, currency, refers⟩ := repeats existing.2 member named
      refine ⟨existing.2, stored, named, amount, currency, fun status => ⟨refers status, ?_⟩⟩
      have valid := Settlement.valid reached
      obtain ⟨settledId, intent, matched, present, _⟩ := valid.matched existing.2
        (List.mem_filter.mpr ⟨member, decide_eq_true status⟩)
      obtain rfl := Option.some.inj (matched.symm.trans (refers status))
      exact ⟨intent, present, valid.settles member status matched present⟩
    case _ =>
      obtain ⟨intent, stored, recorded⟩ := Result.bind_ok.mp recorded
      exact recordLocked_own (Result.one_ok.mp stored) recorded

section Sample

/-- The sample with its payment, before the batch. -/
def paid : List Request := Sample.paying.take 5

/-- The sample has recorded its payment of 8000. -/
theorem paid_recorded : ∃ row ∈ (Sample.state paid).paymentReceipts,
    row.externalReference = py "PAY-1" ∧ row.amountKobo = 8000 := by
  have recorded : (Sample.state paid).paymentReceipts.any (fun row =>
      decide (row.externalReference = py "PAY-1" ∧ row.amountKobo = 8000)) = true := by decide +kernel
  obtain ⟨row, member, same⟩ := List.any_eq_true.mp recorded
  exact ⟨row, member, of_decide_eq_true same⟩

/-- Another amount under the reference of the sample's payment is not answered
by a receipt of that amount. -/
theorem receipt_answered_iff_sample :
    ¬ ReceiptAnswered .sample Sample.occasion 0 (py "PAY-1") 9000 (py "NGN") (Sample.state paid) := by
  rw [receipt_answered_iff (Sample.state_reachable paid)]
  intro repeats
  obtain ⟨row, member, named, amount⟩ := paid_recorded
  have other := (repeats row member named).1
  omega

/-- 9000 kobo are reported under the reference of a payment of 8000, and the
call succeeds with the receipt of 8000. -/
theorem other_amount_replayed : ∃ (db : Db) (receiptId : Nat) (row : PaymentReceipt), Reachable .sample db ∧
    recordReceipt .sample Sample.occasion 0 (py "PAY-1") 9000 (py "NGN") db = .ok (receiptId, db) ∧
    db.paymentReceipts[receiptId]? = some row ∧ row.amountKobo = 8000 ∧
    ¬ ReceiptAnswered .sample Sample.occasion 0 (py "PAY-1") 9000 (py "NGN") db := by
  obtain ⟨row, member, named, amount⟩ := paid_recorded
  have reached := Sample.state_reachable paid
  obtain ⟨position, stored, replays⟩ := recordReceipt_replays reached member named
  refine ⟨_, position, row, reached, replays, stored, amount, fun answered => ?_⟩
  obtain ⟨receipt, returned, own⟩ := answered position _ replays
  obtain rfl := Option.some.inj (stored.symm.trans returned)
  have reported := own.amount
  omega

end Sample

end Receipts

section Assessments

/-- What the two intake routes read and write. -/
structure Tables where
  records : List IdempotencyRecord
  db : Db

/-- An assessment of the declaration, submitted by the principal. -/
def OwnAssessment (declarationId : Nat) (subject : PyStr) (assessment : Assessment) : Prop :=
  assessment.declarationId = declarationId ∧ assessment.submittedBy = subject

/-- A call of `create_assessment` that the route makes for a request and that succeeds: the
guard of the route replays no record, and the declaration that the request names exists. -/
structure Calls (env : Env) (occasion : Occasion) (subject idemKey : PyStr) (body : AssessmentCreateIn)
    (tables : Tables) (declarationId assessmentId : Nat) (after : Db) : Prop where
  passes : idempotentReplay env idemKey subject (IntakeBody.assessment body).modelDump tables.records =
    .ok none
  named : ∃ declaration, declarationNamed body.declarationRef tables.db = .ok (declarationId, declaration)
  returns : Assessments.createAssessment env occasion declarationId subject
    (assessmentKey env subject idemKey declarationId) tables.db = .ok (assessmentId, after)

/-- Every successful call for a request of the principal returns an assessment of the
request's declaration, submitted by the principal. -/
def AssessmentAnswered (env : Env) (occasion : Occasion) (subject idemKey : PyStr)
    (body : AssessmentCreateIn) (tables : Tables) : Prop :=
  ∀ declarationId assessmentId after,
    Calls env occasion subject idemKey body tables declarationId assessmentId after →
      ∃ assessment, after.assessments[assessmentId]? = some assessment ∧
        OwnAssessment declarationId subject assessment

/-- If the route has no record of the key and principal, then an assessment that is stored
under the key is of the request's declaration and principal. -/
def KeyAgrees (env : Env) (subject idemKey : PyStr) (body : AssessmentCreateIn) (tables : Tables) : Prop :=
  (∀ key, presented idemKey = some key → ∀ record ∈ tables.records, record.isFor key subject = false) →
    ∀ declarationId declaration,
      declarationNamed body.declarationRef tables.db = .ok (declarationId, declaration) →
      ∀ existing,
        Assessments.heldUnder (assessmentKey env subject idemKey declarationId) tables.db = some existing →
          OwnAssessment declarationId subject existing.2

section Calls

variable {tables : Tables} {body : AssessmentCreateIn} {declarationId assessmentId : Nat}
  {subject idemKey submittedBy idempotencyKey : PyStr}

/-- The assessment that is found under the key is returned as it is. -/
theorem createAssessment_replays {existing : Nat × Assessment}
    (held : Assessments.heldUnder idempotencyKey db = some existing) :
    Assessments.createAssessment env occasion declarationId submittedBy idempotencyKey db =
      .ok (existing.1, db) := by
  simp only [Assessments.createAssessment, held]

/-- A new assessment is the one asked for. -/
theorem createAssessment_own (unheld : Assessments.heldUnder idempotencyKey db = none)
    (created : Assessments.createAssessment env occasion declarationId submittedBy idempotencyKey db =
      .ok (assessmentId, after)) :
    ∃ assessment, after.assessments[assessmentId]? = some assessment ∧
      OwnAssessment declarationId submittedBy assessment := by
  simp only [Assessments.createAssessment, unheld] at created
  obtain ⟨_, _, created⟩ := Result.bind_ok.mp created
  obtain ⟨computed, assessed, created⟩ := Result.bind_ok.mp created
  obtain ⟨_, _, created⟩ := Result.bind_ok.mp created
  obtain ⟨middle, inserted, created⟩ := Result.bind_ok.mp created
  obtain ⟨last, listed, created⟩ := Result.bind_ok.mp created
  obtain ⟨rfl, rfl⟩ := Prod.mk.inj (Except.ok.inj created)
  obtain ⟨_, rfl⟩ := Db.insertAssessment_ok inserted
  obtain rfl := Assessments.insertLines_ok listed
  exact ⟨_, Rows.stored_inserted _ _, rfl, rfl⟩

/-- Every call is answered by its own assessment exactly when the key agrees with the
request. -/
theorem answered_iff_agrees : AssessmentAnswered env occasion subject idemKey body tables ↔
    KeyAgrees env subject idemKey body tables := by
  constructor
  · intro answered unrecorded declarationId declaration named existing held
    obtain ⟨assessment, returned, own⟩ := answered declarationId existing.1 tables.db
      ⟨replay_none_iff.mpr unrecorded, ⟨declaration, named⟩, createAssessment_replays held⟩
    have stored := (Rows.select_some held).1
    obtain rfl := Option.some.inj (stored.symm.trans returned)
    exact own
  · rintro agrees declarationId assessmentId after ⟨passes, ⟨declaration, named⟩, returns⟩
    have own := agrees (replay_none_iff.mp passes) declarationId declaration named
    cases held : Assessments.heldUnder (assessmentKey env subject idemKey declarationId) tables.db with
    | none => exact createAssessment_own held returns
    | some existing =>
      rw [createAssessment_replays held] at returns
      cases returns
      exact ⟨existing.2, (Rows.select_some held).1, own existing held⟩

end Calls

section Runs

/-- A request to one of the two intake routes. -/
def ofIntake : Request → Bool
  | .declaration _ _ => true
  | .assessment _ _ _ => true
  | _ => false

/-- The tables after a run, and the bodies of its intake requests. Each intake request is
one that `meets` allows in the tables it finds. -/
inductive Served (env : Env) (meets : IntakeRequest → Tables → Prop) : List IntakeBody → Tables → Prop
  | start : Served env meets [] ⟨[], Db.empty⟩
  | intake {bodies : List IntakeBody} {tables after : Tables} {request : IntakeRequest} {response : Value}
      (served : Served env meets bodies tables) (allowed : meets request tables)
      (answered : intake env request tables.records tables.db = .ok (response, after.records, after.db)) :
      Served env meets (request.body :: bodies) after
  | other {bodies : List IntakeBody} {tables : Tables} {occasion : Occasion} {request : Request} {after : Db}
      (served : Served env meets bodies tables) (apart : ofIntake request = false)
      (handled : handle env occasion request tables.db = .ok after) :
      Served env meets bodies ⟨tables.records, after⟩

/-- The key of an assessment agrees with the request. -/
def Agreeing (env : Env) (request : IntakeRequest) (tables : Tables) : Prop :=
  ∀ body, request.body = .assessment body → KeyAgrees env request.subject request.idemKey body tables

/-- The view of an assessment of the declaration that the principal submitted. -/
def OwnView (env : Env) (declarationId : Nat) (subject : PyStr) (response : Value) : Prop :=
  ∃ assessmentId assessment, OwnAssessment declarationId subject assessment ∧
    response = assessmentView env assessmentId assessment

/-- Such a view, or what the column of a record makes of one. -/
def OwnAnswer (env : Env) (declarationId : Nat) (subject : PyStr) (response : Value) : Prop :=
  OwnView env declarationId subject response ∨
    ∃ view, OwnView env declarationId subject view ∧ env.jsonb view = some response

variable {bodies : List IntakeBody} {tables : Tables}
  {request : IntakeRequest} {body : AssessmentCreateIn} {response : Value}

/-- What an intake request does: it is answered from a record, or it is handled and stores
its response. -/
theorem intake_cases {records : List IdempotencyRecord}
    (answered : intake env request tables.records tables.db = .ok (response, records, after)) :
    (∃ record, idempotentReplay env request.idemKey request.subject request.body.modelDump
        tables.records = .ok (some record) ∧
      response = record.responseBody ∧ records = tables.records ∧ after = tables.db) ∨
    (idempotentReplay env request.idemKey request.subject request.body.modelDump tables.records = .ok none ∧
      handleIntake env request tables.db = .ok (response, after) ∧
      storeIdempotency env request.idemKey request.subject request.body.modelDump 201 response
        tables.records = .ok records) := by
  obtain ⟨replay, replayed, answered⟩ := Result.bind_ok.mp answered
  cases replay with
  | some record =>
    cases answered
    exact Or.inl ⟨record, replayed, rfl, rfl, rfl⟩
  | none =>
    obtain ⟨⟨first, middle⟩, handled, answered⟩ := Result.bind_ok.mp answered
    obtain ⟨kept, stored, answered⟩ := Result.bind_ok.mp answered
    cases answered
    exact Or.inr ⟨replayed, handled, stored⟩

/-- A handled intake request commits what its route commits. -/
theorem handleIntake_handles (handled : handleIntake env request db = .ok (response, after)) :
    ∃ asked, handle env request.occasion asked db = .ok after := by
  unfold handleIntake at handled
  split at handled
  case _ body _ =>
    obtain ⟨last, created, handled⟩ := Result.bind_ok.mp handled
    cases handled
    exact ⟨.declaration request.subject body, created⟩
  case _ body _ =>
    obtain ⟨⟨id, last⟩, created, handled⟩ := Result.bind_ok.mp handled
    obtain ⟨_, _, handled⟩ := Result.bind_ok.mp handled
    cases handled
    exact ⟨.assessment request.subject request.idemKey body, by rw [handle, created]; rfl⟩

/-- The response to a handled assessment is about what the service returned for it. -/
theorem handleIntake_answers (stated : request.body = .assessment body)
    (handled : handleIntake env request db = .ok (response, after)) :
    ∃ declarationId declaration assessmentId middle assessment,
      declarationNamed body.declarationRef db = .ok (declarationId, declaration) ∧
      Assessments.createAssessment env request.occasion declarationId request.subject
        (assessmentKey env request.subject request.idemKey declarationId) db =
          .ok (assessmentId, middle) ∧
      middle.assessments[assessmentId]? = some assessment ∧
      response = assessmentView env assessmentId assessment := by
  rw [handleIntake, stated] at handled
  obtain ⟨⟨id, last⟩, created, handled⟩ := Result.bind_ok.mp handled
  obtain ⟨assessment, present, handled⟩ := Result.bind_ok.mp handled
  cases handled
  obtain ⟨⟨declarationId, declaration⟩, named, created⟩ := Result.bind_ok.mp created
  obtain ⟨⟨assessmentId, middle⟩, assessed, created⟩ := Result.bind_ok.mp created
  obtain ⟨announced, found, created⟩ := Result.bind_ok.mp created
  obtain ⟨final, queued, created⟩ := Result.bind_ok.mp created
  obtain ⟨rfl, rfl⟩ := Prod.mk.inj (Except.ok.inj created)
  obtain ⟨message, rfl⟩ := Outbox.enqueue_ok queued
  exact ⟨declarationId, declaration, assessmentId, middle, assessment, named, translated_ok.mp assessed,
    Result.one_ok.mp present, rfl⟩

/-- A handled assessment whose key agrees with the request is answered by its own. -/
theorem handleIntake_own (stated : request.body = .assessment body)
    (agrees : KeyAgrees env request.subject request.idemKey body tables)
    (passes : idempotentReplay env request.idemKey request.subject request.body.modelDump tables.records =
      .ok none)
    (handled : handleIntake env request tables.db = .ok (response, after)) :
    ∃ declarationId declaration,
      declarationNamed body.declarationRef tables.db = .ok (declarationId, declaration) ∧
      OwnView env declarationId request.subject response := by
  obtain ⟨declarationId, declaration, assessmentId, middle, assessment, named, returns, present, rfl⟩ :=
    handleIntake_answers stated handled
  rw [stated] at passes
  obtain ⟨returned, stored, own⟩ := answered_iff_agrees.mpr agrees declarationId assessmentId middle
    ⟨passes, ⟨declaration, named⟩, returns⟩
  obtain rfl := Option.some.inj (present.symm.trans stored)
  exact ⟨declarationId, declaration, named, assessmentId, assessment, own, rfl⟩

/-- A declaration that is found is found in every later state. -/
theorem named_grows {declarationRef : PyStr} {found : Nat × Declaration}
    (grows : Lifecycle.Grows db after) (named : declarationNamed declarationRef db = .ok found) :
    declarationNamed declarationRef after = .ok found :=
  found_ok.mpr (Rows.select_kept grows.declarations (found_ok.mp named))

/-- Every record answers the request of one of the bodies, by its own assessment if that is
an assessment. -/
structure Kept (env : Env) (bodies : List IntakeBody) (tables : Tables) : Prop where
  reached : Reachable env tables.db
  recorded : ∀ record ∈ tables.records, ∃ earlier ∈ bodies, record.requestHash = bodyHash env earlier ∧
    ∀ body, earlier = .assessment body → ∃ declarationId declaration,
      declarationNamed body.declarationRef tables.db = .ok (declarationId, declaration) ∧
      OwnAnswer env declarationId record.principalSub record.responseBody

/-- Later rows and further bodies keep the records. -/
theorem Kept.handle (kept : Kept env bodies tables)
    {occasion : Occasion} {asked : Request} (handled : handle env occasion asked tables.db = .ok after) :
    Kept env bodies ⟨tables.records, after⟩ := by
  have grows := Lifecycle.grows_effect kept.reached (effect_of_handle handled)
  refine ⟨kept.reached.commit handled, fun record listed => ?_⟩
  obtain ⟨earlier, member, hash, own⟩ := kept.recorded record listed
  refine ⟨earlier, member, hash, fun body stated => ?_⟩
  obtain ⟨declarationId, declaration, named, answer⟩ := own body stated
  exact ⟨declarationId, declaration, named_grows grows named, answer⟩

/-- An intake request whose key agrees keeps the records. -/
theorem Kept.intake {later : Tables} (kept : Kept env bodies tables) (agreeing : Agreeing env request tables)
    (answered : intake env request tables.records tables.db = .ok (response, later.records, later.db)) :
    Kept env (request.body :: bodies) later := by
  obtain ⟨records, db⟩ := later
  have more : ∀ {tables}, Kept env bodies tables → Kept env (request.body :: bodies) tables := by
    refine fun kept => ⟨kept.reached, fun record listed => ?_⟩
    obtain ⟨earlier, member, rest⟩ := kept.recorded record listed
    exact ⟨earlier, List.mem_cons_of_mem _ member, rest⟩
  rcases intake_cases answered with ⟨record, _, _, rfl, rfl⟩ | ⟨passes, handled, stored⟩
  · exact more kept
  · obtain ⟨asked, commits⟩ := handleIntake_handles handled
    have old := more (kept.handle commits)
    have grows := Lifecycle.grows_effect kept.reached (effect_of_handle commits)
    rcases store_ok stored with ⟨_, rfl⟩ | ⟨key, kept_, _, column, _, rfl⟩
    · exact old
    · refine ⟨old.reached, fun record listed => ?_⟩
      rcases List.mem_append.mp listed with before | new
      · exact old.recorded record before
      · obtain rfl := List.mem_singleton.mp new
        refine ⟨request.body, List.mem_cons_self, rfl, fun body stated => ?_⟩
        obtain ⟨declarationId, declaration, named, own⟩ :=
          handleIntake_own stated (agreeing body stated) passes handled
        obtain ⟨_, _, column⟩ := Result.bind_ok.mp column
        exact ⟨declarationId, declaration, named_grows grows named,
          Or.inr ⟨response, own, Db.jsonbColumn_ok column⟩⟩

/-- In a run whose keys agree with their requests, every record holds an answer of its own. -/
theorem Served.kept (served : Served env (Agreeing env) bodies tables) : Kept env bodies tables := by
  induction served with
  | start => exact ⟨.refl, fun record listed => absurd listed List.not_mem_nil⟩
  | intake _ agreeing answered kept => exact kept.intake agreeing answered
  | other _ _ handled kept => exact kept.handle handled

/-- A record that is replayed for an assessment holds the answer to one of the same
declaration. -/
theorem Kept.replays (kept : Kept env bodies tables) (stated : request.body = .assessment body)
    (apart : ∀ earlier ∈ bodies, NoCollision env earlier request.body) {record : IdempotencyRecord}
    (replayed : idempotentReplay env request.idemKey request.subject request.body.modelDump
      tables.records = .ok (some record)) :
    ∃ declarationId declaration,
      declarationNamed body.declarationRef tables.db = .ok (declarationId, declaration) ∧
      OwnAnswer env declarationId request.subject record.responseBody := by
  obtain ⟨key, _, listed, named, hash⟩ := replay_found replayed
  obtain ⟨earlier, member, recorded, own⟩ := kept.recorded record listed
  have alike := (bodyHash_alike (apart earlier member)).mp (recorded.symm.trans hash)
  rw [stated] at alike
  cases alike with
  | @assessment left _ same =>
    have reference : left.declarationRef = body.declarationRef :=
      utf16_eq (sized_encodable left.reference_length) (sized_encodable body.reference_length) same
    obtain ⟨declarationId, declaration, found, answer⟩ := own left rfl
    rw [IdempotencyRecord.isFor, Bool.and_eq_true, decide_eq_true_eq, decide_eq_true_eq] at named
    rw [reference] at found
    rw [named.2] at answer
    exact ⟨declarationId, declaration, found, answer⟩

/-- In a run whose keys agree with their requests, an assessment whose key agrees is
answered by its own, from a record too. -/
theorem run_answers (served : Served env (Agreeing env) bodies tables)
    (stated : request.body = .assessment body)
    (agrees : KeyAgrees env request.subject request.idemKey body tables)
    (apart : ∀ earlier ∈ bodies, NoCollision env earlier request.body)
    {records : List IdempotencyRecord}
    (answered : intake env request tables.records tables.db = .ok (response, records, after)) :
    ∃ declarationId declaration,
      declarationNamed body.declarationRef tables.db = .ok (declarationId, declaration) ∧
      OwnAnswer env declarationId request.subject response := by
  rcases intake_cases answered with ⟨record, replayed, rfl, _, _⟩ | ⟨passes, handled, _⟩
  · exact served.kept.replays stated apart replayed
  · obtain ⟨declarationId, declaration, named, own⟩ := handleIntake_own stated agrees passes handled
    exact ⟨declarationId, declaration, named, Or.inl own⟩

end Runs

/-- Every successful call for a request returns the request's own assessment exactly when
its key agrees with it; and in every run whose keys agree with their requests, every such
request is answered by its own assessment, from a record too. -/
theorem assessment_answered_iff (env : Env) :
    (∀ occasion subject idemKey body tables, AssessmentAnswered env occasion subject idemKey body tables ↔
      KeyAgrees env subject idemKey body tables) ∧
    ∀ bodies tables, Served env (Agreeing env) bodies tables →
      ∀ (request : IntakeRequest) body, request.body = .assessment body →
        KeyAgrees env request.subject request.idemKey body tables →
        (∀ earlier ∈ bodies, NoCollision env earlier request.body) →
        ∀ response records after,
          intake env request tables.records tables.db = .ok (response, records, after) →
          ∃ declarationId declaration,
            declarationNamed body.declarationRef tables.db = .ok (declarationId, declaration) ∧
            OwnAnswer env declarationId request.subject response :=
  ⟨fun _ _ _ _ _ => answered_iff_agrees,
    fun _ _ served _ _ stated agrees apart _ _ _ answered =>
      run_answers served stated agrees apart answered⟩

section Sample

open Intake

/-- The tables after an intake request. -/
def serve (env : Env) (tables : Tables) (request : IntakeRequest) : Tables :=
  match intake env request tables.records tables.db with
  | .ok (_, records, db) => ⟨records, db⟩
  | .error _ => tables

/-- The tables after a list of intake requests. -/
def posted (env : Env) (requests : List IntakeRequest) : Tables := requests.foldl (serve env) ⟨[], .empty⟩

/-- A list of intake requests, each allowed in the tables it finds, is a run. -/
theorem posted_served {env : Env} {meets : IntakeRequest → Tables → Prop} {requests : List IntakeRequest}
    (each : ∀ front request rest, requests = front ++ request :: rest → meets request (posted env front)) :
    ∃ bodies, bodies ⊆ requests.map IntakeRequest.body ∧ Served env meets bodies (posted env requests) := by
  induction requests using List.reverseRecOn with
  | nil => exact ⟨[], List.nil_subset _, .start⟩
  | append_singleton requests last inductionHypothesis =>
    obtain ⟨bodies, within, served⟩ := inductionHypothesis fun front request rest split =>
      each front request (rest ++ [last]) (by rw [split, List.append_assoc]; rfl)
    have allowed := each requests last [] rfl
    rw [posted, List.foldl_append]
    change ∃ bodies, _ ∧ Served env meets bodies (serve env (posted env requests) last)
    rw [List.map_append]
    unfold serve
    split
    case _ response records db answered =>
      refine ⟨last.body :: bodies, ?_, served.intake allowed answered⟩
      exact List.cons_subset.mpr ⟨List.mem_append_right _ List.mem_cons_self,
        fun body listed => List.mem_append_left _ (within listed)⟩
    case _ => exact ⟨bodies, fun body listed => List.mem_append_left _ (within listed), served⟩

/-- A second declaration, by the clerk. -/
def clerkDeclares : IntakeRequest where
  occasion := Sample.occasion
  subject := py "clerk"
  idemKey := []
  body := .declaration
    { Sample.declaration with
      declarationRef := py "REF-2"
      reference_length := by decide +kernel }
  body_legible := sample_legible

/-- The clerk's assessment of the second declaration, under the key of the maker. -/
def clerkAssesses : AssessmentCreateIn := ⟨py "REF-2", by decide +kernel⟩

/-- The maker declares, and assesses under a key. -/
def assessed : List IntakeRequest := [sampleRequest [] (py "Importer"), sampleAssessment (py "K")]

/-- A key agrees with any request before the first assessment. -/
theorem agreeing_first {tables : Tables} {request : IntakeRequest}
    (fresh : tables.db.assessments.isEmpty = true) : Agreeing env request tables := by
  intro body _ _ declarationId declaration _ existing held
  rw [Assessments.heldUnder, List.isEmpty_iff.mp fresh] at held
  cases held

/-- Before each of the requests nothing was assessed. -/
theorem assessed_fresh : ∀ count < 2, (posted .sample (assessed.take count)).db.assessments.isEmpty = true := by
  decide +kernel

/-- The keys of the requests agree with them. -/
theorem assessed_agreeing (front : List IntakeRequest) (request : IntakeRequest)
    (rest : List IntakeRequest) (split : assessed = front ++ request :: rest) :
    Agreeing .sample request (posted .sample front) := by
  have length : assessed.length = front.length + (rest.length + 1) := by rw [split, List.length_append]; rfl
  have short : front.length < 2 := by
    have two : assessed.length = 2 := rfl
    omega
  have taken : assessed.take front.length = front := by rw [split, List.take_left]
  exact agreeing_first (taken ▸ assessed_fresh front.length short)

/-- The assessment sent again is answered from the record of the first one. -/
theorem assessed_replays : ∃ record records after,
    idempotentReplay .sample (py "K") (py "maker") (IntakeBody.assessment Sample.assessing).modelDump
      (posted .sample assessed).records = .ok (some record) ∧
    intake .sample (sampleAssessment (py "K")) (posted .sample assessed).records
      (posted .sample assessed).db = .ok (record.responseBody, records, after) := by
  have replays : (idempotentReplay .sample (py "K") (py "maker")
      (IntakeBody.assessment Sample.assessing).modelDump
      (posted .sample assessed).records).toOption.any Option.isSome = true := by decide +kernel
  obtain ⟨found, replayed, seen⟩ := (Option.any_eq_true _ _).mp replays
  obtain ⟨record, rfl⟩ := Option.isSome_iff_exists.mp seen
  rw [Result.toOption_some] at replayed
  exact ⟨record, _, _, replayed, Result.bind_ok.mpr ⟨some record, replayed, rfl⟩⟩

/-- SHA-256 of the sample tells the body of the assessment from that of the declaration. -/
theorem sample_apart : ∀ earlier ∈ assessed.map IntakeRequest.body,
    NoCollision .sample earlier (.assessment Sample.assessing) := by
  have differ : Env.sample.sha256 (bodyBytes (sampleRequest [] (py "Importer")).body) ≠
      Env.sample.sha256 (bodyBytes (.assessment Sample.assessing)) := by decide +kernel
  intro earlier listed
  rcases List.mem_cons.mp listed with rfl | again
  · exact fun same => absurd same differ
  · obtain rfl := List.mem_singleton.mp again
    exact fun _ => rfl

/-- The maker repeats an assessment under its key and is answered from the record of the
first one, by an assessment of the maker's own. -/
theorem assessment_answered_iff_sample : ∃ bodies tables record declarationId,
    Served .sample (Agreeing .sample) bodies tables ∧
    idempotentReplay .sample (py "K") (py "maker") (IntakeBody.assessment Sample.assessing).modelDump
      tables.records = .ok (some record) ∧
    OwnAnswer .sample declarationId (py "maker") record.responseBody := by
  obtain ⟨bodies, within, served⟩ := posted_served assessed_agreeing
  obtain ⟨record, records, after, replayed, answered⟩ := assessed_replays
  have agrees : KeyAgrees .sample (py "maker") (py "K") Sample.assessing (posted .sample assessed) := by
    intro unrecorded
    rw [replay_none_iff.mpr unrecorded] at replayed
    cases replayed
  obtain ⟨declarationId, _, _, own⟩ := (assessment_answered_iff .sample).2 bodies _ served
    (sampleAssessment (py "K")) Sample.assessing rfl agrees
    (fun earlier listed => sample_apart earlier (within listed)) _ _ _ answered
  exact ⟨bodies, _, record, declarationId, served, replayed, own⟩

/-- The maker declares and assesses the first declaration, the latter under a key; the clerk
declares the second. -/
def keyed : List IntakeRequest :=
  [sampleRequest [] (py "Importer"), clerkDeclares, sampleAssessment (py "K")]

/-- The clerk has no record under the key; the declaration named is the second, and the assessment
under the key is the maker's of the first. -/
theorem keyed_tables :
    (posted .sample keyed).records.any (IdempotencyRecord.isFor (py "K") (py "clerk")) = false ∧
      (declarationNamed clerkAssesses.declarationRef (posted .sample keyed).db).toOption.any
        (fun found => decide (found.1 = 1)) = true ∧
      (Assessments.heldUnder (assessmentKey .sample (py "clerk") (py "K") 1) (posted .sample keyed).db).any
        (fun existing => decide (existing.2.declarationId = 0 ∧ existing.2.submittedBy = py "maker")) =
          true := by
  decide +kernel

/-- The clerk uses the key of the maker for the second declaration, passes the guard of the
route and gets the maker's assessment of the first. -/
theorem foreign_assessment_returned : ∃ bodies tables assessmentId row,
    Served .sample (fun _ _ => True) bodies tables ∧
    Calls .sample Sample.occasion (py "clerk") (py "K") clerkAssesses tables 1 assessmentId tables.db ∧
    tables.db.assessments[assessmentId]? = some row ∧ row.declarationId = 0 ∧
    row.submittedBy = py "maker" ∧
    ¬ AssessmentAnswered .sample Sample.occasion (py "clerk") (py "K") clerkAssesses tables := by
  obtain ⟨bodies, _, served⟩ := @posted_served .sample (fun _ _ => True) keyed (fun _ _ _ _ => trivial)
  obtain ⟨unrecorded, found, held⟩ := keyed_tables
  generalize posted .sample keyed = tables at served unrecorded found held
  obtain ⟨⟨declarationId, declaration⟩, named, second⟩ := (Option.any_eq_true _ _).mp found
  obtain rfl := of_decide_eq_true second
  obtain ⟨existing, held, same⟩ := (Option.any_eq_true _ _).mp held
  obtain ⟨first, maker⟩ := of_decide_eq_true same
  have stored := (Rows.select_some held).1
  have calls : Calls .sample Sample.occasion (py "clerk") (py "K") clerkAssesses tables 1 existing.1
      tables.db := by
    refine ⟨replay_none_iff.mpr ?_, ⟨declaration, Result.toOption_some.mp named⟩,
      createAssessment_replays held⟩
    rintro key ⟨⟩ record listed
    exact Bool.eq_false_iff.mpr (List.any_eq_false.mp unrecorded record listed)
  refine ⟨bodies, tables, existing.1, existing.2, served, calls, stored, first, maker, fun answered => ?_⟩
  obtain ⟨assessment, returned, own⟩ := answered 1 existing.1 tables.db calls
  obtain rfl := Option.some.inj (stored.symm.trans returned)
  have other := own.1
  omega

end Sample

end Assessments

end TaxStamps.Answers
