import TaxStamps.Invariants.Clearance
import TaxStamps.Invariants.Settlement

/-!
# Bills and batches of an assessment

An assessment has at most one intent. A batch belongs to an assessment that is
being issued, and every intent for that assessment is settled. Both operations
that open a bill or a batch move the assessment out of the only status they
accept, so neither ever reaches its branch for a repeated call.
-/

namespace TaxStamps

open Api

variable {env : Env} {db after : Db}

namespace Batches

/-- What a batch is opened with and keeps: its assessment and its quantity. -/
def lot (batch : StampBatch) : Nat × Int := (batch.assessmentId, batch.quantity)

/-- One intent per assessment, and a paid assessment in issuance behind every
batch. -/
structure Opened (assessments : List Assessment) (intents : List PaymentIntent) (lots : List (Nat × Int)) :
    Prop where
  once : (intents.map (·.assessmentId)).Nodup
  issuing : ∀ lot ∈ lots, ∃ assessment : Assessment, assessments[lot.1]? = some assessment ∧
    assessment.status = .issuing ∧ lot.2 = assessment.stampsRequired
  paid : ∀ lot ∈ lots, ∀ intent ∈ intents, intent.assessmentId = lot.1 → intent.status = .settled

section Steps

variable {assessments : List Assessment} {intents : List PaymentIntent} {lots : List (Nat × Int)}

/-- A new assessment has neither intent nor batch. -/
theorem Opened.assess (opened : Opened assessments intents lots) (assessment : Assessment) :
    Opened (assessments ++ [assessment]) intents lots := by
  constructor
  case once => exact opened.once
  case paid => exact opened.paid
  case issuing =>
    intro lot member
    obtain ⟨row, stored, status, quantity⟩ := opened.issuing lot member
    exact ⟨row, Rows.stored_append _ stored, status, quantity⟩

/-- An assessment without a batch may change. -/
theorem Opened.change (opened : Opened assessments intents lots) {id : Nat}
    (unopened : ∀ lot ∈ lots, lot.1 ≠ id) (change : Assessment → Assessment) :
    Opened (assessments.modify id change) intents lots := by
  constructor
  case once => exact opened.once
  case paid => exact opened.paid
  case issuing =>
    intro lot member
    obtain ⟨row, stored, status, quantity⟩ := opened.issuing lot member
    exact ⟨row, (Rows.stored_modify_other (unopened lot member)).trans stored, status, quantity⟩

/-- An assessment in another status has no batch. -/
theorem Opened.unopened (opened : Opened assessments intents lots) {id : Nat} {assessment : Assessment}
    (stored : assessments[id]? = some assessment) (idle : assessment.status ≠ .issuing) :
    ∀ lot ∈ lots, lot.1 ≠ id := by
  rintro lot member rfl
  obtain ⟨row, present, status, _⟩ := opened.issuing lot member
  rw [Option.some.inj (present.symm.trans stored)] at status
  exact idle status

/-- The intent of an assessment that has none. -/
theorem Opened.ask (opened : Opened assessments intents lots) {intent : PaymentIntent}
    (unbilled : ∀ other ∈ intents, other.assessmentId ≠ intent.assessmentId)
    (unopened : ∀ lot ∈ lots, lot.1 ≠ intent.assessmentId) :
    Opened assessments (intents ++ [intent]) lots := by
  constructor
  case issuing => exact opened.issuing
  case once =>
    rw [List.map_append, List.nodup_append]
    refine ⟨opened.once, List.nodup_singleton _, ?_⟩
    rintro subject listed other last rfl
    obtain ⟨held, member, named⟩ := List.mem_map.mp listed
    rw [List.map_cons, List.map_nil, List.mem_singleton] at last
    exact unbilled held member (named.trans last)
  case paid =>
    intro lot member row present same
    rcases List.mem_append.mp present with old | new
    · exact opened.paid lot member row old same
    · rw [List.mem_singleton.mp new] at same
      exact absurd same.symm (unopened lot member)

/-- An intent keeps its assessment when it is settled. -/
theorem Opened.settle (opened : Opened assessments intents lots) (intentId : Nat)
    {change : PaymentIntent → PaymentIntent}
    (subject : ∀ row, (change row).assessmentId = row.assessmentId)
    (settles : ∀ row, intents[intentId]? = some row → (change row).status = .settled) :
    Opened assessments (intents.modify intentId change) lots := by
  constructor
  case issuing => exact opened.issuing
  case once =>
    rw [Rows.keys_modify (·.assessmentId) intents intentId change subject]
    exact opened.once
  case paid =>
    intro lot member row present same
    obtain ⟨position, stored⟩ := List.mem_iff_getElem?.mp present
    rcases Rows.stored_modify_cases stored with ⟨_, kept⟩ | ⟨_, old, held, rfl⟩
    · exact opened.paid lot member row (List.mem_of_getElem? kept) same
    · exact settles old held

/-- A batch for a paid assessment. -/
theorem Opened.start (opened : Opened assessments intents lots) {id : Nat} {assessment : Assessment}
    (stored : assessments[id]? = some assessment) (idle : assessment.status ≠ .issuing)
    (paid : ∀ intent ∈ intents, intent.assessmentId = id → intent.status = .settled) :
    Opened (assessments.modify id (fun row => { row with status := .issuing })) intents
      (lots ++ [(id, assessment.stampsRequired)]) := by
  have changed := opened.change (opened.unopened stored idle)
    (fun row => { row with status := .issuing })
  constructor
  case once => exact opened.once
  case issuing =>
    intro lot member
    rcases List.mem_append.mp member with old | new
    · exact changed.issuing lot old
    · obtain rfl := List.mem_singleton.mp new
      exact ⟨_, Rows.stored_modify_self stored, rfl, rfl⟩
  case paid =>
    intro lot member intent present same
    rcases List.mem_append.mp member with old | new
    · exact opened.paid lot old intent present same
    · obtain rfl := List.mem_singleton.mp new
      exact paid intent present same

end Steps

/-- An assessment that was paid has settled intents only. -/
theorem paid_settled (reached : Reachable env db)
    (once : (db.paymentIntents.map (·.assessmentId)).Nodup) {id : Nat} {assessment : Assessment}
    (stored : db.assessments[id]? = some assessment) (cleared : Clearance.cleared assessment.status = true) :
    ∀ intent ∈ db.paymentIntents, intent.assessmentId = id → intent.status = .settled := by
  intro intent member same
  obtain ⟨receipt, listed, applied, intentId, held, refers, present, subject⟩ :=
    (Clearance.bills reached).clears id assessment stored cleared
  obtain ⟨position, found⟩ := List.mem_iff_getElem?.mp member
  have one : position = intentId := Rows.key_unique once found present (same.trans subject.symm)
  subst one
  obtain rfl := Option.some.inj (found.symm.trans present)
  exact (Settlement.valid reached).settles listed applied refers found

/-- Every run bills an assessment once and opens batches for paid ones. -/
theorem opened (reached : Reachable env db) :
    Opened db.assessments db.paymentIntents (db.stampBatches.map lot) := by
  apply reached.invariant_along
    (fun state => Opened state.assessments state.paymentIntents (state.stampBatches.map lot))
  · exact ⟨List.nodup_nil, by simp [Db.empty], by simp [Db.empty]⟩
  · intro before after run known effect
    cases effect with
    | assessed => exact known.assess _
    | @decided _ assessment _ _ _ _ decided judged =>
      have unopened := known.unopened decided.stored (by simp [decided.pending])
      cases judged with
      | rejects => exact known.change unopened _
      | approves => exact known.change unopened _
      | waits => exact known
    | @asked assessmentId assessment intent stored approved asked =>
      have unopened := known.unopened stored (by simp [approved])
      apply (known.change unopened _).ask
      · rw [asked.subject]
        rintro other member rfl
        obtain ⟨position, found⟩ := List.mem_iff_getElem?.mp member
        obtain ⟨row, present, past, _⟩ := (Clearance.bills run).asks position other found
        rw [Option.some.inj (present.symm.trans stored), approved] at past
        cases past
      · rw [asked.subject]
        exact unopened
    | @settled intentId intent _ time _ _ stored applied =>
      have unopened : ∀ held ∈ before.stampBatches.map lot, held.1 ≠ intent.assessmentId := by
        intro held member same
        exact applied.open_ (known.paid held member intent (List.mem_of_getElem? stored) same.symm)
      apply (known.change unopened _).settle intentId
      · exact fun _ => rfl
      · intro row present
        rw [Option.some.inj (present.symm.trans stored)]
        exact Relock.column_current _ _
    | @opened assessmentId assessment batch stored paid opened =>
      have started := known.start stored (by simp [paid])
        (paid_settled run known.once stored (by simp [paid, Clearance.cleared]))
      have listed : (before.stampBatches ++ [batch]).map lot =
          before.stampBatches.map lot ++ [(assessmentId, assessment.stampsRequired)] := by
        rw [List.map_append, List.map_singleton, lot, opened.subject, opened.quantity]
      rw [listed]
      exact started
    | issued _ chunked =>
      cases chunked with
      | past => exact known
      | exhausted =>
        rw [Issuance.written_keeps lot (fun _ _ _ _ => rfl)]
        exact known
      | issues =>
        rw [Issuance.written_keeps lot (fun _ _ _ _ => rfl)]
        exact known
    | finalized =>
      rw [Issuance.written_keeps lot (fun _ _ _ _ => rfl)]
      exact known
    | failed =>
      rw [Issuance.written_keeps lot (fun _ _ _ _ => rfl)]
      exact known
    | activated =>
      rw [Issuance.written_keeps lot (fun _ _ _ _ => rfl)]
      exact known
    | scanned _ scanned => cases scanned <;> exact known
    | voided _ voided => cases voided <;> exact known
    | _ => exact known

section Retries

open Relation

variable {earlier later : Db} {occasion : Occasion} {assessmentId intentId batchId : Nat}
  {assessment : Assessment}

/-- Calling `create_intent` again answers with the intent and changes nothing. -/
def IntentRetried (env : Env) (assessmentId intentId : Nat) (db : Db) : Prop :=
  ∀ occasion assessment, db.assessments[assessmentId]? = some assessment →
    Payments.createIntent env occasion assessmentId assessment db = .ok (intentId, db)

/-- Calling `create_batch` again answers with the batch and changes nothing. -/
def BatchRetried (assessmentId batchId : Nat) (db : Db) : Prop :=
  ∀ occasion assessment, db.assessments[assessmentId]? = some assessment →
    Issuance.createBatch occasion assessmentId assessment db = .ok (batchId, db)

/-- `create_intent` raises on the status of the assessment. -/
structure IntentRefused (env : Env) (assessmentId : Nat) (db : Db) : Prop where
  stored : ∃ assessment : Assessment, db.assessments[assessmentId]? = some assessment
  raises : ∀ occasion assessment, db.assessments[assessmentId]? = some assessment →
    ∃ detail, Payments.createIntent env occasion assessmentId assessment db =
      .error (.paymentError (py "invalid-state") detail)

/-- `create_batch` raises on the status of the assessment. -/
structure BatchRefused (assessmentId : Nat) (db : Db) : Prop where
  stored : ∃ assessment : Assessment, db.assessments[assessmentId]? = some assessment
  raises : ∀ occasion assessment, db.assessments[assessmentId]? = some assessment →
    ∃ detail, Issuance.createBatch occasion assessmentId assessment db =
      .error (.issuanceError (py "invalid-state") detail)

/-- A refused intent is not returned again. -/
theorem IntentRefused.not_retried (refused : IntentRefused env assessmentId db) (occasion : Occasion)
    (intentId : Nat) : ¬ IntentRetried env assessmentId intentId db := by
  intro retried
  obtain ⟨assessment, stored⟩ := refused.stored
  obtain ⟨detail, raised⟩ := refused.raises occasion assessment stored
  have answered := retried occasion assessment stored
  rw [raised] at answered
  cases answered

/-- A refused batch is not returned again. -/
theorem BatchRefused.not_retried (refused : BatchRefused assessmentId db) (occasion : Occasion)
    (batchId : Nat) : ¬ BatchRetried assessmentId batchId db := by
  intro retried
  obtain ⟨assessment, stored⟩ := refused.stored
  obtain ⟨detail, raised⟩ := refused.raises occasion assessment stored
  have answered := retried occasion assessment stored
  rw [raised] at answered
  cases answered

/-- The intent that a call returns is stored for the assessment. -/
theorem createIntent_stored
    (created : Payments.createIntent env occasion assessmentId assessment db = .ok (intentId, after)) :
    (after.paymentIntents.map (·.assessmentId))[intentId]? = some assessmentId := by
  obtain ⟨_, _, created⟩ := Result.bind_ok.mp created
  obtain ⟨_, _, created⟩ := Result.bind_ok.mp created
  split at created
  case _ existing found =>
    cases created
    obtain ⟨stored, same⟩ := Rows.select_some found
    rw [List.getElem?_map, stored, Option.map_some, of_decide_eq_true same]
  case _ =>
    obtain ⟨middle, inserted, created⟩ := Result.bind_ok.mp created
    obtain ⟨rfl, rfl⟩ := Prod.mk.inj (Except.ok.inj created)
    obtain ⟨_, rfl⟩ := Db.insertPaymentIntent_ok inserted
    simp [Assessments.setStatus]

/-- The batch that a call returns is stored for the assessment. -/
theorem createBatch_stored
    (created : Issuance.createBatch occasion assessmentId assessment db = .ok (batchId, after)) :
    ∃ quantity, (after.stampBatches.map lot)[batchId]? = some (assessmentId, quantity) := by
  obtain ⟨_, _, created⟩ := Result.bind_ok.mp created
  split at created
  case _ existing found =>
    cases created
    obtain ⟨stored, same⟩ := Rows.select_some found
    refine ⟨existing.2.quantity, ?_⟩
    rw [List.getElem?_map, stored, Option.map_some, lot, of_decide_eq_true same]
  case _ =>
    obtain ⟨_, _, created⟩ := Result.bind_ok.mp created
    obtain ⟨line, _, created⟩ := Result.bind_ok.mp created
    obtain ⟨categoryCode, _, created⟩ := Result.bind_ok.mp created
    obtain ⟨middle, inserted, created⟩ := Result.bind_ok.mp created
    obtain ⟨rfl, rfl⟩ := Prod.mk.inj (Except.ok.inj created)
    obtain ⟨_, rfl⟩ := Db.insertStampBatch_ok inserted
    exact ⟨assessment.stampsRequired, by simp [Assessments.setStatus, lot]⟩

/-- An intent stays with its assessment. -/
theorem intent_stays (path : ReflTransGen (Step env) later db)
    (stored : (later.paymentIntents.map (·.assessmentId))[intentId]? = some assessmentId) :
    (db.paymentIntents.map (·.assessmentId))[intentId]? = some assessmentId := by
  refine Transition.invariant
    (fun state : Db => (state.paymentIntents.map (·.assessmentId))[intentId]? = some assessmentId)
    ?_ path stored
  intro before after known step
  rcases step.effect.payments with unpaid | ⟨_, _, intent, _, _, _, rfl⟩ | ⟨_, _, _, rfl⟩ |
    ⟨settledId, intent, _, time, _, _, _, _, rfl⟩
  · rw [unpaid.paymentIntents]
    exact known
  · rw [List.map_append]
    exact Rows.stored_append _ known
  · exact known
  · have subjects : (Payments.settleIntent settledId intent time before).paymentIntents.map (·.assessmentId) =
        before.paymentIntents.map (·.assessmentId) := Rows.keys_modify _ _ _ _ (fun _ => rfl)
    exact (congrArg (·[intentId]?) subjects).trans known

/-- Writing a batch keeps the lot at every position. -/
theorem written_stays {copy changed : StampBatch} {batches : List StampBatch} {held : Nat × Int}
    {other : Nat} (stored : (batches.map lot)[other]? = some held) :
    ((Issuance.written batchId copy changed batches).map lot)[other]? = some held := by
  rw [Issuance.written_keeps lot (fun _ _ _ _ => rfl)]
  exact stored

/-- A batch stays with its assessment. -/
theorem lot_stays (path : ReflTransGen (Step env) later db) {held : Nat × Int}
    (stored : (later.stampBatches.map lot)[batchId]? = some held) :
    (db.stampBatches.map lot)[batchId]? = some held := by
  refine Transition.invariant (fun state : Db => (state.stampBatches.map lot)[batchId]? = some held)
    ?_ path stored
  intro before after known step
  cases step.effect with
  | opened =>
    rw [List.map_append]
    exact Rows.stored_append _ known
  | issued _ chunked =>
    cases chunked with
    | past => exact known
    | exhausted => exact written_stays known
    | issues => exact written_stays known
  | finalized => exact written_stays known
  | failed => exact written_stays known
  | activated => exact written_stays known
  | scanned _ scanned => cases scanned <;> exact known
  | voided _ voided => cases voided <;> exact known
  | _ => exact known

/-- A billed assessment is past the status that `create_intent` accepts. -/
theorem intent_refused (reached : Reachable env db) (configured : env.settings.paymentRailConfigured = true)
    (billed : (db.paymentIntents.map (·.assessmentId))[intentId]? = some assessmentId) :
    IntentRefused env assessmentId db := by
  rw [List.getElem?_map] at billed
  obtain ⟨intent, stored, rfl⟩ := Option.map_eq_some_iff.mp billed
  obtain ⟨row, present, past, _⟩ := (Clearance.bills reached).asks intentId intent stored
  constructor
  · exact ⟨row, present⟩
  · intro occasion assessment held
    obtain rfl := Option.some.inj (present.symm.trans held)
    have moved : row.status ≠ .approved := by
      intro approved
      rw [approved] at past
      cases past
    refine ⟨py "assessment is " ++ row.status.name ++ py ", expected APPROVED", ?_⟩
    simp [Payments.createIntent, Result.require, configured, moved]

/-- An assessment with a batch is past the status that `create_batch` accepts. -/
theorem batch_refused (reached : Reachable env db) {quantity : Int}
    (batched : (db.stampBatches.map lot)[batchId]? = some (assessmentId, quantity)) :
    BatchRefused assessmentId db := by
  obtain ⟨row, present, status, _⟩ :=
    (opened reached).issuing (assessmentId, quantity) (List.mem_of_getElem? batched)
  constructor
  · exact ⟨row, present⟩
  · intro occasion assessment held
    obtain rfl := Option.some.inj (present.symm.trans held)
    have moved : row.status ≠ .paid := by simp [status]
    refine ⟨py "assessment is " ++ row.status.name ++ py ", expected PAID", ?_⟩
    simp [Issuance.createBatch, Issuance.issuanceError, Result.require, moved]

/-- An intent is created only where the payment rail is configured. -/
theorem createIntent_configured
    (created : Payments.createIntent env occasion assessmentId assessment db = .ok (intentId, after)) :
    env.settings.paymentRailConfigured = true := by
  obtain ⟨_, configured, _⟩ := Result.bind_ok.mp created
  exact Result.require_ok.mp configured

/-- Once an intent or a batch was committed for an assessment, no later call for
that assessment returns it: both raise on the status the first call left. -/
theorem retries_refused (reached : Reachable env earlier) (path : ReflTransGen (Step env) later db) :
    (∀ occasion assessmentId intentId,
      createPaymentIntent env occasion assessmentId earlier = .ok (intentId, later) →
        IntentRefused env assessmentId db ∧ ¬ IntentRetried env assessmentId intentId db) ∧
    ∀ occasion assessmentId batchId, createBatch occasion assessmentId earlier = .ok (batchId, later) →
      BatchRefused assessmentId db ∧ ¬ BatchRetried assessmentId batchId db := by
  constructor
  · intro occasion assessmentId intentId created
    have committed : handle env occasion (.paymentIntent assessmentId) earlier = .ok later := by
      simp only [handle, created, Except.map]
    obtain ⟨assessment, _, answered⟩ := Result.bind_ok.mp created
    have answered := translated_ok.mp answered
    have refused := intent_refused ((reached.commit committed).trans path)
      (createIntent_configured answered) (intent_stays path (createIntent_stored answered))
    exact ⟨refused, refused.not_retried occasion intentId⟩
  · intro occasion assessmentId batchId created
    have committed : handle env occasion (.batch assessmentId) earlier = .ok later := by
      simp only [handle, created, Except.map]
    obtain ⟨assessment, _, answered⟩ := Result.bind_ok.mp created
    obtain ⟨quantity, stored⟩ := createBatch_stored (translated_ok.mp answered)
    have refused := batch_refused ((reached.commit committed).trans path) (lot_stays path stored)
    exact ⟨refused, refused.not_retried occasion batchId⟩

/-- The sample's approved assessment is billed. -/
theorem sample_billed : ∃ later,
    createPaymentIntent .sample Sample.occasion 0 (Sample.state (Sample.asking.take 3)) = .ok (0, later) := by
  have answered : (createPaymentIntent .sample Sample.occasion 0
      (Sample.state (Sample.asking.take 3))).toOption.any (fun answer => decide (answer.1 = 0)) = true := by
    decide +kernel
  rw [Option.any_eq_true] at answered
  obtain ⟨⟨intentId, later⟩, created, same⟩ := answered
  obtain rfl : intentId = 0 := of_decide_eq_true same
  exact ⟨later, Result.toOption_some.mp created⟩

/-- The sample run up to the receipt. -/
def settled : List Request := Sample.asking ++ [.receipt Sample.payment]

/-- A batch is opened for the sample's paid assessment. -/
theorem sample_opened : ∃ later, createBatch Sample.occasion 0 (Sample.state settled) = .ok (0, later) := by
  have answered : (createBatch Sample.occasion 0 (Sample.state settled)).toOption.any
      (fun answer => decide (answer.1 = 0)) = true := by decide +kernel
  rw [Option.any_eq_true] at answered
  obtain ⟨⟨batchId, later⟩, created, same⟩ := answered
  obtain rfl : batchId = 0 := of_decide_eq_true same
  exact ⟨later, Result.toOption_some.mp created⟩

/-- Neither the sample's intent nor its batch is found again by a second call, made
once the batch was issued. -/
theorem retries_refused_sample :
    (∃ later, createPaymentIntent .sample Sample.occasion 0 (Sample.state (Sample.asking.take 3)) = .ok (0, later) ∧
      IntentRefused .sample 0 later ∧ ¬ IntentRetried .sample 0 0 later) ∧
    ∃ later issued, createBatch Sample.occasion 0 (Sample.state settled) = .ok (0, later) ∧
      issued = submit .sample Sample.occasion (.issue 0 none) later ∧
      BatchRefused 0 issued ∧ ¬ BatchRetried 0 0 issued := by
  obtain ⟨billed, created⟩ := sample_billed
  obtain ⟨opened, started⟩ := sample_opened
  have once := retries_refused (Sample.state_reachable (Sample.asking.take 3)) (.refl : ReflTransGen _ billed billed)
  have next : ReflTransGen (Step .sample) opened _ := .single ⟨Sample.occasion, .issue 0 none, rfl⟩
  have again := retries_refused (Sample.state_reachable settled) next
  exact ⟨⟨billed, created, once.1 Sample.occasion 0 0 created⟩,
    opened, _, started, rfl, again.2 Sample.occasion 0 0 started⟩

/-- The same call again, directly after the first, raises. -/
theorem second_intent_raises : ∃ earlier later, Reachable .sample earlier ∧
    createPaymentIntent .sample Sample.occasion 0 earlier = .ok (0, later) ∧
      ¬ IntentRetried .sample 0 0 later := by
  obtain ⟨later, created⟩ := sample_billed
  have reached := Sample.state_reachable (Sample.asking.take 3)
  have committed : handle .sample Sample.occasion (.paymentIntent 0)
      (Sample.state (Sample.asking.take 3)) = .ok later := by
    simp only [handle, created, Except.map]
  obtain ⟨assessment, _, answered⟩ := Result.bind_ok.mp created
  have answered := translated_ok.mp answered
  have refused := intent_refused (reached.commit committed) (createIntent_configured answered)
    (createIntent_stored answered)
  exact ⟨_, later, reached, created, refused.not_retried Sample.occasion 0⟩

end Retries

end Batches

end TaxStamps
