import TaxStamps.Invariants.FailedLots
import TaxStamps.Invariants.Lifecycle

/-!
# The pipeline behind an active stamp

A stamp becomes ACTIVE in one step only, the activation of its batch. At that step
the batch is anchored, has passed an inspection and has not failed one. From then on
the batch has as many stamps as were declared with a duty, and the assessment behind
it is approved by enough checkers and paid to the kobo.
-/

namespace TaxStamps.Pipeline

open Api Relation FailedLots

variable {env : Env} {db earlier before after : Db} {batchId stampId : Nat}

section Gates

/-- A batch that can be activated has its root, and a batch that failed is out. -/
structure Gated (batches : List StampBatch) (inspections : List Inspection) : Prop where
  anchored : ∀ (batchId : Nat) (batch : StampBatch), batches[batchId]? = some batch →
    batch.status = .ready → batch.merkleRoot ≠ []
  failed : ∀ batchId, Failed inspections batchId →
    ∃ batch, batches[batchId]? = some batch ∧ batch.status = .inspectionFailed

variable {batches : List StampBatch} {inspections : List Inspection}

/-- A write of a batch that has not failed. -/
theorem Gated.write (gated : Gated batches inspections) {copy changed : StampBatch}
    (stored : batches[batchId]? = some copy) (sound : copy.status ≠ .inspectionFailed)
    (anchored : changed.status = .ready → changed.merkleRoot ≠ []) :
    Gated (Issuance.written batchId copy changed batches) inspections := by
  constructor
  · intro other row present ready
    rcases Cursor.written_rows stored present with ⟨_, old⟩ | ⟨rfl, rfl⟩
    · exact gated.anchored other row old ready
    · exact anchored ready
  · intro lost failed
    obtain ⟨batch, present, status⟩ := gated.failed lost failed
    have other : lost ≠ batchId := by
      rintro rfl
      exact sound ((Option.some.inj (present.symm.trans stored)) ▸ status)
    exact ⟨batch, (Rows.stored_modify_other other).trans present, status⟩

/-- A new batch is neither anchored nor inspected. -/
theorem Gated.start (gated : Gated batches inspections) {batch : StampBatch}
    (pending : batch.status = .pending) : Gated (batches ++ [batch]) inspections := by
  constructor
  · intro other row present ready
    rcases Rows.stored_insert_cases present with old | ⟨_, rfl⟩
    · exact gated.anchored other row old ready
    · rw [pending] at ready
      cases ready
  · intro lost failed
    obtain ⟨batch, present, status⟩ := gated.failed lost failed
    exact ⟨batch, Rows.stored_append _ present, status⟩

/-- A passed inspection fails nobody. -/
theorem Gated.pass (gated : Gated batches inspections) {inspection : Inspection}
    (pass : inspection.result = .pass) : Gated batches (inspections ++ [inspection]) := by
  constructor
  · exact gated.anchored
  · rintro lost ⟨row, member, subject, fail⟩
    rcases List.mem_append.mp member with old | new
    · exact gated.failed lost ⟨row, old, subject, fail⟩
    · rw [List.mem_singleton.mp new, pass] at fail
      cases fail

/-- A failed inspection takes its batch out, whatever status it had. -/
theorem Gated.fail (gated : Gated batches inspections) {batch : StampBatch} {inspection : Inspection}
    (stored : batches[batchId]? = some batch) (subject : inspection.batchId = batchId) :
    Gated (Issuance.written batchId batch { batch with status := .inspectionFailed } batches)
      (inspections ++ [inspection]) := by
  constructor
  · intro other row present ready
    rcases Cursor.written_rows stored present with ⟨_, old⟩ | ⟨rfl, rfl⟩
    · exact gated.anchored other row old ready
    · cases ready
  · rintro lost ⟨row, member, named, fail⟩
    by_cases same : lost = batchId
    · subst same
      exact ⟨_, Issuance.written_current stored, rfl⟩
    · rcases List.mem_append.mp member with old | new
      · obtain ⟨other, present, status⟩ := gated.failed lost ⟨row, old, named, fail⟩
        exact ⟨other, (Rows.stored_modify_other same).trans present, status⟩
      · rw [List.mem_singleton.mp new] at named
        exact absurd (named.symm.trans subject) same

/-- The gates hold in every reachable state. -/
theorem gated (reached : Reachable env db) : Gated db.stampBatches db.inspections := by
  refine reached.invariant (fun state => Gated state.stampBatches state.inspections) ?_ ?_
  · constructor
    · intro other row absent
      cases absent
    · rintro lost ⟨_, absent, _⟩
      cases absent
  · intro before after known effect
    cases effect with
    | opened _ _ opened => exact known.start opened.pending
    | @issued _ batchId batch _ _ _ stored chunked =>
      cases chunked with
      | past => exact known
      | exhausted open_ => exact known.write stored (by rcases open_ with same | same <;> simp [same]) (by simp)
      | issues open_ =>
        refine known.write stored (by rcases open_ with same | same <;> simp [same]) ?_
        intro ready
        rcases Issuance.advanced_status batch _ with same | same
        · cases same.symm.trans ready
        · cases same.symm.trans ready
    | finalized stored issued present => exact known.write stored (by simp [issued]) (fun _ => present)
    | passed _ _ _ pass => exact known.pass pass
    | failed stored _ subject => exact known.fail stored subject
    | activated stored ready => exact known.write stored (by simp [ready]) (by simp)
    | scanned _ scanned => cases scanned <;> exact known
    | voided _ voided => cases voided <;> exact known
    | _ => exact known

end Gates

section Activation

/-- The stamp at a position is ACTIVE. -/
def Active (stampId : Nat) (db : Db) : Prop :=
  ∃ stamp, db.stamps[stampId]? = some stamp ∧ stamp.status = .active

/-- The step that activates a batch, seen from the state before it. -/
structure Activates (before : Db) (batchId : Nat) (batch : StampBatch) : Prop where
  stored : before.stampBatches[batchId]? = some batch
  ready : batch.status = .ready
  passed : ∃ inspection ∈ before.inspections, inspection.batchId = batchId ∧ inspection.result = .pass

/-- An update of one stamp to another status activates none. -/
theorem inactive_modify {changed : Nat} {change : Stamp → Stamp} (inert : ∀ stamp, (change stamp).status ≠ .active)
    {stamps : List Stamp} {stamp : Stamp} (stored : (stamps.modify changed change)[stampId]? = some stamp)
    (active : stamp.status = .active) : stamps[stampId]? = some stamp := by
  rcases Rows.stored_modify_cases stored with ⟨_, kept⟩ | ⟨_, old, _, rfl⟩
  · exact kept
  · exact absurd active (inert old)

/-- A stamp that becomes ACTIVE is a stamp of the batch that is activated. -/
theorem activates_of_effect (effect : Effect env before after) (inactive : ¬ Active stampId before)
    {stamp : Stamp} (stored : after.stamps[stampId]? = some stamp) (active : stamp.status = .active) :
    ∃ batch, Activates before stamp.batchId batch := by
  have unchanged : ∀ stamp, before.stamps[stampId]? = some stamp → stamp.status ≠ .active :=
    fun stamp present same => inactive ⟨stamp, present, same⟩
  cases effect with
  | issued _ chunked =>
    cases chunked with
    | past => exact absurd active (unchanged stamp stored)
    | exhausted => exact absurd active (unchanged stamp stored)
    | issues _ _ _ _ issued =>
      rcases Rows.stored_append_cases stored with old | ⟨_, new⟩
      · exact absurd active (unchanged stamp old)
      · obtain ⟨_, fresh⟩ := issued.each (List.mem_of_getElem? new)
        rw [fresh.issued] at active
        cases active
  | @activated batchId batch time _ held ready passing =>
    obtain ⟨old, present, rfl⟩ := Rows.Pointwise.origin (Rows.pointwise_map _ before.stamps) stored
    split at active
    case isTrue touched =>
      simp only [Issuance.activates, Bool.and_eq_true, decide_eq_true_eq] at touched
      rw [if_pos (by simpa [Issuance.activates] using touched)]
      exact ⟨batch, touched.1 ▸ held, ready, touched.1 ▸ passing⟩
    case isFalse => exact absurd active (unchanged old present)
  | scanned _ scanned =>
    cases scanned with
    | answered => exact absurd active (unchanged stamp stored)
    | suspected => exact absurd active (unchanged stamp (inactive_modify (fun _ => by simp) stored active))
    | consumes =>
      exact absurd active (unchanged stamp (inactive_modify (fun _ => by simp [Verify.consumed]) stored active))
  | voided _ voided =>
    cases voided with
    | already => exact absurd active (unchanged stamp stored)
    | voids => exact absurd active (unchanged stamp (inactive_modify (fun _ => by simp) stored active))
  | _ => exact absurd active (unchanged stamp stored)

/-- The step in which a stamp became ACTIVE. -/
structure Released (env : Env) (later : Db) (stampId batchId : Nat) (before after : Db) : Prop where
  reached : Reachable env before
  step : Step env before after
  path : ReflTransGen (Step env) after later
  inactive : ¬ Active stampId before
  active : Active stampId after
  anchored : ∃ batch, before.stampBatches[batchId]? = some batch ∧ batch.status = .ready ∧
    batch.merkleRoot ≠ []
  passed : ∃ inspection ∈ before.inspections, inspection.batchId = batchId ∧ inspection.result = .pass
  unfailed : ¬ Failed before.inspections batchId

/-- Every ACTIVE stamp was released with its batch. -/
theorem released (reached : Reachable env earlier) {stamp : Stamp}
    (stored : earlier.stamps[stampId]? = some stamp) (active : stamp.status = .active) :
    ∃ before after, Released env earlier stampId stamp.batchId before after := by
  have absent : ¬ Active stampId Db.empty := by
    rintro ⟨_, none, _⟩
    cases none
  obtain ⟨before, after, run, inactive, step, ⟨row, present, turned⟩, path⟩ :=
    Transition.crossing (Active stampId) reached absent ⟨stamp, stored, active⟩
  have same : stamp.batchId = row.batchId := by
    obtain ⟨new, last, later⟩ := (Lifecycle.grows_path (run.tail step) path).stamps stampId row present
    obtain rfl := Option.some.inj (last.symm.trans stored)
    exact later.batchId
  obtain ⟨batch, activates⟩ := activates_of_effect step.effect inactive present turned
  rw [← same] at activates
  have gates := gated run
  refine ⟨before, after, ⟨run, step, path, inactive, ⟨row, present, turned⟩,
    ⟨batch, activates.stored, activates.ready, gates.anchored _ _ activates.stored activates.ready⟩,
    activates.passed, ?_⟩⟩
  intro failed
  obtain ⟨other, held, status⟩ := gates.failed _ failed
  obtain rfl := Option.some.inj (held.symm.trans activates.stored)
  cases activates.ready.symm.trans status

end Activation

section Backing

/-- What stands behind a batch: as many stamps as its assessment counted on the lines
with a duty, a receipt of exactly that duty, and enough checkers. -/
structure Backed (env : Env) (db : Db) (batchId : Nat) (batch : StampBatch) (assessment : Assessment) :
    Prop where
  stored : db.stampBatches[batchId]? = some batch
  assessed : db.assessments[batch.assessmentId]? = some assessment
  complete : ((Cursor.stampsOf batchId db.stamps).length : Int) = batch.quantity
  quantity : batch.quantity = assessment.stampsRequired
  declared : assessment.stampsRequired = Clearance.stampsOf env (Datetime.date assessment.submittedAt)
    (Assessments.linesOf assessment.declarationId db.declarationLines)
  due : 0 < assessment.totalDutyKobo
  received : ∃ receipt ∈ db.paymentReceipts, ∃ (intentId : Nat) (intent : PaymentIntent),
    receipt.status = .applied ∧ receipt.paymentIntentId = some intentId ∧
      db.paymentIntents[intentId]? = some intent ∧ intent.assessmentId = batch.assessmentId ∧
      receipt.amountKobo = assessment.totalDutyKobo ∧ receipt.currency = py "NGN"
  approved : ∃ checkers : List PyStr, checkers.Nodup ∧ assessment.approvalsRequired ≤ checkers.length ∧
    ∀ checker ∈ checkers, checker ≠ assessment.submittedBy ∧ ∃ approval ∈ db.approvals,
      approval.assessmentId = batch.assessmentId ∧ approval.principalSub = checker ∧
        approval.decision = .approve

/-- Enough different principals approved an assessment that passed. -/
theorem approved (reached : Reachable env db) {id : Nat} {assessment : Assessment}
    (stored : db.assessments[id]? = some assessment) (issuing : assessment.status = .issuing) :
    ∃ checkers : List PyStr, checkers.Nodup ∧ assessment.approvalsRequired ≤ checkers.length ∧
      ∀ checker ∈ checkers, checker ≠ assessment.submittedBy ∧ ∃ approval ∈ db.approvals,
        approval.assessmentId = id ∧ approval.principalSub = checker ∧ approval.decision = .approve := by
  have sound := (Clearance.decisions reached).sound id assessment stored
  have passed : Quorum.outcome Assessments.approves assessment.approvalsRequired
      (Assessments.approvalsIn id db.approvals) = .passed := by
    rw [sound.standing, issuing]
    rfl
  rw [Quorum.passed_iff] at passed
  refine ⟨(Assessments.approvalsIn id db.approvals).map (·.principalSub), sound.distinct, ?_, ?_⟩
  · have counted : (Assessments.approvalsIn id db.approvals).countP Assessments.approves ≤
        (Assessments.approvalsIn id db.approvals).length := List.countP_le_length
    rw [List.length_map]
    omega
  · intro checker member
    obtain ⟨approval, listed, rfl⟩ := List.mem_map.mp member
    refine ⟨sound.checkers approval listed, approval, ?_⟩
    obtain ⟨present, subject⟩ := List.mem_filter.mp listed
    exact ⟨present, of_decide_eq_true subject, rfl,
      of_decide_eq_true (List.all_eq_true.mp passed.1 approval listed)⟩

/-- A batch that is past issuing is backed. -/
theorem backed (reached : Reachable env db) {batch : StampBatch}
    (stored : db.stampBatches[batchId]? = some batch) (anchored : Outbox.Anchored batch.status) :
    ∃ assessment, Backed env db batchId batch assessment := by
  have lots := (Batches.opened reached).issuing (Batches.lot batch)
    (List.mem_map_of_mem (List.mem_of_getElem? stored))
  obtain ⟨assessment, assessed, issuing, quantity⟩ := lots
  have bills := Clearance.bills reached
  obtain ⟨receipt, listed, applied, intentId, intent, refers, present, subject⟩ :=
    bills.clears _ assessment assessed (by simp [issuing, Clearance.cleared])
  obtain ⟨held, billed, _, amount, currency, due⟩ := bills.asks intentId intent present
  rw [subject] at billed
  obtain rfl := Option.some.inj (billed.symm.trans assessed)
  obtain ⟨other, matched, named, found, paid, same⟩ := (Settlement.valid reached).matched receipt
    (List.mem_filter.mpr ⟨listed, decide_eq_true applied⟩)
  obtain rfl := Option.some.inj (named.symm.trans refers)
  obtain rfl := Option.some.inj (found.symm.trans present)
  refine ⟨held, stored, assessed, ?_, quantity, (Clearance.computed reached).stamps _ held assessed,
    amount ▸ due, ?_, approved reached assessed issuing⟩
  · exact Cursor.complete reached stored (by rcases anchored with s | s | s <;> simp [s])
      (by rcases anchored with s | s | s <;> simp [s])
  · exact ⟨receipt, listed, other, matched, applied, refers, present, subject, paid.trans amount,
      same.trans currency⟩

end Backing

/-- Behind every stamp that is or was ACTIVE, at any later time: the step that released
its batch, and the declaration, the payment and the decisions that back it. -/
theorem pipeline_safe (reached : Reachable env earlier) {stamp : Stamp}
    (stored : earlier.stamps[stampId]? = some stamp) (active : stamp.status = .active)
    (path : ReflTransGen (Step env) earlier db) :
    (∃ row, db.stamps[stampId]? = some row ∧ row.batchId = stamp.batchId) ∧
    (∃ before after, Released env earlier stampId stamp.batchId before after) ∧
    ∃ batch assessment, Backed env db stamp.batchId batch assessment := by
  obtain ⟨before, after, released⟩ := released reached stored active
  obtain ⟨batch, held, ready, _⟩ := released.anchored
  have grown := Lifecycle.grows_path released.reached ((released.path.head released.step).trans path)
  obtain ⟨row, present, later⟩ := grown.stampBatches _ batch held
  have anchored := Lifecycle.anchored_stays later.forward (Or.inl ready)
  refine ⟨?_, ⟨before, after, released⟩, row, backed (reached.trans path) present anchored⟩
  obtain ⟨last, kept, version⟩ := (Lifecycle.grows_path reached path).stamps stampId stamp stored
  exact ⟨last, kept, version.batchId⟩

/-- After its batch failed an inspection, everything still stands behind it. -/
theorem pipeline_safe_sample : ∃ stamp : Stamp,
    (∃ row, (Sample.state (Sample.activating ++ [Sample.defective])).stamps[0]? = some row ∧
      row.batchId = stamp.batchId) ∧
    (∃ before after, Released .sample (Sample.state Sample.activating) 0 stamp.batchId before after) ∧
    ∃ batch assessment, Backed .sample (Sample.state (Sample.activating ++ [Sample.defective])) stamp.batchId
      batch assessment := by
  obtain ⟨stamp, stored, active, _⟩ := Sample.activating_released
  exact ⟨stamp, pipeline_safe (Sample.state_reachable Sample.activating) stored active
    (Lifecycle.sample_path _ _)⟩

end TaxStamps.Pipeline
