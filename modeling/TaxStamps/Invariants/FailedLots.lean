import TaxStamps.Api.Sample
import TaxStamps.Invariants.Stamps

/-!
# Failed lots

A failed inspection is meant to keep a lot from being scanned. It does so for a
lot that was not activated: the batch becomes INSPECTION_FAILED and is never
activated. On a batch that is ACTIVE already the inspection changes the batch
and leaves its stamps as they are, and the scan looks at the stamp only.
-/

namespace TaxStamps.FailedLots

open Api Relation

variable {env : Env} {db after : Db}

/-- A FAIL inspection was recorded for the batch. -/
def Failed (inspections : List Inspection) (batchId : Nat) : Prop :=
  ∃ inspection ∈ inspections, inspection.batchId = batchId ∧ inspection.result = .fail

/-- No stamp of the batch is ACTIVE. -/
def Inactive (stamps : List Stamp) (batchId : Nat) : Prop :=
  ∀ stamp ∈ stamps, stamp.batchId = batchId → stamp.status ≠ .active

/-- No scan of a stamp of the batch answers 'valid' or 'active'. -/
def Unscannable (env : Env) (db : Db) (batchId : Nat) : Prop :=
  ∀ (stampId : Nat) (stamp : Stamp), db.stamps[stampId]? = some stamp → stamp.batchId = batchId →
    ∀ occasion scan serial parts result after,
      Serials.parseSerial env.unicode (Serials.normalize env.unicode serial) = .ok parts →
      parts.serial = stamp.serial →
      Verify.verifyStamp env occasion scan serial db = .ok (result, after) →
      result.outcome ≠ .valid ∧ result.outcome ≠ .active

/-- Lots that failed cannot be scanned, and no stamp of a batch that is
INSPECTION_FAILED is ACTIVE. -/
def NeverScannable (env : Env) (db : Db) : Prop :=
  (∀ batchId, Failed db.inspections batchId → Unscannable env db batchId) ∧
    ∀ (batchId : Nat) (batch : StampBatch), db.stampBatches[batchId]? = some batch →
      batch.status = .inspectionFailed → Inactive db.stamps batchId

/-- An inspection that fails a batch which still has an ACTIVE stamp. -/
def FailsActive (request : Request) (db : Db) : Prop :=
  match request with
  | .inspection _ batchId body => ∃ batch, db.stampBatches[batchId]? = some batch ∧
      Issuance.SampleFails batch.quantity body.defectives ∧ ¬ Inactive db.stamps batchId
  | _ => False

/-- A request that does not fail a lot with an ACTIVE stamp. -/
def SoundStep (env : Env) (before after : Db) : Prop :=
  ∃ occasion request, ¬ FailsActive request before ∧ after = submit env occasion request before

/-- A failed lot stays INSPECTION_FAILED, and its stamps stay inactive. -/
structure Valid (batches : List StampBatch) (stamps : List Stamp) (inspections : List Inspection) : Prop where
  recorded : ∀ batchId, Failed inspections batchId →
    ∃ batch, batches[batchId]? = some batch ∧ batch.status = .inspectionFailed
  inactive : ∀ (batchId : Nat) (batch : StampBatch), batches[batchId]? = some batch →
    batch.status = .inspectionFailed → Inactive stamps batchId

variable {batches : List StampBatch} {stamps : List Stamp} {inspections : List Inspection}

/-- Writing a current copy that has not failed to a status that is no failure. -/
theorem Valid.write (valid : Valid batches stamps inspections) {batchId : Nat} {copy changed : StampBatch}
    (stored : batches[batchId]? = some copy) (was : copy.status ≠ .inspectionFailed)
    (becomes : changed.status ≠ .inspectionFailed) :
    Valid (Issuance.written batchId copy changed batches) stamps inspections := by
  constructor
  · intro failed recorded
    obtain ⟨batch, present, status⟩ := valid.recorded failed recorded
    have other : failed ≠ batchId := by
      rintro rfl
      rw [stored] at present
      exact was ((Option.some.inj present) ▸ status)
    refine ⟨batch, ?_, status⟩
    rw [Issuance.written, Rows.stored_modify_other other]
    exact present
  · intro other batch present status
    rcases Issuance.written_cases present with ⟨_, kept⟩ | ⟨rfl, old, current, _, _, _, wrote, _⟩
    · exact valid.inactive other batch kept status
    · rw [Option.some.inj (current.symm.trans stored), Relock.column_current] at wrote
      exact absurd (wrote.symm.trans status) becomes

/-- A new batch has not failed. -/
theorem Valid.open_ (valid : Valid batches stamps inspections) {batch : StampBatch}
    (pending : batch.status = .pending) : Valid (batches ++ [batch]) stamps inspections := by
  constructor
  · intro failed recorded
    obtain ⟨old, present, status⟩ := valid.recorded failed recorded
    exact ⟨old, Rows.stored_append _ present, status⟩
  · intro batchId row present status
    rcases Rows.stored_insert_cases present with old | ⟨_, rfl⟩
    · exact valid.inactive batchId row old status
    · rw [pending] at status
      cases status

/-- Changing stamps of lots that have not failed, or without activating one. -/
theorem Valid.move (valid : Valid batches stamps inspections) {later : List Stamp}
    (moved : ∀ stamp ∈ later, stamp.status = .active →
      (∃ old ∈ stamps, old.batchId = stamp.batchId ∧ old.status = .active) ∨
        ∃ batch, batches[stamp.batchId]? = some batch ∧ batch.status ≠ .inspectionFailed) :
    Valid batches later inspections := by
  constructor
  · exact valid.recorded
  · intro batchId batch stored status stamp member subject active
    subst subject
    rcases moved stamp member active with ⟨old, present, same, was⟩ | ⟨other, current, sound⟩
    · exact valid.inactive stamp.batchId batch stored status old present same was
    · rw [Option.some.inj (stored.symm.trans current)] at status
      exact sound status

/-- An update of one stamp to a status other than ACTIVE. -/
theorem Valid.settle (valid : Valid batches stamps inspections) {stampId : Nat} {change : Stamp → Stamp}
    (inert : ∀ stamp, (change stamp).status ≠ .active) :
    Valid batches (stamps.modify stampId change) inspections := by
  apply valid.move
  intro stamp member active
  obtain ⟨id, stored⟩ := List.mem_iff_getElem?.mp member
  rcases Rows.stored_modify_cases stored with ⟨_, kept⟩ | ⟨_, old, _, rfl⟩
  · exact Or.inl ⟨stamp, List.mem_of_getElem? kept, rfl, active⟩
  · exact absurd active (inert old)

/-- A passed inspection fails no lot. -/
theorem Valid.pass (valid : Valid batches stamps inspections) {inspection : Inspection}
    (pass : inspection.result = .pass) : Valid batches stamps (inspections ++ [inspection]) := by
  constructor
  · rintro batchId ⟨row, member, subject, fail⟩
    rcases List.mem_append.mp member with old | new
    · exact valid.recorded batchId ⟨row, old, subject, fail⟩
    · rw [List.mem_singleton.mp new, pass] at fail
      cases fail
  · exact valid.inactive

/-- A FAIL on a batch without ACTIVE stamps. -/
theorem Valid.fail (valid : Valid batches stamps inspections) {batchId : Nat} {batch : StampBatch}
    {inspection : Inspection} (stored : batches[batchId]? = some batch)
    (subject : inspection.batchId = batchId) (inactive : Inactive stamps batchId) :
    Valid (Issuance.written batchId batch { batch with status := .inspectionFailed } batches) stamps
      (inspections ++ [inspection]) := by
  have current : (Issuance.written batchId batch { batch with status := .inspectionFailed }
      batches)[batchId]? = some { batch with status := .inspectionFailed } :=
    Issuance.written_current stored
  constructor
  · rintro failed ⟨row, member, named, fail⟩
    by_cases same : failed = batchId
    · subst same
      exact ⟨_, current, rfl⟩
    · rcases List.mem_append.mp member with old | new
      · obtain ⟨other, present, status⟩ := valid.recorded failed ⟨row, old, named, fail⟩
        refine ⟨other, ?_, status⟩
        rw [Issuance.written, Rows.stored_modify_other same]
        exact present
      · rw [List.mem_singleton.mp new] at named
        exact absurd (named.symm.trans subject) same
  · intro other row present status
    rcases Issuance.written_cases present with ⟨_, kept⟩ | ⟨rfl, _⟩
    · exact valid.inactive other row kept status
    · exact inactive

/-- Every request but an inspection keeps failed lots inactive. -/
theorem Valid.quiet (valid : Valid db.stampBatches db.stamps db.inspections) (quiet : Quiet env db after) :
    Valid after.stampBatches after.stamps after.inspections := by
  obtain ⟨effect, inspections⟩ := quiet
  cases effect with
  | opened _ _ opened => exact valid.open_ opened.pending
  | @issued _ batchId batch _ _ _ stored chunked =>
    cases chunked with
    | past => exact valid
    | exhausted open_ =>
      refine valid.write stored ?_ (by simp)
      rcases open_ with same | same <;> simp [same]
    | issues open_ _ _ _ issued =>
      have was : batch.status ≠ .inspectionFailed := by
        rcases open_ with same | same <;> simp [same]
      have becomes : ∀ size, (Issuance.advanced batch size).status ≠ .inspectionFailed := by
        intro size
        rcases Issuance.advanced_status batch size with same | same <;> simp [same]
      refine Valid.move (valid.write stored was (becomes _)) ?_
      intro stamp member active
      rcases List.mem_append.mp member with old | new
      · exact Or.inl ⟨stamp, old, rfl, active⟩
      · obtain ⟨_, fresh⟩ := issued.each new
        rw [fresh.issued] at active
        cases active
  | finalized stored issued => exact valid.write stored (by simp [issued]) (by simp)
  | passed => simp at inspections
  | failed => simp at inspections
  | @activated batchId batch time _ stored ready =>
    have moved : Valid db.stampBatches (Issuance.activateStamps batchId time db).stamps db.inspections := by
      apply valid.move
      intro stamp member active
      obtain ⟨old, present, rfl⟩ := List.mem_map.mp member
      by_cases activates : Issuance.activates batchId old = true
      · have subject := activates
        simp only [Issuance.activates, Bool.and_eq_true, decide_eq_true_eq] at subject
        simp only [activates, if_true]
        exact Or.inr ⟨batch, subject.1 ▸ stored, by simp [ready]⟩
      · simp only [activates] at active ⊢
        exact Or.inl ⟨old, present, rfl, active⟩
    exact moved.write stored (by simp [ready]) (by simp)
  | scanned stored scanned =>
    cases scanned with
    | answered => exact valid
    | suspected => exact valid.settle (fun _ => by simp)
    | consumes => exact valid.settle (fun _ => by simp [Verify.consumed])
  | voided stored voided =>
    cases voided with
    | already => exact valid
    | voids => exact valid.settle (fun _ => by simp)
  | _ => exact valid

/-- A sound step keeps failed lots inactive. -/
theorem Valid.step (valid : Valid db.stampBatches db.stamps db.inspections) (step : SoundStep env db after) :
    Valid after.stampBatches after.stamps after.inspections := by
  obtain ⟨occasion, request, sound, rfl⟩ := step
  unfold submit
  split
  case _ committed handled =>
    rcases quiet_of_handle handled with ⟨subject, batchId, body, rfl⟩ | quiet
    · obtain ⟨row, inspected⟩ := map_snd_ok handled
      obtain ⟨batch, stored, recorded⟩ := inspectBatch_ok inspected
      obtain ⟨_, named, ⟨pass, rfl⟩ | ⟨fail, rfl⟩⟩ := Issuance.recordInspection_ok recorded
      · exact valid.pass pass
      · refine valid.fail stored named ?_
        by_contra active
        exact sound ⟨batch, stored, Issuance.recordInspection_fails recorded fail, active⟩
    · exact valid.quiet quiet
  case _ => exact valid

/-- A sound run is a run. -/
theorem reachable_of_sound (run : ReflTransGen (SoundStep env) Db.empty db) : Reachable env db := by
  have weaker : SoundStep env ≤ Step env := by
    rintro before after ⟨occasion, request, _, same⟩
    exact ⟨occasion, request, same⟩
  exact ReflTransGen.mono weaker _ _ run

/-- In every run whose steps are sound, failed lots stay as they should. -/
theorem valid (run : ReflTransGen (SoundStep env) Db.empty db) :
    Valid db.stampBatches db.stamps db.inspections := by
  refine Transition.invariant (fun state => Valid state.stampBatches state.stamps state.inspections)
    (fun _ _ known step => known.step step) run ?_
  constructor
  · rintro batchId ⟨_, absent, _⟩
    cases absent
  · intro _ _ _ _ _ absent
    cases absent

/-- A scan that answers 'valid' or 'active' found an ACTIVE stamp. -/
theorem scanned_active {occasion : Occasion} {scan : Verify.Scan} {serial : PyStr} {stampId : Nat}
    {stamp : Stamp} {outcome : Outcome}
    (scanned : Verify.Scanned env occasion scan serial stampId stamp db outcome after)
    (inactive : stamp.status ≠ .active) : outcome ≠ .valid ∧ outcome ≠ .active := by
  cases scanned with
  | answered detail plain =>
    constructor
    · rintro rfl
      exact plain
    · rintro rfl
      exact inactive plain
  | suspected => simp
  | consumes _ active => exact absurd active inactive

/-- In a run in which no lot is failed while it has an ACTIVE stamp, failed lots
are never scannable. -/
theorem failed_lots_never_scannable (run : ReflTransGen (SoundStep env) Db.empty db) :
    NeverScannable env db := by
  have lots := valid run
  have stamps := Stamps.valid (reachable_of_sound run)
  constructor
  · intro batchId failed stampId stamp stored subject occasion scan serial parts result after parsed
      named verified
    obtain ⟨batch, present, status⟩ := lots.recorded batchId failed
    have inactive := lots.inactive batchId batch present status stamp (List.mem_of_getElem? stored) subject
    cases Verify.verifyStamp_ok verified with
    | unmatched _ _ refused => rcases refused with same | same <;> simp [same]
    | matched reparsed found scanned =>
      rw [parsed] at reparsed
      cases reparsed
      obtain ⟨located, matching⟩ := Rows.select_some found
      have same := stamps.serial_unique located stored ((of_decide_eq_true matching).trans named)
      subst same
      rw [Option.some.inj (located.symm.trans stored)] at scanned
      exact scanned_active scanned inactive
  · exact lots.inactive

/-- A lot that fails before its activation: the sample run without activation. -/
theorem failed_lots_never_scannable_sample :
    NeverScannable .sample (Sample.state (Sample.issuing ++ [Sample.defective])) := by
  apply failed_lots_never_scannable
  have uninspected : ∀ request ∈ Sample.issuing, ∀ db, ¬ FailsActive request db := by
    simp [Sample.issuing, Sample.paying, Sample.asking, FailsActive]
  have issued : ReflTransGen (SoundStep .sample) Db.empty (Sample.state Sample.issuing) := by
    generalize Sample.issuing = requests at uninspected
    induction requests using List.reverseRecOn with
    | nil => exact ReflTransGen.refl
    | append_singleton requests last inductionHypothesis =>
      rw [Sample.state_append]
      refine (inductionHypothesis fun request member =>
        uninspected request (List.mem_append_left _ member)).tail ?_
      exact ⟨_, last, uninspected last (by simp) _, rfl⟩
  have inactive : ∀ stamp ∈ (Sample.state Sample.issuing).stamps, stamp.status ≠ .active := by
    intro stamp member active
    have issued := of_decide_eq_true (List.all_eq_true.mp Sample.issuing_ready.2.2 stamp member)
    cases active.symm.trans issued
  rw [Sample.state_append]
  refine issued.tail ⟨_, Sample.defective, ?_, rfl⟩
  rintro ⟨_, _, _, active⟩
  exact active (fun stamp member _ => inactive stamp member)

/-- A lot that fails after its activation: the check of its first stamp still
answers 'active'. -/
theorem failed_lot_scanned :
    Reachable .sample (Sample.state (Sample.activating ++ [Sample.defective])) ∧
      ¬ NeverScannable .sample (Sample.state (Sample.activating ++ [Sample.defective])) := by
  refine ⟨Sample.state_reachable _, ?_⟩
  generalize reached : Sample.state (Sample.activating ++ [Sample.defective]) = db
  have facts : (db.inspections.any (fun row => decide (row.batchId = 0 ∧ row.result = .fail)) &&
      db.stamps.all (fun stamp => decide (stamp.batchId = 0)) &&
      match Verify.verifyStamp .sample Sample.occasion Sample.precheck Sample.serial db with
      | .ok answer => decide (answer.1.outcome = .active)
      | .error _ => false) = true := by
    rw [← reached]
    decide +kernel
  simp only [Bool.and_eq_true, List.any_eq_true, List.all_eq_true, decide_eq_true_eq] at facts
  obtain ⟨⟨⟨row, member, subject, fail⟩, owned⟩, answered⟩ := facts
  intro claimed
  split at answered
  case _ answer verified =>
    obtain ⟨result, after⟩ := answer
    have active : result.outcome = .active := of_decide_eq_true answered
    have presented := Verify.verifyStamp_ok verified
    rw [active] at presented
    cases presented with
    | unmatched _ _ refused => rcases refused with same | same <;> cases same
    | matched parsed found =>
      obtain ⟨located, matching⟩ := Rows.select_some found
      exact (claimed.1 0 ⟨row, member, subject, fail⟩ _ _ located
        (owned _ (List.mem_of_getElem? located)) _ _ _ _ _ _ parsed
        (of_decide_eq_true matching).symm verified).2 active
  case _ => cases answered

end TaxStamps.FailedLots
