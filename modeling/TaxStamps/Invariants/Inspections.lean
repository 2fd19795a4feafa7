import TaxStamps.Domain.Sampling
import TaxStamps.Effects.Stamps

/-!
# Inspections

What an inspection records: the plan of its lot, a count of defectives that the
check of the table accepts, and the verdict of the plan on that count.
-/

namespace TaxStamps.Quality

open Issuance

/-- The row of an inspection carries a plan and the verdict on a count. -/
structure Records (plan : SamplingPlan) (found : Int) (inspection : Inspection) : Prop where
  lotSize : inspection.lotSize = plan.lotSize
  codeLetter : inspection.codeLetter = plan.codeLetter
  sampleSize : inspection.sampleSize = plan.sampleSize
  accept : inspection.accept = plan.accept
  reject : inspection.reject = plan.reject
  defectives : inspection.defectives = found
  result : inspection.result = .pass ↔ found < plan.reject

/-- `ck_inspection_def`. -/
def InspectionDef (inspection : Inspection) : Prop :=
  0 ≤ inspection.defectives ∧ inspection.defectives ≤ inspection.sampleSize

/-- An inspection is recorded under the plan of its batch's quantity. -/
theorem recordInspection_records {occasion : Occasion} {defectives : Int} {inspectorSub : PyStr}
    {batchId : Nat} {locked : StampBatch} {db after : Db} {inspection : Inspection} {plan : SamplingPlan}
    (planned : planForLot locked.quantity = .ok plan) (sized : plan.lotSize = locked.quantity)
    (sound : Sound plan)
    (recorded : recordInspection occasion defectives inspectorSub batchId locked db =
      .ok (inspection, after)) : Records plan defectives inspection ∧ InspectionDef inspection := by
  obtain ⟨_, _, recorded⟩ := Result.bind_ok.mp recorded
  obtain ⟨other, same, recorded⟩ := Result.bind_ok.mp recorded
  obtain rfl : plan = other := Except.ok.inj (planned.symm.trans same)
  obtain ⟨passed, evaluated, recorded⟩ := Result.bind_ok.mp recorded
  obtain ⟨middle, _, recorded⟩ := Result.bind_ok.mp recorded
  have inside : 0 ≤ defectives ∧ defectives ≤ plan.sampleSize := by
    by_contra outside
    obtain ⟨problem, raised⟩ := evaluateSample_raises.mpr outside
    rw [raised] at evaluated
    cases evaluated
  have verdict : passed = decide (defectives < plan.reject) :=
    Except.ok.inj (evaluated.symm.trans (evaluateSample_verdict sound inside.1 inside.2))
  cases passed with
  | true =>
    cases recorded
    have accepted := of_decide_eq_true verdict.symm
    exact ⟨⟨sized.symm, rfl, rfl, rfl, rfl, rfl, fun _ => accepted, fun _ => rfl⟩, inside⟩
  | false =>
    obtain ⟨last, _, recorded⟩ := Result.bind_ok.mp recorded
    cases recorded
    have rejected := of_decide_eq_false verdict.symm
    refine ⟨⟨sized.symm, rfl, rfl, rfl, rfl, rfl, ?_, fun below => absurd below rejected⟩, inside⟩
    exact fun absurdity => by cases absurdity

/-- Every lot has a plan that is sound and grows with the lot; a count of
defectives is judged by it exactly within the sample, both verdicts are possible,
and what is recorded satisfies the check of the table. -/
theorem sampling_plans {lotSize : Int} (positive : 1 ≤ lotSize) (bounded : lotSize ≤ largestLot) :
    ∃ plan, planForLot lotSize = .ok plan ∧ plan.lotSize = lotSize ∧ Sound plan ∧
      (∀ other larger, lotSize ≤ other → other ≤ largestLot → planForLot other = .ok larger →
        Below plan larger) ∧
      (∀ defectives, (∃ problem, evaluateSample plan defectives = .error problem) ↔
        ¬ (0 ≤ defectives ∧ defectives ≤ plan.sampleSize)) ∧
      (∀ defectives, 0 ≤ defectives → defectives ≤ plan.sampleSize →
        evaluateSample plan defectives = .ok (decide (defectives < plan.reject))) ∧
      (∃ defectives, evaluateSample plan defectives = .ok true) ∧
      (∃ defectives, evaluateSample plan defectives = .ok false) ∧
      ∀ occasion defectives inspectorSub batchId (locked : StampBatch) db inspection after,
        locked.quantity = lotSize →
        recordInspection occasion defectives inspectorSub batchId locked db = .ok (inspection, after) →
        Records plan defectives inspection ∧ InspectionDef inspection := by
  obtain ⟨plan, planned, sized, sound⟩ := planForLot_sound positive bounded
  have reject := sound.reject
  have accept := sound.accept
  have rejectable := sound.rejectable
  refine ⟨plan, planned, sized, sound, ?_, ?_, ?_, ?_, ?_, ?_⟩
  · exact fun other larger smaller below found => planForLot_mono positive smaller below planned found
  · exact fun defectives => evaluateSample_raises
  · exact fun defectives natural within => evaluateSample_verdict sound natural within
  · refine ⟨0, ?_⟩
    rw [evaluateSample_verdict sound le_rfl (by omega), decide_eq_true (by omega)]
  · refine ⟨plan.reject, ?_⟩
    rw [evaluateSample_verdict sound (by omega) rejectable, decide_eq_false (lt_irrefl _)]
  · rintro occasion defectives inspectorSub batchId locked db inspection after rfl recorded
    exact recordInspection_records planned sized sound recorded

/-- The lot of the first code letter with an acceptance above zero. -/
theorem sampling_plans_sample : ∃ plan, planForLot 281 = .ok plan ∧ plan.sampleSize = 50 ∧ Sound plan := by
  obtain ⟨plan, planned, _, sound, _⟩ := @sampling_plans 281 (by decide) (by decide)
  have same : planForLot 281 = .ok ⟨281, py "H", 50, 1, 2, false⟩ := by decide
  obtain rfl := Except.ok.inj (same.symm.trans planned)
  exact ⟨_, planned, rfl, sound⟩

end TaxStamps.Quality
