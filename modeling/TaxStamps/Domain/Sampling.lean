import TaxStamps.Domain.Quality
import TaxStamps.Library.Bands

/-!
# Sampling plans

The three tables fit together: every lot from two units up to 10^15 has one code
letter, the terms of the letters grow along the table, and a plan whose sample
is as large as the lot inspects all of it. The lot of one unit fits in below.
-/

namespace TaxStamps.Quality

/-- The largest lot that the letters cover. -/
def largestLot : Int := 1000000000000000

/-- The terms a code letter leads to: the size of its sample and the numbers of
acceptance and rejection. -/
structure Terms where
  sampleSize : Int
  accept : Int
  reject : Int

/-- The letter whose plan is used. -/
def planLetter (letter : PyStr) : PyStr :=
  if (plansAql065.lookup letter).isSome then letter else py "E"

/-- The terms of a letter, read from the tables. -/
def termsOf (letter : PyStr) : Terms where
  sampleSize := (sampleSizes.lookup (planLetter letter)).getD 0
  accept := ((plansAql065.lookup (planLetter letter)).getD (0, 0)).1
  reject := ((plansAql065.lookup (planLetter letter)).getD (0, 0)).2

/-- What holds of the terms of a row of letters. -/
structure Tabulated (row : Int × Int × PyStr) : Prop where
  sampled : sampleSizes.lookup (planLetter row.2.2) = some (termsOf row.2.2).sampleSize
  planned : plansAql065.lookup (planLetter row.2.2) =
    some ((termsOf row.2.2).accept, (termsOf row.2.2).reject)
  accept : 0 ≤ (termsOf row.2.2).accept
  reject : (termsOf row.2.2).reject = (termsOf row.2.2).accept + 1
  within : (termsOf row.2.2).reject ≤ (termsOf row.2.2).sampleSize
  fits : (termsOf row.2.2).reject ≤ row.1

/-- The terms of an earlier row and of a later one. -/
def Grows (row later : Int × Int × PyStr) : Prop :=
  (termsOf row.2.2).sampleSize ≤ (termsOf later.2.2).sampleSize ∧
    (termsOf row.2.2).accept ≤ (termsOf later.2.2).accept

/-- Growth of a row is decided on its columns. -/
instance : DecidableRel Grows := fun _ _ => inferInstanceAs (Decidable (_ ∧ _))

/-- The code letters cover every lot size. -/
theorem codeLetters_covering :
    Bands.Covering Prod.fst (fun row : Int × Int × PyStr => row.2.1) 2 largestLot codeLetters := by
  simp [codeLetters, Bands.Covering, largestLot]

/-- Larger lots have later code letters. -/
theorem codeLetters_grow : codeLetters.Pairwise Grows := by decide

/-- Every code letter has a plan. -/
theorem codeLetters_tabulated : ∀ row ∈ codeLetters, Tabulated row := by
  have checked : ∀ row ∈ codeLetters,
      sampleSizes.lookup (planLetter row.2.2) = some (termsOf row.2.2).sampleSize ∧
      plansAql065.lookup (planLetter row.2.2) =
        some ((termsOf row.2.2).accept, (termsOf row.2.2).reject) ∧
      0 ≤ (termsOf row.2.2).accept ∧ (termsOf row.2.2).reject = (termsOf row.2.2).accept + 1 ∧
      (termsOf row.2.2).reject ≤ (termsOf row.2.2).sampleSize ∧ (termsOf row.2.2).reject ≤ row.1 := by
    decide
  intro row member
  obtain ⟨sampled, planned, accept, reject, within, fits⟩ := checked row member
  exact ⟨sampled, planned, accept, reject, within, fits⟩

/-- The plan of a row for a lot. -/
def planOf (row : Int × Int × PyStr) (lotSize : Int) : SamplingPlan where
  lotSize := lotSize
  codeLetter := row.2.2
  sampleSize := min lotSize (termsOf row.2.2).sampleSize
  accept := (termsOf row.2.2).accept
  reject := (termsOf row.2.2).reject
  hundredPercent := decide (lotSize ≤ (termsOf row.2.2).sampleSize)

/-- The row of letters that a lot belongs to. -/
def letterRow? (lotSize : Int) : Option (Int × Int × PyStr) :=
  Bands.row? Prod.fst (fun row : Int × Int × PyStr => row.2.1) lotSize codeLetters

/-- A lot of at least two units gets the plan of its row. -/
theorem planForLot_row {lotSize : Int} (several : 2 ≤ lotSize) {row : Int × Int × PyStr}
    (found : letterRow? lotSize = some row) : planForLot lotSize = .ok (planOf row lotSize) := by
  rw [letterRow?, Bands.row?] at found
  have tabulated := codeLetters_tabulated row (List.mem_of_find?_eq_some found)
  have lettered : codeLetterFor lotSize = .ok row.2.2 := by rw [codeLetterFor, found]
  have sampled := tabulated.sampled
  have planned := tabulated.planned
  rw [planLetter] at sampled planned
  rw [planForLot, if_neg (by omega), if_neg (by omega), lettered]
  simp only [Result.ok_bind, entry, planned, sampled, decide_eq_true_eq]
  rfl

/-- What a plan promises about its lot. -/
structure Sound (plan : SamplingPlan) : Prop where
  sampled : 1 ≤ plan.sampleSize ∧ plan.sampleSize ≤ plan.lotSize
  accept : 0 ≤ plan.accept
  reject : plan.reject = plan.accept + 1
  rejectable : plan.reject ≤ plan.sampleSize
  hundredPercent : plan.hundredPercent = true ↔ plan.sampleSize = plan.lotSize

/-- A smaller lot has the smaller sample and accepts no more. -/
def Below (plan larger : SamplingPlan) : Prop :=
  plan.sampleSize ≤ larger.sampleSize ∧ plan.accept ≤ larger.accept

/-- The plan of a tabulated row is sound. -/
theorem planOf_sound {lotSize : Int} {row : Int × Int × PyStr} (tabulated : Tabulated row)
    (above : row.1 ≤ lotSize) : Sound (planOf row lotSize) := by
  have accept := tabulated.accept
  have reject := tabulated.reject
  have within := tabulated.within
  have fits := tabulated.fits
  refine ⟨⟨?_, min_le_left _ _⟩, accept, reject, ?_, ?_⟩
  · exact le_min (by omega) (by omega)
  · exact le_min (fits.trans above) within
  · rw [planOf, decide_eq_true_iff, eq_comm, left_eq_inf]

/-- A lot of at least two units has a row. -/
theorem letterRow_some {lotSize : Int} (several : 2 ≤ lotSize) (bounded : lotSize ≤ largestLot) :
    ∃ row ∈ codeLetters, letterRow? lotSize = some row ∧ row.1 ≤ lotSize := by
  obtain ⟨row, member, found, above, _⟩ := Bands.row_covered codeLetters_covering several bounded
  exact ⟨row, member, found, above⟩

/-- Every lot has a sound plan. -/
theorem planForLot_sound {lotSize : Int} (positive : 1 ≤ lotSize) (bounded : lotSize ≤ largestLot) :
    ∃ plan, planForLot lotSize = .ok plan ∧ plan.lotSize = lotSize ∧ Sound plan := by
  by_cases single : lotSize = 1
  · subst single
    exact ⟨_, rfl, rfl, ⟨by decide, by decide⟩, by decide, by decide, by decide, by decide⟩
  · obtain ⟨row, member, found, above⟩ := letterRow_some (by omega) bounded
    exact ⟨_, planForLot_row (by omega) found, rfl, planOf_sound (codeLetters_tabulated row member) above⟩

/-- A plan of a smaller lot is no larger. -/
theorem planOf_below {lotSize other : Int} (smaller : lotSize ≤ other) {row later : Int × Int × PyStr}
    (ordered : row = later ∨ Grows row later) : Below (planOf row lotSize) (planOf later other) := by
  rcases ordered with rfl | grows
  · exact ⟨min_le_min_right _ smaller, le_rfl⟩
  · exact ⟨min_le_min smaller grows.1, grows.2⟩

/-- The plans grow with the lots. -/
theorem planForLot_mono {lotSize other : Int} (positive : 1 ≤ lotSize) (smaller : lotSize ≤ other)
    (bounded : other ≤ largestLot) {plan larger : SamplingPlan} (planned : planForLot lotSize = .ok plan)
    (plannedLarger : planForLot other = .ok larger) : Below plan larger := by
  by_cases single : lotSize = 1
  · subst single
    obtain ⟨sound, same, _, promise⟩ := planForLot_sound smaller bounded
    obtain rfl := Except.ok.inj (same.symm.trans plannedLarger)
    obtain rfl := Except.ok.inj planned
    exact ⟨promise.sampled.1, promise.accept⟩
  · obtain ⟨row, _, found, _⟩ := @letterRow_some lotSize (by omega) (by omega)
    obtain ⟨later, _, foundLater, _⟩ := @letterRow_some other (by omega) bounded
    obtain rfl := Except.ok.inj ((planForLot_row (by omega) found).symm.trans planned)
    obtain rfl := Except.ok.inj ((planForLot_row (by omega) foundLater).symm.trans plannedLarger)
    exact planOf_below smaller (Bands.row_mono codeLetters_covering codeLetters_grow smaller found foundLater)

/-- A sample is refused exactly outside its size. -/
theorem evaluateSample_raises {plan : SamplingPlan} {defectives : Int} :
    (∃ problem, evaluateSample plan defectives = .error problem) ↔
      ¬ (0 ≤ defectives ∧ defectives ≤ plan.sampleSize) := by
  unfold evaluateSample
  split
  case isTrue negative => exact ⟨fun _ => by omega, fun _ => ⟨_, rfl⟩⟩
  case isFalse natural =>
    split
    case isTrue beyond => exact ⟨fun _ => by omega, fun _ => ⟨_, rfl⟩⟩
    case isFalse within =>
      constructor
      · rintro ⟨problem, absurdity⟩
        cases absurdity
      · intro outside
        omega

/-- A sample is accepted below the number of rejection. -/
theorem evaluateSample_verdict {plan : SamplingPlan} (sound : Sound plan) {defectives : Int}
    (natural : 0 ≤ defectives) (within : defectives ≤ plan.sampleSize) :
    evaluateSample plan defectives = .ok (decide (defectives < plan.reject)) := by
  have reject := sound.reject
  rw [evaluateSample, if_neg (by omega), if_neg (by omega), Except.ok.injEq, decide_eq_decide]
  omega

end TaxStamps.Quality
