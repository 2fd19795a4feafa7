import TaxStamps.Api.Sample
import TaxStamps.Domain.Headings
import TaxStamps.Effects.Flow
import TaxStamps.Library.Rounding

/-!
# Assessed duty

What `create_assessment` computes from the lines of a declaration is a sum of one
amount a line: the specific duty, exact, and the ad valorem duty, rounded half up.
So the total is exact up to one half kobo for each ad valorem line, it grows with
every quantity and value, and neither the order of the lines nor the order of the
tariff's rows enters. A good that has a category but no rate is left out of it.
-/

namespace TaxStamps.Duty

open Assessments Tariff

/-- What an assessment keeps of the loop: the duty, the number of stamps and the
approvals of its risk tier. -/
structure Totals where
  duty : Int
  stamps : Int
  approvals : Int

/-- The totals of a computation. -/
def totalsOf (computed : Computed) : Totals :=
  ⟨computed.total, computed.stamps, (riskTierFor computed.total).2⟩

/-- The totals of the lines under a table of any rows. -/
def totalsIn (table : List TariffRate) (env : Env) (on : Date) (lines : List DeclarationLine) :
    Result Totals := do
  let computed ← assessLinesIn table env on 0 lines ⟨0, 0, []⟩
  .ok (totalsOf computed)

/-- The totals of the lines under the tariff of the service. -/
def totals (env : Env) (on : Date) (lines : List DeclarationLine) : Result Totals := do
  let computed ← assessLines env on 0 lines ⟨0, 0, []⟩
  .ok (totalsOf computed)

/-- The duty of a line, the ad valorem part rounded. -/
def dutyOf (tables : Unicode) (on : Date) (line : DeclarationLine) : Int :=
  match rateFor tables line.hsCode on with
  | none => 0
  | some rate => rate.specificKobo * line.quantity +
      Rounding.halfUp 10000 (line.customsValueKobo * rate.adValoremBp)

/-- The duty of a line before rounding. -/
def exactDuty (tables : Unicode) (on : Date) (line : DeclarationLine) : ℚ :=
  match rateFor tables line.hsCode on with
  | none => 0
  | some rate => rate.specificKobo * line.quantity +
      (line.customsValueKobo * rate.adValoremBp : ℚ) / 10000

/-- The stamps of a line that is covered. -/
def stampsOf (tables : Unicode) (on : Date) (line : DeclarationLine) : Int :=
  match rateFor tables line.hsCode on with
  | none => 0
  | some _ => line.stampsRequired

/-- The line is covered by a rate with an ad valorem part. -/
def adValorem (tables : Unicode) (on : Date) (line : DeclarationLine) : Bool :=
  match rateFor tables line.hsCode on with
  | none => false
  | some rate => decide (0 < rate.adValoremBp)

/-- The amounts of a line are natural numbers, as the tables keep them. -/
structure NonNegative (line : DeclarationLine) : Prop where
  quantity : 0 ≤ line.quantity
  customsValue : 0 ≤ line.customsValueKobo

/-- The same good with a larger quantity or customs value. -/
structure Raised (line raised : DeclarationLine) : Prop where
  hsCode : raised.hsCode = line.hsCode
  quantity : line.quantity ≤ raised.quantity
  customsValue : line.customsValueKobo ≤ raised.customsValueKobo

/-- The line's quantity and value divided among lines of the same good. -/
structure Divided (line : DeclarationLine) (parts : List DeclarationLine) : Prop where
  hsCode : ∀ part ∈ parts, part.hsCode = line.hsCode
  valid : ∀ part ∈ parts, NonNegative part
  quantity : (parts.map DeclarationLine.quantity).sum = line.quantity
  customsValue : (parts.map DeclarationLine.customsValueKobo).sum = line.customsValueKobo

section Lines

variable {env : Env} {tables : Unicode} {on : Date} {line raised : DeclarationLine}
  {lines parts : List DeclarationLine} {table : List TariffRate}

/-- No rate of the tariff is negative. -/
theorem rate_nonnegative {hsCode : PyStr} {rate : TariffRate}
    (found : rateFor tables hsCode on = some rate) : 0 ≤ rate.specificKobo ∧ 0 ≤ rate.adValoremBp := by
  have each : ∀ rate ∈ tariffTable, 0 ≤ rate.specificKobo ∧ 0 ≤ rate.adValoremBp := by decide
  exact each rate ((rateIn_iff tariffTable_exclusive).mp found).1

/-- The pass for a line that is not negative adds its duty and its stamps. -/
theorem assessLine_totals {computed : Computed} {assessmentId : Nat} (valid : NonNegative line) :
    ∃ listed, assessLine env on assessmentId computed line =
      .ok ⟨computed.total + dutyOf env.unicode on line,
        computed.stamps + stampsOf env.unicode on line, listed⟩ := by
  have quantity := not_lt.mpr valid.quantity
  have value := not_lt.mpr valid.customsValue
  rw [assessLine, assessLineIn, computeLineDutyIn, if_neg quantity, if_neg value, ← rateFor]
  cases found : rateFor env.unicode line.hsCode on with
  | none =>
    refine ⟨computed.lines, ?_⟩
    simp only [dutyOf, stampsOf, found, add_zero]
    rfl
  | some rate =>
    have bp := not_lt.mpr (rate_nonnegative found).2
    apply Exists.intro
    simp only [adValoremKobo, if_neg value, if_neg bp, dutyOf, stampsOf, found]
    rfl

/-- The loop over lines that are not negative adds up their duties and stamps. -/
theorem assessLines_totals {computed : Computed} {assessmentId : Nat}
    (valid : ∀ line ∈ lines, NonNegative line) :
    ∃ listed, assessLines env on assessmentId lines computed =
      .ok ⟨computed.total + (lines.map (dutyOf env.unicode on)).sum,
        computed.stamps + (lines.map (stampsOf env.unicode on)).sum, listed⟩ := by
  induction lines generalizing computed with
  | nil => exact ⟨computed.lines, by simp only [List.map_nil, List.sum_nil, add_zero]; rfl⟩
  | cons line rest inductionHypothesis =>
    obtain ⟨listed, first⟩ := @assessLine_totals env on line computed assessmentId
      (valid line List.mem_cons_self)
    obtain ⟨all, later⟩ := @inductionHypothesis
      ⟨computed.total + dutyOf env.unicode on line,
        computed.stamps + stampsOf env.unicode on line, listed⟩
      (fun other member => valid other (List.mem_cons_of_mem _ member))
    refine ⟨all, ?_⟩
    have step : assessLines env on assessmentId (line :: rest) computed =
        assessLine env on assessmentId computed line >>= assessLines env on assessmentId rest := rfl
    rw [step, first, Result.ok_bind, later]
    simp only [List.map_cons, List.sum_cons, add_assoc]

/-- The totals of lines that are not negative. -/
theorem totals_eq (valid : ∀ line ∈ lines, NonNegative line) :
    totals env on lines =
      .ok ⟨(lines.map (dutyOf env.unicode on)).sum, (lines.map (stampsOf env.unicode on)).sum,
        (riskTierFor (lines.map (dutyOf env.unicode on)).sum).2⟩ := by
  obtain ⟨listed, computed⟩ := @assessLines_totals env on lines ⟨0, 0, []⟩ 0 valid
  rw [totals, computed, Result.ok_bind, totalsOf]
  simp only [zero_add]

/-- Rounding moves the duty of a line by at most one half, and only where it has an
ad valorem part. -/
theorem duty_error : |(dutyOf tables on line : ℚ) - exactDuty tables on line| ≤
    if adValorem tables on line then 1 / 2 else 0 := by
  unfold dutyOf exactDuty adValorem
  cases found : rateFor tables line.hsCode on with
  | none => simp
  | some rate =>
    simp only [decide_eq_true_eq]
    push_cast
    rw [add_sub_add_left_eq_sub]
    by_cases positive : 0 < rate.adValoremBp
    · rw [if_pos positive]
      have error := @Rounding.halfUp_error 10000 (line.customsValueKobo * rate.adValoremBp)
        (by decide) (by decide)
      push_cast at error
      exact error
    · have zero : rate.adValoremBp = 0 := le_antisymm (not_lt.mp positive) (rate_nonnegative found).2
      rw [if_neg positive, zero, mul_zero, Rounding.halfUp_zero (by decide)]
      simp

/-- The duty of a line is at most half a kobo off. -/
theorem duty_error_half : |(dutyOf tables on line : ℚ) - exactDuty tables on line| ≤ 1 / 2 := by
  refine le_trans duty_error ?_
  split
  · exact le_rfl
  · norm_num

/-- The error of the total is half a kobo for each ad valorem line. -/
theorem total_error : |(((lines.map (dutyOf tables on)).sum : Int) : ℚ) -
    (lines.map (exactDuty tables on)).sum| ≤ (lines.countP (adValorem tables on) : ℚ) / 2 := by
  have counted : (lines.map (fun line => if adValorem tables on line then (1 / 2 : ℚ) else 0)).sum =
      (lines.countP (adValorem tables on) : ℚ) / 2 := by
    induction lines with
    | nil => simp
    | cons line rest inductionHypothesis =>
      rw [List.map_cons, List.sum_cons, inductionHypothesis, List.countP_cons]
      by_cases covered : adValorem tables on line
      · simp only [covered, if_true]
        push_cast
        ring
      · simp [covered]
  rw [← counted]
  exact Rounding.sum_error (fun line _ => duty_error)

/-- A raised line does not cost less. -/
theorem duty_mono (larger : Raised line raised) : dutyOf tables on line ≤ dutyOf tables on raised := by
  unfold dutyOf
  rw [larger.hsCode]
  cases found : rateFor tables line.hsCode on with
  | none => exact le_rfl
  | some rate =>
    have rates := rate_nonnegative found
    apply add_le_add
    · exact mul_le_mul_of_nonneg_left larger.quantity rates.1
    · exact Rounding.halfUp_mono (by decide) (mul_le_mul_of_nonneg_right larger.customsValue rates.2)

/-- Raised lines do not cost less in total. -/
theorem total_mono {raisedLines : List DeclarationLine} (larger : List.Forall₂ Raised lines raisedLines) :
    (lines.map (dutyOf tables on)).sum ≤ (raisedLines.map (dutyOf tables on)).sum := by
  induction larger with
  | nil => exact le_rfl
  | cons first _ inductionHypothesis =>
    rw [List.map_cons, List.map_cons, List.sum_cons, List.sum_cons]
    exact add_le_add (duty_mono first) inductionHypothesis

/-- Raised lines are as natural as before. -/
theorem raised_valid {raisedLines : List DeclarationLine} (larger : List.Forall₂ Raised lines raisedLines)
    (valid : ∀ line ∈ lines, NonNegative line) : ∀ line ∈ raisedLines, NonNegative line := by
  induction larger with
  | nil => exact fun line member => absurd member List.not_mem_nil
  | cons first _ inductionHypothesis =>
    intro line member
    rcases List.mem_cons.mp member with rfl | later
    · have old := valid _ List.mem_cons_self
      exact ⟨old.quantity.trans first.quantity, old.customsValue.trans first.customsValue⟩
    · exact inductionHypothesis (fun other listed => valid other (List.mem_cons_of_mem _ listed)) line later

/-- A higher duty asks for no fewer approvals. -/
theorem tier_mono {smaller larger : Int} (le : smaller ≤ larger) :
    (riskTierFor smaller).2 ≤ (riskTierFor larger).2 := by
  unfold riskTierFor
  by_cases high : 2500000000 ≤ smaller
  · rw [if_pos high, if_pos (high.trans le)]
  · rw [if_neg high]
    by_cases standard : 100000000 ≤ smaller
    · rw [if_pos standard]
      by_cases above : 2500000000 ≤ larger
      · rw [if_pos above]
        decide
      · rw [if_neg above, if_pos (standard.trans le)]
    · rw [if_neg standard]
      by_cases above : 2500000000 ≤ larger
      · rw [if_pos above]
        decide
      · rw [if_neg above]
        by_cases middle : 100000000 ≤ larger
        · rw [if_pos middle]
          decide
        · rw [if_neg middle]

/-- Before rounding, the parts of a line owe what the line owes. -/
theorem exact_divided (divided : Divided line parts) :
    (parts.map (exactDuty tables on)).sum = exactDuty tables on line := by
  cases found : rateFor tables line.hsCode on with
  | none =>
    have nothing : ∀ part ∈ parts, exactDuty tables on part = 0 := by
      intro part member
      simp only [exactDuty, divided.hsCode part member, found]
    rw [List.map_congr_left nothing]
    simp [exactDuty, found]
  | some rate =>
    have each : ∀ part ∈ parts, exactDuty tables on part =
        rate.specificKobo * part.quantity + (rate.adValoremBp : ℚ) / 10000 * part.customsValueKobo := by
      intro part member
      simp only [exactDuty, divided.hsCode part member, found]
      ring
    have whole : exactDuty tables on line =
        rate.specificKobo * line.quantity + (rate.adValoremBp : ℚ) / 10000 * line.customsValueKobo := by
      simp only [exactDuty, found]
      ring
    rw [List.map_congr_left each, whole, ← divided.quantity, ← divided.customsValue]
    clear divided each whole
    induction parts with
    | nil => simp
    | cons part rest inductionHypothesis =>
      simp only [List.map_cons, List.sum_cons, inductionHypothesis]
      push_cast
      ring

/-- Dividing a line into parts moves the total by at most one half for each part
and one half for the line. -/
theorem divided_error (divided : Divided line parts) :
    |(((parts.map (dutyOf tables on)).sum : Int) : ℚ) - dutyOf tables on line| ≤
      ((parts.length : ℚ) + 1) / 2 := by
  have apart : |(((parts.map (dutyOf tables on)).sum : Int) : ℚ) -
      (parts.map (exactDuty tables on)).sum| ≤ (parts.map (fun _ => (1 / 2 : ℚ))).sum :=
    Rounding.sum_error (fun part _ => duty_error_half)
  have whole : |(dutyOf tables on line : ℚ) - exactDuty tables on line| ≤ 1 / 2 := duty_error_half
  rw [exact_divided divided, List.map_const', List.sum_replicate, nsmul_eq_mul] at apart
  calc |(((parts.map (dutyOf tables on)).sum : Int) : ℚ) - dutyOf tables on line|
      ≤ |(((parts.map (dutyOf tables on)).sum : Int) : ℚ) - exactDuty tables on line| +
          |exactDuty tables on line - dutyOf tables on line| := abs_sub_le _ _ _
    _ ≤ parts.length * (1 / 2) + 1 / 2 := add_le_add apart (by rw [abs_sub_comm]; exact whole)
    _ = ((parts.length : ℚ) + 1) / 2 := by ring

/-- The order of the tariff's rows does not enter the duty of a line. -/
theorem computeLineDutyIn_perm (reordered : table.Perm tariffTable) {hsCode : PyStr}
    {quantity customsValueKobo : Int} :
    computeLineDutyIn table tables hsCode quantity customsValueKobo on =
      computeLineDuty tables hsCode quantity customsValueKobo on := by
  rw [computeLineDuty, computeLineDutyIn, computeLineDutyIn, rateIn_perm reordered]

/-- The order of the tariff's rows does not enter the loop. -/
theorem assessLinesIn_perm (reordered : table.Perm tariffTable) {assessmentId : Nat} {computed : Computed} :
    assessLinesIn table env on assessmentId lines computed =
      assessLines env on assessmentId lines computed := by
  rw [assessLines]
  induction lines generalizing computed with
  | nil => rfl
  | cons line rest inductionHypothesis =>
    have same : assessLineIn table env on assessmentId computed line =
        assessLineIn tariffTable env on assessmentId computed line := by
      rw [assessLineIn, assessLineIn, computeLineDutyIn_perm reordered]
      rfl
    rw [assessLinesIn, assessLinesIn, same]
    cases assessLineIn tariffTable env on assessmentId computed line with
    | error error => rfl
    | ok middle => exact inductionHypothesis

end Lines

section Assessments

variable {env : Env} {on : Date} {lines : List DeclarationLine}

/-- The order of the tariff's rows does not matter. -/
theorem totalsIn_perm {table : List TariffRate} (reordered : table.Perm tariffTable) :
    totalsIn table env on lines = totals env on lines := by
  rw [totalsIn, totals, assessLinesIn_perm reordered]

/-- An assessment made under a new key records the totals of the lines of its
declaration on the day it was made. -/
theorem createAssessment_totals {occasion : Occasion} {declarationId id : Nat}
    {submittedBy idempotencyKey : PyStr} {db after : Db}
    (valid : ∀ line ∈ linesOf declarationId db.declarationLines, NonNegative line)
    (fresh : Rows.select (fun row => decide (row.idempotencyKey = idempotencyKey)) db.assessments = none)
    (created : createAssessment env occasion declarationId submittedBy idempotencyKey db =
      .ok (id, after)) :
    ∃ assessment, after.assessments[id]? = some assessment ∧
      totals env (Datetime.date occasion.time) (linesOf declarationId db.declarationLines) =
        .ok ⟨assessment.totalDutyKobo, assessment.stampsRequired, assessment.approvalsRequired⟩ := by
  obtain ⟨listed, loop⟩ := @assessLines_totals env (Datetime.date occasion.time)
    (linesOf declarationId db.declarationLines) ⟨0, 0, []⟩ db.assessments.length valid
  have unheld : heldUnder idempotencyKey db = none := fresh
  unfold createAssessment at created
  rw [unheld] at created
  obtain ⟨_, _, created⟩ := Result.bind_ok.mp created
  obtain ⟨computed, assessed, created⟩ := Result.bind_ok.mp created
  obtain ⟨_, _, created⟩ := Result.bind_ok.mp created
  obtain ⟨middle, inserted, created⟩ := Result.bind_ok.mp created
  obtain ⟨last, rows, created⟩ := Result.bind_ok.mp created
  obtain ⟨rfl, rfl⟩ := Prod.mk.inj (Except.ok.inj created)
  obtain ⟨_, rfl⟩ := Db.insertAssessment_ok inserted
  obtain rfl := insertLines_ok rows
  obtain rfl := Except.ok.inj (loop.symm.trans assessed)
  refine ⟨_, List.getElem?_concat_length, ?_⟩
  rw [totals_eq valid]
  simp only [zero_add]

/-- The assessed duty is exact up to one half kobo for each ad valorem line, it
never falls when a quantity or a value rises, dividing a line moves it by at most
half a kobo for each part and for the line, and no order enters it. -/
theorem assessed_duty (valid : ∀ line ∈ lines, NonNegative line) :
    ∃ assessed, totals env on lines = .ok assessed ∧
      (∀ (occasion : Occasion) (declarationId id : Nat) (submittedBy idempotencyKey : PyStr)
        (db after : Db), Datetime.date occasion.time = on →
        linesOf declarationId db.declarationLines = lines →
        Rows.select (fun row => decide (row.idempotencyKey = idempotencyKey)) db.assessments = none →
        createAssessment env occasion declarationId submittedBy idempotencyKey db = .ok (id, after) →
        ∃ assessment, after.assessments[id]? = some assessment ∧
          assessed =
            ⟨assessment.totalDutyKobo, assessment.stampsRequired, assessment.approvalsRequired⟩) ∧
      |(assessed.duty : ℚ) - (lines.map (exactDuty env.unicode on)).sum| ≤
        (lines.countP (adValorem env.unicode on) : ℚ) / 2 ∧
      (∀ raisedLines, List.Forall₂ Raised lines raisedLines →
        ∃ more, totals env on raisedLines = .ok more ∧ assessed.duty ≤ more.duty ∧
          assessed.approvals ≤ more.approvals) ∧
      (∀ front line back parts, lines = front ++ line :: back → Divided line parts →
        ∃ divided, totals env on (front ++ parts ++ back) = .ok divided ∧
          |(divided.duty : ℚ) - assessed.duty| ≤ ((parts.length : ℚ) + 1) / 2) ∧
      (∀ reordered, reordered.Perm lines → totals env on reordered = .ok assessed) ∧
      ∀ table, table.Perm tariffTable → totalsIn table env on lines = .ok assessed := by
  refine ⟨_, totals_eq valid, ?_, total_error, ?_, ?_, ?_, ?_⟩
  · rintro occasion declarationId id submittedBy idempotencyKey db after rfl rfl fresh created
    obtain ⟨assessment, stored, same⟩ := createAssessment_totals valid fresh created
    exact ⟨assessment, stored, Except.ok.inj ((totals_eq valid).symm.trans same)⟩
  · intro raisedLines larger
    exact ⟨_, totals_eq (raised_valid larger valid), total_mono larger, tier_mono (total_mono larger)⟩
  · rintro front line back parts rfl divided
    have partsValid : ∀ line ∈ front ++ parts ++ back, NonNegative line := by
      intro other member
      rcases List.mem_append.mp member with early | late
      · rcases List.mem_append.mp early with first | part
        · exact valid other (List.mem_append_left _ first)
        · exact divided.valid other part
      · exact valid other (List.mem_append_right _ (List.mem_cons_of_mem _ late))
    refine ⟨_, totals_eq partsValid, ?_⟩
    simp only [List.map_append, List.map_cons, List.sum_append, List.sum_cons]
    have error := @divided_error env.unicode on line parts divided
    calc |_| = |(((parts.map (dutyOf env.unicode on)).sum : Int) : ℚ) - dutyOf env.unicode on line| := by
          congr 1
          push_cast
          ring
      _ ≤ _ := error
  · intro reordered permuted
    have reorderedValid : ∀ line ∈ reordered, NonNegative line :=
      fun line member => valid line (permuted.mem_iff.mp member)
    rw [totals_eq reorderedValid, (permuted.map (dutyOf env.unicode on)).sum_eq,
      (permuted.map (stampsOf env.unicode on)).sum_eq]
  · intro table reordered
    rw [totalsIn_perm reordered, totals_eq valid]

/-- A line of spirits and a line of cigarettes. -/
def sampleLines : List DeclarationLine :=
  [⟨0, py "2208.30", [], 3, py "LITRE", 5, 1⟩, ⟨0, py "2402.20", [], 10, py "STICK", 1000, 2⟩]

/-- The duty of two lines, one of them ad valorem, is at most half a kobo off. -/
theorem assessed_duty_sample : ∃ assessed,
    totals .sample ⟨2026, 8, 1⟩ sampleLines = .ok assessed ∧
      |(assessed.duty : ℚ) - (sampleLines.map (exactDuty Env.sample.unicode ⟨2026, 8, 1⟩)).sum| ≤
        (sampleLines.countP (adValorem Env.sample.unicode ⟨2026, 8, 1⟩) : ℚ) / 2 := by
  have valid : ∀ line ∈ sampleLines, NonNegative line := by
    simp only [sampleLines, List.mem_cons, List.not_mem_nil, or_false, forall_eq_or_imp, forall_eq]
    exact ⟨⟨by decide, by decide⟩, ⟨by decide, by decide⟩⟩
  obtain ⟨assessed, computed, _, error, _⟩ := @assessed_duty .sample ⟨2026, 8, 1⟩ sampleLines valid
  exact ⟨assessed, computed, error⟩

end Assessments

section Classification

/-- The classification of a code and its rate on a date agree: both are absent or
both name one category, and the loop of an assessment passes no line by whose code
is classified. -/
structure Agree (env : Env) (hsCode : PyStr) (on : Date) : Prop where
  absent : categoryForHs env.unicode hsCode = none ↔ rateFor env.unicode hsCode on = none
  category : ∀ rate, rateFor env.unicode hsCode on = some rate →
    categoryForHs env.unicode hsCode = some rate.category
  assessed : ∀ (line : DeclarationLine) (assessmentId : Nat) (computed : Computed),
    line.hsCode = hsCode → categoryForHs env.unicode hsCode ≠ none →
    assessLine env on assessmentId computed line ≠ .ok computed

variable {env : Env} {hsCode : PyStr} {on : Date}

/-- A line with a rate is refused or listed. -/
theorem assessLine_lists {line : DeclarationLine} {assessmentId : Nat} {computed : Computed}
    {rate : TariffRate} (found : rateFor env.unicode line.hsCode on = some rate) :
    assessLine env on assessmentId computed line ≠ .ok computed := by
  intro passed
  obtain ⟨duty, computes, passed⟩ := Result.bind_ok.mp passed
  cases duty with
  | some duty =>
    have lines := congrArg (fun computed => computed.lines.length) (Except.ok.inj passed)
    simp at lines
  | none =>
    rw [computeLineDutyIn, ← rateFor, found] at computes
    split at computes
    · cases computes
    · split at computes
      · cases computes
      · obtain ⟨_, _, stated⟩ := Result.bind_ok.mp computes
        cases stated

/-- A code under no heading has no rate on any date. -/
theorem rate_unlisted (unlisted : ∀ pair ∈ headings, ¬ pair.1 <+: hsDigits env.unicode hsCode) :
    rateFor env.unicode hsCode on = none := by
  cases found : rateFor env.unicode hsCode on with
  | none => rfl
  | some rate =>
    have heading := heading_of_rate found
    exact absurd heading.2 (unlisted _ heading.1)

/-- From June 2023 on the classification and the tariff agree on a code, unless it
belongs to chapter 22 or 24 and to none of their priced headings. -/
theorem classification_agrees_iff (calendar : on.isCalendar = true)
    (started : (⟨2023, 6, 1⟩ : Date) ≤ on) :
    Agree env hsCode on ↔ ¬ Unpriced (hsDigits env.unicode hsCode) := by
  constructor
  · intro agree unpriced
    have unlisted := unpriced.unlisted
    have unrated : rateFor env.unicode hsCode on = none := rate_unlisted unlisted
    exact (category_absent_iff unlisted).mp (agree.absent.mpr unrated) unpriced
  · intro priced
    by_cases listed : ∃ pair ∈ headings, pair.1 <+: hsDigits env.unicode hsCode
    · obtain ⟨⟨heading, category⟩, member, starts⟩ := listed
      have classified : categoryForHs env.unicode hsCode = some category :=
        category_of_heading member starts
      obtain ⟨rate, found, named⟩ := rate_of_heading calendar started member starts
      constructor
      · simp [classified, found]
      · intro other same
        rw [classified, ← named, Option.some.inj (found.symm.trans same)]
      · rintro line assessmentId computed rfl _
        exact assessLine_lists found
    · have unlisted : ∀ pair ∈ headings, ¬ pair.1 <+: hsDigits env.unicode hsCode :=
        fun pair member starts => listed ⟨pair, member, starts⟩
      have unclassified := (category_absent_iff unlisted).mpr priced
      have unrated : rateFor env.unicode hsCode on = none := rate_unlisted unlisted
      constructor
      · simp [unclassified, unrated]
      · intro rate found
        rw [unrated] at found
        cases found
      · exact fun _ _ _ _ classified => absurd unclassified classified

/-- Spirits are classified and rated alike. -/
theorem classification_agrees_iff_sample :
    Agree .sample (py "2208.30") (Datetime.date Api.Sample.occasion.time) :=
  (classification_agrees_iff (Date.ofDayNumber_calendar _) (by decide)).mpr (by
    have digits : hsDigits Env.sample.unicode (py "2208.30") = py "220830" := by decide
    rw [digits, Unpriced]
    decide)

/-- Unmanufactured tobacco is classified as tobacco and has no rate. -/
theorem leaf_tobacco_unpriced : ¬ Agree .sample (py "2401.10") ⟨2026, 8, 1⟩ := by
  intro agree
  have unrated : rateFor Env.sample.unicode (py "2401.10") ⟨2026, 8, 1⟩ = none := by decide
  have classified : categoryForHs Env.sample.unicode (py "2401.10") ≠ none := by decide
  exact classified (agree.absent.mpr unrated)

end Classification

end TaxStamps.Duty
