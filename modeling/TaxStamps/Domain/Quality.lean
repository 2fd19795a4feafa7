import TaxStamps.Python.Error

/-!
# Acceptance sampling

Single sampling, normal inspection, general level II at AQL 0.65 %. Letters
whose column carries the down arrow use the plan of letter E.
-/

namespace TaxStamps.Quality

/-- `SamplingPlan`. -/
structure SamplingPlan where
  lotSize : Int
  codeLetter : PyStr
  sampleSize : Int
  accept : Int
  reject : Int
  hundredPercent : Bool
deriving DecidableEq

/-- `_CODE_LETTERS`. -/
def codeLetters : List (Int × Int × PyStr) :=
  [(2, 8, py "A"), (9, 15, py "B"), (16, 25, py "C"), (26, 50, py "D"), (51, 90, py "E"),
    (91, 150, py "F"), (151, 280, py "G"), (281, 500, py "H"), (501, 1200, py "J"),
    (1201, 3200, py "K"), (3201, 10000, py "L"), (10001, 35000, py "M"), (35001, 150000, py "N"),
    (150001, 500000, py "P"), (500001, 1000000000000000, py "Q")]

/-- `_SAMPLE_SIZES`. -/
def sampleSizes : List (PyStr × Int) :=
  [(py "A", 2), (py "B", 3), (py "C", 5), (py "D", 8), (py "E", 13), (py "F", 20), (py "G", 32),
    (py "H", 50), (py "J", 80), (py "K", 125), (py "L", 200), (py "M", 315), (py "N", 500),
    (py "P", 800), (py "Q", 1250), (py "R", 2000)]

/-- `_PLANS_AQL_0_65`. -/
def plansAql065 : List (PyStr × Int × Int) :=
  [(py "E", 0, 1), (py "F", 0, 1), (py "G", 0, 1), (py "H", 1, 2), (py "J", 1, 2), (py "K", 2, 3),
    (py "L", 3, 4), (py "M", 5, 6), (py "N", 7, 8), (py "P", 10, 11), (py "Q", 14, 15),
    (py "R", 21, 22)]

/-- `_code_letter_for`. -/
def codeLetterFor (lotSize : Int) : Result PyStr :=
  match codeLetters.find? (fun row => decide (row.1 ≤ lotSize ∧ lotSize ≤ row.2.1)) with
  | some row => .ok row.2.2
  | none => .error (.samplingError
      (py "lot size " ++ PyStr.decimalInt lotSize ++ py " out of tabulated range"))

/-- A dict lookup `table[letter]`. -/
def entry {α : Type} (table : List (PyStr × α)) (letter : PyStr) : Result α :=
  match table.lookup letter with
  | some value => .ok value
  | none => .error .keyError

/-- `plan_for_lot`. -/
def planForLot (lotSize : Int) : Result SamplingPlan :=
  if lotSize < 1 then .error (.samplingError (py "lot size must be a positive integer"))
  else if lotSize = 1 then .ok ⟨1, py "A", 1, 0, 1, true⟩
  else do
    let letter ← codeLetterFor lotSize
    let planLetter := if (plansAql065.lookup letter).isSome then letter else py "E"
    let (accept, reject) ← entry plansAql065 planLetter
    let sampleSize ← entry sampleSizes planLetter
    let hundred := decide (lotSize ≤ sampleSize)
    .ok ⟨lotSize, letter, if hundred then lotSize else sampleSize, accept, reject, hundred⟩

/-- `evaluate_sample`. -/
def evaluateSample (plan : SamplingPlan) (defectives : Int) : Result Bool :=
  if defectives < 0 then .error (.samplingError (py "defectives must be a non-negative integer"))
  else if plan.sampleSize < defectives then
    .error (.samplingError (py "defectives cannot exceed sample size"))
  else .ok (decide (defectives ≤ plan.accept))

example : planForLot 100 = .ok ⟨100, py "F", 20, 0, 1, false⟩ := by decide

end TaxStamps.Quality
