import TaxStamps.Crypto.Floats
import TaxStamps.Crypto.Numerals

/-!
# The notation of a number

ECMAScript's notation of a positive number is a relation between its digits, the
place of the point and a text. The canonical text of a float is the one this
relation gives for the shortest digits, and it is again a decimal text of the
same number.
-/

namespace TaxStamps.Jcs

/-- Digits without a zero at either end, which denote a number with their exponent. -/
structure Shortest (digits : PyStr) (exp10 : Int) (value : ℚ) : Prop where
  numeric : digits.all digitCode = true
  first : ∃ code rest, digits = code :: rest ∧ isZero code = false
  last : ∃ rest code, digits = rest ++ [code] ∧ isZero code = false
  denotes : (digitsNat digits : ℚ) * (10 : ℚ) ^ exp10 = value

/-- An exponent with its sign. -/
def exponentText (exponent : Int) : PyStr :=
  .scalar (if exponent < 0 then '-' else '+') :: PyStr.decimal exponent.natAbs

/-- `Number::toString` of the number `0.digits * 10^n`. -/
inductive EcmaText (digits : PyStr) (n : Int) : PyStr → Prop
  | integer (long : digits.length ≤ n) (bounded : n ≤ 21) :
    EcmaText digits n (digits ++ List.replicate (n - digits.length).toNat (.scalar '0'))
  | fraction (positive : 0 < n) (inside : n < digits.length) (bounded : n ≤ 21) :
    EcmaText digits n (digits.take n.toNat ++ .scalar '.' :: digits.drop n.toNat)
  | small (bounded : -6 < n) (negative : n ≤ 0) :
    EcmaText digits n
      (.scalar '0' :: .scalar '.' :: (List.replicate (-n).toNat (.scalar '0') ++ digits))
  | single (distant : n ≤ -6 ∨ 21 < n) (one : digits.length = 1) :
    EcmaText digits n (digits ++ .scalar 'e' :: exponentText (n - 1))
  | exponent (distant : n ≤ -6 ∨ 21 < n) (several : 1 < digits.length) :
    EcmaText digits n
      (digits.take 1 ++ .scalar '.' :: digits.drop 1 ++ .scalar 'e' :: exponentText (n - 1))

/-- How a number is written. -/
inductive Form
  | integer | fixed | exponent
deriving DecidableEq

/-- The notation of a text: with an exponent, with a point, or digits alone. -/
def form (text : PyStr) : Form :=
  if .scalar 'e' ∈ text then .exponent else if .scalar '.' ∈ text then .fixed else .integer

/-- The exponent is written with its sign, a plus included. -/
theorem exponentText_signed (exponent : Int) :
    (if 0 ≤ exponent then [Code.scalar '+'] else []) ++ PyStr.decimalInt exponent =
      exponentText exponent := by
  by_cases negative : exponent < 0
  · rw [if_neg (by omega), PyStr.decimalInt, if_pos negative, exponentText, if_pos negative,
      List.nil_append]
  · rw [if_pos (by omega), PyStr.decimalInt, if_neg negative, exponentText, if_neg negative,
      List.singleton_append]

/-- The code chooses ECMAScript's notation. -/
theorem ecmaText_follows {digits : PyStr} (present : digits ≠ []) (exp10 : Int) :
    EcmaText digits (digits.length + exp10) (ecmaText digits exp10) := by
  have long : 0 < digits.length := List.length_pos_iff.mpr present
  unfold ecmaText
  dsimp only
  split
  case isTrue integer => exact .integer integer.1 integer.2
  case isFalse notInteger =>
    split
    case isTrue fixed => exact .fraction fixed.1 (by omega) fixed.2
    case isFalse notFixed =>
      split
      case isTrue small => exact .small small.1 small.2
      case isFalse notSmall =>
        rw [exponentText_signed]
        by_cases one : (digits.length : Int) = 1
        · rw [if_pos one]
          exact .single (by omega) (by omega)
        · rw [if_neg one]
          exact .exponent (by omega) (by omega)

section Forms

variable {digits text : PyStr} {n : Int}

/-- The form of a text shows where the point of its number lies. -/
theorem EcmaText.form_iff (written : EcmaText digits n text) (present : digits ≠ [])
    (numeric : digits.all digitCode = true) :
    (form text = .integer ↔ digits.length ≤ n ∧ n ≤ 21) ∧
      (form text = .fixed ↔ (0 < n ∧ n < digits.length ∧ n ≤ 21) ∨ (-6 < n ∧ n ≤ 0)) ∧
      (form text = .exponent ↔ ¬ (digits.length ≤ n ∧ n ≤ 21) ∧
        ¬ ((0 < n ∧ n < digits.length ∧ n ≤ 21) ∨ (-6 < n ∧ n ≤ 0))) := by
  have long : 0 < digits.length := List.length_pos_iff.mpr present
  obtain ⟨noPoint, noMark⟩ := digits_absent numeric
  have noMarkTaken : ∀ count, .scalar 'e' ∉ digits.take count := fun count member =>
    noMark (List.mem_of_mem_take member)
  have noMarkDropped : ∀ count, .scalar 'e' ∉ digits.drop count := fun count member =>
    noMark (List.mem_of_mem_drop member)
  have point : Code.scalar 'e' ≠ .scalar '.' := by decide
  have zeroMark : Code.scalar 'e' ≠ .scalar '0' := by decide
  have zeroPoint : Code.scalar '.' ≠ .scalar '0' := by decide
  cases written with
  | integer above bounded =>
    have same : form (digits ++ List.replicate (n - digits.length).toNat (.scalar '0')) = .integer := by
      simp [form, noPoint, noMark, List.mem_replicate, zeroMark, zeroPoint]
    rw [same]
    simp only [reduceCtorEq, true_iff, false_iff]
    omega
  | fraction positive inside bounded =>
    have same : form (digits.take n.toNat ++ .scalar '.' :: digits.drop n.toNat) = .fixed := by
      simp [form, noMarkTaken, noMarkDropped, point]
    rw [same]
    simp only [reduceCtorEq, true_iff, false_iff]
    omega
  | small bounded negative =>
    have same : form (.scalar '0' :: .scalar '.' ::
        (List.replicate (-n).toNat (.scalar '0') ++ digits)) = .fixed := by
      simp [form, noMark, List.mem_replicate, point, zeroMark]
    rw [same]
    simp only [reduceCtorEq, true_iff, false_iff]
    omega
  | single distant one =>
    have same : form (digits ++ .scalar 'e' :: exponentText (n - 1)) = .exponent := by simp [form]
    rw [same]
    simp only [reduceCtorEq, true_iff, false_iff]
    omega
  | exponent distant several =>
    have same : form (digits.take 1 ++ .scalar '.' :: digits.drop 1 ++
        .scalar 'e' :: exponentText (n - 1)) = .exponent := by simp [form]
    rw [same]
    simp only [reduceCtorEq, true_iff, false_iff]
    omega

/-- The digits of a text of digits. -/
def valuesOf (text : PyStr) : List (Fin 10) :=
  text.map (fun code => Fin.ofNat 10 ((Code.digitValue? code).getD 0))

/-- Digits are the text of their values. -/
theorem digits_valuesOf (numeric : text.all digitCode = true) : Decimal.digits (valuesOf text) = text := by
  rw [Decimal.digits, valuesOf, List.map_map]
  refine (List.map_congr_left fun code member => ?_).trans (List.map_id _)
  obtain ⟨value, stated⟩ := Option.isSome_iff_exists.mp (List.all_eq_true.mp numeric code member)
  obtain ⟨rfl, bounded⟩ := digit_spelled stated
  simp only [Function.comp_apply, stated, Option.getD_some, Fin.val_ofNat, Nat.mod_eq_of_lt bounded, id]

/-- Digits have values. -/
theorem valuesOf_present (present : text ≠ []) : valuesOf text ≠ [] := by simpa [valuesOf] using present

/-- Digits with an optional fraction and an optional signed exponent are a
decimal text. -/
theorem numberText_decimal {whole : PyStr} {fraction : Option PyStr} {exponent : Option Int}
    (present : whole ≠ []) (wholeDigits : whole.all digitCode = true)
    (fractionDigits : ∀ part, fraction = some part → part ≠ [] ∧ part.all digitCode = true) :
    ∃ number : Decimal, number.text = numberText whole fraction (exponent.map exponentText) := by
  obtain ⟨values, presentValues, spelled⟩ : ∃ values : Option (List (Fin 10)), values ≠ some [] ∧
      values.map Decimal.digits = fraction := by
    cases fraction with
    | none => exact ⟨none, by simp, rfl⟩
    | some part =>
      obtain ⟨presentPart, numericPart⟩ := fractionDigits part rfl
      exact ⟨some (valuesOf part), by simpa using valuesOf_present presentPart,
        congrArg some (digits_valuesOf numericPart)⟩
  obtain ⟨signed, presentSigned, spelledSigned⟩ : ∃ signed : Option (Bool × List (Fin 10)),
      (∀ negative, signed ≠ some (negative, [])) ∧ signed.map (fun stated =>
        .scalar (if stated.1 then '-' else '+') :: Decimal.digits stated.2) =
        exponent.map exponentText := by
    cases exponent with
    | none => exact ⟨none, by simp, rfl⟩
    | some value =>
      refine ⟨some (decide (value < 0), valuesOf (PyStr.decimal value.natAbs)), ?_, ?_⟩
      · intro negative same
        exact valuesOf_present (decimal_present _) (Prod.ext_iff.mp (Option.some.inj same)).2
      · simp only [Option.map_some, digits_valuesOf (decimal_digits _), decide_eq_true_eq, exponentText]
  exact ⟨⟨valuesOf whole, values, signed, valuesOf_present present, presentValues, presentSigned⟩, by
    rw [repr_form, spelled, spelledSigned, digits_valuesOf wholeDigits]⟩

/-- ECMAScript's notation is a decimal text. -/
theorem EcmaText.decimal (written : EcmaText digits n text) (present : digits ≠ [])
    (numeric : digits.all digitCode = true) : ∃ number : Decimal, number.text = text := by
  have long : 0 < digits.length := List.length_pos_iff.mpr present
  have taken := fun count => digits_sublist (List.take_sublist count digits) numeric
  have dropped := fun count => digits_sublist (List.drop_sublist count digits) numeric
  cases written with
  | integer above bounded =>
    obtain ⟨number, spelled⟩ := @numberText_decimal
      (digits ++ List.replicate (n - digits.length).toNat (.scalar '0')) none none (by simp [present])
      (digits_append numeric (digits_zeros _)) (fun part absurdity => by cases absurdity)
    exact ⟨number, by simpa [numberText, after] using spelled⟩
  | fraction positive inside bounded =>
    obtain ⟨number, spelled⟩ := @numberText_decimal (digits.take n.toNat) (some (digits.drop n.toNat)) none
      (by rw [← List.length_pos_iff, List.length_take]; omega) (taken _) (by
        intro part stated
        obtain rfl := Option.some.inj stated
        exact ⟨by rw [← List.length_pos_iff, List.length_drop]; omega, dropped _⟩)
    exact ⟨number, by simpa [numberText, after] using spelled⟩
  | small bounded negative =>
    obtain ⟨number, spelled⟩ := @numberText_decimal [.scalar '0']
      (some (List.replicate (-n).toNat (.scalar '0') ++ digits)) none (by simp) rfl (by
        intro part stated
        obtain rfl := Option.some.inj stated
        exact ⟨by simp [present], digits_append (digits_zeros _) numeric⟩)
    exact ⟨number, by simpa [numberText, after] using spelled⟩
  | single distant one =>
    obtain ⟨number, spelled⟩ := @numberText_decimal digits none (some (n - 1)) present numeric
      (fun part absurdity => by cases absurdity)
    exact ⟨number, by simpa [numberText, after] using spelled⟩
  | exponent distant several =>
    obtain ⟨number, spelled⟩ := @numberText_decimal (digits.take 1) (some (digits.drop 1)) (some (n - 1))
      (by rw [← List.length_pos_iff, List.length_take]; omega) (taken 1) (by
        intro part stated
        obtain rfl := Option.some.inj stated
        exact ⟨by rw [← List.length_pos_iff, List.length_drop]; omega, dropped 1⟩)
    exact ⟨number, by simpa [numberText, after] using spelled⟩

end Forms

/-- Values that weigh nothing are zeros. -/
theorem natValue_zero {values : List (Fin 10)} (zero : Decimal.natValue values = 0) :
    ∀ value ∈ values, value = 0 := by
  rw [← digitsNat_digits] at zero
  induction values with
  | nil => simp
  | cons head rest inductionHypothesis =>
    rw [Decimal.digits, List.map_cons, digitsNat_cons, Code.digit_value _ head.isLt] at zero
    obtain ⟨headZero, restZero⟩ := Nat.add_eq_zero_iff.mp zero
    have none_ : (head.val : Nat) = 0 := by simpa using headZero
    intro value member
    rcases List.mem_cons.mp member with rfl | member
    · exact Fin.ext none_
    · exact inductionHypothesis restZero value member

/-- A text with a digit other than zero denotes a positive number. -/
theorem magnitude_nonzero {rep : Decimal} (positive : ∃ value ∈ rep.whole ++ rep.fractionDigits, value ≠ 0) :
    rep.magnitude ≠ 0 := by
  obtain ⟨value, member, nonzero⟩ := positive
  rw [Decimal.magnitude]
  refine mul_ne_zero (fun zero => nonzero ?_) (zpow_ne_zero _ (by norm_num))
  exact natValue_zero (by exact_mod_cast zero) value member

/-- The shortest digits have no zero at either end. -/
theorem shortestDigits_shortest {rep : Decimal} (nonzero : rep.magnitude ≠ 0) :
    Shortest (shortestDigits rep.text).1 (shortestDigits rep.text).2 rep.magnitude := by
  obtain ⟨mantissa, odd, spelled, denotes⟩ := shortestDigits_mantissa nonzero
  have positive : mantissa ≠ 0 := by
    rintro rfl
    exact odd (dvd_zero 10)
  obtain ⟨first, rest, begins, leading⟩ := decimal_head positive
  rw [spelled]
  refine ⟨decimal_digits mantissa, ⟨first, rest, begins, leading⟩, ?_, ?_⟩
  · obtain ⟨before, last, ended⟩ : ∃ before last, PyStr.decimal mantissa = before ++ [last] :=
      ⟨_, _, (List.dropLast_append_getLast (decimal_present mantissa)).symm⟩
    refine ⟨before, last, ended, ?_⟩
    by_contra zero
    obtain rfl : last = .scalar '0' := by simpa [isZero] using zero
    apply odd
    rw [← digitsNat_decimal mantissa, ended, digitsNat_append]
    exact ⟨digitsNat before, by
      have empty : digitsNat [Code.scalar '0'] = 0 := rfl
      rw [empty, List.length_singleton, pow_one, Nat.add_zero, mul_comm]⟩
  · rw [digitsNat_decimal, denotes]

/-- The canonical text of a positive number: the shortest digits denote it, and
they are written in ECMAScript's notation, as a decimal text of the same number. -/
theorem numberToString_faithful {rep : Decimal}
    (positive : ∃ value ∈ rep.whole ++ rep.fractionDigits, value ≠ 0) :
    ∃ digits exp10, shortestDigits rep.text = (digits, exp10) ∧ Shortest digits exp10 rep.magnitude ∧
      ∃ text, numberToString (.finite false rep) = .ok text ∧
        numberToString (.finite true rep) = .ok (.scalar '-' :: text) ∧
        (∃ number : Decimal, number.text = text ∧ number.magnitude = rep.magnitude) ∧
        ∀ n : Int, n = digits.length + exp10 →
          (digitsNat digits : ℚ) / 10 ^ digits.length * (10 : ℚ) ^ n = rep.magnitude ∧
          EcmaText digits n text ∧
          (form text = .integer ↔ digits.length ≤ n ∧ n ≤ 21) ∧
          (form text = .fixed ↔ (0 < n ∧ n < digits.length ∧ n ≤ 21) ∨ (-6 < n ∧ n ≤ 0)) ∧
          (form text = .exponent ↔ ¬ (digits.length ≤ n ∧ n ≤ 21) ∧
            ¬ ((0 < n ∧ n < digits.length ∧ n ≤ 21) ∨ (-6 < n ∧ n ≤ 0))) := by
  have nonzero := magnitude_nonzero positive
  have shortest := shortestDigits_shortest nonzero
  generalize pair : shortestDigits rep.text = found at shortest
  obtain ⟨digits, exp10⟩ := found
  dsimp only at shortest
  have present : digits ≠ [] := by
    obtain ⟨code, rest, begins, _⟩ := shortest.first
    rw [begins]
    exact List.cons_ne_nil code rest
  have written := ecmaText_follows present exp10
  refine ⟨digits, exp10, rfl, shortest, ecmaText digits exp10, ?_, ?_, ?_, ?_⟩
  · rw [numberToString, if_neg nonzero, pair]
    rfl
  · rw [numberToString, if_neg nonzero, pair]
    rfl
  · obtain ⟨number, spelled⟩ := written.decimal present shortest.numeric
    refine ⟨number, spelled, ?_⟩
    rw [← textValue_repr, spelled, (ecmaText_denotes present shortest.numeric exp10).value]
    exact shortest.denotes
  · rintro n rfl
    refine ⟨?_, written, written.form_iff present shortest.numeric⟩
    rw [zpow_add₀ (by norm_num), zpow_natCast, ← mul_assoc, div_mul_cancel₀ _ (pow_ne_zero _ (by norm_num))]
    exact shortest.denotes

/-- The double 0.000015, which `repr` writes with an exponent. -/
def fifteenMillionths : Decimal :=
  { Decimal.fixed 1 [] 5 [] with
    exponent := some (true, [0, 5])
    exponent_present := fun negative same => by cases same }

/-- ECMAScript writes it without one. -/
theorem numberToString_sample : fifteenMillionths.text = py "1.5e-05" ∧
    ∃ text, numberToString (.finite false fifteenMillionths) = .ok text ∧ form text = .fixed := by
  obtain ⟨digits, exp10, pair, _, text, written, _, _, each⟩ :=
    @numberToString_faithful fifteenMillionths ⟨1, by decide, by decide⟩
  have known : shortestDigits fifteenMillionths.text = (py "15", -6) := by decide
  obtain ⟨rfl, rfl⟩ := Prod.ext_iff.mp (known.symm.trans pair)
  obtain ⟨_, _, _, fixed, _⟩ := each (-4) (by decide)
  exact ⟨by decide, text, written, fixed.mpr (by decide)⟩

end TaxStamps.Jcs
