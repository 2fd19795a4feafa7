import TaxStamps.Crypto.JcsNumbers

/-!
# The canonical text of a number

The shortest digits of a nonzero number neither begin nor end with a zero, so
the number determines them, and two floats with one value have one canonical
text however `repr` spells them.
-/

namespace TaxStamps.Jcs

/-- A digit is that of its value. -/
theorem digit_spelled {code : Code} {value : Nat} (digit : Code.digitValue? code = some value) :
    code = Code.digit value ∧ value < 10 := by
  cases code with
  | lone offset => cases digit
  | scalar char =>
    rw [Code.digitValue?] at digit
    split at digit
    case isTrue inside =>
      obtain rfl := Option.some.inj digit
      refine ⟨?_, by omega⟩
      rw [Code.digit, Nat.add_sub_cancel' inside.1, Char.ofNat_toNat]
    case isFalse => cases digit

/-- Digits that do not begin with a zero are the decimal text of a number. -/
theorem digits_decimal {text : PyStr} (digits : text.all digitCode = true) {first : Code} {rest : PyStr}
    (split : text = first :: rest) (leading : isZero first = false) :
    text = PyStr.decimal (digitsNat text) := by
  let values := text.map (fun code => (Code.digitValue? code).getD 0)
  have spelled : ∀ code ∈ text, code = Code.digit ((Code.digitValue? code).getD 0) ∧
      (Code.digitValue? code).getD 0 < 10 := by
    intro code member
    obtain ⟨value, stated⟩ := Option.isSome_iff_exists.mp (List.all_eq_true.mp digits code member)
    rw [stated]
    exact digit_spelled stated
  have restored : values.map Code.digit = text := by
    rw [List.map_map]
    exact (List.map_congr_left fun code member => ((spelled code member).1).symm).trans (List.map_id _)
  have nonzero : ∀ present : values.reverse ≠ [], values.reverse.getLast present ≠ 0 := by
    intro present zero
    rw [List.getLast_reverse] at zero
    subst split
    have here := (spelled first List.mem_cons_self).1
    have headed : (Code.digitValue? first).getD 0 = 0 := zero
    rw [headed] at here
    rw [here] at leading
    exact absurd leading (by decide)
  have bounded : ∀ value ∈ values.reverse, value < 10 := by
    intro value member
    obtain ⟨code, present, rfl⟩ := List.mem_map.mp (List.mem_reverse.mp member)
    exact (spelled code present).2
  have listed : Nat.digits 10 (Nat.ofDigits 10 values.reverse) = values.reverse :=
    Nat.digits_ofDigits 10 (by decide) _ bounded nonzero
  have positive : Nat.ofDigits 10 values.reverse ≠ 0 := by
    intro zero
    rw [zero, Nat.digits_zero] at listed
    have empty : values = [] := List.reverse_eq_nil_iff.mp listed.symm
    rw [empty] at restored
    rw [← restored] at split
    cases split
  have decimal : PyStr.decimal (Nat.ofDigits 10 values.reverse) = text := by
    rw [PyStr.decimal, if_neg positive, listed, List.reverse_reverse, restored]
  have value : digitsNat text = Nat.ofDigits 10 values.reverse := by
    rw [← decimal, digitsNat_decimal]
  rw [value, decimal]

/-- Digits that do not end with a zero are no multiple of ten. -/
theorem digitsNat_last {text : PyStr} (digits : text.all digitCode = true) {last : Code} {rest : PyStr}
    (split : text = rest ++ [last]) (trailing : isZero last = false) : ¬ 10 ∣ digitsNat text := by
  subst split
  rw [List.all_append, Bool.and_eq_true, List.all_cons, Bool.and_eq_true] at digits
  obtain ⟨value, stated⟩ := Option.isSome_iff_exists.mp digits.2.1
  obtain ⟨rfl, bounded⟩ := digit_spelled stated
  have nonzero : value ≠ 0 := by
    rintro rfl
    exact absurd trailing (by decide)
  rw [digitsNat_append, digitsNat_cons, stated]
  have empty : digitsNat [] = 0 := rfl
  rw [empty]
  simp only [Option.getD_some, List.length_nil, List.length_cons, pow_zero, Nat.zero_add, pow_one]
  omega

/-- Stripped digits do not end in zero. -/
theorem rstripZeros_last {text rest : PyStr} {last : Code} (split : rstripZeros text = rest ++ [last]) :
    isZero last = false := by
  have reversed : text.reverse.dropWhile isZero = last :: rest.reverse := by
    rw [← List.reverse_reverse (text.reverse.dropWhile isZero)]
    rw [rstripZeros] at split
    rw [split, List.reverse_append]
    rfl
  by_contra zero
  have kept := List.head_dropWhile_not isZero (by rw [reversed]; simp)
  simp only [reversed, List.head_cons] at kept
  exact zero kept

/-- A number has one mantissa that is no multiple of ten. -/
theorem mantissa_unique {left right : Nat} {leftExp rightExp : Int} (leftOdd : ¬ 10 ∣ left)
    (rightOdd : ¬ 10 ∣ right)
    (same : (left : ℚ) * (10 : ℚ) ^ leftExp = (right : ℚ) * (10 : ℚ) ^ rightExp) :
    left = right ∧ leftExp = rightExp := by
  have below : ∀ {first second : Nat} {low high : Int}, ¬ 10 ∣ first → low ≤ high →
      (first : ℚ) * (10 : ℚ) ^ low = (second : ℚ) * (10 : ℚ) ^ high → first = second ∧ low = high := by
    intro first second low high odd ordered equal
    obtain ⟨gap, rfl⟩ := Int.le.dest ordered
    have scaled : (first : ℚ) = (second : ℚ) * (10 : ℚ) ^ gap := by
      rw [zpow_add₀ (by norm_num), zpow_natCast, mul_comm ((10 : ℚ) ^ low), ← mul_assoc] at equal
      exact mul_right_cancel₀ (zpow_ne_zero _ (by norm_num)) equal
    have natural : first = second * 10 ^ gap := by exact_mod_cast scaled
    cases gap with
    | zero => exact ⟨by simpa using natural, by simp⟩
    | succ gap =>
      refine absurd ⟨second * 10 ^ gap, ?_⟩ odd
      rw [natural, pow_succ]
      ring
  rcases le_total leftExp rightExp with ordered | ordered
  · exact below leftOdd ordered same
  · obtain ⟨equal, exponents⟩ := below rightOdd ordered same.symm
    exact ⟨equal.symm, exponents.symm⟩

/-- Digits stripped on both sides do not start with zero. -/
theorem rstripZeros_first {text rest : PyStr} {first : Code}
    (split : rstripZeros (text.dropWhile isZero) = first :: rest) : isZero first = false := by
  obtain ⟨tail, begun⟩ : ∃ tail, text.dropWhile isZero = first :: tail := by
    have whole := rstripZeros_append (text.dropWhile isZero)
    rw [split, List.cons_append] at whole
    exact ⟨_, whole⟩
  by_contra zero
  have kept := List.head_dropWhile_not isZero (by rw [begun]; simp)
  simp only [begun, List.head_cons] at kept
  exact zero kept

/-- The shortest digits of a nonzero number are those of its mantissa. -/
theorem shortestDigits_mantissa {rep : Decimal} (nonzero : rep.magnitude ≠ 0) :
    ∃ mantissa : Nat, ¬ 10 ∣ mantissa ∧ (shortestDigits rep.text).1 = PyStr.decimal mantissa ∧
      (mantissa : ℚ) * (10 : ℚ) ^ (shortestDigits rep.text).2 = rep.magnitude := by
  obtain ⟨exponent, split⟩ : ∃ exponent, parts rep.text =
      (Decimal.digits rep.whole, (rep.fraction.map Decimal.digits).getD [], exponent) :=
    ⟨_, by rw [repr_form, parts_numberText (decimal_digits_all rep.whole) (repr_fraction rep)]⟩
  have fractionDigits : ((rep.fraction.map Decimal.digits).getD []).all digitCode = true := by
    cases rep.fraction with
    | none => rfl
    | some values => exact decimal_digits_all values
  obtain ⟨_, digits, value⟩ := shortestDigits_value split (decimal_digits_all rep.whole) fractionDigits
  rw [textValue_repr] at value
  have stripped : (shortestDigits rep.text).1 =
      if (rstripZeros ((Decimal.digits rep.whole ++
          (rep.fraction.map Decimal.digits).getD []).dropWhile isZero)).isEmpty then [.scalar '0']
      else rstripZeros ((Decimal.digits rep.whole ++
          (rep.fraction.map Decimal.digits).getD []).dropWhile isZero) := by
    rw [shortestDigits, split]
  cases kept : rstripZeros ((Decimal.digits rep.whole ++
      (rep.fraction.map Decimal.digits).getD []).dropWhile isZero) with
  | nil =>
    rw [kept] at stripped
    rw [stripped] at value
    have zero : digitsNat [Code.scalar '0'] = 0 := rfl
    simp only [List.isEmpty_nil, if_true, zero, Nat.cast_zero, zero_mul] at value
    exact absurd value.symm nonzero
  | cons first rest =>
    rw [kept] at stripped
    simp only [List.isEmpty_cons, Bool.false_eq_true, if_false] at stripped
    obtain ⟨before, last, ended⟩ : ∃ before last, first :: rest = before ++ [last] :=
      ⟨_, _, (List.dropLast_append_getLast (List.cons_ne_nil first rest)).symm⟩
    refine ⟨digitsNat (shortestDigits rep.text).1, ?_, ?_, value⟩
    · exact digitsNat_last digits (stripped.trans ended) (rstripZeros_last (kept.trans ended))
    · exact digits_decimal digits stripped (rstripZeros_first kept)

/-- Equal magnitudes have the same shortest digits. -/
theorem shortestDigits_unique {left right : Decimal} (nonzero : left.magnitude ≠ 0)
    (same : left.magnitude = right.magnitude) : shortestDigits left.text = shortestDigits right.text := by
  obtain ⟨leftMantissa, leftOdd, leftText, leftValue⟩ := shortestDigits_mantissa nonzero
  obtain ⟨rightMantissa, rightOdd, rightText, rightValue⟩ := shortestDigits_mantissa (same ▸ nonzero)
  obtain ⟨mantissas, exponents⟩ := mantissa_unique leftOdd rightOdd
    (leftValue.trans (same.trans rightValue.symm))
  exact Prod.ext (leftText.trans (mantissas ▸ rightText.symm)) exponents

/-- A float's digits weigh no less than nothing. -/
theorem magnitude_nonneg (rep : Decimal) : 0 ≤ rep.magnitude :=
  mul_nonneg (Nat.cast_nonneg _) (zpow_nonneg (by norm_num) _)

/-- The text of a number does not depend on how `repr` spells it. -/
theorem numberToString_unique {left right : PyFloat} {value : ℚ} (leftValue : left.number? = some value)
    (rightValue : right.number? = some value) : numberToString left = numberToString right := by
  cases left with
  | nan => cases leftValue
  | infinity negative => cases leftValue
  | finite leftSign leftRep =>
    cases right with
    | nan => cases rightValue
    | infinity negative => cases rightValue
    | finite rightSign rightRep =>
      have equal : (if leftSign then -leftRep.magnitude else leftRep.magnitude) =
          if rightSign then -rightRep.magnitude else rightRep.magnitude :=
        Option.some.inj (leftValue.trans rightValue.symm)
      have leftSize := magnitude_nonneg leftRep
      have rightSize := magnitude_nonneg rightRep
      have magnitudes : leftRep.magnitude = rightRep.magnitude := by
        cases leftSign <;> cases rightSign <;>
          simp only [Bool.false_eq_true, if_true, if_false] at equal <;> linarith
      by_cases zero : leftRep.magnitude = 0
      · rw [numberToString, numberToString, if_pos zero, if_pos (magnitudes ▸ zero)]
      · have signs : leftSign = rightSign := by
          by_contra different
          apply zero
          cases leftSign <;> cases rightSign <;> simp only [Bool.false_eq_true, if_true, if_false,
            not_true_eq_false] at equal different <;> linarith
        have other : rightRep.magnitude ≠ 0 := magnitudes ▸ zero
        simp only [numberToString, zero, other, if_false, signs, shortestDigits_unique zero magnitudes]

/-- The canonical text of a float is that of its number. -/
theorem encodeFloat_unique {left right : PyFloat} {value : ℚ} (leftValue : left.number? = some value)
    (rightValue : right.number? = some value) : encodeFloat left = encodeFloat right := by
  rw [encodeFloat, encodeFloat, integral?, integral?, leftValue, rightValue,
    numberToString_unique leftValue rightValue]

end TaxStamps.Jcs
