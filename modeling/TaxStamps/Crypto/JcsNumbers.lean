import Mathlib.Data.List.TakeWhile
import Mathlib.Tactic.Ring
import Mathlib.Tactic.FieldSimp
import TaxStamps.Crypto.Jcs

/-!
# Numbers survive canonicalization

A number text is read back as a rational: digits, an optional fraction and an
optional exponent. Both `repr` and the canonical notation are texts of this
form, and every step between them keeps the rational they denote. The canonical
text of an integer or a finite float is therefore read back as that number.
-/

namespace TaxStamps.Jcs

/-- An optional text with the character that announces it. -/
def after (mark : Code) : Option PyStr → PyStr
  | none => []
  | some text => mark :: text

/-- Digits, then optionally a point and digits, then optionally an exponent. -/
def numberText (whole : PyStr) (fraction exponent : Option PyStr) : PyStr :=
  whole ++ after (.scalar '.') fraction ++ after (.scalar 'e') exponent

/-- The rational a text without sign denotes. -/
def textValue (text : PyStr) : ℚ :=
  let (whole, fraction, exponent) := parts text
  (digitsNat (whole ++ fraction) : ℚ) * (10 : ℚ) ^ (exponent - (fraction.length : Int))

/-- The rational a canonical number denotes. -/
def readNumber : PyStr → ℚ
  | .scalar '-' :: rest => -textValue rest
  | text => textValue text

/-- The character is one of the ten digits. -/
def digitCode (code : Code) : Bool := (Code.digitValue? code).isSome

/-- The characters a canonical number is made of. -/
def numberCode (code : Code) : Bool :=
  digitCode code || decide (code = .scalar '-') || decide (code = .scalar '+') ||
    decide (code = .scalar '.') || decide (code = .scalar 'e')

section Digits

/-- Each further digit multiplies the total by ten. -/
theorem digitsNat_foldl (text : PyStr) (start : Nat) :
    text.foldl (fun total code => 10 * total + (Code.digitValue? code).getD 0) start =
      start * 10 ^ text.length + digitsNat text := by
  induction text generalizing start with
  | nil => simp [digitsNat]
  | cons code rest inductionHypothesis =>
    simp only [digitsNat, List.foldl_cons, List.length_cons]
    rw [inductionHypothesis, inductionHypothesis (10 * 0 + _)]
    ring

/-- Digits in front weigh as many powers of ten as digits follow. -/
theorem digitsNat_append (first second : PyStr) :
    digitsNat (first ++ second) = digitsNat first * 10 ^ second.length + digitsNat second := by
  rw [digitsNat, List.foldl_append, digitsNat_foldl]
  rfl

/-- The first digit weighs as many powers of ten as digits follow. -/
theorem digitsNat_cons (code : Code) (rest : PyStr) :
    digitsNat (code :: rest) = (Code.digitValue? code).getD 0 * 10 ^ rest.length + digitsNat rest := by
  simpa [digitsNat] using digitsNat_foldl rest ((Code.digitValue? code).getD 0)

/-- Leading zeros do not count. -/
theorem digitsNat_dropZeros (text : PyStr) : digitsNat (text.dropWhile isZero) = digitsNat text := by
  induction text with
  | nil => rfl
  | cons code rest inductionHypothesis =>
    by_cases zero : isZero code = true
    · have same : code = .scalar '0' := by simpa [isZero] using zero
      subst same
      rw [List.dropWhile_cons_of_pos zero, inductionHypothesis, digitsNat_cons]
      simp [Code.digitValue?]
    · rw [List.dropWhile_cons_of_neg zero]

/-- Zeros alone are zero. -/
theorem digitsNat_zeros (count : Nat) : digitsNat (List.replicate count (.scalar '0')) = 0 := by
  induction count with
  | zero => rfl
  | succ count inductionHypothesis =>
    rw [List.replicate_succ, digitsNat_cons, inductionHypothesis]
    simp [Code.digitValue?]

/-- A text is what is left of it after stripping zeros, then the zeros. -/
theorem rstripZeros_append (text : PyStr) :
    text = rstripZeros text ++
      List.replicate (text.length - (rstripZeros text).length) (.scalar '0') := by
  have split : text = rstripZeros text ++ (text.reverse.takeWhile isZero).reverse := by
    have reversed := List.takeWhile_append_dropWhile (p := isZero) (l := text.reverse)
    have restored := congrArg List.reverse reversed
    rw [List.reverse_append, List.reverse_reverse] at restored
    exact restored.symm
  have zeros : (text.reverse.takeWhile isZero).reverse =
      List.replicate (text.length - (rstripZeros text).length) (.scalar '0') := by
    rw [List.eq_replicate_iff]
    constructor
    · have lengths := congrArg List.length split
      rw [List.length_append] at lengths
      omega
    · intro code member
      have zero := List.mem_takeWhile_imp (List.mem_reverse.mp member)
      simpa [isZero] using zero
  rw [← zeros]
  exact split

/-- Stripped zeros are a power of ten. -/
theorem digitsNat_rstripZeros (text : PyStr) :
    digitsNat text =
      digitsNat (rstripZeros text) * 10 ^ (text.length - (rstripZeros text).length) := by
  have split := congrArg digitsNat (rstripZeros_append text)
  rw [digitsNat_append, digitsNat_zeros, List.length_replicate] at split
  simpa using split

/-- The decimal text of a number is read back. -/
theorem digitsNat_decimal (number : Nat) : digitsNat (PyStr.decimal number) = number := by
  have positional : ∀ digits : List Nat, (∀ digit ∈ digits, digit < 10) →
      digitsNat (digits.reverse.map Code.digit) = Nat.ofDigits 10 digits := by
    intro digits
    induction digits with
    | nil => intro _; rfl
    | cons digit rest inductionHypothesis =>
      intro bounded
      rw [List.reverse_cons, List.map_append, digitsNat_append,
        inductionHypothesis (fun other member => bounded other (List.mem_cons_of_mem _ member)),
        Nat.ofDigits_cons]
      simp only [List.map_cons, List.map_nil, List.length_cons, List.length_nil, digitsNat,
        List.foldl_cons, List.foldl_nil, Code.digit_value digit (bounded digit List.mem_cons_self),
        Option.getD_some]
      ring
  by_cases zero : number = 0
  · subst zero
    rfl
  · rw [PyStr.decimal, if_neg zero,
      positional _ (fun digit member => Nat.digits_lt_base (by omega) member),
      Nat.ofDigits_digits]

/-- The decimal text of a number is digits. -/
theorem decimal_digits (number : Nat) : (PyStr.decimal number).all digitCode = true := by
  by_cases zero : number = 0
  · subst zero
    rfl
  · rw [PyStr.decimal, if_neg zero, List.all_eq_true]
    intro code member
    obtain ⟨digit, digitMember, rfl⟩ := List.mem_map.mp member
    have bounded : digit < 10 := Nat.digits_lt_base (by omega) (List.mem_reverse.mp digitMember)
    simp [digitCode, Code.digit_value digit bounded]

/-- The decimal text of a number is not empty. -/
theorem decimal_present (number : Nat) : PyStr.decimal number ≠ [] := by
  by_cases zero : number = 0
  · subst zero
    simp [PyStr.decimal]
  · simp [PyStr.decimal, zero, Nat.digits_ne_nil_iff_ne_zero]

end Digits

section Parts

/-- Without the separator everything stands before it. -/
theorem partition_absent {separator : Code} {text : PyStr} (absent : separator ∉ text) :
    partition separator text = (text, []) := by
  have kept : ∀ code ∈ text, decide (code ≠ separator) = true :=
    fun code member => decide_eq_true (fun same => absent (same.subst member))
  rw [partition, List.takeWhile_eq_self_iff.mpr kept, List.dropWhile_eq_nil_iff.mpr kept]
  rfl

/-- The first separator splits a text. -/
theorem partition_append {separator : Code} {before : PyStr} (after : PyStr)
    (absent : separator ∉ before) :
    partition separator (before ++ separator :: after) = (before, after) := by
  have kept : ∀ code ∈ before, decide (code ≠ separator) = true :=
    fun code member => decide_eq_true (fun same => absent (same.subst member))
  rw [partition, List.takeWhile_append_of_pos kept, List.dropWhile_append_of_pos kept]
  simp

/-- A digit is no point, exponent mark or sign. -/
theorem digit_ne {code : Code} (digit : digitCode code = true) :
    code ≠ .scalar '.' ∧ code ≠ .scalar 'e' ∧ code ≠ .scalar '-' ∧ code ≠ .scalar '+' := by
  refine ⟨?_, ?_, ?_, ?_⟩ <;>
  · rintro rfl
    simp [digitCode, Code.digitValue?] at digit

/-- Digits hold neither point nor exponent mark. -/
theorem digits_absent {text : PyStr} (digits : text.all digitCode = true) :
    .scalar '.' ∉ text ∧ .scalar 'e' ∉ text := by
  rw [List.all_eq_true] at digits
  exact ⟨fun member => (digit_ne (digits _ member)).1 rfl,
    fun member => (digit_ne (digits _ member)).2.1 rfl⟩

/-- The parts of a number text are the ones it was put together from. -/
theorem parts_numberText {whole : PyStr} {fraction exponent : Option PyStr}
    (wholeDigits : whole.all digitCode = true)
    (fractionDigits : ∀ digits, fraction = some digits → digits.all digitCode = true) :
    parts (numberText whole fraction exponent) =
      (whole, fraction.getD [], (exponent.map signedInt).getD 0) := by
  obtain ⟨noPoint, noExponentWhole⟩ := digits_absent wholeDigits
  have noExponent : .scalar 'e' ∉ whole ++ after (.scalar '.') fraction := by
    cases fraction with
    | none => simpa [after] using noExponentWhole
    | some digits => simp [after, noExponentWhole, (digits_absent (fractionDigits digits rfl)).2]
  have splitPoint : partition (.scalar '.') (whole ++ after (.scalar '.') fraction) =
      (whole, fraction.getD []) := by
    cases fraction with
    | none => simpa [after] using partition_absent noPoint
    | some digits => exact partition_append digits noPoint
  cases exponent with
  | none =>
    have whole_text : numberText whole fraction none = whole ++ after (.scalar '.') fraction := by
      simp [numberText, after]
    have absent : (whole ++ after (.scalar '.') fraction).contains (.scalar 'e') = false := by
      simpa using noExponent
    rw [parts, whole_text, partition_absent noExponent, absent]
    simp only [splitPoint, Bool.false_eq_true, if_false, Option.map_none, Option.getD_none]
  | some digits =>
    have present : (numberText whole fraction (some digits)).contains (.scalar 'e') = true := by
      simp [numberText, after]
    have split : partition (.scalar 'e')
        (whole ++ after (.scalar '.') fraction ++ .scalar 'e' :: digits) = _ :=
      partition_append digits noExponent
    rw [parts, present, numberText, after, split]
    simp only [splitPoint, if_true, Option.map_some, Option.getD_some]

/-- The value of a number text. -/
theorem textValue_numberText {whole : PyStr} {fraction exponent : Option PyStr}
    (wholeDigits : whole.all digitCode = true)
    (fractionDigits : ∀ digits, fraction = some digits → digits.all digitCode = true) :
    textValue (numberText whole fraction exponent) =
      (digitsNat (whole ++ fraction.getD []) : ℚ) *
        (10 : ℚ) ^ ((exponent.map signedInt).getD 0 - ((fraction.getD []).length : Int)) := by
  rw [textValue, parts_numberText wholeDigits fractionDigits]

end Parts

section Repr

/-- The texts of digit values are digits. -/
theorem decimal_digits_all (values : List (Fin 10)) : (Decimal.digits values).all digitCode = true := by
  rw [List.all_eq_true]
  intro code member
  obtain ⟨value, _, rfl⟩ := List.mem_map.mp member
  simp [digitCode, Code.digit_value value.val value.isLt]

/-- The digits of a float's text weigh what their values do. -/
theorem digitsNat_digits (values : List (Fin 10)) :
    digitsNat (Decimal.digits values) = Decimal.natValue values := by
  rw [digitsNat, Decimal.digits, Decimal.natValue, List.foldl_map]
  congr 1
  funext total value
  rw [Code.digit_value value.val value.isLt]
  rfl

/-- The text that `repr` writes is a number text. -/
theorem repr_form (number : Decimal) :
    number.text = numberText (Decimal.digits number.whole) (number.fraction.map Decimal.digits)
      (number.exponent.map (fun stated =>
        .scalar (if stated.1 then '-' else '+') :: Decimal.digits stated.2)) := by
  rw [Decimal.text, numberText]
  cases number.fraction <;> cases number.exponent <;> rfl

/-- The fraction that `repr` writes is digits. -/
theorem repr_fraction (number : Decimal) :
    ∀ digits, number.fraction.map Decimal.digits = some digits → digits.all digitCode = true := by
  intro digits stated
  obtain ⟨values, _, rfl⟩ := Option.map_eq_some_iff.mp stated
  exact decimal_digits_all values

/-- The text of `repr` denotes the float. -/
theorem textValue_repr (number : Decimal) : textValue number.text = number.magnitude := by
  have fractionText : (number.fraction.map Decimal.digits).getD [] =
      Decimal.digits number.fractionDigits := by
    rw [Decimal.fractionDigits]
    cases number.fraction <;> rfl
  have exponentText : ((number.exponent.map (fun stated =>
      .scalar (if stated.1 then '-' else '+') :: Decimal.digits stated.2)).map signedInt).getD 0 =
      number.exponentValue := by
    rw [Decimal.exponentValue]
    cases stated : number.exponent with
    | none => rfl
    | some pair =>
      obtain ⟨negative, values⟩ := pair
      cases negative <;> simp [signedInt, digitsNat_digits]
  rw [repr_form, textValue_numberText (decimal_digits_all _) (repr_fraction number), exponentText,
    fractionText, Decimal.magnitude]
  congr 2
  · rw [← digitsNat_digits, Decimal.digits, Decimal.digits, Decimal.digits, List.map_append]
  · simp [Decimal.digits]

end Repr

section Rendering

/-- Digits behind digits are digits. -/
theorem digits_append {first second : PyStr} (left : first.all digitCode = true)
    (right : second.all digitCode = true) : (first ++ second).all digitCode = true := by
  rw [List.all_append, left, right]
  rfl

/-- Zeros are digits. -/
theorem digits_zeros (count : Nat) :
    (List.replicate count (Code.scalar '0')).all digitCode = true := by
  rw [List.all_eq_true]
  intro code member
  rw [(List.mem_replicate.mp member).2]
  rfl

/-- A part of digits is digits. -/
theorem digits_sublist {part text : PyStr} (sublist : part.Sublist text)
    (digits : text.all digitCode = true) : part.all digitCode = true := by
  rw [List.all_eq_true] at digits ⊢
  exact fun code member => digits code (sublist.subset member)

/-- Stripping only removes characters. -/
theorem rstripZeros_sublist (text : PyStr) : (rstripZeros text).Sublist text := by
  have reversed := (List.dropWhile_sublist isZero (l := text.reverse)).reverse
  rwa [List.reverse_reverse] at reversed

/-- The shortest digits are digits, and with their exponent they denote what the
text denotes. -/
theorem shortestDigits_value {whole fraction : PyStr} {exponent : Int} {rep : PyStr}
    (split : parts rep = (whole, fraction, exponent)) (wholeDigits : whole.all digitCode = true)
    (fractionDigits : fraction.all digitCode = true) :
    (shortestDigits rep).1 ≠ [] ∧ (shortestDigits rep).1.all digitCode = true ∧
      (digitsNat (shortestDigits rep).1 : ℚ) * (10 : ℚ) ^ (shortestDigits rep).2 =
        textValue rep := by
  rw [textValue, shortestDigits, split]
  let digits := (whole ++ fraction).dropWhile isZero
  have digitsAll : digits.all digitCode = true :=
    digits_sublist (List.dropWhile_sublist _) (digits_append wholeDigits fractionDigits)
  have sameDigits : digitsNat (whole ++ fraction) = digitsNat (rstripZeros digits) *
      10 ^ (digits.length - (rstripZeros digits).length) := by
    rw [← digitsNat_rstripZeros, digitsNat_dropZeros]
  change (if (rstripZeros digits).isEmpty then [Code.scalar '0'] else rstripZeros digits) ≠ [] ∧
    (if (rstripZeros digits).isEmpty then [Code.scalar '0'] else rstripZeros digits).all digitCode =
      true ∧
    (digitsNat (if (rstripZeros digits).isEmpty then [Code.scalar '0'] else rstripZeros digits) : ℚ) *
      (10 : ℚ) ^ (exponent - (fraction.length : Int) +
        ((digits.length - (rstripZeros digits).length : Nat) : Int)) =
      (digitsNat (whole ++ fraction) : ℚ) * (10 : ℚ) ^ (exponent - (fraction.length : Int))
  by_cases empty : rstripZeros digits = []
  · rw [empty] at sameDigits ⊢
    have zero : digitsNat (whole ++ fraction) = 0 := by simpa [digitsNat] using sameDigits
    rw [zero]
    refine ⟨by simp, rfl, ?_⟩
    simp [digitsNat, Code.digitValue?]
  · have kept : (rstripZeros digits).isEmpty = false := by simpa using empty
    rw [kept]
    refine ⟨by simpa using empty, by
      simpa using digits_sublist (rstripZeros_sublist digits) digitsAll, ?_⟩
    simp only [Bool.false_eq_true, if_false]
    rw [sameDigits, zpow_add₀ (by norm_num), zpow_natCast]
    push_cast
    ring

/-- An exponent with its sign is read back. -/
theorem signedInt_decimalInt (number : Int) :
    signedInt ((if 0 ≤ number then [Code.scalar '+'] else []) ++ PyStr.decimalInt number) = number := by
  by_cases negative : number < 0
  · have positive : ¬ 0 ≤ number := by omega
    simp only [PyStr.decimalInt, negative, positive, if_true, if_false, List.nil_append, signedInt,
      digitsNat_decimal]
    omega
  · have positive : 0 ≤ number := by omega
    simp only [PyStr.decimalInt, negative, positive, if_true, if_false, List.cons_append,
      List.nil_append, signedInt, digitsNat_decimal]
    omega

/-- The decimal text of an integer holds characters of a number. -/
theorem decimalInt_codes (number : Int) : (PyStr.decimalInt number).all numberCode = true := by
  have digits : (PyStr.decimal number.natAbs).all numberCode = true := by
    have all := decimal_digits number.natAbs
    rw [List.all_eq_true] at all ⊢
    exact fun code member => by simp [numberCode, all code member]
  rw [PyStr.decimalInt]
  split
  · rw [List.all_cons, digits]
    rfl
  · exact digits

/-- A text and what it denotes: the canonical notation before its sign. -/
structure Denotes (text : PyStr) (value : ℚ) : Prop where
  form : ∃ whole fraction exponent, text = numberText whole fraction exponent ∧ whole ≠ [] ∧
    whole.all digitCode = true ∧ (∀ digits, fraction = some digits → digits.all digitCode = true) ∧
    (∀ digits, exponent = some digits → digits.all numberCode = true)
  value : textValue text = value

/-- Moving the point into the digits and correcting the exponent keeps the
number. -/
theorem numberText_denotes {whole : PyStr} {fraction exponent : Option PyStr} {digits : PyStr}
    {exp10 : Int} (present : whole ≠ []) (wholeDigits : whole.all digitCode = true)
    (fractionDigits : ∀ text, fraction = some text → text.all digitCode = true)
    (exponentCodes : ∀ text, exponent = some text → text.all numberCode = true)
    (zeros : Nat) (same : digitsNat (whole ++ fraction.getD []) = digitsNat digits * 10 ^ zeros)
    (balanced : (exponent.map signedInt).getD 0 - ((fraction.getD []).length : Int) + zeros = exp10) :
    Denotes (numberText whole fraction exponent)
      ((digitsNat digits : ℚ) * (10 : ℚ) ^ exp10) := by
  refine ⟨⟨whole, fraction, exponent, rfl, present, wholeDigits, fractionDigits, exponentCodes⟩, ?_⟩
  rw [textValue_numberText wholeDigits fractionDigits, same, ← balanced,
    zpow_add₀ (by norm_num : (10 : ℚ) ≠ 0), zpow_natCast]
  push_cast
  ring

/-- The notation chosen for digits and an exponent denotes them. -/
theorem ecmaText_denotes {digits : PyStr} (present : digits ≠ []) (all : digits.all digitCode = true)
    (exp10 : Int) :
    Denotes (ecmaText digits exp10) ((digitsNat digits : ℚ) * (10 : ℚ) ^ exp10) := by
  have long : 0 < digits.length := List.length_pos_iff.mpr present
  have takeDigits := fun count => digits_sublist (List.take_sublist count digits) all
  have dropDigits := fun count => digits_sublist (List.drop_sublist count digits) all
  have noText : ∀ text : PyStr, (none : Option PyStr) = some text → text.all digitCode = true :=
    fun _ absurdity => by cases absurdity
  have noExponent : ∀ text : PyStr, (none : Option PyStr) = some text → text.all numberCode = true :=
    fun _ absurdity => by cases absurdity
  unfold ecmaText
  dsimp only
  split
  case isTrue integer =>
    have form : digits ++ List.replicate ((digits.length : Int) + exp10 - digits.length).toNat
        (.scalar '0') = numberText (digits ++ List.replicate
          ((digits.length : Int) + exp10 - digits.length).toNat (.scalar '0')) none none := by
      simp [numberText, after]
    rw [form]
    refine numberText_denotes (by simp [present]) (digits_append all (digits_zeros _)) noText
      noExponent ((digits.length : Int) + exp10 - digits.length).toNat ?_ ?_
    · simp [digitsNat_append, digitsNat_zeros]
    · simp only [Option.map_none, Option.getD_none, List.length_nil]
      omega
  case isFalse notInteger =>
    split
    case isTrue fixed =>
      have form : digits.take ((digits.length : Int) + exp10).toNat ++
          .scalar '.' :: digits.drop ((digits.length : Int) + exp10).toNat =
          numberText (digits.take ((digits.length : Int) + exp10).toNat)
            (some (digits.drop ((digits.length : Int) + exp10).toNat)) none := by
        simp [numberText, after]
      rw [form]
      refine numberText_denotes ?_ (takeDigits _) ?_ noExponent 0 ?_ ?_
      · rw [← List.length_pos_iff, List.length_take]
        omega
      · rintro text stated
        rw [← Option.some.inj stated]
        exact dropDigits _
      · simp
      · simp only [Option.map_none, Option.getD_none, Option.getD_some, List.length_drop]
        omega
    case isFalse notFixed =>
      split
      case isTrue small =>
        have form : Code.scalar '0' :: .scalar '.' ::
            (List.replicate (-((digits.length : Int) + exp10)).toNat (.scalar '0') ++ digits) =
            numberText [.scalar '0'] (some (List.replicate (-((digits.length : Int) + exp10)).toNat
              (.scalar '0') ++ digits)) none := by
          simp [numberText, after]
        rw [form]
        refine numberText_denotes (by simp) rfl ?_ noExponent 0 ?_ ?_
        · rintro text stated
          rw [← Option.some.inj stated]
          exact digits_append (digits_zeros _) all
        · simp [digitsNat_append, digitsNat_zeros, digitsNat_cons, Code.digitValue?]
        · simp only [Option.map_none, Option.getD_none, Option.getD_some, List.length_append,
            List.length_replicate]
          omega
      case isFalse notSmall =>
        have exponentCodes : ∀ text : PyStr, some ((if 0 ≤ (digits.length : Int) + exp10 - 1 then
            [Code.scalar '+'] else []) ++ PyStr.decimalInt ((digits.length : Int) + exp10 - 1)) =
            some text → text.all numberCode = true := by
          rintro text stated
          rw [← Option.some.inj stated, List.all_append, decimalInt_codes]
          split <;> rfl
        have exponentValue := signedInt_decimalInt ((digits.length : Int) + exp10 - 1)
        by_cases single : (digits.length : Int) = 1
        · rw [if_pos single]
          have form : ∀ exponent, digits ++ .scalar 'e' :: exponent =
              numberText digits none (some exponent) := fun exponent => by simp [numberText, after]
          rw [form]
          refine numberText_denotes present all noText exponentCodes 0 (by simp) ?_
          simp only [Option.map_some, Option.getD_some, Option.getD_none, exponentValue,
            List.length_nil]
          omega
        · rw [if_neg single]
          have form : ∀ exponent, digits.take 1 ++ .scalar '.' :: digits.drop 1 ++
              .scalar 'e' :: exponent =
              numberText (digits.take 1) (some (digits.drop 1)) (some exponent) :=
            fun exponent => by simp [numberText, after]
          rw [form]
          refine numberText_denotes ?_ (takeDigits 1) ?_ exponentCodes 0 ?_ ?_
          · rw [← List.length_pos_iff, List.length_take]
            omega
          · rintro text stated
            rw [← Option.some.inj stated]
            exact dropDigits 1
          · rw [Option.getD_some, List.take_append_drop]
            simp
          · simp only [Option.map_some, Option.getD_some, exponentValue, List.length_drop]
            omega

/-- A number as the canonicalizer writes it. -/
structure NumberText (text : PyStr) (value : ℚ) : Prop where
  codes : text.all numberCode = true
  head : ∃ code rest, text = code :: rest ∧ (digitCode code = true ∨ code = .scalar '-')
  value : readNumber text = value

/-- An optional group holds characters of a number if its mark is one. -/
theorem after_codes {mark : Code} (marked : numberCode mark = true) {text : Option PyStr}
    (codes : ∀ digits, text = some digits → digits.all numberCode = true) :
    (after mark text).all numberCode = true := by
  cases text with
  | none => rfl
  | some digits => rw [after, List.all_cons, marked, codes digits rfl]; rfl

/-- Digits are characters of a number. -/
theorem digits_codes {text : PyStr} (digits : text.all digitCode = true) :
    text.all numberCode = true := by
  rw [List.all_eq_true] at digits ⊢
  exact fun code member => by simp [numberCode, digits code member]

/-- A text with a sign in front denotes the number with that sign. -/
theorem signed_number {text : PyStr} {value : ℚ} (denotes : Denotes text value) (negative : Bool) :
    NumberText ((if negative then [Code.scalar '-'] else []) ++ text)
      (if negative then -value else value) := by
  obtain ⟨⟨whole, fraction, exponent, rfl, present, wholeDigits, fractionDigits, exponentCodes⟩,
    denoted⟩ := denotes
  have codes : (numberText whole fraction exponent).all numberCode = true := by
    rw [numberText, List.all_append, List.all_append, digits_codes wholeDigits,
      after_codes rfl (fun digits stated => digits_codes (fractionDigits digits stated)),
      after_codes rfl exponentCodes]
    rfl
  obtain ⟨code, rest, split⟩ := List.exists_cons_of_ne_nil present
  have digit : digitCode code = true := by
    rw [split, List.all_cons, Bool.and_eq_true] at wholeDigits
    exact wholeDigits.1
  have form : numberText whole fraction exponent =
      code :: (rest ++ after (.scalar '.') fraction ++ after (.scalar 'e') exponent) := by
    rw [numberText, split]
    rfl
  cases negative with
  | true =>
    refine ⟨by simpa using ⟨rfl, List.all_eq_true.mp codes⟩, ⟨_, _, rfl, Or.inr rfl⟩, ?_⟩
    simpa [readNumber] using denoted
  | false =>
    refine ⟨by simpa using codes, ⟨code, _, by simpa using form, Or.inl digit⟩, ?_⟩
    have unsigned : code ≠ .scalar '-' := (digit_ne digit).2.2.1
    simp only [Bool.false_eq_true, if_false, List.nil_append]
    rw [← denoted, form, readNumber]
    exact fun _ same => unsigned (List.cons.inj same).1

/-- A decimal text denotes its number. -/
theorem decimal_denotes (number : Nat) : Denotes (PyStr.decimal number) number := by
  have form : PyStr.decimal number = numberText (PyStr.decimal number) none none := by
    simp [numberText, after]
  have noText : ∀ test : Code → Bool, ∀ text : PyStr,
      (none : Option PyStr) = some text → text.all test = true :=
    fun _ _ absurdity => by cases absurdity
  refine ⟨⟨_, none, none, form, decimal_present number, decimal_digits number, noText _, noText _⟩, ?_⟩
  rw [form, textValue_numberText (decimal_digits number) (noText _)]
  simp [digitsNat_decimal]

/-- The decimal text of an integer is a number text of it. -/
theorem decimalInt_number (number : Int) : NumberText (PyStr.decimalInt number) number := by
  have signed := signed_number (decimal_denotes number.natAbs) (decide (number < 0))
  by_cases negative : number < 0
  · have value : -((number.natAbs : Nat) : ℚ) = number := by
      rw [Nat.cast_natAbs, abs_of_neg negative]
      push_cast
      ring
    rw [PyStr.decimalInt, if_pos negative]
    simpa only [decide_eq_true negative, if_true, value, List.cons_append, List.nil_append]
      using signed
  · have value : ((number.natAbs : Nat) : ℚ) = number := by
      rw [Nat.cast_natAbs, abs_of_nonneg (by omega)]
    rw [PyStr.decimalInt, if_neg negative]
    simpa only [decide_eq_false negative, Bool.false_eq_true, if_false, value, List.nil_append]
      using signed

/-- An encoded integer is a number text of it. -/
theorem encodeInt_number {number : Int} {text : PyStr} (encoded : encodeInt number = .ok text) :
    NumberText text number := by
  rw [encodeInt] at encoded
  split at encoded
  · rw [← Except.ok.inj encoded]
    exact decimalInt_number number
  · split at encoded <;> cases encoded

/-- A float that is written as an integer has that value, and it is safe. -/
theorem integral_some {number : PyFloat} {integer : Int} (found : integral? number = some integer) :
    number.number? = some (integer : ℚ) ∧ integer.natAbs ≤ maxSafeInteger.natAbs := by
  rw [integral?] at found
  split at found
  · cases found
  case _ value denoted =>
    split at found
    case isTrue whole =>
      obtain rfl := Option.some.inj found
      exact ⟨by rw [denoted, (Rat.den_eq_one_iff value).mp whole.1], whole.2⟩
    case isFalse => cases found

/-- A float that can be written denotes the number that is written. -/
theorem encodeFloat_number {number : PyFloat} {text : PyStr}
    (encoded : encodeFloat number = .ok text) :
    ∃ value, number.number? = some value ∧ NumberText text value := by
  rw [encodeFloat] at encoded
  split at encoded
  case _ integer found =>
    rw [← Except.ok.inj encoded]
    exact ⟨integer, (integral_some found).1, decimalInt_number integer⟩
  case _ =>
    cases number with
    | nan => cases encoded
    | infinity negative => cases encoded
    | finite negative rep =>
      refine ⟨_, rfl, ?_⟩
      rw [numberToString] at encoded
      split at encoded
      case isTrue zero =>
        rw [← Except.ok.inj encoded, zero]
        have zeroText : PyStr.decimalInt 0 = py "0" := by decide
        have value := decimalInt_number 0
        rw [zeroText, Int.cast_zero] at value
        simpa only [neg_zero, ite_self] using value
      case isFalse nonzero =>
        rw [← Except.ok.inj encoded]
        have split : parts rep.text = (Decimal.digits rep.whole, (rep.fraction.map Decimal.digits).getD [],
            ((rep.exponent.map (fun stated => .scalar (if stated.1 then '-' else '+') ::
              Decimal.digits stated.2)).map signedInt).getD 0) := by
          rw [repr_form, parts_numberText (decimal_digits_all rep.whole) (repr_fraction rep)]
        have fractionDigits : ((rep.fraction.map Decimal.digits).getD []).all digitCode = true := by
          cases rep.fraction with
          | none => rfl
          | some values => exact decimal_digits_all values
        obtain ⟨present, all, value⟩ :=
          shortestDigits_value split (decimal_digits_all rep.whole) fractionDigits
        have denotes := ecmaText_denotes present all (shortestDigits rep.text).2
        rw [value, textValue_repr] at denotes
        exact signed_number denotes negative

end Rendering

end TaxStamps.Jcs
