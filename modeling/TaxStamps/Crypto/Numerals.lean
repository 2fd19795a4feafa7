import Mathlib.Data.Nat.Digits.Lemmas
import TaxStamps.Crypto.Floats
import TaxStamps.Python.Scanner

/-!
# The canonical numbers as number literals

The canonical text of a number is a literal of the JSON grammar: it is scanned
as a whole, whatever may follow a value, and its groups denote the number. It is
an integer literal exactly when the number is an integer below 10^21.
-/

namespace TaxStamps.Jcs

open Scanner

section Literals

/-- What can follow a value in a canonical text. -/
def Ends (tail : PyStr) : Prop :=
  ∀ code rest, tail = code :: rest → code ∈ [Code.scalar ',', .scalar ']', .scalar '\x7d']

/-- Nothing or the mark and the group. -/
def group (mark : Code) (digits : PyStr) : PyStr := if digits = [] then [] else mark :: digits

/-- The text of a literal without its sign. -/
def unsigned (literal : NumberLiteral) : PyStr :=
  literal.whole ++ (group (.scalar '.') literal.fraction ++ group (.scalar 'e') literal.exponent)

/-- The characters of a literal, with its sign. -/
def literalText (literal : NumberLiteral) : PyStr :=
  (if literal.negative then [.scalar '-'] else []) ++ unsigned literal

/-- A literal of the grammar. -/
structure Numeral (literal : NumberLiteral) : Prop where
  whole : literal.whole = [.scalar '0'] ∨ ∃ first rest, literal.whole = first :: rest ∧ isZero first = false
  whole_digits : literal.whole.all digitCode = true
  fraction_digits : literal.fraction.all digitCode = true
  exponent : literal.exponent = [] ∨ ∃ sign digits, literal.exponent = sign :: digits ∧
    (sign = .scalar '+' ∨ sign = .scalar '-') ∧ digits ≠ [] ∧ digits.all digitCode = true

variable {literal : NumberLiteral} {tail : PyStr}

/-- Digits end where no digit follows. -/
theorem span_digits {digits rest : PyStr} (all : digits.all digitCode = true)
    (stops : ∀ code tail, rest = code :: tail → digitCode code = false) :
    (digits ++ rest).span digitCode = (digits, rest) := by
  rw [List.span_eq_takeWhile_dropWhile,
    List.takeWhile_append_of_pos (List.all_eq_true.mp all), List.dropWhile_append_of_pos (List.all_eq_true.mp all)]
  cases rest with
  | nil => simp
  | cons code tail => simp [stops code tail rfl]

/-- What follows a value is no character of a number. -/
theorem ends_plain (ends : Ends tail) : ∀ code rest, tail = code :: rest →
    digitCode code = false ∧ code ≠ .scalar '.' ∧ code ≠ .scalar 'e' ∧ code ≠ .scalar 'E' := by
  intro code rest split
  have marks : ∀ mark ∈ [Code.scalar ',', .scalar ']', .scalar '\x7d'], digitCode mark = false ∧
      mark ≠ .scalar '.' ∧ mark ≠ .scalar 'e' ∧ mark ≠ .scalar 'E' := by decide
  exact marks code (ends code rest split)

/-- The exponent of a literal is scanned. -/
theorem scanExponent_group (numeral : Numeral literal) (ends : Ends tail) :
    scanExponent (group (.scalar 'e') literal.exponent ++ tail) = (literal.exponent, tail) := by
  rcases numeral.exponent with absent | ⟨sign, digits, stated, signed, present, all⟩
  · rw [absent, group, if_pos rfl, List.nil_append]
    cases tail with
    | nil => rfl
    | cons code rest =>
      obtain ⟨_, _, small, large⟩ := ends_plain ends code rest rfl
      rw [scanExponent, if_neg (by simp [small, large])]
  · have split : ∀ rest, splitSign (sign :: rest) = ([sign], rest) := by
      intro rest
      rcases signed with rfl | rfl <;> rfl
    have scanned := span_digits all fun code rest same => (ends_plain ends code rest same).1
    rw [stated, group, if_neg (List.cons_ne_nil _ _), List.cons_append, List.cons_append, scanExponent,
      if_pos (Or.inl rfl), split, scanned, if_neg present]
    rfl

/-- The fraction of a literal is scanned. -/
theorem scanFraction_group (numeral : Numeral literal) (ends : Ends tail) :
    scanFraction (group (.scalar '.') literal.fraction ++
        (group (.scalar 'e') literal.exponent ++ tail)) =
      (literal.fraction, group (.scalar 'e') literal.exponent ++ tail) := by
  have following : ∀ code rest, group (.scalar 'e') literal.exponent ++ tail = code :: rest →
      digitCode code = false ∧ code ≠ .scalar '.' := by
    intro code rest split
    rw [group] at split
    split at split
    · obtain ⟨notDigit, notPoint, _⟩ := ends_plain ends code rest split
      exact ⟨notDigit, notPoint⟩
    · rw [← (List.cons.inj split).1]
      decide
  generalize group (.scalar 'e') literal.exponent ++ tail = rest at following
  by_cases absent : literal.fraction = []
  · rw [absent, group, if_pos rfl, List.nil_append]
    cases rest with
    | nil => rfl
    | cons code others =>
      have notPoint := (following code others rfl).2
      unfold scanFraction
      split
      case h_1 same => exact absurd (List.cons.inj same).1 notPoint
      case h_2 => rfl
  · have scanned := span_digits numeral.fraction_digits fun code others same => (following code others same).1
    rw [group, if_neg absent, List.cons_append, scanFraction, scanned, if_neg absent]

/-- The digits before the point are scanned. -/
theorem scanWhole_digits (numeral : Numeral literal) {rest : PyStr}
    (stops : ∀ code tail, rest = code :: tail → digitCode code = false) :
    scanWhole (literal.whole ++ rest) = some (literal.whole, rest) := by
  rcases numeral.whole with zero | ⟨first, others, stated, nonzero⟩
  · rw [zero]
    rfl
  · have scanned := span_digits numeral.whole_digits stops
    have present : literal.whole ≠ [] := stated ▸ List.cons_ne_nil _ _
    unfold scanWhole
    split
    case h_1 same =>
      rw [stated, List.cons_append] at same
      rw [(List.cons.inj same).1] at nonzero
      exact absurd nonzero (by decide)
    case h_2 => rw [scanned, if_neg present]

/-- A literal is scanned as a whole before anything that may follow a value. -/
theorem scanNumber_text (numeral : Numeral literal) (ends : Ends tail) :
    scanNumber (literalText literal ++ tail) = some (literal, tail) := by
  have following : ∀ code rest, group (.scalar '.') literal.fraction ++
      (group (.scalar 'e') literal.exponent ++ tail) = code :: rest → digitCode code = false := by
    intro code rest split
    rw [group, group] at split
    split at split
    · split at split
      · exact (ends_plain ends code rest split).1
      · rw [← (List.cons.inj split).1]
        decide
    · rw [← (List.cons.inj split).1]
      decide
  have minus : splitMinus (literalText literal ++ tail) = (literal.negative, unsigned literal ++ tail) := by
    rw [literalText]
    cases sign : literal.negative with
    | true => rfl
    | false =>
      obtain ⟨first, rest, stated, digit⟩ : ∃ first rest, literal.whole = first :: rest ∧
          digitCode first = true := by
        have digits := numeral.whole_digits
        rcases numeral.whole with zero | ⟨first, rest, stated, _⟩
        · exact ⟨_, _, zero, rfl⟩
        · rw [stated, List.all_cons, Bool.and_eq_true] at digits
          exact ⟨first, rest, stated, digits.1⟩
      simp only [Bool.false_eq_true, if_false, List.nil_append, unsigned, stated, List.cons_append]
      unfold splitMinus
      split
      case h_1 same => exact absurd (List.cons.inj same).1 (digit_ne digit).2.2.1
      case h_2 => rfl
  rw [scanNumber, minus, unsigned, List.append_assoc, List.append_assoc,
    scanWhole_digits numeral following]
  simp only [scanFraction_group numeral ends, scanExponent_group numeral ends]

/-- The groups of a literal denote what its text denotes. -/
theorem magnitude_text (numeral : Numeral literal) : literal.magnitude = textValue (unsigned literal) := by
  have form : unsigned literal = numberText literal.whole
      (if literal.fraction = [] then none else some literal.fraction)
      (if literal.exponent = [] then none else some literal.exponent) := by
    rw [unsigned, numberText, group, group, List.append_assoc]
    split <;> split <;> rfl
  rw [form, textValue_numberText numeral.whole_digits, NumberLiteral.magnitude]
  · have fraction : (if literal.fraction = [] then none else some literal.fraction).getD [] =
        literal.fraction := by
      split
      case isTrue absent => exact absent.symm
      case isFalse => rfl
    have exponent : ((if literal.exponent = [] then none else some literal.exponent).map signedInt).getD 0 =
        signedInt literal.exponent := by
      split
      case isTrue absent =>
        rw [absent]
        rfl
      case isFalse => rfl
    rw [fraction, exponent]
  · intro digits stated
    split at stated
    · cases stated
    · rw [← Option.some.inj stated]
      exact numeral.fraction_digits

end Literals

section Canonical

/-- The nine other digits are not zero. -/
theorem digit_nonzero : ∀ value < 10, value ≠ 0 → isZero (Code.digit value) = false := by decide

/-- The decimal text of a positive number does not begin with a zero. -/
theorem decimal_head {number : Nat} (positive : number ≠ 0) :
    ∃ first rest, PyStr.decimal number = first :: rest ∧ isZero first = false := by
  have present : Nat.digits 10 number ≠ [] := Nat.digits_ne_nil_iff_ne_zero.mpr positive
  have last := Nat.getLast_digit_ne_zero 10 positive
  have bounded := Nat.digits_lt_base (show 1 < 10 by decide) (List.getLast_mem present)
  have reversed : (Nat.digits 10 number).reverse =
      (Nat.digits 10 number).getLast present :: (Nat.digits 10 number).dropLast.reverse := by
    rw [← List.reverse_concat, List.dropLast_append_getLast present]
  refine ⟨Code.digit ((Nat.digits 10 number).getLast present),
    (Nat.digits 10 number).dropLast.reverse.map Code.digit, ?_, digit_nonzero _ bounded last⟩
  rw [PyStr.decimal, if_neg positive, reversed, List.map_cons]

/-- A number below a power of ten has as many digits at most. -/
theorem decimal_length {number : Nat} (positive : number ≠ 0) (size : Nat) :
    (PyStr.decimal number).length ≤ size ↔ number < 10 ^ size := by
  rw [PyStr.decimal, if_neg positive, List.length_map, List.length_reverse,
    Nat.digits_length_le_iff (by decide)]

/-- The literal of an integer. -/
def integerLiteral (number : Int) : NumberLiteral :=
  ⟨decide (number < 0), PyStr.decimal number.natAbs, [], []⟩

/-- An integer is written as the literal of its digits. -/
theorem integer_numeral (number : Int) :
    Numeral (integerLiteral number) ∧ literalText (integerLiteral number) = PyStr.decimalInt number := by
  constructor
  · constructor
    case whole =>
      by_cases zero : number.natAbs = 0
      · exact Or.inl (by rw [integerLiteral, zero]; rfl)
      · exact Or.inr (decimal_head zero)
    case whole_digits => exact decimal_digits number.natAbs
    case fraction_digits => rfl
    case exponent => exact Or.inl rfl
  · rw [literalText, unsigned, integerLiteral, PyStr.decimalInt]
    by_cases negative : number < 0 <;> simp [negative, group]

/-- The value of an integer's literal is the integer. -/
theorem integer_value (interpreter : Interpreter) {number : Int}
    (short : (PyStr.decimal number.natAbs).length ≤ 4300) :
    (integerLiteral number).value? interpreter = some (.int number) := by
  have within : ¬ 4300 < (integerLiteral number).whole.length := Nat.not_lt.mpr short
  rw [NumberLiteral.value?, if_pos ⟨rfl, rfl⟩, if_neg within]
  by_cases negative : number < 0
  · simp only [integerLiteral, digitsNat_decimal, negative, decide_true, if_true, Option.some.injEq,
      Value.int.injEq]
    omega
  · simp only [integerLiteral, digitsNat_decimal, negative, decide_false, Bool.false_eq_true, if_false,
      Option.some.injEq, Value.int.injEq]
    omega

/-- The exponent with its sign. -/
theorem exponent_signed (exponent : Int) :
    ∃ sign digits, (if 0 ≤ exponent then [Code.scalar '+'] else []) ++ PyStr.decimalInt exponent =
      sign :: digits ∧ (sign = .scalar '+' ∨ sign = .scalar '-') ∧ digits ≠ [] ∧
      digits.all digitCode = true := by
  by_cases negative : exponent < 0
  · refine ⟨.scalar '-', PyStr.decimal exponent.natAbs, ?_, Or.inr rfl, decimal_present _, decimal_digits _⟩
    rw [if_neg (by omega), PyStr.decimalInt, if_pos negative, List.nil_append]
  · refine ⟨.scalar '+', PyStr.decimal exponent.natAbs, ?_, Or.inl rfl, decimal_present _, decimal_digits _⟩
    rw [if_pos (by omega), PyStr.decimalInt, if_neg negative]
    rfl

/-- The notation chosen for a mantissa and an exponent is a literal; an integer
literal up to 21 digits, and otherwise one with a fraction or an exponent. -/
theorem ecma_numeral {mantissa : Nat} (positive : mantissa ≠ 0) (exp10 : Int) (negative : Bool) :
    ∃ literal, Numeral literal ∧ literal.negative = negative ∧
      unsigned literal = ecmaText (PyStr.decimal mantissa) exp10 ∧
      ((literal.fraction = [] ∧ literal.exponent = []) ↔
        0 ≤ exp10 ∧ (PyStr.decimal mantissa).length + exp10 ≤ 21) ∧
      (0 ≤ exp10 → (PyStr.decimal mantissa).length + exp10 ≤ 21 → literal.whole.length ≤ 21) := by
  obtain ⟨first, others, begins, nonzero⟩ := decimal_head positive
  have digits := decimal_digits mantissa
  generalize PyStr.decimal mantissa = text at begins digits
  have long : 0 < text.length := by rw [begins]; simp
  have taken := fun count => digits_sublist (List.take_sublist count text) digits
  have dropped := fun count => digits_sublist (List.drop_sublist count text) digits
  have headed : ∀ count, 0 < count → ∃ rest, text.take count = first :: rest := by
    intro count some_
    obtain ⟨less, rfl⟩ : ∃ less, count = less + 1 := ⟨count - 1, by omega⟩
    exact ⟨others.take less, by rw [begins, List.take_succ_cons]⟩
  unfold ecmaText
  dsimp only
  split
  case isTrue integer =>
    refine ⟨⟨negative, text ++ List.replicate ((text.length : Int) + exp10 - text.length).toNat
      (.scalar '0'), [], []⟩, ?_, rfl, ?_, ?_, ?_⟩
    · constructor
      case whole => exact Or.inr ⟨first, _, by rw [begins]; rfl, nonzero⟩
      case whole_digits => exact digits_append digits (digits_zeros _)
      case fraction_digits => rfl
      case exponent => exact Or.inl rfl
    · simp [unsigned, group]
    · exact ⟨fun _ => ⟨by omega, integer.2⟩, fun _ => ⟨rfl, rfl⟩⟩
    · intro _ _
      rw [List.length_append, List.length_replicate]
      omega
  case isFalse notInteger =>
    have parted : ¬ (0 ≤ exp10 ∧ (text.length : Int) + exp10 ≤ 21) := fun both =>
      notInteger ⟨by omega, both.2⟩
    split
    case isTrue fixed =>
      obtain ⟨rest, here⟩ := headed ((text.length : Int) + exp10).toNat (by omega)
      have present : text.drop ((text.length : Int) + exp10).toNat ≠ [] := by
        rw [← List.length_pos_iff, List.length_drop]
        omega
      refine ⟨⟨negative, text.take ((text.length : Int) + exp10).toNat,
        text.drop ((text.length : Int) + exp10).toNat, []⟩, ?_, rfl, ?_, ?_, ?_⟩
      · exact ⟨Or.inr ⟨first, rest, here, nonzero⟩, taken _, dropped _, Or.inl rfl⟩
      · simp [unsigned, group, present]
      · exact ⟨fun both => absurd both.1 present, fun both => absurd both parted⟩
      · exact fun low high => absurd ⟨low, high⟩ parted
    case isFalse notFixed =>
      split
      case isTrue small =>
        have present : List.replicate (-((text.length : Int) + exp10)).toNat (Code.scalar '0') ++ text ≠ [] := by
          rw [begins]
          simp
        refine ⟨⟨negative, [.scalar '0'],
          List.replicate (-((text.length : Int) + exp10)).toNat (.scalar '0') ++ text, []⟩,
          ?_, rfl, ?_, ?_, ?_⟩
        · exact ⟨Or.inl rfl, rfl, digits_append (digits_zeros _) digits, Or.inl rfl⟩
        · rw [unsigned, group, if_neg present, group, if_pos rfl, List.append_nil]
          rfl
        · exact ⟨fun both => absurd both.1 present, fun both => absurd both parted⟩
        · exact fun low high => absurd ⟨low, high⟩ parted
      case isFalse notSmall =>
        obtain ⟨rest, here⟩ := headed 1 (by decide)
        obtain ⟨sign, digits_, stated, signed⟩ := exponent_signed ((text.length : Int) + exp10 - 1)
        refine ⟨⟨negative, text.take 1, text.drop 1, sign :: digits_⟩, ?_, rfl, ?_, ?_, ?_⟩
        · exact ⟨Or.inr ⟨first, rest, here, nonzero⟩, taken _, dropped _,
            Or.inr ⟨sign, digits_, rfl, signed⟩⟩
        · rw [stated, unsigned, group, group, if_neg (List.cons_ne_nil _ _)]
          by_cases single : (text.length : Int) = 1
          · have alone : text.drop 1 = [] := List.drop_eq_nil_of_le (by omega)
            have whole : text.take 1 = text := List.take_of_length_le (by omega)
            rw [if_pos single, if_pos alone, whole]
            rfl
          · have more : text.drop 1 ≠ [] := by
              rw [← List.length_pos_iff, List.length_drop]
              omega
            rw [if_neg single, if_neg more]
            simp
        · exact ⟨fun both => absurd both.2 (List.cons_ne_nil _ _), fun both => absurd both parted⟩
        · exact fun low high => absurd ⟨low, high⟩ parted

end Canonical

end TaxStamps.Jcs
