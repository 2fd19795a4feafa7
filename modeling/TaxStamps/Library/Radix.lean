import Mathlib.Data.List.TakeWhile
import Mathlib.Data.Nat.Digits.Lemmas

/-!
# Digits with leading zeros

A list of digits, most significant first, is the number of its leading zeros and
the number it denotes. In every base the two describe the digits completely, so
digits of one base that keep both can be written in another base and back.
-/

namespace TaxStamps.Radix

variable {base zeros value : Nat} {digits rest : List Nat}

/-- How many zeros the digits start with. -/
def leading (digits : List Nat) : Nat := (digits.takeWhile (fun digit => decide (digit = 0))).length

/-- The number the digits denote. -/
def number (base : Nat) (digits : List Nat) : Nat :=
  digits.foldl (fun total digit => total * base + digit) 0

/-- The digits of a number behind a count of zeros. -/
def spell (base zeros value : Nat) : List Nat := List.replicate zeros 0 ++ (Nat.digits base value).reverse

/-- Digits read by a left fold. -/
theorem foldl_ofDigits (base : Nat) (digits : List Nat) :
    digits.reverse.foldl (fun total digit => total * base + digit) 0 = Nat.ofDigits base digits := by
  induction digits with
  | nil => rfl
  | cons digit rest inductionHypothesis =>
    rw [List.reverse_cons, List.foldl_append, inductionHypothesis, Nat.ofDigits_cons]
    rw [List.foldl_cons, List.foldl_nil, Nat.mul_comm, Nat.add_comm]

/-- The number of a numeral, least digit first. -/
theorem number_eq : number base digits = Nat.ofDigits base digits.reverse := by
  rw [← foldl_ofDigits, List.reverse_reverse, number]

/-- Leading zeros do not change the number. -/
theorem number_zeros : number base (List.replicate zeros 0 ++ rest) = number base rest := by
  induction zeros with
  | zero => rfl
  | succ zeros inductionHypothesis =>
    rw [← inductionHypothesis, List.replicate_succ, List.cons_append, number, List.foldl_cons,
      Nat.zero_mul, Nat.zero_add, number]

/-- Zeros before a digit other than zero are the leading ones. -/
theorem leading_zeros (significant : ∀ first others, rest = first :: others → first ≠ 0) :
    leading (List.replicate zeros 0 ++ rest) = zeros := by
  have none_after : rest.takeWhile (fun digit => decide (digit = 0)) = [] := by
    cases rest with
    | nil => rfl
    | cons first others =>
      rw [List.takeWhile_cons_of_neg]
      simpa using significant first others rfl
  have zero : ∀ digit ∈ List.replicate zeros 0, decide (digit = 0) = true :=
    fun digit member => decide_eq_true (List.mem_replicate.mp member).2
  rw [leading, List.takeWhile_append_of_pos zero, none_after, List.append_nil, List.length_replicate]

/-- Digits are their leading zeros and a rest that does not start with zero. -/
theorem leading_split (digits : List Nat) :
    ∃ rest, digits = List.replicate (leading digits) 0 ++ rest ∧
      ∀ first others, rest = first :: others → first ≠ 0 := by
  refine ⟨digits.dropWhile (fun digit => decide (digit = 0)), ?_, ?_⟩
  · have zeros : digits.takeWhile (fun digit => decide (digit = 0)) =
        List.replicate (leading digits) 0 := by
      rw [List.eq_replicate_iff]
      exact ⟨rfl, fun digit member => by simpa using List.mem_takeWhile_imp member⟩
    rw [← zeros, List.takeWhile_append_dropWhile]
  · intro first others split zero
    have nonempty : digits.dropWhile (fun digit => decide (digit = 0)) ≠ [] := by simp [split]
    have head := List.head_dropWhile_not (fun digit => decide (digit = 0)) nonempty
    simp only [split, List.head_cons, zero] at head
    simp at head

/-- The digits of a number do not start with zero. -/
theorem digits_significant (value : Nat) :
    ∀ first others, (Nat.digits base value).reverse = first :: others → first ≠ 0 := by
  intro first others reversed
  have digits : Nat.digits base value = others.reverse ++ [first] := by
    rw [← List.reverse_reverse (Nat.digits base value), reversed, List.reverse_cons]
  have present : value ≠ 0 := by
    rintro rfl
    simp at digits
  have last := Nat.getLast_digit_ne_zero base present
  simpa only [digits, List.getLast_append_singleton] using last

/-- A spelled number has the leading zeros it was given. -/
theorem leading_spell : leading (spell base zeros value) = zeros := leading_zeros (digits_significant value)

/-- A spelled number is read back. -/
theorem number_spell : number base (spell base zeros value) = value := by
  rw [spell, number_zeros, number_eq, List.reverse_reverse, Nat.ofDigits_digits]

/-- Digits are spelled again from their leading zeros and their number. -/
theorem spell_number (valid : 1 < base) (bounded : ∀ digit ∈ digits, digit < base) :
    spell base (leading digits) (number base digits) = digits := by
  obtain ⟨rest, split, significant⟩ := leading_split digits
  have same : number base digits = number base rest := by
    conv_lhs => rw [split]
    exact number_zeros
  have restored : (Nat.digits base (number base rest)).reverse = rest := by
    rw [number_eq, Nat.digits_ofDigits base valid, List.reverse_reverse]
    · intro digit member
      apply bounded
      rw [split]
      exact List.mem_append_right _ (List.mem_reverse.mp member)
    · intro nonempty
      cases rest with
      | nil => exact absurd rfl nonempty
      | cons first others =>
        have last : (first :: others).reverse.getLast nonempty = first := by simp
        rw [last]
        exact significant first others rfl
  rw [spell, same, restored]
  exact split.symm

/-- A number is spelled with digits of the base. -/
theorem spell_bounded (valid : 1 < base) : ∀ digit ∈ spell base zeros value, digit < base := by
  intro digit member
  rcases List.mem_append.mp member with zero | listed
  · rw [(List.mem_replicate.mp zero).2]
    omega
  · exact Nat.digits_lt_base valid (List.mem_reverse.mp listed)

/-- In a base that packs some bits into each digit, a number has as many digits as its bits
fill. -/
theorem digits_packed {bits : Nat} (positive : 0 < bits) (nonzero : value ≠ 0) :
    (Nat.digits (2 ^ bits) value).length = (Nat.log2 value + bits) / bits := by
  have base : 1 < 2 ^ bits := Nat.one_lt_two_pow (by omega)
  have quotient : bits * (Nat.log2 value / bits) ≤ Nat.log2 value := Nat.mul_div_le _ _
  have remainder : Nat.log2 value < bits * (Nat.log2 value / bits) + bits := Nat.lt_mul_div_succ _ positive
  have logarithm : Nat.log (2 ^ bits) value = Nat.log2 value / bits := by
    rw [Nat.log_eq_iff (Or.inr ⟨base, nonzero⟩), ← pow_mul, ← pow_mul]
    constructor
    · exact Nat.le_trans (Nat.pow_le_pow_right (by omega) quotient) (Nat.log2_self_le nonzero)
    · exact Nat.lt_of_lt_of_le Nat.lt_log2_self
        (Nat.pow_le_pow_right (by omega) (by rw [Nat.mul_add, Nat.mul_one]; omega))
  rw [Nat.length_digits _ _ base nonzero, logarithm, Nat.add_div_right _ positive]

end TaxStamps.Radix
