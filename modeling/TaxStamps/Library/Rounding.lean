import Mathlib.Algebra.Order.Ring.Rat
import Mathlib.Data.Rat.Cast.Order
import Mathlib.Tactic.Linarith
import Mathlib.Tactic.FieldSimp
import Mathlib.Tactic.Positivity

/-!
# Rounded sums

Each item of a list is rounded on its own and the results are added. The error of
the sum is at most the sum of the items' errors, and rounding half up errs by at
most one half.
-/

namespace TaxStamps.Rounding

/-- The quotient by an even unit, rounded half up. -/
def halfUp (unit value : Int) : Int := (value + unit / 2) / unit

/-- Nothing is rounded to nothing. -/
theorem halfUp_zero {unit : Int} (positive : 0 < unit) : halfUp unit 0 = 0 := by
  rw [halfUp, zero_add]
  exact Int.ediv_eq_zero_of_lt (by omega) (by omega)

/-- Rounding keeps the order. -/
theorem halfUp_mono {unit smaller larger : Int} (positive : 0 < unit) (le : smaller ≤ larger) :
    halfUp unit smaller ≤ halfUp unit larger :=
  Int.ediv_le_ediv positive (by omega)

/-- Rounding half up errs by at most one half. -/
theorem halfUp_error {unit value : Int} (positive : 0 < unit) (even : 2 ∣ unit) :
    |(halfUp unit value : ℚ) - value / unit| ≤ 1 / 2 := by
  obtain ⟨half, rfl⟩ := even
  have quotient : 2 * half * halfUp (2 * half) value + (value + half) % (2 * half) = value + half := by
    have middle : 2 * half / 2 = half := by omega
    rw [halfUp, middle]
    exact Int.mul_ediv_add_emod (value + half) (2 * half)
  have below : 0 ≤ (value + half) % (2 * half) := Int.emod_nonneg _ (by omega)
  have above : (value + half) % (2 * half) < 2 * half := Int.emod_lt_of_pos _ positive
  generalize halfUp (2 * half) value = rounded at quotient
  generalize (value + half) % (2 * half) = remainder at quotient below above
  have unitPositive : (0 : ℚ) < ((2 * half : Int) : ℚ) := by exact_mod_cast positive
  have scaled : ((rounded : ℚ) - value / ((2 * half : Int) : ℚ)) * ((2 * half : Int) : ℚ) =
      half - remainder := by
    rw [sub_mul, div_mul_cancel₀ _ unitPositive.ne']
    have cast : ((2 * half * rounded + remainder : Int) : ℚ) = ((value + half : Int) : ℚ) := by
      rw [quotient]
    push_cast at cast ⊢
    linarith
  have belowCast : (0 : ℚ) ≤ remainder := by exact_mod_cast below
  have aboveCast : (remainder : ℚ) < ((2 * half : Int) : ℚ) := by exact_mod_cast above
  push_cast at scaled aboveCast unitPositive ⊢
  rw [abs_le]
  constructor
  · by_contra far
    have product := mul_lt_mul_of_pos_right (not_le.mp far) unitPositive
    rw [scaled] at product
    linarith
  · by_contra far
    have product := mul_lt_mul_of_pos_right (not_le.mp far) unitPositive
    rw [scaled] at product
    linarith

/-- The error of a sum is at most the sum of the errors. -/
theorem sum_error {α : Type*} {rounded : α → Int} {exact error : α → ℚ} :
    ∀ {items : List α}, (∀ item ∈ items, |(rounded item : ℚ) - exact item| ≤ error item) →
      |(((items.map rounded).sum : Int) : ℚ) - (items.map exact).sum| ≤ (items.map error).sum
  | [], _ => by simp
  | item :: rest, each => by
    have head := each item List.mem_cons_self
    have tail := sum_error (fun other member => each other (List.mem_cons_of_mem _ member))
    simp only [List.map_cons, List.sum_cons, Int.cast_add]
    calc |(rounded item : ℚ) + ((rest.map rounded).sum : Int) - (exact item + (rest.map exact).sum)|
        = |((rounded item : ℚ) - exact item) +
            (((rest.map rounded).sum : Int) - (rest.map exact).sum)| := by rw [add_sub_add_comm]
      _ ≤ _ := abs_add_le _ _
      _ ≤ error item + (rest.map error).sum := add_le_add head tail

end TaxStamps.Rounding
