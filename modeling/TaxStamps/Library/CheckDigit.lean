import Mathlib.Algebra.Group.Basic
import Mathlib.Tactic.Abel

/-!
# Check digits

The symbols of a code are weighed by two functions in turn and added in a
commutative group; a code is valid when the sum is zero. Such a code detects every
replaced symbol when both functions are injective, and every exchange of two
neighbours on whose symbols the difference of the functions differs.
-/

namespace TaxStamps.CheckDigit

variable {α G : Type*} [AddCommGroup G] {first second : α → G} {left right : α} {front back : List α}

/-- The sum of the symbols, weighed by two functions in turn. -/
def weigh (first second : α → G) : List α → G
  | [] => 0
  | symbol :: rest => first symbol + weigh second first rest

/-- Replacing one symbol changes the sum. -/
theorem weigh_replaced (firstInjective : Function.Injective first)
    (secondInjective : Function.Injective second)
    (same : weigh first second (front ++ left :: back) = weigh first second (front ++ right :: back)) :
    left = right := by
  induction front generalizing first second with
  | nil =>
    simp only [List.nil_append, weigh] at same
    exact firstInjective (add_right_cancel same)
  | cons symbol rest inductionHypothesis =>
    simp only [List.cons_append, weigh] at same
    exact inductionHypothesis secondInjective firstInjective (add_left_cancel same)

/-- Exchanging two neighbours keeps the sum exactly where the two functions differ
by the same amount. -/
theorem weigh_swapped :
    weigh first second (front ++ left :: right :: back) =
        weigh first second (front ++ right :: left :: back) ↔
      first left - second left = first right - second right := by
  induction front generalizing first second with
  | nil =>
    simp only [List.nil_append, weigh, ← add_assoc, add_left_inj]
    rw [sub_eq_sub_iff_add_eq_add]
  | cons symbol rest inductionHypothesis =>
    simp only [List.cons_append, weigh, add_right_inj]
    rw [inductionHypothesis, ← neg_inj, neg_sub, neg_sub]

end TaxStamps.CheckDigit
