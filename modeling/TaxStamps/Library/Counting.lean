import Mathlib.Data.List.Range
import Mathlib.Data.List.Nodup

/-!
# Gapless numbering

Values that were handed out one after another, from zero: the next value is the
number of values so far. Handing out the next one keeps this.
-/

namespace Counting

/-- The values are 0, 1, ..., `next - 1`, in this order. -/
def Counted (values : List Int) (next : Int) : Prop :=
  0 ≤ next ∧ values = (List.range next.toNat).map (fun number : Nat => (number : Int))

variable {values : List Int} {next : Int}

/-- Nothing was counted before the first number. -/
theorem Counted.none : Counted [] 0 := ⟨Int.le_refl 0, rfl⟩

/-- The next value is handed out. -/
theorem Counted.extend (counted : Counted values next) : Counted (values ++ [next]) (next + 1) := by
  obtain ⟨natural, rfl⟩ := counted
  have successor : (next + 1).toNat = next.toNat + 1 := by omega
  constructor
  · omega
  · rw [successor, List.range_succ, List.map_append, List.map_singleton, Int.toNat_of_nonneg natural]

/-- Counted numbers are distinct. -/
theorem Counted.nodup (counted : Counted values next) : values.Nodup := by
  rw [counted.2]
  exact List.Nodup.map (fun _ _ same => Int.ofNat_inj.mp same) List.nodup_range

/-- There is neither a gap nor a value beyond the next. -/
theorem Counted.mem_iff (counted : Counted values next) {value : Int} :
    value ∈ values ↔ 0 ≤ value ∧ value < next := by
  have natural := counted.1
  rw [counted.2, List.mem_map]
  constructor
  · rintro ⟨number, below, rfl⟩
    rw [List.mem_range] at below
    omega
  · rintro ⟨nonnegative, below⟩
    exact ⟨value.toNat, List.mem_range.mpr (by omega), by omega⟩

/-- The greatest of the first numbers. -/
theorem max_range (count : Nat) : (List.range (count + 1)).max? = some count := by
  rw [List.max?_eq_some_iff]
  constructor
  · exact List.mem_range.mpr (Nat.lt_succ_self count)
  · intro number below
    exact Nat.lt_succ_iff.mp (List.mem_range.mp below)

end Counting
