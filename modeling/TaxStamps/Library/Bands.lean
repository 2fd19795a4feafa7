import Mathlib.Data.List.Basic

/-!
# Tables of adjacent intervals

A table whose rows cover adjacent intervals of integers, one after the other. A
number between the ends of the table lies in one row, and a relation between
earlier and later rows becomes monotonicity of the lookup.
-/

namespace Bands

universe u
variable {ρ : Type u} {low high : ρ → Int}

/-- The row a number is looked up in. -/
def row? (low high : ρ → Int) (number : Int) (rows : List ρ) : Option ρ :=
  rows.find? (fun row => decide (low row ≤ number ∧ number ≤ high row))

/-- The rows cover the integers from the first to the last, in order. -/
def Covering (low high : ρ → Int) : Int → Int → List ρ → Prop
  | first, last, [] => first = last + 1
  | first, last, row :: rest =>
    low row = first ∧ first ≤ high row ∧ Covering low high (high row + 1) last rest

variable {first last number other : Int} {rows : List ρ}

/-- A number within the first row has that row. -/
theorem row_head {row : ρ} {rest : List ρ} (inside : low row ≤ number ∧ number ≤ high row) :
    row? low high number (row :: rest) = some row :=
  List.find?_cons_of_pos (decide_eq_true inside)

/-- A number outside the first row is searched in the others. -/
theorem row_tail {row : ρ} {rest : List ρ} (outside : ¬ (low row ≤ number ∧ number ≤ high row)) :
    row? low high number (row :: rest) = row? low high number rest :=
  List.find?_cons_of_neg (by simpa using outside)

/-- A number between the ends is found, in a row that contains it. -/
theorem row_covered (covering : Covering low high first last rows) (above : first ≤ number)
    (below : number ≤ last) : ∃ row ∈ rows, row? low high number rows = some row ∧
      low row ≤ number ∧ number ≤ high row := by
  induction rows generalizing first with
  | nil =>
    rw [Covering] at covering
    omega
  | cons row rest inductionHypothesis =>
    obtain ⟨starts, _, others⟩ := covering
    by_cases inside : number ≤ high row
    · have contains : low row ≤ number ∧ number ≤ high row := ⟨by omega, inside⟩
      exact ⟨row, List.mem_cons_self, row_head contains, contains⟩
    · obtain ⟨found, member, looked, contains⟩ := inductionHypothesis others (by omega)
      refine ⟨found, List.mem_cons_of_mem _ member, ?_, contains⟩
      rw [row_tail (fun contains => inside contains.2), looked]

/-- What is found in a table lies beyond its first number. -/
theorem row_beyond (covering : Covering low high first last rows) {row : ρ}
    (found : row? low high number rows = some row) : first ≤ number := by
  induction rows generalizing first with
  | nil => cases found
  | cons head rest inductionHypothesis =>
    obtain ⟨starts, _, others⟩ := covering
    by_cases inside : low head ≤ number ∧ number ≤ high head
    · omega
    · rw [row_tail inside] at found
      have later := inductionHypothesis others found
      omega

/-- A larger number is found in the same row or in a later one. -/
theorem row_mono {relation : ρ → ρ → Prop} (covering : Covering low high first last rows)
    (ordered : rows.Pairwise relation) (smaller : number ≤ other) {row later : ρ}
    (found : row? low high number rows = some row)
    (foundLater : row? low high other rows = some later) : row = later ∨ relation row later := by
  induction rows generalizing first with
  | nil => cases found
  | cons head rest inductionHypothesis =>
    obtain ⟨starts, _, others⟩ := covering
    obtain ⟨related, orderedRest⟩ := List.pairwise_cons.mp ordered
    by_cases inside : low head ≤ number ∧ number ≤ high head
    · rw [row_head inside] at found
      obtain rfl := Option.some.inj found
      by_cases insideLater : low head ≤ other ∧ other ≤ high head
      · rw [row_head insideLater] at foundLater
        exact Or.inl (Option.some.inj foundLater)
      · rw [row_tail insideLater] at foundLater
        exact Or.inr (related later (List.mem_of_find?_eq_some foundLater))
    · rw [row_tail inside] at found
      have beyond := row_beyond others found
      rw [row_tail (fun contains => by omega)] at foundLater
      exact inductionHypothesis others orderedRest found foundLater

end Bands
